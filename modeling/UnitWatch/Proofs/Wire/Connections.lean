import UnitWatch.Proofs.Wire.Ledger

/-!
# The connections of a sender

Operations of a sender are done side by side, part by part in any order (`World.Runs`). At every
moment:

- a connection that has been opened is cached, or was taken out of the cache by one close, once, or
  it was found lost;
- at most one connection is cached for a scope, and it was opened for this scope;
- a call goes over a connection that was opened for the scope of the send, and that its send has
  just opened, or has just been told to be connected.

Where connections are is a matter of the ledger (`World.Runs.ledger`), how operations behave one of
their conduct (`Conducted`). What is left is when connections are opened (`Does.missing_of_opened`,
`Does.opened_of_missing`).

Main result: `World.connections_accounted_for`.
-/

namespace UnitWatch.Wire

namespace Sender

/-! ## When connections are opened -/

namespace Does

variable {c c' : Cache} {t : Errand} {st : Stage t} {asked : List Exchange}
  {r : Except Failure (Stage t)}

theorem not_opened {scope scope' : BusScope} {tried : List Exchange} {a : Except Error BusId}
    (missing : Missing scope c tried) : .opened scope' a ∉ tried := by
  intro member
  obtain ⟨bus, same⟩ := missing.probed _ member
  cases same

/-- A connection is opened by a send that fetches one, in default of a cached one that is
connected. -/
theorem missing_of_opened (h : Does c st asked r c') {scope : BusScope} {a : Except Error BusId}
    (member : .opened scope a ∈ asked) : st.Fetches scope ∧
      (c.lookup scope = none ∨ ∃ bus, c.lookup scope = some bus ∧ .probed bus false ∈ asked) := by
  -- A connection is missing if there is none, or if the one there is says that it is lost.
  have because {scope' : BusScope} {tried : List Exchange} (missing : Missing scope' c tried)
      (more : List Exchange) : c.lookup scope' = none ∨
        ∃ bus, c.lookup scope' = some bus ∧ .probed bus false ∈ more ++ tried := by
    cases missing with
    | never none => exact .inl none
    | lost cached => exact .inr ⟨_, cached, List.mem_append_right _ List.mem_cons_self⟩
  cases h with
  | prepares aside | cannot f aside => exact (aside _ member).elim
  | reuses | acknowledged | fails => cases List.mem_singleton.1 member
  | @opens scope' call tried bus missing =>
    obtain same | member := List.mem_cons.1 member
    · cases same
    obtain same | member := List.mem_cons.1 member
    · cases same
      exact ⟨rfl, because missing [_, _]⟩
    · exact absurd member (not_opened missing)
  | @refused scope' call tried e missing =>
    obtain same | member := List.mem_cons.1 member
    · cases same
      exact ⟨rfl, because missing [_]⟩
    · exact absurd member (not_opened missing)
  | takes | finishes => cases member
  | closes noted a' aside =>
    obtain noted | closed := List.mem_append.1 member
    · exact (aside _ noted).elim
    · cases List.mem_singleton.1 closed

theorem opened_of_missing (h : Does c st asked r c') {scope : BusScope} (fetches : st.Fetches scope)
    (missing : c.lookup scope = none ∨
      ∃ bus, c.lookup scope = some bus ∧ .probed bus false ∈ asked) :
    ∃ a, .opened scope a ∈ asked := by
  cases h with
  | @reuses scope' call bus cached =>
    obtain rfl : scope = scope' := fetches
    obtain none | ⟨old, -, found⟩ := missing
    · rw [cached] at none
      cases none
    · cases List.mem_singleton.1 found
  | @opens scope' call tried bus =>
    obtain rfl : scope = scope' := fetches
    exact ⟨.ok bus, List.mem_cons_of_mem _ List.mem_cons_self⟩
  | @refused scope' call tried e =>
    obtain rfl : scope = scope' := fetches
    exact ⟨.error e, List.mem_cons_self⟩
  | _ => exact fetches.elim

theorem cache_of_opened (h : Does c st asked r c') {scope : BusScope} {bus : BusId}
    (member : .opened scope (.ok bus) ∈ asked) : c' = c.keep scope bus := by
  have opening : (bus, scope) ∈ openings asked := List.mem_filterMap.2 ⟨_, member, rfl⟩
  obtain ⟨none, -⟩ | ⟨none, -⟩ | ⟨scope', bus', one, -, cache, -⟩ := h.moves
  · rw [none] at opening
    cases opening
  · rw [none] at opening
    cases opening
  · rw [one] at opening
    cases List.mem_singleton.1 opening
    exact cache

theorem cache_of_not_opened (h : Does c st asked r c')
    (unopened : ∀ scope a, .opened scope a ∉ asked) (leaves : ¬st.Takes) : c' = c := by
  cases h with
  | opens bus => exact absurd (List.mem_cons_of_mem _ List.mem_cons_self) (unopened _ (.ok bus))
  | takes => exact absurd trivial leaves
  | _ => rfl

theorem cache_of_refused (h : Does c st asked r c') {scope : BusScope} {e : Error}
    (member : .opened scope (.error e) ∈ asked) : c' = c := by
  obtain ⟨fetches, -⟩ := h.missing_of_opened member
  cases h with
  | opens bus missing =>
    obtain same | member := List.mem_cons.1 member
    · cases same
    obtain same | member := List.mem_cons.1 member
    · cases same
    · exact absurd member (not_opened missing)
  | takes => exact fetches.elim
  | _ => rfl

end Does


/-- Errors that mean that no reply came in time are told as timeouts, and all others as failed
deliveries. -/
theorem failure_reported (call : NotifyCall) (name text : String) :
    call.failure (.reported name text) = .fault (
      if name = "org.freedesktop.DBus.Error.NoReply" ∨ name = "org.freedesktop.DBus.Error.Timeout"
      then .notifierTimeout call.busName (.float call.timeout.toBinary)
      else .notifierDelivery call.busName (name ++ ": " ++ text)) := by
  have inTime : timeoutErrors.contains name = true ↔
      name = "org.freedesktop.DBus.Error.NoReply" ∨
        name = "org.freedesktop.DBus.Error.Timeout" := by
    simp [timeoutErrors]
  rw [NotifyCall.failure, apply_ite Failure.fault]
  exact if_congr inTime rfl rfl

namespace World

variable {w : World}

/-- What has been opened is in one place. -/
theorem Ledger.place (ledger : Ledger w) {bus : BusId} {scope : BusScope}
    (opened : (bus, scope) ∈ w.buses.opened) :
    ((scope, bus) ∈ w.cache ∧ bus ∉ w.taken) ∨
    (bus ∉ w.cache.buses ∧ w.taken.count bus = 1) ∨
    (bus ∉ w.cache.buses ∧ bus ∉ w.taken ∧ w.FoundLost bus) := by
  obtain ⟨-, taken, apart⟩ := List.nodup_append.1 ledger.held
  by_cases cached : bus ∈ w.cache.buses
  · refine .inl ⟨?_, fun member => apart bus cached bus member rfl⟩
    obtain ⟨⟨scope', bus⟩, member, rfl⟩ := List.mem_map.1 cached
    have own := ledger.origin _ member
    have same : (bus, scope') = (bus, scope) :=
      List.inj_on_of_nodup_map ledger.numbers own opened rfl
    cases same
    exact member
  · by_cases member : bus ∈ w.taken
    · exact .inr (.inl ⟨cached, List.count_eq_one_of_mem taken member⟩)
    · refine .inr (.inr ⟨cached, member, ?_⟩)
      obtain held | found := ledger.kept bus (List.mem_map_of_mem opened)
      · obtain here | here := List.mem_append.1 held
        · exact absurd here cached
        · exact absurd here member
      · exact found

/-- Once all operations are over, what closes have taken has been asked to be closed. -/
theorem taken_of_ended (ended : ∀ o ∈ w.operations, ∃ r, o.stage = .ended r) :
    w.taken = w.operations.flatMap fun o => closings o.asked := by
  refine List.flatMap_congr fun o member => ?_
  obtain ⟨r, eq⟩ := ended o member
  have nothing : o.stage.left = [] := by
    rw [eq]
    cases o.errand <;> rfl
  rw [Operation.taken, nothing, List.nil_append]

/-- **Every connection is accounted for.** Whatever a sender is asked to do, in whatever order the
parts of its operations are done, whichever connections are lost and whatever fails, at every
moment:

- a call is made by a send, over a connection that was opened for its scope, and that the send has
  just opened or has just been told to be connected;
- a connection is opened where a send fetches one for its scope, and none is cached for the scope or
  the one that is says that it is not connected, and nowhere else; what was opened is cached for the
  scope then; an opening that fails leaves the cache as it was, and so does all else but a close
  that takes everything out of it, and into its own hands;
- at most one connection is cached for a scope, and it was opened for this scope;
- what has been opened is cached, or was taken by one close, once, or was found lost; once all
  operations are over, what was taken has been asked to be closed;
- a send that meets an error of the bus has ended, by a timeout if the error says that no reply came
  in time, and otherwise by a failed delivery; it ends well if its call was acknowledged, and only
  then;
- a close does not fail; since it took everything, nothing has been cached but what was opened
  since; if nobody interrupts it, then the cache is empty at its end, and all that was in it has
  been asked to be closed, one after the other, whether or not it could be;
- an operation that is not over can go on. -/
theorem connections_accounted_for (run : Runs {} w) :
    (∀ o ∈ w.operations, ∀ bus call r, .notified bus call r ∈ o.asked →
      ∃ scope earlier, o.errand = .send scope call ∧ (bus, scope) ∈ w.buses.opened ∧
        o.asked = .notified bus call r :: earlier ∧
        ([.outlived bus, .opened scope (.ok bus)] <+: earlier ∨ [.probed bus true] <+: earlier)) ∧
    (∀ (t : Errand) (st : Stage t) asked r w', Goes w st asked r w' →
      (∀ scope, (∃ a, .opened scope a ∈ asked) ↔ st.Fetches scope ∧
        (w.cache.lookup scope = none ∨
          ∃ bus, w.cache.lookup scope = some bus ∧ .probed bus false ∈ asked)) ∧
      (∀ scope bus, .opened scope (.ok bus) ∈ asked → w'.cache = w.cache.keep scope bus) ∧
      (∀ scope e, .opened scope (.error e) ∈ asked → w'.cache = w.cache) ∧
      ((∀ scope a, .opened scope a ∉ asked) → ¬st.Takes → w'.cache = w.cache) ∧
      (¬st.Takes → w'.taken.Perm w.taken) ∧
      (st.Takes → w'.cache = [] ∧ w'.taken.Perm (w.cache.buses ++ w.taken))) ∧
    (w.cache.scopes.Nodup ∧ ∀ e ∈ w.cache, (e.2, e.1) ∈ w.buses.opened) ∧
    ((∀ bus scope, (bus, scope) ∈ w.buses.opened →
        ((scope, bus) ∈ w.cache ∧ bus ∉ w.taken) ∨
        (bus ∉ w.cache.buses ∧ w.taken.count bus = 1) ∨
        (bus ∉ w.cache.buses ∧ bus ∉ w.taken ∧ w.FoundLost bus)) ∧
      ((∀ o ∈ w.operations, ∃ r, o.stage = .ended r) →
        w.taken = w.operations.flatMap fun o => closings o.asked)) ∧
    (∀ scope call (st : Stage (.send scope call)) asked, ⟨_, st, asked⟩ ∈ w.operations →
      (∀ name text, Operation.Met ⟨_, st, asked⟩ (.reported name text) →
        st = .ended (.error (.fault (
          if name = "org.freedesktop.DBus.Error.NoReply" ∨
            name = "org.freedesktop.DBus.Error.Timeout"
          then .notifierTimeout call.busName (.float call.timeout.toBinary)
          else .notifierDelivery call.busName (name ++ ": " ++ text))))) ∧
      (∀ text, Operation.Met ⟨_, st, asked⟩ (.unnamed text) →
        st = .ended (.error (.fault (.notifierDelivery call.busName text)))) ∧
      (st = .ended (.ok ()) ↔ ∃ bus, .notified bus call (.ok ()) ∈ asked)) ∧
    ((∀ r asked, ⟨.close, .ended r, asked⟩ ∈ w.operations → r = .ok ()) ∧
      (∀ asked r w₁ w₂, Goes w (.begun : Stage .close) asked r w₁ → Runs w₁ w₂ →
        ∀ e ∈ w₂.cache, e.2 ∉ w₁.buses.numbers) ∧
      ∀ c b asked r, Concludes library (close w.cache) (w.buses, []) c r (b, asked) →
        c = [] ∧ r = .ok () ∧ closings asked = w.cache.buses.reverse) ∧
    ∀ o ∈ w.operations, (∃ r, o.stage = .ended r) ∨ ∃ asked r w', Goes w o.stage asked r w' := by
  have ledger := run.ledger
  refine ⟨?_, ?_, ⟨ledger.scopes, ledger.origin⟩, ⟨fun _ _ => ledger.place, taken_of_ended⟩, ?_,
    ⟨?_, ?_, ?_⟩, fun _ => exists_goes⟩
  · intro o member bus call r notified
    obtain ⟨scope, earlier, errand, asked, holds⟩ :=
      (ledger.conduct o member).of_notified notified
    exact ⟨scope, earlier, errand, holds.own, asked, holds.last⟩
  · intro t st asked r w' goes
    -- What a part asks for says what it has done to the cache.
    have does := goes.does
    refine ⟨fun scope => ⟨?_, ?_⟩, fun _ _ => does.cache_of_opened,
      fun _ _ => does.cache_of_refused, does.cache_of_not_opened, goes.taken_of_leaves,
      goes.taken_of_takes⟩
    · rintro ⟨a, member⟩
      exact does.missing_of_opened member
    · rintro ⟨fetches, missing⟩
      exact does.opened_of_missing fetches missing
  · intro scope call st asked member
    have conducted := ledger.conduct _ member
    refine ⟨fun name text met => ?_, fun text => conducted.of_met, conducted.ended_ok_iff⟩
    rw [← failure_reported]
    exact conducted.of_met met
  · intro r asked member
    exact (ledger.conduct _ member).ended_close
  · intro asked r w₁ w₂ goes later
    exact (ledger.goes goes).cached_since (goes.taken_of_takes trivial).1 later
  · intro c b asked r alone
    exact (close_leads w.cache w.buses).post_of_concludes alone

/-! ## Two connections -/

/-- A call to a pager. -/
def page : NotifyCall where
  busName := "org.example.Pager"
  objectPath := "/org/example/Pager"
  notification := ⟨5, "web.service", ["failed", "active"], "system"⟩
  timeout := .seconds 1

def noReply : Error := .reported "org.freedesktop.DBus.Error.NoReply" "no reply"

/-- What a send asks for that finds everything prepared. -/
def prepared : List Exchange := [⟨.loopRunning, true⟩, ⟨.installed .library, true⟩]

/-- A send that opens a connection, and gets no reply. -/
def unanswered : Operation :=
  ⟨.send .system page, .ended (.error (page.failure noReply)),
    [.notified 1 page (.error noReply), .outlived 1, .opened .system (.ok 1)] ++ prepared⟩

/-- A send that finds this connection lost, and opens another one. -/
def reopened : List Exchange :=
  [.outlived 2, .opened .system (.ok 2), .probed 1 false] ++ prepared

/-- Two sends and a close. The close took the second connection before the second call was made, and
could not close it. -/
def overtaken : World :=
  ⟨[], ⟨[(2, .system), (1, .system)], [1]⟩, [
    unanswered,
    ⟨.send .system page, .ended (.ok ()), .notified 2 page (.ok ()) :: reopened⟩,
    ⟨.close, .ended (.ok ()),
      [⟨.note (.notifierBusNotClosed "gone"), ()⟩, .closed 2 (.error (.broken "gone"))]⟩]⟩

theorem concludes_answer {α : Type} {q : Request} {resume : Answer q → Process Cache Answer α}
    {c c' : Cache} {r : α} {b : Buses} {asked : List Exchange} {w' : Buses × List Exchange}
    (a : Answer q) (granted : b.Grants q a)
    (rest : Concludes library (resume a) (b.after ⟨q, a⟩, ⟨q, a⟩ :: asked) c' r w') :
    Concludes library (.ask c q resume) (b, asked) c' r w' :=
  .ask .refl ⟨granted, rfl⟩ rest

theorem runs_overtaken : Runs {} overtaken := by
  have first : Runs {} ⟨[(.system, 1)], ⟨[(1, .system)], [1]⟩, [unanswered]⟩ := by
    refine .head (.begins _ (.send .system page)) (uninterrupted .begun [] [] _ _ _ _ _ _ _ ?_)
    refine concludes_answer true trivial <| concludes_answer true trivial ?_
    refine concludes_answer (.ok 1) List.not_mem_nil <| concludes_answer () trivial ?_
    -- The connection is lost while the send waits for the reply.
    have lost : library.moves (⟨[(1, .system)], []⟩, unanswered.asked.tail)
        (⟨[(1, .system)], [1]⟩, unanswered.asked.tail) :=
      ⟨1, List.mem_singleton_self 1, rfl⟩
    refine .of_drifts (.single lost) ?_
    exact concludes_answer (.error noReply) trivial <| .done .refl
  have prepares : Goes ⟨[(.system, 1)], ⟨[(1, .system)], [1]⟩,
        [unanswered, ⟨.send .system page, .begun, []⟩]⟩
      (.begun : Stage (.send .system page)) prepared (.ok .prepared)
      ⟨[(.system, 1)], ⟨[(1, .system)], [1]⟩,
        [unanswered, ⟨.send .system page, .prepared, prepared⟩]⟩ := by
    refine .mk [unanswered] [] rfl ?_
    exact concludes_answer true trivial <| concludes_answer true trivial <| .done .refl
  have fetches : Goes ⟨[(.system, 1)], ⟨[(1, .system)], [1]⟩,
        [unanswered, ⟨.send .system page, .prepared, prepared⟩]⟩
      (.prepared : Stage (.send .system page))
      [.outlived 2, .opened .system (.ok 2), .probed 1 false] (.ok (.fetched 2))
      ⟨[(.system, 2)], ⟨[(2, .system), (1, .system)], [1]⟩,
        [unanswered, ⟨.send .system page, .fetched 2, reopened⟩]⟩ := by
    refine .mk [unanswered] [] rfl ?_
    have new : 2 ∉ [1] := by decide
    refine concludes_answer false rfl <| concludes_answer (.ok 2) new ?_
    exact concludes_answer () trivial <| .done .refl
  have takes : Goes ⟨[(.system, 2)], ⟨[(2, .system), (1, .system)], [1]⟩,
        [unanswered, ⟨.send .system page, .fetched 2, reopened⟩, ⟨.close, .begun, []⟩]⟩
      (.begun : Stage .close) [] (.ok (.closing [2]))
      ⟨[], ⟨[(2, .system), (1, .system)], [1]⟩,
        [unanswered, ⟨.send .system page, .fetched 2, reopened⟩, ⟨.close, .closing [2], []⟩]⟩ :=
    .mk [unanswered, _] [] rfl (.done .refl)
  have calls : Goes ⟨[], ⟨[(2, .system), (1, .system)], [1]⟩,
        [unanswered, ⟨.send .system page, .fetched 2, reopened⟩, ⟨.close, .closing [2], []⟩]⟩
      (.fetched 2 : Stage (.send .system page)) [.notified 2 page (.ok ())] (.ok (.ended (.ok ())))
      ⟨[], ⟨[(2, .system), (1, .system)], [1]⟩,
        [unanswered, ⟨.send .system page, .ended (.ok ()), .notified 2 page (.ok ()) :: reopened⟩,
          ⟨.close, .closing [2], []⟩]⟩ := by
    refine .mk [unanswered] [_] rfl ?_
    exact concludes_answer (.ok ()) trivial <| .done .refl
  refine first.trans <| .head (.begins _ (.send .system page)) ?_
  refine .head (.goes prepares) <| .head (.goes fetches) ?_
  refine .head (.begins _ .close) <| .head (.goes takes) <| .head (.goes calls) ?_
  refine uninterrupted (.closing [2]) [_, _] [] _ _ _ _ _ _ _ ?_
  exact concludes_answer (.error (.broken "gone")) trivial <|
    concludes_answer () trivial <| .done .refl

theorem overtaken_accounted_for : Runs {} overtaken ∧
    overtaken.FoundLost 1 ∧ overtaken.taken.count 2 = 1 ∧
    unanswered.stage = .ended (.error (.fault
      (.notifierTimeout "org.example.Pager" (.float page.timeout.toBinary)))) := by
  obtain ⟨-, -, -, ⟨places, -⟩, sends, -, -⟩ := connections_accounted_for runs_overtaken
  refine ⟨runs_overtaken, ?_, ?_, ?_⟩
  · obtain ⟨cached, -⟩ | ⟨-, once⟩ | ⟨-, -, found⟩ := places 1 .system (by decide)
    · cases cached
    · cases once
    · exact found
  · obtain ⟨cached, -⟩ | ⟨-, once⟩ | ⟨-, untaken, -⟩ := places 2 .system (by decide)
    · cases cached
    · exact once
    · exact absurd (by decide) untaken
  · obtain ⟨reported, -⟩ := sends .system page _ _ List.mem_cons_self
    have met : unanswered.Met noReply := .inr ⟨1, page, List.mem_cons_self⟩
    have ended := reported _ _ met
    rw [if_pos (.inl rfl)] at ended
    exact ended

end World

end Sender

end UnitWatch.Wire
