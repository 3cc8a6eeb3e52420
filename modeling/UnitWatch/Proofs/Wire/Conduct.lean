import UnitWatch.Proofs.Wire.Cache
import UnitWatch.Proofs.Wire.World

/-!
# The conduct of operations

What an operation has asked for tells where it stands (`Conducted`), and a part keeps it so
(`Conducted.does`):

- what a send ends with is the last thing that it asks for (`Conducted.of_settles`), so a call
  comes right after the send has come by its connection (`Conducted.of_notified`);
- a send ends with the first error that it meets (`Conducted.of_met`), and ends well if its call was
  acknowledged, and only then (`Conducted.ended_ok_iff`);
- a close does not fail (`Conducted.ended_close`).
-/

namespace UnitWatch.Wire

namespace Sender

/-- A send has come by its connection: it has just opened it, or been told that it is connected. -/
structure Holds (opened : List (BusId × BusScope)) (scope : BusScope) (bus : BusId)
    (asked : List Exchange) : Prop where
  own : (bus, scope) ∈ opened
  last : [.outlived bus, .opened scope (.ok bus)] <+: asked ∨ [.probed bus true] <+: asked
  unsettled : ∀ x ∈ asked, ¬x.Settles

/-- How an operation stands that has asked for this. -/
inductive Conducted (opened : List (BusId × BusScope)) :
    {t : Errand} → Stage t → List Exchange → Prop
  | begun {t : Errand} : Conducted opened (.begun : Stage t) []
  | prepared {scope : BusScope} {call : NotifyCall} {asked : List Exchange}
      (unsettled : ∀ x ∈ asked, ¬x.Settles) :
      Conducted opened (.prepared : Stage (.send scope call)) asked
  | cannot {scope : BusScope} {call : NotifyCall} {asked : List Exchange} (f : Failure)
      (unsettled : ∀ x ∈ asked, ¬x.Settles) :
      Conducted opened (.ended (.error f) : Stage (.send scope call)) asked
  | refused {scope : BusScope} {call : NotifyCall} {earlier : List Exchange} (e : Error)
      (unsettled : ∀ x ∈ earlier, ¬x.Settles) :
      Conducted opened (.ended (.error (call.failure e)) : Stage (.send scope call))
        (.opened scope (.error e) :: earlier)
  | fetched {scope : BusScope} {call : NotifyCall} {bus : BusId} {asked : List Exchange}
      (holds : Holds opened scope bus asked) :
      Conducted opened (.fetched bus : Stage (.send scope call)) asked
  | called {scope : BusScope} {call : NotifyCall} {bus : BusId} {earlier : List Exchange}
      (r : Except Error Unit) (holds : Holds opened scope bus earlier) :
      Conducted opened (.ended (r.mapError call.failure) : Stage (.send scope call))
        (.notified bus call r :: earlier)
  | closing {left : List BusId} {asked : List Exchange} (unsettled : ∀ x ∈ asked, ¬x.Settles) :
      Conducted opened (.closing left) asked
  | closed {asked : List Exchange} (unsettled : ∀ x ∈ asked, ¬x.Settles) :
      Conducted opened (.ended (.ok ()) : Stage .close) asked

theorem Holds.mono {opened opened' : List (BusId × BusScope)} (more : opened ⊆ opened')
    {scope : BusScope} {bus : BusId} {asked : List Exchange} (h : Holds opened scope bus asked) :
    Holds opened' scope bus asked :=
  { h with own := more h.own }

namespace Conducted

variable {opened : List (BusId × BusScope)} {t : Errand} {st : Stage t} {asked : List Exchange}

theorem mono {opened' : List (BusId × BusScope)} (more : opened ⊆ opened')
    (h : Conducted opened st asked) : Conducted opened' st asked := by
  cases h with
  | begun => exact .begun
  | prepared unsettled => exact .prepared unsettled
  | cannot f unsettled => exact .cannot f unsettled
  | refused e unsettled => exact .refused e unsettled
  | fetched holds => exact .fetched (holds.mono more)
  | called r holds => exact .called r (holds.mono more)
  | closing unsettled => exact .closing unsettled
  | closed unsettled => exact .closed unsettled

/-- A part keeps the conduct of its operation. -/
theorem does {c c' : Cache} {more : List Exchange} {r : Except Failure (Stage t)}
    (h : Conducted opened st asked) (origin : ∀ e ∈ c, (e.2, e.1) ∈ opened)
    (part : Does c st more r c') :
    Conducted (openings more ++ opened) (Stage.next r) (more ++ asked) := by
  have unsettled_append {earlier later : List Exchange} (h : ∀ x ∈ earlier, ¬x.Settles)
      (h' : ∀ x ∈ later, ¬x.Settles) : ∀ x ∈ later ++ earlier, ¬x.Settles :=
    List.forall_mem_append.2 ⟨h', h⟩
  have tried_unsettled {scope : BusScope} {tried : List Exchange}
      (missing : Missing scope c tried) : ∀ x ∈ tried, ¬x.Settles := by
    intro x member
    obtain ⟨bus, rfl⟩ := missing.probed x member
    exact id
  cases part with
  | prepares aside =>
    cases h
    exact .prepared (unsettled_append (List.forall_mem_nil _) fun x hx => (aside x hx).not_settles)
  | cannot f aside =>
    cases h
    exact .cannot f (unsettled_append (List.forall_mem_nil _) fun x hx => (aside x hx).not_settles)
  | @reuses scope call bus cached =>
    cases h with
    | prepared unsettled =>
      exact .fetched {
        own := origin _ (Cache.mem_of_lookup cached)
        last := .inr (List.prefix_append _ _)
        unsettled := List.forall_mem_cons.2 ⟨id, unsettled⟩ }
  | @opens scope call tried bus missing =>
    cases h with
    | prepared unsettled =>
      exact .fetched {
        own := by simp [openings, Exchange.opening?]
        last := .inl (List.prefix_append _ _)
        unsettled := List.forall_mem_cons.2 ⟨id, List.forall_mem_cons.2
          ⟨id, unsettled_append unsettled (tried_unsettled missing)⟩⟩ }
  | refused e missing =>
    cases h with
    | prepared unsettled =>
      exact .refused e (unsettled_append unsettled (tried_unsettled missing))
  | acknowledged bus =>
    cases h with
    | fetched holds => exact .called (.ok ()) holds
  | fails bus e =>
    cases h with
    | fetched holds => exact .called (.error e) holds
  | takes =>
    cases h
    exact .closing (List.forall_mem_nil _)
  | closes noted a aside =>
    cases h with
    | closing unsettled =>
      refine .closing (unsettled_append unsettled ?_)
      refine List.forall_mem_append.2 ⟨fun x hx => (aside x hx).not_settles, ?_⟩
      exact List.forall_mem_singleton.2 id
  | finishes =>
    cases h with
    | closing unsettled => exact .closed unsettled

/-- What a send ends with is the last thing that it asks for: an opening that failed, or a call over
the connection that it has come by. -/
theorem of_settles {scope : BusScope} {call : NotifyCall} {st : Stage (.send scope call)}
    (h : Conducted opened st asked) {x : Exchange} (member : x ∈ asked) (settles : x.Settles) :
    ∃ earlier, asked = x :: earlier ∧
      ((∃ e, x = .opened scope (.error e) ∧ st = .ended (.error (call.failure e))) ∨
        ∃ bus r, x = .notified bus call r ∧ st = .ended (r.mapError call.failure) ∧
          Holds opened scope bus earlier) := by
  cases h with
  | begun => cases member
  | prepared unsettled | cannot f unsettled => exact absurd settles (unsettled _ member)
  | fetched holds => exact absurd settles (holds.unsettled _ member)
  | refused e unsettled =>
    obtain rfl | member := List.mem_cons.1 member
    · exact ⟨_, rfl, .inl ⟨e, rfl, rfl⟩⟩
    · exact absurd settles (unsettled _ member)
  | called r holds =>
    obtain rfl | member := List.mem_cons.1 member
    · exact ⟨_, rfl, .inr ⟨_, r, rfl, rfl, holds⟩⟩
    · exact absurd settles (holds.unsettled _ member)

/-- A call is made by a send, right after it has come by its connection. -/
theorem of_notified (h : Conducted opened st asked) {bus : BusId} {call : NotifyCall}
    {r : Except Error Unit} (member : .notified bus call r ∈ asked) :
    ∃ scope earlier, t = .send scope call ∧ asked = .notified bus call r :: earlier ∧
      Holds opened scope bus earlier := by
  cases t with
  | send scope call' =>
    obtain ⟨earlier, rfl, ⟨e, same, -⟩ | ⟨_, _, same, -, holds⟩⟩ := h.of_settles member trivial
    · cases same
    · cases same
      exact ⟨scope, earlier, rfl, rfl, holds⟩
  | close =>
    cases h with
    | begun => cases member
    | closing unsettled | closed unsettled => exact absurd trivial (unsettled _ member)

/-- A send ends with the first error that it meets. -/
theorem of_met {scope : BusScope} {call : NotifyCall} {st : Stage (.send scope call)} {e : Error}
    (h : Conducted opened st asked) (met : Operation.Met ⟨_, st, asked⟩ e) :
    st = .ended (.error (call.failure e)) := by
  obtain ⟨scope', member⟩ | ⟨bus, call', member⟩ := met
  · obtain ⟨_, -, ⟨_, same, ended⟩ | ⟨_, _, same, -⟩⟩ := h.of_settles member trivial
    · cases same
      exact ended
    · cases same
  · obtain ⟨_, -, ⟨_, same, -⟩ | ⟨_, _, same, ended, -⟩⟩ := h.of_settles member trivial
    · cases same
    · cases same
      exact ended

/-- A send ends well if its call was acknowledged, and not otherwise. -/
theorem ended_ok_iff {scope : BusScope} {call : NotifyCall} {st : Stage (.send scope call)}
    (h : Conducted opened st asked) :
    st = .ended (.ok ()) ↔ ∃ bus, .notified bus call (.ok ()) ∈ asked := by
  constructor
  · rintro rfl
    generalize same : (.ended (.ok ()) : Stage (.send scope call)) = st at h
    cases h with
    | called r holds =>
      match r, same with
      | .ok (), _ => exact ⟨_, List.mem_cons_self⟩
    | _ => cases same
  · rintro ⟨bus, member⟩
    obtain ⟨_, -, ⟨_, same, -⟩ | ⟨_, _, same, ended, -⟩⟩ := h.of_settles member trivial
    · cases same
    · cases same
      exact ended

/-- A close does not fail. -/
theorem ended_close {r : Except Failure Unit} (h : Conducted opened (.ended r : Stage .close) asked) :
    r = .ok () := by
  cases h
  rfl

end Conducted

end Sender

end UnitWatch.Wire
