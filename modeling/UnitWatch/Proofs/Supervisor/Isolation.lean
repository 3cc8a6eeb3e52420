import UnitWatch.Proofs.Supervisor.World

/-!
# Lanes keep apart

Two runs of a daemon, from a start on and as long as nobody stops it.

- **Scopes keep apart** (`isolated`). If one scope's bus behaves the same in both runs, and what
  becomes of a send depends on the send and its moment alone, then the scope's lane is the same
  whenever an instant is over: its session with its registry and all its dealings, what it has
  yielded, its worker and the sends that it has begun, and whether and why it counts as failed. The
  other scopes' buses may do anything.
- **Notifiers hold up no session** (`monitored`). If all the buses behave the same, then all the
  sessions are the same whenever an instant is over, and so are the failures, whatever becomes of
  the sends in either run.

Both hold because a session goes its own course and a worker goes by what its session yields
(`Follows`, `Attends`), and neither can rest in two places when an instant is over.
-/

namespace UnitWatch.Supervisor

open Dispatch (Delivery Outcome)

variable {η : Type} {scope : BusScope}

attribute [ext] Lane

theorem State.lane?_congr {s s' : State η} (same : s.lanes = s'.lanes) (scope : BusScope) :
    s.lane? scope = s'.lane? scope := by
  rw [lane?, same, lane?]

/-- A scope counts as failed as its lane does. -/
theorem Recorded.mem_iff {s : State η} (h : Recorded s) {reason : String} :
    (scope, reason) ∈ s.failures ↔ ∃ l, s.lane? scope = some l ∧ l.reason? = some reason := by
  rw [h.exact]
  constructor
  · rintro ⟨l, hl, here, failed⟩
    obtain ⟨l', found⟩ : ∃ l', s.lane? scope = some l' := by
      refine Option.isSome_iff_exists.1 (List.find?_isSome.2 ⟨l, hl, ?_⟩)
      simpa using here
    have same : l' = l :=
      h.eq_of_scope (State.mem_of_lane? found) hl ((State.scope_of_lane? found).trans here.symm)
    exact ⟨l, same ▸ found, failed⟩
  · rintro ⟨l, found, failed⟩
    exact ⟨l, State.mem_of_lane? found, State.scope_of_lane? found, failed⟩

namespace World

variable {settings : Settings} {timeout : Span} {attempts : Int} {backoff : Backoff}
  {d d' : Daemon η} {c c' : Conditions η} {w w' : World η} {t₀ t : Moment}

section

variable (started : d.JustStarted settings timeout attempts backoff)
  (started' : d'.JustStarted settings timeout attempts backoff)

include started started'

/-- Every start is the same for the lanes. -/
theorem fresh_lane?_eq : (fresh d t₀).lane? scope = (fresh d' t₀).lane? scope :=
  State.lane?_congr (started.lanes.trans started'.lanes.symm) scope

theorem fresh_course_eq : (fresh d t₀).course scope = (fresh d' t₀).course scope := by
  rw [course, course, fresh_lane?_eq started started']
  rfl

theorem fresh_desk_eq : (fresh d t₀).desk scope = (fresh d' t₀).desk scope := by
  rw [desk, desk, fresh_lane?_eq started started']
  rfl

end

/-! ## At the end of an instant -/

theorem Follows.restsAt {plan : Session.Plan} {w₀ : World η} (h : Follows c plan scope w₀ w)
    (settled : w.SessionSettled c t scope) :
    RestsAt (Course.Goes plan (c.buses scope) c.wall) (fun x => x.since) t (w.course scope) := by
  refine ⟨h.since.trans settled.1, ?_⟩
  rintro _ ⟨m, moves, rfl⟩
  cases here : w.lane? scope with
  | none =>
    have absent : (w.course scope).session = .absent := by simp [World.course, here]
    simp [Course.move?, absent] at moves
  | some l =>
    refine settled.2 m ?_
    rw [session?, here, Option.bind_some, h.config l here]
    exact moves

theorem Attends.restsAt {replies : Replies} {w₀ : World η}
    (h : Attends settings timeout replies scope w₀ w) (separate : ∀ log, c.replies log = replies)
    (settled : w.WorkerSettled c t scope) :
    RestsAt (Desk.Goes settings timeout replies (w.yields scope)) (fun x => x.since) t
      (w.desk scope) := by
  refine ⟨h.since.trans settled.1, ?_⟩
  rintro k ⟨hs, moves⟩
  refine settled.2 k hs ?_
  rw [worker?, separate, h.settings_eq, h.timeout_eq]
  exact moves

/-- Sessions whose buses behave the same are in the same place. -/
theorem course_eq (started : d.JustStarted settings timeout attempts backoff)
    (started' : d'.JustStarted settings timeout attempts backoff) (wall : c.wall = c'.wall)
    (bus : c.buses scope = c'.buses scope) (run : Runs c (fresh d t₀) w)
    (run' : Runs c' (fresh d' t₀) w') (settled : w.SessionSettled c t scope)
    (settled' : w'.SessionSettled c' t scope) : w.course scope = w'.course scope := by
  have follows := run.follows started scope
  have follows' := run'.follows started' scope
  have course' := follows'.course
  have rests' := follows'.restsAt settled'
  rw [← wall, ← bus, ← fresh_course_eq started started'] at course'
  rw [← wall, ← bus] at rests'
  exact eq_of_restsAt Course.goes_unique (fun _ _ goes => goes.since_le) follows.course course'
    (follows.restsAt settled) rests'

theorem desk_eq {replies : Replies} (started : d.JustStarted settings timeout attempts backoff)
    (started' : d'.JustStarted settings timeout attempts backoff)
    (separate : ∀ log, c.replies log = replies) (separate' : ∀ log, c'.replies log = replies)
    (run : Runs c (fresh d t₀) w) (run' : Runs c' (fresh d' t₀) w')
    (yields : w.yields scope = w'.yields scope) (settled : w.WorkerSettled c t scope)
    (settled' : w'.WorkerSettled c' t scope) : w.desk scope = w'.desk scope := by
  have attends := run.attends started separate scope
  have attends' := run'.attends started' separate' scope
  have desk' := attends'.desk
  have rests' := attends'.restsAt separate' settled'
  rw [← yields] at desk' rests'
  rw [← fresh_desk_eq started started'] at desk'
  exact eq_of_restsAt Desk.goes_unique (fun _ _ goes => goes.since_le) attends.desk desk'
    (attends.restsAt separate settled) rests'

theorem session_eq (started : d.JustStarted settings timeout attempts backoff)
    (started' : d'.JustStarted settings timeout attempts backoff) (run : Runs c (fresh d t₀) w)
    (run' : Runs c' (fresh d' t₀) w') (same : w.course scope = w'.course scope) :
    (w.lane? scope).map Lane.session = (w'.lane? scope).map Lane.session := by
  have present : (w.lane? scope).isSome = (w'.lane? scope).isSome := by
    rw [(run.follows started scope).present, (run'.follows started' scope).present,
      fresh_lane?_eq started started']
  cases here : w.lane? scope with
  | none =>
    rw [here] at present
    rw [Option.not_isSome_iff_eq_none.1 (by simp [← present] : ¬(w'.lane? scope).isSome)]
  | some l =>
    rw [here] at present
    obtain ⟨l', here'⟩ := Option.isSome_iff_exists.1 present.symm
    rw [here', Option.map_some, Option.map_some, ← course_session here, ← course_session here',
      same]

/-! ## Both runs -/

/-- A scope is in both worlds as in the other. -/
structure Alike (scope : BusScope) (w w' : World η) : Prop where
  lane : w.lane? scope = w'.lane? scope
  /-- The session's dealings, each with its moment and with what the session kept there. -/
  diary : w.diaries scope = w'.diaries scope
  /-- The sends begun, each with its moment. -/
  ledger : w.ledgers scope = w'.ledgers scope
  yielded : w.daemon.yielded scope = w'.daemon.yielded scope
  begun : w.daemon.begun scope = w'.daemon.begun scope
  failed : ∀ reason, (scope, reason) ∈ w.daemon.state.failures ↔
    (scope, reason) ∈ w'.daemon.state.failures

/-- **Scopes keep apart.** Two runs from a start, without a stop: if one scope's bus does the same
in both, and what becomes of a send depends on the send and its moment alone, then all about this
scope is the same in both whenever an instant is over, whatever the other buses do. -/
theorem isolated (settings : Settings) (timeout : Span) (attempts : Int) (backoff : Backoff)
    (scope : BusScope) (replies : Replies) {c c' : Conditions η} (wall : c.wall = c'.wall)
    (bus : c.buses scope = c'.buses scope) (separate : ∀ log, c.replies log = replies)
    (separate' : ∀ log, c'.replies log = replies) {d d' : Daemon η}
    (started : d.JustStarted settings timeout attempts backoff)
    (started' : d'.JustStarted settings timeout attempts backoff) (t₀ t : Moment) {w w' : World η}
    (run : Runs c (fresh d t₀) w) (run' : Runs c' (fresh d' t₀) w')
    (settled : w.SessionSettled c t scope ∧ w.WorkerSettled c t scope)
    (settled' : w'.SessionSettled c' t scope ∧ w'.WorkerSettled c' t scope) :
    Alike scope w w' := by
  have course := course_eq started started' wall bus run run' settled.1 settled'.1
  have session := session_eq started started' run run' course
  have diary : w.diaries scope = w'.diaries scope := congrArg Course.toDiary course
  have yields : w.yields scope = w'.yields scope := congrArg Diary.yields diary
  have desk := desk_eq started started' separate separate' run run' yields settled.2 settled'.2
  have ledger : w.ledgers scope = w'.ledgers scope := congrArg Desk.toLedger desk
  have follows := run.follows started scope
  have follows' := run'.follows started' scope
  have stocked := run.stocked started scope
  have stocked' := run'.stocked started' scope
  have lane : w.lane? scope = w'.lane? scope := by
    cases here : w.lane? scope with
    | none =>
      rw [here, Option.map_none] at session
      exact (Option.map_eq_none_iff.1 session.symm).symm
    | some l =>
      rw [here, Option.map_some] at session
      obtain ⟨l', here', session⟩ := Option.map_eq_some_iff.1 session.symm
      have config : l'.config = l.config :=
        (follows'.config l' here').trans (follows.config l here).symm
      -- What is queued has been yielded and not taken up yet.
      have queue : l'.queue = l.queue := by
        rw [stocked.queue l here, stocked'.queue l' here', yields, ledger]
      have worker : l'.worker = l.worker := by
        rw [← desk_worker here, ← desk_worker here', desk]
      rw [here', Lane.ext config session queue worker]
  refine ⟨lane, diary, ledger, ?_, ?_, ?_⟩
  · rw [follows.yielded, follows'.yielded, yields]
  · rw [stocked.begun, stocked'.begun, ledger]
  · intro reason
    have lane' : w.daemon.state.lane? scope = w'.daemon.state.lane? scope := lane
    rw [(run.recorded started).mem_iff, (run'.recorded started').mem_iff, lane']

/-! ### A bus that refuses connections -/

/-- One rule for each scope, about failures of one unit. -/
def twoRules : Settings where
  rules := [⟨.system, [.failed], .unitName "web", [Daemon.pager]⟩,
    ⟨.session, [.failed], .unitName "mail", [Daemon.pager]⟩]
  notifiers := [Daemon.pager]

/-- A daemon after a start. Notifiers may take as long as they like to reply. -/
def begun : Daemon Nat where
  state := {
    settings := twoRules
    timeout := .endless
    lanes := [.session, .system].map fun scope => {
      config := planFor twoRules 3 ⟨.seconds 1, .seconds 1⟩ scope
      session := .created
      worker := .idle }
    operations := [{ method := .start, job := .done () (.ok none) }] }

theorem begun_justStarted : begun.JustStarted twoRules .endless 3 ⟨.seconds 1, .seconds 1⟩ := by
  refine ⟨?_, rfl, fun _ => rfl, fun _ => rfl⟩
  refine .head ⟨_, .calls _ .start (by simp)⟩ ?_
  iterate 3 refine .head ⟨_, .operates _ 0 _ _ _ _ _ rfl rfl rfl⟩ ?_
  exact .refl

/-- A bus with a unit that fails at 7. -/
def failing : Script Nat := fun _ since q =>
  match q with
  | .open | .connect | .subscribeManager => some (since, (.ok () : Except Failure Unit))
  | .listUnits => some (since, (.ok ["web"] : Except Failure (List String)))
  | .subscribe _ => some (since, (.ok 0 : Except Failure Nat))
  | .fetch unit => some (since, (.ok ⟨unit, "active", some 3, none⟩ : Except Failure RawState))
  | .nextSignal =>
    if since < 7 then
      some (7, (.ok (.changed ⟨"web", "failed", some 7, none⟩) : Except Failure Session.Signal))
    else none
  | _ => none

/-- A bus that refuses connections. -/
def refusing : Script Nat := fun _ since q =>
  match q with
  | .open | .close => some (since, (.ok () : Except Failure Unit))
  | .connect =>
    some (since, (.error (.ofBus (.connection "session" "refused")) : Except Failure Unit))
  | _ => none

/-- A bus that answers nothing once a connection has been made. -/
def silent : Script Nat := fun _ since q =>
  match q with
  | .open => some (since, (.ok () : Except Failure Unit))
  | _ => none

/-- A unit of the system fails, beside another bus. -/
def beside (other : Script Nat) (replies : Replies) : Conditions Nat where
  wall _ := 0
  buses
    | .system => failing
    | .session => other
  replies _ := replies

/-- Every send is acknowledged at once. -/
def acknowledging : Replies := fun _ now => some (now, ⟨.acknowledged, by simp⟩)

/-- No send ever ends. -/
def hanging : Replies := fun _ _ => none

/-- Whether nothing is due in a scope by a moment. -/
def isSettledAt (c : Conditions η) (t : Moment) (w : World η) (scope : BusScope) : Bool :=
  decide (w.clock ≤ t) && (w.session? c scope).all (fun m => decide (t < m.moment)) &&
    (w.worker? c scope).all fun k => decide (t < k.1.since)

theorem settled_of_isSettledAt (h : isSettledAt c t w scope = true) :
    w.SessionSettled c t scope ∧ w.WorkerSettled c t scope := by
  simp only [isSettledAt, Bool.and_eq_true, decide_eq_true_eq] at h
  obtain ⟨⟨now, session⟩, worker⟩ := h
  refine ⟨⟨now, ?_⟩, now, ?_⟩
  · intro m moves
    simpa [moves] using session
  · intro k hs moves
    simpa [moves] using worker

/-- The clock goes on to a moment when nothing is due before it. -/
theorem Step.pass (t : Moment) (later : w.clock < t)
    (sessions : ∀ scope, (w.session? c scope).all (fun m => decide (t ≤ m.moment)) = true)
    (workers : ∀ scope, (w.worker? c scope).all (fun k => decide (t ≤ k.1.since)) = true) :
    Step c w { w with clock := t } := by
  refine .passes w t later ?_ ?_
  · intro scope m moves
    simpa [moves] using sessions scope
  · intro scope k hs moves
    simpa [moves] using workers scope

/-- What is sent about the unit. -/
def alarm : Delivery := ⟨Daemon.pager, .ofTransition Daemon.failure, .endless⟩

theorem runs_beside_refusing : ∃ w, Runs (beside refusing acknowledging) (fresh begun 0) w ∧
    (∀ scope, isSettledAt (beside refusing acknowledging) 8 w scope = true) ∧
    w.daemon.state.failures.map Prod.fst = [.session] ∧
    w.daemon.yielded .system = [Daemon.failure] ∧
    (w.ledgers .system).sends = [(7, alarm)] ∧ w.daemon.state.pending = 0 := by
  refine ⟨?w, ?run, ?rest⟩
  case run =>
    iterate 4 refine .head (.session _ .session _ _ rfl rfl rfl) ?_
    iterate 10 refine .head (.session _ .system _ _ rfl rfl rfl) ?_
    refine .head (.pass 7 (by decide) (by rintro ⟨⟩ <;> rfl) (by rintro ⟨⟩ <;> rfl)) ?_
    iterate 5 refine .head (.session _ .system _ _ rfl rfl rfl) ?_
    refine .head (.worker _ .system _ _ _ _ _ rfl
      (.takes _ _ rfl (List.cons_ne_nil _ _)) rfl rfl rfl) ?_
    refine .head (.worker _ .system _ _ _ _ _ rfl (.begins _ _ _ _ rfl rfl) rfl rfl rfl) ?_
    refine .head (.worker _ .system _ _ _ _ _ rfl
      (.ends _ _ _ _ .acknowledged rfl (by simp)) rfl rfl rfl) ?_
    iterate 2
      refine .head (.worker _ .system _ _ _ _ _ rfl (.notes _ _ _ _ _ rfl) rfl rfl rfl) ?_
    refine .head (.worker _ .system _ _ _ _ _ rfl (.releases _ _ _ _ rfl) rfl rfl rfl) ?_
    exact .refl
  case rest => exact ⟨by rintro ⟨⟩ <;> rfl, rfl, rfl, rfl, rfl⟩

theorem runs_beside_silent : ∃ w, Runs (beside silent acknowledging) (fresh begun 0) w ∧
    (∀ scope, isSettledAt (beside silent acknowledging) 8 w scope = true) ∧
    w.daemon.state.failures = [] := by
  refine ⟨?w, ?run, ?rest⟩
  case run =>
    iterate 2 refine .head (.session _ .session _ _ rfl rfl rfl) ?_
    iterate 10 refine .head (.session _ .system _ _ rfl rfl rfl) ?_
    refine .head (.pass 7 (by decide) (by rintro ⟨⟩ <;> rfl) (by rintro ⟨⟩ <;> rfl)) ?_
    iterate 5 refine .head (.session _ .system _ _ rfl rfl rfl) ?_
    refine .head (.worker _ .system _ _ _ _ _ rfl
      (.takes _ _ rfl (List.cons_ne_nil _ _)) rfl rfl rfl) ?_
    refine .head (.worker _ .system _ _ _ _ _ rfl (.begins _ _ _ _ rfl rfl) rfl rfl rfl) ?_
    refine .head (.worker _ .system _ _ _ _ _ rfl
      (.ends _ _ _ _ .acknowledged rfl (by simp)) rfl rfl rfl) ?_
    iterate 2
      refine .head (.worker _ .system _ _ _ _ _ rfl (.notes _ _ _ _ _ rfl) rfl rfl rfl) ?_
    refine .head (.worker _ .system _ _ _ _ _ rfl (.releases _ _ _ _ rfl) rfl rfl rfl) ?_
    exact .refl
  case rest => exact ⟨by rintro ⟨⟩ <;> rfl, rfl⟩

/-- The other bus refuses the connection, or never answers: the failure of the unit is sent at the
same moment. -/
theorem isolated_from_refusal : ∃ w w' : World Nat,
    Runs (beside refusing acknowledging) (fresh begun 0) w ∧
      Runs (beside silent acknowledging) (fresh begun 0) w' ∧
      w.daemon.state.failures.map Prod.fst = [.session] ∧ w'.daemon.state.failures = [] ∧
      Alike .system w w' ∧ (w'.ledgers .system).sends = [(7, alarm)] := by
  obtain ⟨w, run, settled, failed, -, sends, -⟩ := runs_beside_refusing
  obtain ⟨w', run', settled', none⟩ := runs_beside_silent
  have wall : (beside refusing acknowledging).wall = (beside silent acknowledging).wall := rfl
  have alike : Alike .system w w' := isolated twoRules .endless 3 _ .system acknowledging wall rfl
    (fun _ => rfl) (fun _ => rfl) begun_justStarted begun_justStarted 0 8 run run'
    (settled_of_isSettledAt (settled .system)) (settled_of_isSettledAt (settled' .system))
  exact ⟨w, w', run, run', failed, none, alike, alike.ledger ▸ sends⟩

/-- **Notifiers hold up no session.** Two runs from a start, without a stop: if all the buses do the
same in both, then all the sessions are the same in both whenever an instant is over, with what they
keep, all their dealings and the events that they have yielded, and so are the failures, whatever
becomes of the sends. -/
theorem monitored (settings : Settings) (timeout : Span) (attempts : Int) (backoff : Backoff)
    {c c' : Conditions η} (wall : c.wall = c'.wall) (buses : c.buses = c'.buses) {d d' : Daemon η}
    (started : d.JustStarted settings timeout attempts backoff)
    (started' : d'.JustStarted settings timeout attempts backoff) (t₀ t : Moment) {w w' : World η}
    (run : Runs c (fresh d t₀) w) (run' : Runs c' (fresh d' t₀) w')
    (settled : ∀ scope, w.SessionSettled c t scope)
    (settled' : ∀ scope, w'.SessionSettled c' t scope) :
    (∀ scope, (w.lane? scope).map Lane.session = (w'.lane? scope).map Lane.session ∧
      w.diaries scope = w'.diaries scope ∧ w.daemon.yielded scope = w'.daemon.yielded scope) ∧
    w.daemon.state.failures.Perm w'.daemon.state.failures := by
  have course (scope : BusScope) : w.course scope = w'.course scope :=
    course_eq started started' wall (congrFun buses scope) run run' (settled scope)
      (settled' scope)
  have session (scope : BusScope) := session_eq started started' run run' (course scope)
  refine ⟨?_, ?_⟩
  · intro scope
    have diary : w.diaries scope = w'.diaries scope := congrArg Course.toDiary (course scope)
    refine ⟨session scope, diary, ?_⟩
    rw [(run.follows started scope).yielded, (run'.follows started' scope).yielded, yields, yields,
      diary]
  · have recorded := run.recorded started
    have recorded' := run'.recorded started'
    -- A scope is recorded by how its session has ended, which is the same in both.
    refine (List.perm_ext_iff_of_nodup (.of_map _ recorded.once) (.of_map _ recorded'.once)).2 ?_
    rintro ⟨scope, reason⟩
    rw [recorded.mem_iff, recorded'.mem_iff]
    constructor
    · rintro ⟨l, here, failed⟩
      obtain ⟨l', here', same⟩ : ∃ l', w'.lane? scope = some l' ∧ l'.session = l.session :=
        Option.map_eq_some_iff.1 ((session scope).symm.trans (congrArg _ here))
      exact ⟨l', here', (Lane.reason?_congr same).trans failed⟩
    · rintro ⟨l, here, failed⟩
      obtain ⟨l', here', same⟩ : ∃ l', w.lane? scope = some l' ∧ l'.session = l.session :=
        Option.map_eq_some_iff.1 ((session scope).trans (congrArg _ here))
      exact ⟨l', here', (Lane.reason?_congr same).trans failed⟩

/-! ### A notifier that hangs -/

theorem runs_beside_hanging : ∃ w, Runs (beside refusing hanging) (fresh begun 0) w ∧
    (∀ scope, isSettledAt (beside refusing hanging) 8 w scope = true) ∧
    w.daemon.state.pending = 1 := by
  refine ⟨?w, ?run, ?rest⟩
  case run =>
    iterate 4 refine .head (.session _ .session _ _ rfl rfl rfl) ?_
    iterate 10 refine .head (.session _ .system _ _ rfl rfl rfl) ?_
    refine .head (.pass 7 (by decide) (by rintro ⟨⟩ <;> rfl) (by rintro ⟨⟩ <;> rfl)) ?_
    iterate 5 refine .head (.session _ .system _ _ rfl rfl rfl) ?_
    refine .head (.worker _ .system _ _ _ _ _ rfl
      (.takes _ _ rfl (List.cons_ne_nil _ _)) rfl rfl rfl) ?_
    refine .head (.worker _ .system _ _ _ _ _ rfl (.begins _ _ _ _ rfl rfl) rfl rfl rfl) ?_
    exact .refl
  case rest => exact ⟨by rintro ⟨⟩ <;> rfl, rfl⟩

/-- The send hangs in one run, and has ended in the other: the sessions are the same. -/
theorem monitored_beside_hanging : ∃ w w' : World Nat,
    Runs (beside refusing acknowledging) (fresh begun 0) w ∧
      Runs (beside refusing hanging) (fresh begun 0) w' ∧
      w.daemon.state.pending = 0 ∧ w'.daemon.state.pending = 1 ∧
      (∀ scope, w.diaries scope = w'.diaries scope) ∧ w'.daemon.yielded .system = [Daemon.failure] ∧
      w'.daemon.state.failures.map Prod.fst = [.session] := by
  obtain ⟨w, run, settled, failed, yielded, -, nothing⟩ := runs_beside_refusing
  obtain ⟨w', run', settled', pending⟩ := runs_beside_hanging
  have wall : (beside refusing acknowledging).wall = (beside refusing hanging).wall := rfl
  obtain ⟨sessions, failures⟩ := monitored twoRules .endless 3 _ wall rfl begun_justStarted
    begun_justStarted 0 8 run run' (fun scope => (settled_of_isSettledAt (settled scope)).1)
    (fun scope => (settled_of_isSettledAt (settled' scope)).1)
  refine ⟨w, w', run, run', nothing, pending, fun scope => (sessions scope).2.1, ?_, ?_⟩
  · rw [← (sessions .system).2.2, yielded]
  · have same := (failures.map Prod.fst).symm
    rw [failed] at same
    exact List.perm_singleton.1 same

end World

end UnitWatch.Supervisor
