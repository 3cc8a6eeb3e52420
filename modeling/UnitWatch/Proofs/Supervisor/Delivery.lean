import UnitWatch.Proofs.Supervisor.Operations

/-!
# Every event is delivered once, in order

Whatever goes on in a daemon, the sends that a lane's worker has begun are a prefix of those that
the events of its session call for. When a stop has finished they are all of them, each has ended,
and nothing is yielded or sent after the sender was closed (`delivered`).

**The invariant of a lane** (`Tended`): the sends that have ended, those that the worker still owes
for the event that it is busy with, and those of the queued events are together what the events so
far call for.
-/

namespace UnitWatch.Supervisor

open Dispatch (Delivery Outcome required sending IsNext)
open Safe (Succeeds)
open Session (Home anything AtHome)
open UnitWatch.Span (isInstant)
open Function (update)

variable {η : Type}

/-! ## One lane -/

/-- What the session of a lane keeps. -/
abbrev Homely (scope : BusScope) : Session.Phase η → Prop := fun p =>
  Safe anything (AtHome scope) (fun _ s r => Home scope s.registry ∧ ∀ a, r = .ok a → True) p ()

/-- The session of a lane stays in its scope. -/
def Lane.IsHome (l : Lane η) : Prop := ∀ p, l.session = .running p → Homely l.scope p

/-- The sends that a worker still owes for the event that it is busy with. Only such a send is in
flight. -/
def Worker.Owes (w : Worker) (flying : Option Delivery) (todo : List Delivery) : Prop :=
  match w with
  | .busy _ p => Safe sending IsNext (Succeeds fun rest _ _ => rest = []) p todo ∧
      ∀ x, flying = some x → ∃ resume, p = .ask () (.send x) resume
  | _ => todo = [] ∧ flying = none

/-- Stopping a session changes nothing else of its lane. -/
theorem Lane.cancel_eq (l : Lane η) : l.cancel = { l with session := l.cancel.session } ∧
    (l.cancel.session = .absent → l.session = .absent) := by
  unfold cancel
  split
  · exact ⟨rfl, by simp⟩
  · split
    · exact ⟨rfl, id⟩
    · exact ⟨rfl, by simp⟩
  · exact ⟨rfl, id⟩

namespace Lane.IsHome

variable {l : Lane η}

theorem proceeds {p : Session.Phase η} {ts : List Transition} (h : l.IsHome)
    (moves : l.Proceeds p ts) : Homely l.scope p ∧ ∀ t ∈ ts, t.unit.scope = l.scope := by
  cases moves with
  | begins created =>
    exact ⟨Session.stage_keeps l.config _ _ (.initial l.config.scope), by simp⟩
  | answered s q resume a waits =>
    obtain ⟨asked, next⟩ := h _ waits () .refl
    refine ⟨next a () trivial, ?_⟩
    intro t ht
    unfold handed at ht
    split at ht
    · cases List.mem_singleton.1 ht
      exact asked
    · cases ht
  | continues s st done =>
    exact ⟨Session.stage_keeps l.config st s (h _ done () .refl).1, by simp⟩

/-- A session that is stopped stays in its scope. -/
theorem cancel (h : l.IsHome) : l.cancel.IsHome := by
  unfold Lane.cancel
  split
  · rintro _ ⟨⟩ _ _
    exact ⟨.initial l.scope, by simp⟩
  · next p running =>
    split
    · exact h
    · rintro _ ⟨⟩
      have here : Homely l.scope p := h p running
      unfold Session.Phase.cancel
      split
      · split
        · next answer _ => exact (here () .refl).2 answer () trivial
        · exact here
      · exact here
  · exact h

end Lane.IsHome

variable {settings : Settings} {timeout : Span}

section

variable {scope : BusScope} {rs : List Happening} {todo : List Delivery} {queue : List Transition}

/-- What has ended, what is owed and what the queue calls for is what the events call for. -/
def Accounts (settings : Settings) (timeout : Span) (scope : BusScope) (rs : List Happening)
    (todo : List Delivery) (queue : List Transition) : Prop :=
  (rs.filterMap Happening.event?).flatMap (required settings timeout scope) =
    rs.filterMap Happening.ended? ++ (todo ++ queue.flatMap (required settings timeout scope))

namespace Accounts

theorem yield (h : Accounts settings timeout scope rs todo queue) (ts : List Transition) :
    Accounts settings timeout scope (rs ++ ts.map .yielded) todo (queue ++ ts) := by
  have events : (ts.map Happening.yielded).filterMap Happening.event? = ts := by
    simp [List.filterMap_map, Function.comp_def, Happening.event?]
  have ended : (ts.map Happening.yielded).filterMap Happening.ended? = [] := by
    simp [List.filterMap_map, Function.comp_def, Happening.ended?]
  unfold Accounts at h ⊢
  rw [List.filterMap_append, List.filterMap_append, events, ended, List.flatMap_append, h,
    List.flatMap_append]
  simp

theorem take {t : Transition} (h : Accounts settings timeout scope rs [] (t :: queue)) :
    Accounts settings timeout scope rs (required settings timeout scope t) queue := h

theorem begun (h : Accounts settings timeout scope rs todo queue) (x : Delivery) :
    Accounts settings timeout scope (rs ++ [.begun x]) todo queue := by
  simpa [Accounts, List.filterMap_cons, Happening.event?, Happening.ended?] using h

theorem ended {x : Delivery} (h : Accounts settings timeout scope rs (x :: todo) queue)
    (o : Outcome) : Accounts settings timeout scope (rs ++ [.ended x o]) todo queue := by
  simpa [Accounts, List.filterMap_cons, Happening.event?, Happening.ended?] using h

/-- A send that is owed may take a while. -/
theorem lasting {x : Delivery} (h : Accounts settings timeout scope rs todo queue)
    (lasting : isInstant timeout = false) (hx : x ∈ todo) : isInstant x.limit = false := by
  have called : x ∈ (rs.filterMap Happening.event?).flatMap (required settings timeout scope) := by
    rw [h]
    simp [hx]
  obtain ⟨t, -, ht⟩ := List.mem_flatMap.1 called
  exact Dispatch.limit_not_instant (by rwa [Dispatch.timeout_of_required ht])

end Accounts

end

/-- A lane, the send that is in flight, and what has been seen of it. -/
structure Tended (settings : Settings) (timeout : Span) (l : Lane η) (flying : Option Delivery)
    (rs : List Happening) : Prop where
  home : l.IsHome
  unstarted : l.session = .absent → l.worker = .absent
  queued : ∀ t ∈ l.queue, t.unit.scope = l.scope
  flight : rs.filterMap Happening.begun? = rs.filterMap Happening.ended? ++ flying.toList
  owed : ∃ todo, l.worker.Owes flying todo ∧ Accounts settings timeout l.scope rs todo l.queue

namespace Tended

variable {l l' : Lane η} {flying flying' : Option Delivery} {rs hs : List Happening}

/-- A lane before anything has happened. -/
theorem unborn {l : Lane η} (session : l.session = .absent) (worker : l.worker = .absent)
    (queue : l.queue = []) : Tended settings timeout l none [] where
  home p running := by simp [session] at running
  unstarted _ := worker
  queued := by simp [queue]
  flight := rfl
  owed := ⟨[], by simp [worker, Worker.Owes], by simp [Accounts, queue]⟩

/-- What has begun is a prefix of what is called for. -/
theorem begun_of_called (h : Tended settings timeout l flying rs) :
    rs.filterMap Happening.begun? <+:
      (rs.filterMap Happening.event?).flatMap (required settings timeout l.scope) := by
  obtain ⟨todo, owes, accounts⟩ := h.owed
  unfold Accounts at accounts
  rw [h.flight, accounts]
  refine List.prefix_append_right_inj _ |>.2 ?_
  cases flying with
  | none => exact List.nil_prefix
  | some x =>
    unfold Worker.Owes at owes
    split at owes
    · obtain ⟨safe, send⟩ := owes
      obtain ⟨resume, rfl⟩ := send x rfl
      obtain ⟨rest, rfl⟩ := (safe todo .refl).1
      exact ⟨rest ++ l.queue.flatMap (required settings timeout l.scope), rfl⟩
    · cases owes.2

/-- When nothing goes on any more, everything has been sent, and every send has ended. -/
theorem of_quiet (h : Tended settings timeout l flying rs) (quiet : l.Quiet) :
    rs.filterMap Happening.begun? =
        (rs.filterMap Happening.event?).flatMap (required settings timeout l.scope) ∧
      rs.filterMap Happening.ended? = rs.filterMap Happening.begun? := by
  obtain ⟨todo, owes, accounts⟩ := h.owed
  have idle : todo = [] ∧ flying = none := by
    unfold Worker.Owes at owes
    split at owes
    · next t p busy => exact absurd busy (quiet.worker t p)
    · exact owes
  have flight := h.flight
  rw [idle.2, Option.toList_none, List.append_nil] at flight
  rw [idle.1, quiet.queue, Accounts, List.flatMap_nil, List.append_nil, List.append_nil] at accounts
  exact ⟨by rw [flight, accounts], flight.symm⟩

/-! ### Steps of the lane -/

/-- The session goes on, and what it yields is queued. -/
theorem proceeds {p : Session.Phase η} {ts : List Transition}
    (h : Tended settings timeout l flying rs) (moves : l.Proceeds p ts) :
    Tended settings timeout (l.moveTo p ts) flying (rs ++ ts.map .yielded) := by
  obtain ⟨home, about⟩ := h.home.proceeds moves
  have begun : (ts.map Happening.yielded).filterMap Happening.begun? = [] := by
    simp [List.filterMap_map, Function.comp_def, Happening.begun?]
  have ended : (ts.map Happening.yielded).filterMap Happening.ended? = [] := by
    simp [List.filterMap_map, Function.comp_def, Happening.ended?]
  obtain ⟨todo, owes, accounts⟩ := h.owed
  refine ⟨?_, ?_, ?_, ?_, todo, owes,
    accounts.yield ts⟩
  · intro p' running
    cases running
    exact home
  · intro absent
    cases absent
  · intro t ht
    exact (List.mem_append.1 ht).elim (h.queued t) (about t)
  · simpa [begun, ended] using h.flight

theorem busy_started {t : Transition} {p p' : Dispatching} {t' : Transition}
    (h : Tended settings timeout l flying rs) (busy : l.worker = .busy t p) :
    l.session = .absent → Worker.busy t' p' = .absent := by
  intro absent
  rw [h.unstarted absent] at busy
  cases busy

/-- An idle worker takes the next event, and owes what is required for it. -/
theorem take (h : Tended settings timeout l flying rs) (idle : l.worker = .idle)
    (some : l.queue ≠ []) : Tended settings timeout (l.take settings timeout) flying rs := by
  obtain ⟨todo, owes, accounts⟩ := h.owed
  obtain ⟨t, rest, queue⟩ := List.exists_cons_of_ne_nil some
  rw [idle] at owes
  obtain ⟨rfl, rfl⟩ := owes
  have taken : l.take settings timeout =
      { l with worker := .busy t (Dispatch.dispatch settings timeout t ()), queue := rest } := by
    simp only [Lane.take, idle, queue]
  rw [taken]
  refine ⟨h.home, ?_, ?_, h.flight,
    required settings timeout l.scope t, ⟨?_, by simp⟩, Accounts.take (queue ▸ accounts)⟩
  · intro absent
    rw [h.unstarted absent] at idle
    cases idle
  · intro t' ht'
    exact h.queued t' (queue ▸ List.mem_cons_of_mem t ht')
  · rw [← h.queued t (queue ▸ List.mem_cons_self)]
    exact Dispatch.dispatch_sends settings timeout t

/-- A worker that is done with an event owes nothing for it. -/
theorem release (h : Tended settings timeout l flying rs) {t : Transition}
    {r : Except Failure Nat} (busy : l.worker = .busy t (.done () r)) :
    Tended settings timeout l.release flying rs := by
  obtain ⟨todo, owes, accounts⟩ := h.owed
  rw [busy] at owes
  obtain ⟨safe, send⟩ := owes
  have landed : flying = none := by
    cases flying with
    | none => rfl
    | some x =>
      obtain ⟨_, eq⟩ := send x rfl
      cases eq
  have nothing : todo = [] := by
    have ends := safe todo .refl
    cases r with
    | ok n => exact ends
    | error f => exact ends.elim
  refine ⟨h.home, ?_, h.queued, h.flight, todo, ⟨nothing, landed⟩, accounts⟩
  intro absent
  rw [h.unstarted absent] at busy
  cases busy

/-- The worker goes on. -/
theorem works (lasting : isInstant timeout = false) (h : Tended settings timeout l flying rs)
    (moves : l.Works settings timeout flying hs l' flying') :
    Tended settings timeout l' flying' (rs ++ hs) := by
  obtain ⟨todo, owes, accounts⟩ := h.owed
  cases moves with
  | takes _ idle some =>
    rw [List.append_nil]
    exact h.take idle some
  | notes _ t n resume busy =>
    rw [busy] at owes
    obtain ⟨safe, send⟩ := owes
    rw [List.append_nil]
    refine ⟨h.home, h.busy_started busy, h.queued, h.flight, todo, ⟨?_, ?_⟩, accounts⟩
    · exact (safe todo .refl).2 () todo (.noted todo n)
    · intro x hx
      obtain ⟨_, eq⟩ := send x hx
      cases eq
  | begins t x resume busy limit =>
    rw [busy] at owes
    refine ⟨h.home, h.unstarted, h.queued, ?_, todo, ?_, accounts.begun x⟩
    · have flight := h.flight
      rw [Option.toList_none, List.append_nil] at flight
      simp [Happening.begun?, Happening.ended?, flight]
    · rw [busy]
      refine ⟨owes.1, ?_⟩
      intro y hy
      cases hy
      exact ⟨resume, rfl⟩
  | skips t x resume busy instant =>
    rw [busy] at owes
    obtain ⟨rest, rfl⟩ := (owes.1 todo .refl).1
    -- The limit of a send is the timeout, which is no instant.
    rw [accounts.lasting lasting List.mem_cons_self] at instant
    cases instant
  | ends t x resume o busy alive =>
    rw [busy] at owes
    obtain ⟨rest, rfl⟩ := (owes.1 todo .refl).1
    refine ⟨h.home, h.busy_started busy, h.queued, ?_, rest, ⟨?_, by simp⟩, accounts.ended o⟩
    · simpa [List.filterMap_cons, Happening.begun?, Happening.ended?] using h.flight
    · exact (owes.1 _ .refl).2 o rest (.sent x rest o alive)
  | releases _ t r busy =>
    rw [List.append_nil]
    exact h.release busy

/-- An operation goes on. -/
theorem sweep {q : Request} {f : Lane η → Lane η} (h : Tended settings timeout l flying rs)
    (sweeps : State.Sweeps q f) (quiet : q = .endWorkers → l.Quiet) :
    Tended settings timeout (f l) flying rs := by
  cases sweeps with
  | starts =>
    unfold Lane.start
    split
    · next absent =>
      obtain ⟨todo, owes, accounts⟩ := h.owed
      rw [h.unstarted absent] at owes
      refine ⟨?_, ?_, h.queued, h.flight, todo, owes, accounts⟩
      · intro p running
        cases running
      · intro absent
        cases absent
    · exact h
  | cancels =>
    obtain ⟨lane, started⟩ := l.cancel_eq
    rw [lane]
    exact { h with
      home := lane ▸ h.home.cancel
      unstarted := fun absent => h.unstarted (started absent) }
  | endsWorkers =>
    have quiet := quiet rfl
    obtain ⟨todo, owes, accounts⟩ := h.owed
    unfold Lane.endWorker
    split
    · exact h
    · refine { h with unstarted := ?_, owed := ⟨todo, ?_, accounts⟩ }
      · intro absent
        obtain ⟨s, f, failed⟩ := quiet.session
        rw [failed] at absent
        cases absent
      · unfold Worker.Owes at owes
        split at owes
        · next t p busy => exact absurd busy (quiet.worker t p)
        · exact owes
  | nothing => exact h

end Tended

/-! ## The daemon -/

namespace Daemon

variable {d d' : Daemon η} {a : Actor}

theorem records_lane (d : Daemon η) (scope : BusScope) (hs : List Happening) (other : BusScope) :
    (d.log ++ hs.map (Incident.lane scope)).filterMap (Incident.of? other) =
      d.records other ++ if other = scope then hs else [] := by
  rw [List.filterMap_append, List.filterMap_map]
  refine congrArg (d.records other ++ ·) ?_
  by_cases same : other = scope
  · simp [Incident.of?, same]
  · simp [Function.comp_def, Incident.of?, same, Ne.symm same]

theorem records_closing (d : Daemon η) (n : Nat) (q : Request) (scope : BusScope) :
    (d.log ++ closing n q).filterMap (Incident.of? scope) = d.records scope := by
  rw [List.filterMap_append]
  have none : (closing n q).filterMap (Incident.of? scope) = [] := by
    unfold closing
    split <;> rfl
  rw [none, List.append_nil]
  rfl

/-! ### Lanes -/

/-- Every lane is tended, and nothing is seen of scopes without a lane. -/
structure Kept (settings : Settings) (timeout : Span) (d : Daemon η) : Prop where
  settings_eq : d.state.settings = settings
  timeout_eq : d.state.timeout = timeout
  tended : ∀ scope l, d.state.lane? scope = some l →
    Tended settings timeout l (d.flying scope) (d.records scope)
  bare : ∀ scope, d.state.lane? scope = none → d.records scope = []

/-- One lane has moved. -/
theorem Kept.act {scope : BusScope} {l : Lane η} {flying : Option Delivery} {hs : List Happening}
    (h : Kept settings timeout d) (state : State η) (f : Lane η → Lane η)
    (here : d.state.lane? scope = some l) (stays : ∀ x, x.scope = scope → (f x).scope = scope)
    (lanes : state.lanes = (d.state.mapLane scope f).lanes)
    (settings_eq : state.settings = d.state.settings) (timeout_eq : state.timeout = d.state.timeout)
    (tended : Tended settings timeout (f l) flying (d.records scope ++ hs)) :
    Kept settings timeout
      ⟨state, update d.flying scope flying, d.log ++ hs.map (Incident.lane scope)⟩ := by
  have lane (other : BusScope) : state.lane? other = (d.state.mapLane scope f).lane? other := by
    unfold State.lane?
    rw [lanes]
  refine ⟨settings_eq.trans h.settings_eq, timeout_eq.trans h.timeout_eq, ?_, ?_⟩
  · intro other x hx
    unfold records
    rw [records_lane]
    replace hx := (lane other).symm.trans hx
    -- The lanes of other scopes have not moved, and nothing is seen of them.
    by_cases same : other = scope
    · subst same
      rw [State.lane?_mapLane_self stays here] at hx
      cases hx
      simpa using tended
    · rw [State.lane?_mapLane_of_ne stays same] at hx
      simpa [same, Function.update_of_ne same] using h.tended other x hx
  · intro other hx
    unfold records
    rw [records_lane]
    replace hx := (lane other).symm.trans hx
    have differs : other ≠ scope := by
      rintro rfl
      rw [State.lane?_mapLane_self stays here] at hx
      cases hx
    rw [State.lane?_mapLane_of_ne stays differs] at hx
    simp [differs, h.bare other hx]

theorem Kept.step (lasting : isInstant timeout = false) (h : Kept settings timeout d)
    (step : Step a d d')
    (lawful : ∀ (n : Nat) (o : Operation) (q : Request) (resume : Answer q → Job),
      d.state.operations[n]? = some o → o.job = .ask () q resume → Lawful d () q) :
    Kept settings timeout d' := by
  cases step with
  | session _ scope l p ts here moves =>
    obtain ⟨failures, eq⟩ := d.state.moveSession_eq scope p ts
    have tended := (h.tended scope l here).proceeds moves
    have kept := h.act (d.state.moveSession scope p ts).1 (·.moveTo p ts) here (fun _ hx => hx)
      (by rw [eq]) (by rw [eq]; rfl) (by rw [eq]; rfl) tended
    simpa [Function.comp_def] using kept
  | worker _ scope l l' flying hs here moves =>
    rw [h.settings_eq, h.timeout_eq] at moves
    have tended := (h.tended scope l here).works lasting moves
    have stays := moves.scope_of_lane? here
    exact h.act _ (fun _ => l') here (fun _ _ => stays) rfl rfl rfl tended
  | calls => exact ⟨h.settings_eq, h.timeout_eq, h.tended, h.bare⟩
  | signalled =>
    unfold State.requestStop
    split
    · exact ⟨h.settings_eq, h.timeout_eq, h.tended, h.bare⟩
    · exact h
  | operates _ n o q resume a state here waits responds =>
    have responds := State.responds_of_respond responds
    -- An answered request does the same to every lane, and shows nothing of them.
    obtain ⟨f, sweep, lanes⟩ := responds.lanes
    have lane (scope : BusScope) : (state.advance n (resume a)).lane? scope =
        (d.state.lane? scope).map f := State.lane?_map sweep.scope_eq scope lanes
    have quiet : q = .endWorkers → d.state.Every Lane.Quiet := by
      rintro rfl
      exact lawful n o _ resume here waits
    refine ⟨responds.settings.trans h.settings_eq, responds.timeout.trans h.timeout_eq, ?_, ?_⟩
    · intro scope x hx
      obtain ⟨l, hl, rfl⟩ := Option.map_eq_some_iff.1 ((lane scope).symm.trans hx)
      unfold records
      rw [records_closing]
      exact (h.tended scope l hl).sweep sweep fun ends => quiet ends l (State.mem_of_lane? hl)
    · intro scope hx
      unfold records
      rw [records_closing]
      exact h.bare scope (Option.map_eq_none_iff.1 ((lane scope).symm.trans hx))

/-! ### Operations -/

/-- Every operation will finish as it should. -/
structure Orderly (d : Daemon η) : Prop where
  finishes : ∀ (n : Nat) (o : Operation), d.state.operations[n]? = some o →
    Safe (beside n) Lawful (Finishes o.method n) o.job d
  unused : ∀ n, d.state.operations.length ≤ n → d.closings n = 0

theorem Orderly.lawful (h : Orderly d) {n : Nat} {o : Operation} {q : Request}
    {resume : Answer q → Job} (here : d.state.operations[n]? = some o)
    (waits : o.job = .ask () q resume) : Lawful d () q := by
  have safe := h.finishes n o here
  rw [waits] at safe
  exact (safe d .refl).1

/-- A step of no operation, which leaves the operations as they are. -/
theorem Orderly.aside (h : Orderly d) (step : Step a d d') (other : ∀ n, a ≠ .operation n)
    (same : ∀ (n : Nat) (o' : Operation), d'.state.operations[n]? = some o' →
      ∃ o : Operation, d.state.operations[n]? = some o ∧ o'.job = o.job ∧ o'.method = o.method)
    (length : d'.state.operations.length = d.state.operations.length) : Orderly d' where
  finishes n o' here := by
    obtain ⟨o, here, job, method⟩ := same n o' here
    rw [job, method]
    exact (h.finishes n o here).move ⟨a, other n, step⟩
  unused n hn := by
    rw [step.closings_eq (other n)]
    exact h.unused n (length ▸ hn)

theorem getElem?_concat_cases {os : List Operation} {o o' : Operation} {n : Nat}
    (h : (os ++ [o])[n]? = some o') : os[n]? = some o' ∨ n = os.length ∧ o' = o := by
  rcases lt_or_ge n os.length with old | new
  · rw [List.getElem?_append_left old] at h
    exact .inl h
  · rw [List.getElem?_append_right new] at h
    obtain ⟨first, rfl⟩ := List.getElem?_eq_some_iff.1 h
    have index : n - os.length = 0 := Nat.lt_one_iff.1 first
    exact .inr ⟨by omega, by simp [index]⟩

/-- An operation is asked for, and those before it may go on. -/
theorem Orderly.asked (h : Orderly d) (step : Step a d d') {os : List Operation} {m : Method}
    (operations : os = d.state.operations ∨
      os = d.state.operations ++ [{ method := m, job := m.job }])
    (ready : m = .stop → d'.state.Every Lane.Started) {n : Nat} {o : Operation}
    (here : os[n]? = some o) (other : a ≠ .operation n) :
    Safe (beside n) Lawful (Finishes o.method n) o.job d' := by
  rcases operations with rfl | rfl
  · exact (h.finishes n o here).move ⟨a, other, step⟩
  · rcases getElem?_concat_cases here with old | ⟨rfl, rfl⟩
    · exact (h.finishes n o old).move ⟨a, other, step⟩
    · refine job_finishes m ?_ ready
      rw [step.closings_eq other]
      exact h.unused _ le_rfl

theorem Orderly.step (h : Orderly d) (step : Step a d d') : Orderly d' := by
  have whole := step
  cases step with
  | session _ scope l p ts here moves =>
    obtain ⟨failures, eq⟩ := d.state.moveSession_eq scope p ts
    have operations : (d.state.moveSession scope p ts).1.operations = d.state.operations := by
      rw [eq]
      rfl
    exact h.aside whole (by simp) (fun n o ho => ⟨o, operations ▸ ho, rfl, rfl⟩)
      (by rw [operations])
  | worker => exact h.aside whole (by simp) (fun n o ho => ⟨o, ho, rfl, rfl⟩) rfl
  | calls _ m ready =>
    refine ⟨fun n o here => h.asked whole (.inr rfl) ready here (by simp), ?_⟩
    intro n hn
    rw [whole.closings_eq (by simp)]
    exact h.unused n (Nat.le_of_succ_le (by simpa [State.call] using hn))
  | signalled =>
    refine h.aside whole (by simp) ?_ ?_
    · intro n o ho
      unfold State.requestStop at ho
      split at ho
      · next m _ =>
        rw [List.getElem?_modify] at ho
        obtain ⟨o', ho', rfl⟩ := Option.map_eq_some_iff.1 ho
        refine ⟨o', ho', ?_⟩
        split <;> exact ⟨rfl, rfl⟩
      · exact ⟨o, ho, rfl, rfl⟩
    · unfold State.requestStop
      split
      · exact List.length_modify ..
      · rfl
  | operates _ n o q resume a state here waits responds =>
    have operations := (State.responds_of_respond responds).operations
    have mine := h.finishes n o here
    rw [waits] at mine
    -- What is left to do of the operation is owed as before.
    have goes := (mine d .refl).2 a _ ⟨state, resume a, responds, rfl⟩
    have inside : n < d.state.operations.length := (List.getElem?_eq_some_iff.1 here).1
    have longer : d.state.operations.length ≤ state.operations.length := by
      rcases operations with same | more
      · rw [same]
      · rw [more]
        simp
    refine ⟨?_, ?_⟩
    · intro m o' here'
      simp only [State.advance, List.getElem?_modify] at here'
      obtain ⟨o₁, there, rfl⟩ := Option.map_eq_some_iff.1 here'
      by_cases same : n = m
      · subst same
        have old : o₁ = o := by
          rcases operations with eq | eq
          · rw [eq, here] at there
            exact (Option.some.inj there).symm
          · rw [eq, List.getElem?_append_left inside, here] at there
            exact (Option.some.inj there).symm
        subst old
        simpa using goes
      · have kept := h.asked whole operations (by simp) there fun eq => same (by cases eq; rfl)
        simpa [same] using kept
    · intro m hm
      simp only [State.advance, List.length_modify] at hm
      have differs : n ≠ m := by omega
      rw [whole.closings_eq fun eq => differs (by cases eq; rfl)]
      exact h.unused m (longer.trans hm)

/-! ### The sender -/

/-- After the sender has been closed nothing goes on, and nothing else is seen. -/
structure Sealed (d : Daemon η) : Prop where
  last : d.log.Pairwise fun x y => x.IsClosing → y.IsClosing
  quiet : ∀ x ∈ d.log, x.IsClosing → d.state.Every Lane.Quiet

/-- What is seen of a lane is seen before the sender is closed. -/
theorem Sealed.lane (h : Sealed d) (open' : ¬d.state.Every Lane.Quiet)
    (scope : BusScope) (hs : List Happening)
    (log : d'.log = d.log ++ hs.map (Incident.lane scope)) : Sealed d' := by
  have before : ∀ x ∈ d.log, ¬x.IsClosing := fun x hx closing => open' (h.quiet x hx closing)
  refine ⟨?_, ?_⟩
  · rw [log, List.pairwise_append]
    refine ⟨h.last, ?_, fun x hx y _ closing => absurd closing (before x hx)⟩
    exact List.pairwise_map.2 (List.pairwise_of_forall fun _ _ closing => closing.elim)
  · intro x hx closing
    rw [log] at hx
    rcases List.mem_append.1 hx with hx | hx
    · exact absurd closing (before x hx)
    · obtain ⟨_, -, rfl⟩ := List.mem_map.1 hx
      exact closing.elim

/-- A step that is not seen. -/
theorem Sealed.unseen (h : Sealed d) (step : Step a d d') (log : d'.log = d.log) : Sealed d' :=
  ⟨log ▸ h.last, fun x hx closing => step.quiet (h.quiet x (log ▸ hx) closing)⟩

theorem Sealed.step (h : Sealed d) (step : Step a d d')
    (lawful : ∀ (n : Nat) (o : Operation) (q : Request) (resume : Answer q → Job),
      d.state.operations[n]? = some o → o.job = .ask () q resume → Lawful d () q) : Sealed d' := by
  have whole := step
  cases step with
  | session _ scope l p ts here moves =>
    refine h.lane ?_ scope (ts.map .yielded) (by simp [Function.comp_def])
    intro quiet
    exact (quiet l (State.mem_of_lane? here)).session.not_proceeds moves
  | worker _ scope l l' flying hs here moves =>
    exact h.lane (fun quiet => (quiet l (State.mem_of_lane? here)).not_works moves) scope hs rfl
  | calls => exact h.unseen whole rfl
  | signalled => exact h.unseen whole rfl
  | operates _ n o q resume a state here waits responds =>
    -- The sender is closed when every lane is quiet, and stays closed.
    by_cases closes : q = .closeSender
    · subst closes
      have quiet : d.state.Every Lane.Quiet := lawful n o _ resume here waits
      refine ⟨?_, fun _ _ _ => whole.quiet quiet⟩
      refine List.pairwise_append.2 ⟨h.last, List.pairwise_singleton _ _, ?_⟩
      intro x _ y hy _
      rw [List.mem_singleton.1 hy]
      trivial
    · refine h.unseen whole ?_
      show d.log ++ closing n q = d.log
      rw [closing_of_ne closes, List.append_nil]

/-! ### Runs -/

/-- What holds all along. -/
structure Sound (settings : Settings) (timeout : Span) (d : Daemon η) : Prop
    extends Kept settings timeout d, Orderly d, Sealed d

theorem Sound.step (lasting : isInstant timeout = false) (h : Sound settings timeout d)
    (step : Step a d d') : Sound settings timeout d' := by
  have lawful (n : Nat) (o : Operation) (q : Request) (resume : Answer q → Job)
      (here : d.state.operations[n]? = some o) (waits : o.job = .ask () q resume) :
      Lawful d () q := h.toOrderly.lawful here waits
  exact ⟨h.toKept.step lasting step lawful, h.toOrderly.step step, h.toSealed.step step lawful⟩

/-- A daemon before anything has happened. -/
def initial (settings : Settings) (timeout : Span) (attempts : Int) (backoff : Backoff) :
    Daemon η where
  state := .make settings timeout attempts backoff

theorem sound_initial (settings : Settings) (timeout : Span) (attempts : Int) (backoff : Backoff) :
    Sound settings timeout (initial (η := η) settings timeout attempts backoff) where
  settings_eq := rfl
  timeout_eq := rfl
  tended scope l here := by
    obtain ⟨_, -, rfl⟩ := List.mem_map.1 (State.mem_of_lane? here)
    exact .unborn rfl rfl rfl
  bare _ _ := rfl
  finishes n o here := by simp [initial, State.make] at here
  unused _ _ := rfl
  last := .nil
  quiet := by simp [initial]

theorem Reaches.sound (lasting : isInstant timeout = false) (run : Reaches d d')
    (h : Sound settings timeout d) : Sound settings timeout d' := by
  induction run with
  | refl => exact h
  | tail _ step ih =>
    obtain ⟨a, step⟩ := step
    exact ih.step lasting step

/-- **Every event is delivered once, in order.** Whatever goes on, if notifiers may take a while to
reply:

- the sends that have begun in a scope are a prefix of those that the scope's events call for;
- nothing is seen after the sender has been closed, except that it is closed again;
- when a stop, or `serve`, is done, the sends that have begun are all that the events call for,
  each of them has ended, nothing is pending, and the operation has closed the sender once. -/
theorem delivered (settings : Settings) (timeout : Span) (attempts : Int) (backoff : Backoff)
    (lasting : isInstant timeout = false) {d : Daemon η}
    (run : Reaches (initial settings timeout attempts backoff) d) :
    (∀ scope, d.begun scope <+: (d.yielded scope).flatMap (required settings timeout scope)) ∧
    (∀ before n after, d.log = before ++ .closed n :: after → ∀ x ∈ after, ∃ m, x = .closed m) ∧
    ∀ n o code, d.state.operations[n]? = some o → (o.method = .stop ∨ o.method = .serve) →
      o.job = .done () code →
      (∀ scope, d.begun scope = (d.yielded scope).flatMap (required settings timeout scope) ∧
        d.ended scope = d.begun scope) ∧
      d.state.pending = 0 ∧ d.closings n = 1 := by
  have sound := run.sound lasting (sound_initial settings timeout attempts backoff)
  refine ⟨?_, ?_, ?_⟩
  · intro scope
    cases lane : d.state.lane? scope with
    | none => simp [begun, yielded, sound.bare scope lane]
    | some l =>
      have begun := (sound.tended scope l lane).begun_of_called
      rwa [State.scope_of_lane? lane] at begun
  · intro before n after split x hx
    have last := (List.pairwise_append.1 (split ▸ sound.last)).2.1
    have closing := (List.pairwise_cons.1 last).1 x hx trivial
    cases x with
    | lane scope h => exact closing.elim
    | closed m => exact ⟨m, rfl⟩
  · intro n o code here stops returned
    have finished := sound.finishes n o here
    rw [returned] at finished
    obtain ⟨quiet, closings⟩ := finished d .refl stops
    refine ⟨?_, quiet.pending, closings⟩
    intro scope
    cases lane : d.state.lane? scope with
    | none => simp [begun, yielded, ended, sound.bare scope lane]
    | some l =>
      have all := (sound.tended scope l lane).of_quiet (quiet l (State.mem_of_lane? lane))
      rwa [State.scope_of_lane? lane] at all

/-! ## A stop with an event still queued -/

/-- Whom to tell about failures. -/
def pager : Notifier := ⟨"pager", .session, "org.example.Pager"⟩

/-- One rule, about failures of one unit. -/
def oneRule : Settings where
  rules := [⟨.system, [.failed], .unitName "web", [pager]⟩]
  notifiers := [pager]

/-- The plan of the only lane. -/
def plan : Session.Plan := ⟨.system, oneRule.watches .system, 3, ⟨.seconds 1, .seconds 1⟩⟩

/-- The unit's failure. -/
def failure : Transition := ⟨⟨.system, "web"⟩, .active, .failed, 0⟩

/-- A daemon with one lane, after a start and perhaps more. -/
def running (session : Task Nat) (queue : List Transition) (log : List Incident) : Daemon Nat where
  state := {
    settings := oneRule
    timeout := .seconds 5
    lanes := [{ config := plan, session := session, queue := queue, worker := .idle }]
    operations := [{ method := .start, job := .done () (.ok none) }] }
  log := log

/-- A session that knows the unit in a state. -/
def knowing (state : ActiveState) (timestamp : Int) : Session.State Nat :=
  ⟨⟨.system, [⟨⟨.system, "web"⟩, some state, some timestamp, 0⟩]⟩, true⟩

theorem to_started :
    Reaches (initial oneRule (.seconds 5) 3 ⟨.seconds 1, .seconds 1⟩) (running .created [] []) := by
  refine .head ⟨_, .calls _ .start (by simp)⟩ ?_
  refine .head ⟨_, .operates _ 0 _ _ _ _ _ rfl rfl rfl⟩ ?_
  refine .head ⟨_, .operates _ 0 _ _ _ _ _ rfl rfl rfl⟩ ?_
  refine .head ⟨_, .operates _ 0 _ _ _ _ _ rfl rfl rfl⟩ ?_
  exact .refl

theorem to_discovered :
    Reaches (running .created [] [])
      (running (.running (Session.stage plan .listening (knowing .active 3))) [] []) := by
  refine .head ⟨_, .session _ .system _ _ _ rfl (.begins _ rfl)⟩ ?_
  refine .head ⟨_, .session _ .system _ _ _ rfl (.answered _ _ .open _ (.ok ()) rfl)⟩ ?_
  refine .head ⟨_, .session _ .system _ _ _ rfl (.answered _ _ .connect _ (.ok ()) rfl)⟩ ?_
  refine .head ⟨_, .session _ .system _ _ _ rfl (.answered _ _ .subscribeManager _ (.ok ()) rfl)⟩ ?_
  refine .head ⟨_, .session _ .system _ _ _ rfl (.answered _ _ .listUnits _ (.ok ["web"]) rfl)⟩ ?_
  refine .head ⟨_, .session _ .system _ _ _ rfl (.answered _ _ (.subscribe "web") _ (.ok 0) rfl)⟩ ?_
  refine .head ⟨_, .session _ .system _ _ _ rfl
    (.answered _ _ (.fetch "web") _ (.ok ⟨"web", "active", some 3, none⟩) rfl)⟩ ?_
  refine .head ⟨_, .session _ .system _ _ _ rfl (.answered _ _ (.note _) _ () rfl)⟩ ?_
  refine .head ⟨_, .session _ .system _ _ _ rfl (.answered _ _ (.note _) _ () rfl)⟩ ?_
  exact .head ⟨_, .session _ .system _ _ _ rfl (.continues _ _ _ rfl)⟩ .refl

theorem to_failed :
    Reaches (running (.running (Session.stage plan .listening (knowing .active 3))) [] [])
      (running (.running (Session.stage plan .listening (knowing .failed 7))) [failure]
        [.lane .system (.yielded failure)]) := by
  refine .head ⟨_, .session _ .system _ _ _ rfl
    (.answered _ _ .nextSignal _ (.ok (.changed ⟨"web", "failed", some 7, none⟩)) rfl)⟩ ?_
  refine .head ⟨_, .session _ .system _ _ _ rfl (.answered _ _ .clock _ (0 : Microseconds) rfl)⟩ ?_
  refine .head ⟨_, .session _ .system _ _ _ rfl (.answered _ _ (.note _) _ () rfl)⟩ ?_
  refine .head ⟨_, .session _ .system _ _ _ rfl (.answered _ _ (.emit failure) _ (.ok ()) rfl)⟩ ?_
  exact .head ⟨_, .session _ .system _ _ _ rfl (.continues _ _ _ rfl)⟩ .refl

/-- What is sent about the failure. -/
def page : Delivery := ⟨pager, .ofTransition failure, .seconds 5⟩

/-- The daemon after a stop. -/
def stopped (flying : BusScope → Option Delivery) : Daemon Nat where
  state := {
    settings := oneRule
    timeout := .seconds 5
    lanes := [{
      config := plan, session := .running (.done ⟨⟨.system, []⟩, false⟩ (.error .cancelled))
      worker := .ended }]
    operations := [
      { method := .start, job := .done () (.ok none) },
      { method := .stop, job := .done () (.ok none) }] }
  flying := flying
  log := [.lane .system (.yielded failure), .lane .system (.begun page),
    .lane .system (.ended page .acknowledged), .closed 1]

/-- The stop finds the failure queued, and waits until it has been dispatched. -/
theorem to_stopped : ∃ flying,
    Reaches (running (.running (Session.stage plan .listening (knowing .failed 7))) [failure]
        [.lane .system (.yielded failure)]) (stopped flying) := by
  apply Exists.intro
  refine .head ⟨_, .calls _ .stop (by simp [State.Every, running, Lane.Started])⟩ ?_
  refine .head ⟨_, .operates _ 1 _ _ _ _ _ rfl rfl rfl⟩ ?_
  refine .head ⟨_, .session _ .system _ _ _ rfl (.answered _ _ (.unsubscribe 0) _ (.ok ()) rfl)⟩ ?_
  refine .head ⟨_, .session _ .system _ _ _ rfl (.answered _ _ .close _ (.ok ()) rfl)⟩ ?_
  refine .head ⟨_, .operates _ 1 _ _ _ _ _ rfl rfl rfl⟩ ?_
  refine .head ⟨_, .operates _ 1 _ _ _ _ _ rfl rfl rfl⟩ ?_
  refine .head ⟨_, .operates _ 1 _ _ _ _ _ rfl rfl rfl⟩ ?_
  refine .head ⟨_, .worker _ .system _ _ _ _ rfl (.takes _ _ rfl (List.cons_ne_nil _ _))⟩ ?_
  refine .head ⟨_, .worker _ .system _ _ _ _ rfl
    (.begins _ _ page _ rfl (Dispatch.limit_not_instant rfl))⟩ ?_
  refine .head ⟨_, .worker _ .system _ _ _ _ rfl (.ends _ _ page _ .acknowledged rfl (by simp))⟩ ?_
  refine .head ⟨_, .worker _ .system _ _ _ _ rfl (.notes _ _ _ _ _ rfl)⟩ ?_
  refine .head ⟨_, .worker _ .system _ _ _ _ rfl (.notes _ _ _ _ _ rfl)⟩ ?_
  refine .head ⟨_, .worker _ .system _ _ _ _ rfl (.releases _ _ _ _ rfl)⟩ ?_
  refine .head ⟨_, .operates _ 1 _ _ _ _ _ rfl rfl rfl⟩ ?_
  refine .head ⟨_, .operates _ 1 _ _ _ _ _ rfl rfl rfl⟩ ?_
  refine .head ⟨_, .operates _ 1 _ _ _ _ _ rfl rfl rfl⟩ ?_
  refine .head ⟨_, .operates _ 1 _ _ _ _ _ rfl rfl rfl⟩ ?_
  exact .refl

/-- The failure has been sent once, as the rule asks, before the sender was closed. -/
theorem delivered_before_stop : ∃ flying : BusScope → Option Delivery,
    Reaches (initial oneRule (.seconds 5) 3 ⟨.seconds 1, .seconds 1⟩) (stopped flying) ∧
      (stopped flying).begun .system = required oneRule (.seconds 5) .system failure ∧
      (stopped flying).ended .system = [page] ∧ (stopped flying).closings 1 = 1 := by
  obtain ⟨flying, last⟩ := to_stopped
  have run := (to_started.trans to_discovered).trans (to_failed.trans last)
  obtain ⟨sends, -, closings⟩ :=
    (delivered oneRule (.seconds 5) 3 _ rfl run).2.2 1 _ _ rfl (.inl rfl) rfl
  exact ⟨flying, run, (sends .system).1, (sends .system).2, closings⟩

end Daemon

end UnitWatch.Supervisor
