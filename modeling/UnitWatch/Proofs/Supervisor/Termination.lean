import Mathlib.Data.Prod.Lex
import Mathlib.Logic.Hydra
import Mathlib.Order.GameAdd
import UnitWatch.Proofs.Supervisor.Progress

/-!
# A stop comes to its end

Once the sessions have been stopped, or have ended, `serve` returns when the daemon is left to
itself: in whatever order things go on, whatever the connections answer, and however sends end
(`Inevitable`).

Somebody can take a turn (`exists_turn`), and each turn uses something up (`Step.less`). An
operation that goes on has less left to ask; that it may have another one wait aside comes down to
the hydra's game. While the operations rest, a session on its way out has less left to ask, and a worker has
fewer events to take up, or less left to send. No session starts again, so this cannot go on for
ever.
-/

namespace UnitWatch

/-- What a process goes on with. -/
inductive Process.Later {σ Q α : Type} {A : Q → Type} : Process σ A α → Process σ A α → Prop
  | resumes (s : σ) (q : Q) (resume : A q → Process σ A α) (a : A q) :
      Later (resume a) (.ask s q resume)

theorem Process.wellFounded_later {σ Q α : Type} {A : Q → Type} :
    WellFounded (Later (σ := σ) (A := A) (α := α)) := by
  refine ⟨fun p => ?_⟩
  induction p with
  | done s r => exact ⟨_, by rintro _ ⟨⟩⟩
  | ask s q resume ih =>
    refine ⟨_, ?_⟩
    rintro _ ⟨⟩
    exact ih _

namespace Supervisor

open Dispatch (Delivery)

variable {η : Type}

/-! ## What is left to do -/

/-- What comes of a job: what it goes on with, and what it has wait aside. -/
inductive Job.Later : Job → Job → Prop
  | resumes (q : Request) (resume : Answer q → Job) (a : Answer q) :
      Later (resume a) (.ask () q resume)
  | aside (resume : Answer .waitAside → Job) : Later Method.wait.job (.ask () .waitAside resume)

namespace Job.Later

theorem acc_done (r : Except Failure (Option Int)) : Acc Job.Later (.done () r) :=
  ⟨_, by rintro _ ⟨⟩⟩

theorem acc_ask {q : Request} {resume : Answer q → Job} (next : ∀ a, Acc Job.Later (resume a))
    (aside : q = .waitAside → Acc Job.Later Method.wait.job) :
    Acc Job.Later (.ask () q resume) := by
  refine ⟨_, ?_⟩
  rintro _ (⟨a⟩ | _)
  · exact next _
  · exact aside rfl

/-- A wait has nothing else wait aside. -/
theorem acc_wait : Acc Job.Later Method.wait.job := by
  refine acc_ask (q := .sessionsEnded) (fun _ => ?_) nofun
  refine acc_ask (q := .scopes) (fun scopes => ?_) nofun
  refine acc_ask (q := .failures) (fun failures => ?_) nofun
  show Acc Job.Later (Process.bind ((if _ then _ else _ : Supervisor.Step Int) ()) _)
  split
  · exact acc_ask (q := .note _) (fun _ => acc_done _) nofun
  · exact acc_done _

theorem wellFounded : WellFounded Job.Later := by
  refine ⟨fun j => ?_⟩
  induction j with
  | done s r => exact acc_done r
  | ask s q resume ih => exact acc_ask ih fun _ => acc_wait

end Job.Later

/-- What comes of a session that is answered. -/
inductive Task.Later : Task η → Task η → Prop
  | answered {p p' : Session.Phase η} (later : p'.Later p) : Later (.running p') (.running p)

theorem Task.Later.wellFounded : WellFounded (Task.Later (η := η)) := by
  have running (p : Session.Phase η) : Acc Task.Later (.running p) := by
    induction p using Process.wellFounded_later.induction with
    | _ p ih =>
      refine ⟨_, ?_⟩
      rintro _ ⟨later⟩
      exact ih _ later
  refine ⟨fun task => ?_⟩
  cases task with
  | running p => exact running p
  | absent | created => exact ⟨_, by rintro _ ⟨⟩⟩

/-- What comes of a worker that is busy. -/
inductive Worker.Later : Worker → Worker → Prop
  | answered (t : Transition) {p p' : Dispatching} (later : p'.Later p) :
      Later (.busy t p') (.busy t p)
  | released (t : Transition) (p : Dispatching) : Later .idle (.busy t p)

theorem Worker.Later.wellFounded : WellFounded Worker.Later := by
  have idle : Acc Worker.Later .idle := ⟨_, by rintro _ ⟨⟩⟩
  have busy (t : Transition) (p : Dispatching) : Acc Worker.Later (.busy t p) := by
    induction p using Process.wellFounded_later.induction with
    | _ p ih =>
      refine ⟨_, ?_⟩
      rintro _ (⟨_, later⟩ | _)
      · exact ih _ later
      · exact idle
  refine ⟨fun worker => ?_⟩
  cases worker with
  | busy t p => exact busy t p
  | absent | idle | ended => exact ⟨_, by rintro _ ⟨⟩⟩

namespace Lane

/-- What is left of a lane: of its session, of its queue, of what its worker is busy with, and
whether a send has to begin. -/
abbrev Rest (η : Type) : Type := Task η × Nat × Worker × Nat

def rest (l : Lane η) (flying : Option Delivery) : Rest η :=
  (l.session, l.queue.length, l.worker, if flying.isSome then 0 else 1)

abbrev Rest.Less : Rest η → Rest η → Prop :=
  Prod.Lex Task.Later (Prod.Lex (· < ·) (Prod.Lex Worker.Later (· < ·)))

theorem Rest.wellFounded_less : WellFounded (Rest.Less (η := η)) :=
  Task.Later.wellFounded.prod_lex
    (wellFounded_lt.prod_lex (Worker.Later.wellFounded.prod_lex wellFounded_lt))

variable {l l' : Lane η} {settings : Settings} {timeout : Span} {flying flying' : Option Delivery}
  {hs : List Happening}

theorem Leaves.less {p : Session.Phase η} {ts : List Transition} (h : l.Leaves)
    (moves : l.Proceeds p ts) : Rest.Less ((l.moveTo p ts).rest flying) (l.rest flying) := by
  obtain ⟨-, s, q, resume, a, running, rfl⟩ := h.answered moves
  refine .left _ _ ?_
  rw [running]
  exact .answered (.resumes s q resume a)

theorem Works.less (works : l.Works settings timeout flying hs l' flying') :
    Rest.Less (l'.rest flying') (l.rest flying) := by
  cases works with
  | takes _ idle some =>
    obtain ⟨t, rest, queue⟩ := List.exists_cons_of_ne_nil some
    simp only [take, idle, queue, Lane.rest]
    exact .right _ (.left _ _ (by simp))
  | notes _ t n resume busy =>
    rw [Lane.rest, Lane.rest, busy]
    exact .right _ (.right _ (.left _ _ (.answered t (.resumes _ _ resume ()))))
  | begins t x resume busy => exact .right _ (.right _ (.right _ (by simp)))
  | skips t x resume busy =>
    rw [Lane.rest, Lane.rest, busy]
    exact .right _ (.right _ (.left _ _ (.answered t (.resumes _ _ resume .overdue))))
  | ends t x resume o busy =>
    rw [Lane.rest, Lane.rest, busy]
    exact .right _ (.right _ (.left _ _ (.answered t (.resumes _ _ resume o))))
  | releases _ t r busy =>
    rw [Lane.rest, Lane.rest, busy]
    exact .right _ (.right _ (.left _ _ (.released t _)))

end Lane

namespace Daemon

variable {d d' : Daemon η} {a : Actor} {n w : Nat} {scope : BusScope}

/-- What is left of the lane of a scope. -/
def restOf (d : Daemon η) (scope : BusScope) : Lane.Rest η :=
  (d.state.lane? scope).elim (.absent, 0, .absent, 0) fun l => l.rest (d.flying scope)

/-- The jobs of the operations, in any order. -/
def jobs (d : Daemon η) : Multiset Job := (d.state.operations.map Operation.job : List Job)

/-- What is left to do: of the operations, and of the lanes. -/
abbrev Rest (η : Type) : Type := Multiset Job × Lane.Rest η × Lane.Rest η

def rest (d : Daemon η) : Rest η := (d.jobs, d.restOf .session, d.restOf .system)

/-- An operation goes on, or a lane. -/
abbrev Rest.Less : Rest η → Rest η → Prop :=
  Prod.Lex (Relation.CutExpand Job.Later) (Prod.GameAdd Lane.Rest.Less Lane.Rest.Less)

theorem Rest.wellFounded_less : WellFounded (Rest.Less (η := η)) :=
  Job.Later.wellFounded.cutExpand.prod_lex
    (Lane.Rest.wellFounded_less.prod_gameAdd Lane.Rest.wellFounded_less)

/-- A request of which nobody waits aside starts no operation. -/
theorem operations_of_respond {s s' : State η} {q : Request} {b : Answer q}
    (h : s.respond n q = some (b, s')) (alone : q ≠ .waitAside) : s'.operations = s.operations := by
  cases q with
  | waitAside => exact absurd rfl alone
  | sessionsEnded | drained | stopOrOver =>
    simp only [State.respond] at h
    split at h
    · cases h
      rfl
    · cases h
  | result job =>
    obtain ⟨code, -, eq⟩ := Option.map_eq_some_iff.1 h
    cases eq
    rfl
  | _ =>
    cases h
    rfl

/-- An operation that goes on changes its own job. -/
theorem jobs_modify (os : List Operation) {o : Operation} (here : os[n]? = some o) (j : Job) :
    ((os.modify n fun o => { o with job := j }).map Operation.job ++ [o.job]).Perm
      (os.map Operation.job ++ [j]) := by
  induction os generalizing n with
  | nil => simp at here
  | cons x os ih =>
    cases n with
    | zero =>
      obtain rfl : x = o := by simpa using here
      simp only [List.modify_zero_cons, List.map_cons, List.cons_append]
      have left : (j :: (os.map Operation.job ++ [x.job])).Perm (j :: x.job :: os.map _) :=
        (List.perm_append_singleton ..).cons j
      have right : (x.job :: (os.map Operation.job ++ [j])).Perm (x.job :: j :: os.map _) :=
        (List.perm_append_singleton ..).cons x.job
      exact left.trans ((List.Perm.swap ..).trans right.symm)
    | succ n =>
      simp only [List.modify_succ_cons, List.map_cons, List.cons_append]
      exact (ih (by simpa using here)).cons _

theorem Asks.cutExpand {q : Request} {b : Answer q} (asks : Asks n q b d d') :
    Relation.CutExpand Job.Later d'.jobs d.jobs := by
  obtain ⟨o, resume, state, here, waits, responds, rfl⟩ := asks
  have later : Job.Later (resume b) o.job := waits ▸ .resumes q resume b
  have still := getElem?_of_responds (State.responds_of_respond responds) here
  have jobs := Multiset.coe_eq_coe.2 (jobs_modify state.operations still (resume b))
  simp only [← Multiset.coe_add] at jobs
  by_cases alone : q = .waitAside
  · subst alone
    cases responds
    refine ⟨{Method.wait.job} + {resume d.state.operations.length}, o.job, ?_, ?_⟩
    · intro j hj
      rcases Multiset.mem_add.1 hj with hj | hj
      · cases Multiset.mem_singleton.1 hj
        exact waits ▸ .aside resume
      · exact Multiset.mem_singleton.1 hj ▸ later
    · refine jobs.trans ?_
      simp only [State.call, List.map_append, ← Multiset.coe_add, add_assoc]
      rfl
  · refine ⟨{resume b}, o.job, fun j hj => Multiset.mem_singleton.1 hj ▸ later, ?_⟩
    refine jobs.trans ?_
    rw [operations_of_respond responds alone]
    rfl

/-- A lane goes on; the operations rest. -/
theorem Step.jobs_eq (step : Step (.lane scope) d d') : d'.jobs = d.jobs := by
  cases step with
  | session _ _ l p ts here moves =>
    obtain ⟨failures, eq⟩ := d.state.moveSession_eq scope p ts
    unfold jobs
    rw [eq]
    rfl
  | worker => rfl

/-- **A step uses something up**, when sessions are on their way out. -/
theorem Step.less (step : Step a d d') (leaves : d.state.Every Lane.Leaves) (own : a ≠ .caller) :
    Rest.Less d'.rest d.rest := by
  cases a with
  | caller => exact absurd rfl own
  | operation n =>
    obtain ⟨q, b, asks⟩ := step.asks
    exact .left _ _ asks.cutExpand
  | lane scope =>
    have less : Lane.Rest.Less (d'.restOf scope) (d.restOf scope) := by
      obtain ⟨l, l', here, there, goes⟩ := step.lane?_cases
      rw [restOf, restOf, here, there]
      rcases goes with ⟨p, ts, moves, rfl, flying⟩ | ⟨hs, works⟩
      · rw [flying]
        exact (leaves l (State.mem_of_lane? here)).less moves
      · exact works.less
    have same (other : BusScope) (differs : other ≠ scope) : d'.restOf other = d.restOf other := by
      obtain ⟨lane, flying⟩ := step.lane?_eq differs
      rw [restOf, restOf, lane, flying]
    have jobs := step.jobs_eq
    rw [rest, rest, jobs]
    -- The operations stay as they are, and of the scopes only one gets less.
    refine .right _ ?_
    cases scope with
    | session =>
      rw [same .system (by decide)]
      exact .fst less
    | system =>
      rw [same .session (by decide)]
      exact .snd less

/-! ## Left to itself -/

/-- Left to itself, the daemon comes to where `goal` holds, in whatever order things go on. -/
inductive Inevitable (goal : Daemon η → Prop) : Daemon η → Prop
  | here {d : Daemon η} (h : goal d) : Inevitable goal d
  | turn {d : Daemon η} (ready : ∃ a d', a ≠ .caller ∧ Turn a d d')
      (leads : ∀ a d', a ≠ .caller → Turn a d d' → Inevitable goal d') : Inevitable goal d

/-- An operation with this number is there, and is this one. -/
def Asked (n : Nat) (m : Method) (d : Daemon η) : Prop :=
  ∃ o, d.state.operations[n]? = some o ∧ o.method = m

theorem enduring_asked (n : Nat) (m : Method) : Enduring (Asked (η := η) n m) := by
  rintro a d d' step ⟨o, here, method⟩
  by_cases own : a = .operation n
  · subst own
    obtain ⟨q, b, asks⟩ := step.asks
    obtain ⟨o', resume, here', -, after⟩ := asks.operation
    cases here.symm.trans here'
    exact ⟨_, after, method⟩
  · obtain ⟨o', after, -, method', -⟩ := step.aside here own
    exact ⟨o', after, method'.trans method⟩

/-- The operation has returned. -/
def HasReturned (n : Nat) (d : Daemon η) : Prop := ∃ code, d.state.result? n = some code

/-- **When sessions are on their way out, `serve` returns.** -/
theorem Sane.inevitable (sane : Sane d) (leaves : d.state.Every Lane.Leaves)
    (asked : Asked n .serve d) : Inevitable (HasReturned n) d := by
  induction d using (InvImage.wf rest Rest.wellFounded_less).induction with
  | _ d ih =>
    obtain ⟨o, here, serves⟩ := id asked
    cases job : o.job with
    | done s r =>
      refine .here ⟨o.result?.getD 0, ?_⟩
      cases r <;> simp [State.result?, here, Operation.result?, job]
    | ask s q resume =>
      refine .turn (exists_turn sane leaves here serves job) ?_
      intro a d' own turn
      exact ih d' (turn.step.less leaves own) (sane.turn turn) (enduring_leaves turn.step leaves)
        (enduring_asked n .serve turn.step asked)

/-! ## From the stop on -/

/-- The operation is about to stop the sessions. -/
def AtStop (n : Nat) (d : Daemon η) : Prop :=
  ∃ (o : Operation) (resume : Answer .cancelSessions → Job), d.state.operations[n]? = some o ∧
    o.method = .serve ∧ o.job = .ask () .cancelSessions resume

theorem AtStop.midTurn (h : AtStop n d) : d.MidTurn n := by
  obtain ⟨o, resume, here, serves, waits⟩ := h
  refine ⟨o, .cancelSessions, resume, here, waits, id, ?_⟩
  rw [waits, serves]
  nofun

/-- Sessions that have been stopped are on their way out. -/
theorem AtStop.leaves (h : AtStop n d) (sane : Sane d) (turn : Turn a d d') :
    d'.state.Every Lane.Leaves := by
  obtain rfl := turn.operations n h.midTurn
  have stopped := turn.stopped sane.courteous
  obtain ⟨o, resume, here, serves, waits⟩ := h
  have safe := sane.serving.comes n o here serves
  rw [waits] at safe
  obtain ⟨started, -⟩ := (safe d .refl).1
  cases turn.step with
  | operates _ _ o' q resume' b state here' waits' responds =>
    cases here.symm.trans here'
    cases waits.symm.trans waits'
    cases responds
    intro x hx
    obtain ⟨l, hl, rfl⟩ := List.mem_map.1 hx
    exact (sane.serving.staffed.1.way l hl).leaves_cancel (started l hl) (stopped l hl)

/-- **A stop comes to its end.** -/
theorem AtStop.inevitable (h : AtStop n d) (sane : Sane d) (run : Turns d d') :
    Inevitable (HasReturned n) d' := by
  obtain ⟨o, resume, here, serves, waits⟩ := id h
  -- Either the stop is still about to begin, or the sessions are on their way out.
  have goes : AtStop n d' ∨ d'.state.Every Lane.Leaves := by
    induction run with
    | refl => exact .inl h
    | tail run turn ih =>
      obtain ⟨a, turn⟩ := turn
      right
      rcases ih with begins | leaves
      · exact begins.leaves (Turns.sane run sane) turn
      · exact enduring_leaves turn.step leaves
  have sane' := run.sane sane
  have asked : Asked n .serve d' := (enduring_asked n .serve).turns run ⟨o, here, serves⟩
  rcases goes with begins | leaves
  · obtain ⟨d'', turn⟩ := begins.midTurn.exists_turn sane'
    refine .turn ⟨.operation n, d'', nofun, turn⟩ ?_
    intro a d'' own turn
    exact (sane'.turn turn).inevitable (begins.leaves sane' turn)
      (enduring_asked n .serve turn.step asked)
  · exact sane'.inevitable leaves asked

end Daemon

end Supervisor

end UnitWatch
