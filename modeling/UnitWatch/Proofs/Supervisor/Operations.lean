import UnitWatch.Proofs.Supervisor.Daemon

/-!
# Operations among other steps

What an operation can rely on while it waits: lanes that have been started stay so, sessions that
have ended stay so, and when nothing goes on any more, nothing starts again. So a stop ends the
workers and closes the sender only when nothing goes on (`Lawful`), and closes it once
(`Finishes`), whatever other operations do meanwhile.
-/

namespace UnitWatch.Supervisor

open Safe (Succeeds)

variable {η : Type}

namespace Daemon

/-- All the other steps, as the surroundings of an operation. -/
def beside (n : Nat) : Environment Unit Answer (Daemon η) where
  moves d d' := ∃ a, a ≠ .operation n ∧ Step a d d'
  answers d _ q a d' := ∃ state job, d.state.respond n q = some (a, state) ∧
    d' = { d with state := state.advance n job, log := d.log ++ closing n q }

/-- Workers end, and the sender is closed, only when nothing goes on any more. -/
def Lawful (d : Daemon η) (_ : Unit) : Request → Prop
  | .endWorkers | .closeSender => d.state.Every Lane.Quiet
  | _ => True

/-- After a stop nothing goes on any more, and the stop has closed the sender once. -/
def Finishes (m : Method) (n : Nat) (d : Daemon η) (_ : Unit) (_ : Except Failure (Option Int)) :
    Prop :=
  m = .stop ∨ m = .serve → d.state.Every Lane.Quiet ∧ d.closings n = 1

variable {d d' : Daemon η} {a : Actor} {n : Nat}

theorem closings_lane (d : Daemon η) (scope : BusScope) (hs : List Happening) (n : Nat) :
    (d.log ++ hs.map (Incident.lane scope)).countP (Incident.IsClosingOf n) = d.closings n := by
  have none : (hs.map (Incident.lane scope)).countP (Incident.IsClosingOf n) = 0 := by
    simp [List.countP_eq_zero, Incident.IsClosingOf]
  rw [List.countP_append, none]
  rfl

theorem closings_of_other (d : Daemon η) {m : Nat} (differs : m ≠ n) (q : Request) :
    (d.log ++ closing m q).countP (Incident.IsClosingOf n) = d.closings n := by
  have none : (closing m q).countP (Incident.IsClosingOf n) = 0 := by
    unfold closing
    split <;> simp [Incident.IsClosingOf, differs]
  rw [List.countP_append, none]
  rfl

theorem Step.closings_eq (step : Step a d d') (other : a ≠ .operation n) :
    d'.closings n = d.closings n := by
  cases step with
  | session _ scope l p ts here moves =>
    have log := closings_lane d scope (ts.map .yielded) n
    rwa [List.map_map] at log
  | worker _ scope l l' flying hs here moves => exact closings_lane d scope hs n
  | calls => rfl
  | signalled => rfl
  | operates _ m o q resume a state here waits responds =>
    have differs : m ≠ n := by
      rintro rfl
      exact other rfl
    exact closings_of_other d differs q

/-! ## Rules -/

/-- What an operation relies on: every lane has come to some point, and it has closed the sender so
many times. -/
structure Phase (P : Lane η → Prop) (n k : Nat) (d : Daemon η) : Prop where
  every : d.state.Every P
  closings : d.closings n = k

/-- A point that no step takes a lane back from. -/
structure Lasting (P : Lane η → Prop) : Prop where
  step : ∀ ⦃a⦄ ⦃d d' : Daemon η⦄, Step a d d' → d.state.Every P → d'.state.Every P
  sweep : ∀ ⦃q f l⦄, State.Sweeps q f → P l → P (f l)

theorem lasting_anything : Lasting (η := η) fun _ => True :=
  ⟨fun _ _ _ _ _ _ _ => trivial, fun _ _ _ _ _ => trivial⟩

theorem lasting_started : Lasting (η := η) Lane.Started :=
  ⟨fun _ _ _ => Step.started, fun _ _ _ sweep h => h.sweep sweep⟩

theorem lasting_over : Lasting (η := η) Lane.Over :=
  ⟨fun _ _ _ => Step.over, fun _ _ _ sweep h => h.sweep sweep⟩

theorem lasting_quiet : Lasting (η := η) Lane.Quiet :=
  ⟨fun _ _ _ => Step.quiet, fun _ _ _ sweep h => h.sweep sweep⟩

variable {P Q : Lane η → Prop} {k : Nat} {q : Request}

theorem Lasting.stable (lasting : Lasting P) : (beside n).Stable (Phase P n k) := by
  rintro d d' ⟨a, other, step⟩ h
  exact ⟨lasting.step step h.every, (step.closings_eq other).trans h.closings⟩

/-- A request that does not close the sender takes no lane back. -/
theorem Phase.answered {a : Answer q} (h : Phase P n k d) (lasting : Lasting P)
    (ans : (beside n).answers d () q a d') (open' : q ≠ .closeSender) : Phase P n k d' := by
  obtain ⟨state, job, responds, rfl⟩ := ans
  obtain ⟨f, sweep, lanes⟩ := (State.responds_of_respond responds).lanes
  refine ⟨?_, ?_⟩
  · intro x hx
    rw [show (state.advance n job).lanes = d.state.lanes.map f from lanes] at hx
    obtain ⟨l, hl, rfl⟩ := List.mem_map.1 hx
    exact lasting.sweep sweep (h.every l hl)
  · rw [← h.closings, closing_of_ne open', List.append_nil]
    rfl

section

variable {K : Daemon η → Answer q → Prop}

/-- A request, and what its answer tells. -/
theorem asks (lasting : Lasting P) (h : Phase P n k d)
    (lawful : ∀ d, Phase P n k d → Lawful d () q) (stable : ∀ a, (beside n).Stable (K · a))
    (told : ∀ d a d', Phase P n k d → (beside n).answers d () q a d' → K d' a) :
    Safe (beside n) Lawful (Succeeds fun d _ a => K d a) (ask q ()) d := by
  refine Safe.ask lasting.stable h lawful ?_
  intro d a d' h ans
  exact Safe.done (stable a) (told d a d' h ans) fun d h => h

theorem tells {P' : Lane η → Prop} {k' : Nat} (lasting : Lasting P) (lasting' : Lasting P')
    (h : Phase P n k d) (lawful : ∀ d, Phase P n k d → Lawful d () q)
    (told : ∀ d a d', Phase P n k d → (beside n).answers d () q a d' → Phase P' n k' d') :
    Safe (beside n) Lawful (Succeeds fun d _ _ => Phase P' n k' d) (tell q ()) d := by
  refine (asks (K := fun d _ => Phase P' n k' d) lasting h lawful (fun _ => lasting'.stable)
    told).seq ?_
  intro d _ a h
  exact Safe.done lasting'.stable h fun d h => h

end

/-- A request that takes no lane back, and that is always lawful. -/
theorem asks_keeping (q : Request) (lasting : Lasting P) (h : Phase P n k d)
    (open' : q ≠ .closeSender) (lawful : ∀ d : Daemon η, Phase P n k d → Lawful d () q) :
    Safe (beside n) Lawful (Succeeds fun d _ _ => Phase P n k d) (ask q ()) d :=
  asks (K := fun d _ => Phase P n k d) lasting h lawful (fun _ => lasting.stable)
    fun _ _ _ h ans => h.answered lasting ans open'

theorem tells_keeping (q : Request) (lasting : Lasting P) (h : Phase P n k d)
    (open' : q ≠ .closeSender) (lawful : ∀ d : Daemon η, Phase P n k d → Lawful d () q) :
    Safe (beside n) Lawful (Succeeds fun d _ _ => Phase P n k d) (tell q ()) d :=
  tells lasting lasting h lawful fun _ _ _ h ans => h.answered lasting ans open'

/-! ## Operations -/

/-- Sessions that have been started have ended once there is an answer. -/
theorem sessionsEnded_over (h : Phase Lane.Started n k d) :
    Safe (beside n) Lawful (Succeeds fun d _ _ => Phase Lane.Over n k d)
      (tell .sessionsEnded ()) d := by
  refine tells lasting_started lasting_over h (fun _ _ => trivial) ?_
  intro d a d' h ans
  have kept := h.answered lasting_started ans (by simp)
  obtain ⟨state, job, responds, rfl⟩ := ans
  by_cases ended : d.state.sessionsEnded = true
  · simp only [State.respond, if_pos ended, Option.some.injEq] at responds
    cases responds
    exact ⟨kept.every.over ended, kept.closings⟩
  · simp [State.respond, ended] at responds

/-- When sessions have ended and nothing is pending, nothing goes on any more. -/
theorem drained_quiet (h : Phase Lane.Over n k d) :
    Safe (beside n) Lawful (Succeeds fun d _ _ => Phase Lane.Quiet n k d) (tell .drained ()) d := by
  refine tells lasting_over lasting_quiet h (fun _ _ => trivial) ?_
  intro d a d' h ans
  have kept := h.answered lasting_over ans (by simp)
  obtain ⟨state, job, responds, rfl⟩ := ans
  by_cases drained : d.state.pending = 0
  · simp only [State.respond, if_pos drained, Option.some.injEq] at responds
    cases responds
    exact ⟨kept.every.quiet drained, kept.closings⟩
  · simp [State.respond, drained] at responds

theorem closeSender_closes (h : Phase Lane.Quiet n k d) :
    Safe (beside n) Lawful (Succeeds fun d _ _ => Phase Lane.Quiet n (k + 1) d)
      (tell .closeSender ()) d := by
  refine tells lasting_quiet lasting_quiet h (fun _ h => h.every) ?_
  intro d a d' h ans
  obtain ⟨state, job, responds, rfl⟩ := ans
  cases responds
  refine ⟨h.every, ?_⟩
  show (d.log ++ [Incident.closed n]).countP (Incident.IsClosingOf n) = k + 1
  rw [List.countP_append, ← h.closings]
  simp [Incident.IsClosingOf, Daemon.closings]

/-- **A stop** of lanes that have been started ends with nothing going on, and closes the sender
once. -/
theorem stop_finishes (h : Phase Lane.Started n 0 d) :
    Safe (beside n) Lawful (Succeeds fun d _ _ => Phase Lane.Quiet n 1 d) (stop ()) d := by
  refine (tells_keeping .cancelSessions lasting_started h (by simp) fun _ _ => trivial).seq ?_
  intro d _ _ h
  refine (sessionsEnded_over h).seq ?_
  intro d _ _ h
  refine (asks_keeping .pending lasting_over h (by simp) fun _ _ => trivial).seq ?_
  intro d _ pending h
  have rest (d : Daemon η) (h : Phase Lane.Over n 0 d) :
      Safe (beside n) Lawful (Succeeds fun d _ _ => Phase Lane.Quiet n 1 d)
        ((do tell .drained; tell .endWorkers; tell .closeSender; note .stopped :
          Supervisor.Step Unit) ()) d := by
    refine (drained_quiet h).seq ?_
    intro d _ _ h
    refine (tells_keeping .endWorkers lasting_quiet h (by simp) fun _ h => h.every).seq ?_
    intro d _ _ h
    refine (closeSender_closes h).seq ?_
    intro d _ _ h
    exact tells_keeping (.note .stopped) lasting_quiet h (by simp) fun _ _ => trivial
  simp only
  split
  · refine (tells_keeping (.note _) lasting_over h (by simp) fun _ _ => trivial).seq ?_
    intro d _ _ h
    exact rest d h
  · exact rest d h

theorem startSessions_starts (h : Phase (fun _ => True) n k d) :
    Safe (beside n) Lawful (Succeeds fun d _ _ => Phase Lane.Started n k d)
      (tell .startSessions ()) d := by
  refine tells lasting_anything lasting_started h (fun _ _ => trivial) ?_
  intro d a d' h ans
  have kept := h.answered lasting_anything ans (by simp)
  obtain ⟨state, job, responds, rfl⟩ := ans
  cases responds
  refine ⟨?_, kept.closings⟩
  intro x hx
  obtain ⟨l, -, rfl⟩ := List.mem_map.1 hx
  exact l.started_start

/-- A start starts every lane. -/
theorem start_starts (h : Phase (fun _ => True) n k d) :
    Safe (beside n) Lawful (Succeeds fun d _ _ => Phase Lane.Started n k d) (start ()) d := by
  have started (scopes : List BusScope) (d : Daemon η) (h : Phase (fun _ => True) n k d) :
      Safe (beside n) Lawful (Succeeds fun d _ _ => Phase Lane.Started n k d)
        ((do tell .startSessions; note (.started scopes) : Supervisor.Step Unit) ()) d := by
    refine (startSessions_starts h).seq ?_
    intro d _ _ h
    exact tells_keeping (.note _) lasting_started h (by simp) fun _ _ => trivial
  refine (asks_keeping .scopes lasting_anything h (by simp) fun _ _ => trivial).seq ?_
  intro d _ scopes h
  simp only
  split
  · exact (tells_keeping (.note _) lasting_anything h (by simp) fun _ _ => trivial).seq
      fun d _ _ h => started scopes d h
  · exact started scopes d h

theorem verdict_keeps {P : Lane η → Prop} {k : Nat} (lasting : Lasting P) (h : Phase P n k d) :
    Safe (beside n) Lawful (Succeeds fun d _ _ => Phase P n k d) (verdict ()) d := by
  refine (asks_keeping .scopes lasting h (by simp) fun _ _ => trivial).seq ?_
  intro d _ scopes h
  refine (asks_keeping .failures lasting h (by simp) fun _ _ => trivial).seq ?_
  intro d _ failures h
  split
  · refine (tells_keeping (.note _) lasting h (by simp) fun _ _ => trivial).seq ?_
    intro d _ _ h
    exact Safe.done lasting.stable h fun d h => h
  · exact Safe.done lasting.stable h fun d h => h

theorem wait_keeps {P : Lane η → Prop} {k : Nat} (lasting : Lasting P) (h : Phase P n k d) :
    Safe (beside n) Lawful (Succeeds fun d _ _ => Phase P n k d) (wait ()) d :=
  (tells_keeping .sessionsEnded lasting h (by simp) fun _ _ => trivial).seq
    fun _ _ _ h => verdict_keeps lasting h

theorem serve_finishes (h : Phase (fun _ => True) n 0 d) :
    Safe (beside n) Lawful (Succeeds fun d _ _ => Phase Lane.Quiet n 1 d) (serve ()) d := by
  refine (tells_keeping .catchSignals lasting_anything h (by simp) fun _ _ => trivial).seq ?_
  intro d _ _ h
  refine (start_starts h).seq ?_
  intro d _ _ h
  refine (asks_keeping .waitAside lasting_started h (by simp) fun _ _ => trivial).seq ?_
  intro d _ waiter h
  refine (tells_keeping (.stopOrOver waiter) lasting_started h (by simp) fun _ _ => trivial).seq ?_
  intro d _ _ h
  refine (asks_keeping .isStopRequested lasting_started h (by simp) fun _ _ => trivial).seq ?_
  intro d _ requested h
  have rest (d : Daemon η) (h : Phase Lane.Started n 0 d) :
      Safe (beside n) Lawful (Succeeds fun d _ _ => Phase Lane.Quiet n 1 d)
        ((do
          stop
          let code : Int ← ask (.result waiter)
          let requested : Bool ← ask .isStopRequested
          tell .releaseSignals
          return if requested then 0 else code : Supervisor.Step Int) ()) d := by
    refine (stop_finishes h).seq ?_
    intro d _ _ h
    refine (asks_keeping (.result waiter) lasting_quiet h (by simp) fun _ _ => trivial).seq ?_
    intro d _ code h
    refine (asks_keeping .isStopRequested lasting_quiet h (by simp) fun _ _ => trivial).seq ?_
    intro d _ requested h
    refine (tells_keeping .releaseSignals lasting_quiet h (by simp) fun _ _ => trivial).seq ?_
    intro d _ _ h
    exact Safe.done lasting_quiet.stable h fun d h => h
  simp only
  split
  · exact (tells_keeping (.note _) lasting_started h (by simp) fun _ _ => trivial).seq
      fun d _ _ h => rest d h
  · exact rest d h

theorem map_finishes {α : Type} {x : Supervisor.Step α} {m : Method} (f : α → Option Int)
    (lasting : Lasting P)
    (h : Safe (beside n) Lawful (Succeeds fun d _ _ => Phase P n k d) (x ()) d)
    (imp : ∀ d : Daemon η, Phase P n k d → ∀ r, Finishes m n d () r) :
    Safe (beside n) Lawful (Finishes m n) ((Functor.map f x : Supervisor.Step (Option Int)) ()) d :=
  h.seq fun _ _ _ h => Safe.done lasting.stable h fun d h => imp d h _

/-- **Operations finish as they should.** -/
theorem job_finishes (m : Method) (unused : d.closings n = 0)
    (ready : m = .stop → d.state.Every Lane.Started) :
    Safe (beside n) Lawful (Finishes m n) m.job d := by
  have h : Phase (fun _ => True) n 0 d := ⟨fun _ _ => trivial, unused⟩
  cases m with
  | start =>
    exact map_finishes _ lasting_started (start_starts h) fun _ _ _ => by simp [Finishes]
  | wait =>
    exact map_finishes _ lasting_anything (wait_keeps lasting_anything h)
      fun _ _ _ => by simp [Finishes]
  | stop =>
    exact map_finishes _ lasting_quiet (stop_finishes ⟨ready rfl, unused⟩)
      fun _ h _ _ => ⟨h.every, h.closings⟩
  | serve =>
    exact map_finishes _ lasting_quiet (serve_finishes h) fun _ h _ _ => ⟨h.every, h.closings⟩

end Daemon

end UnitWatch.Supervisor
