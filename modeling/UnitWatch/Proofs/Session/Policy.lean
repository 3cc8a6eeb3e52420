import Mathlib.Algebra.Order.Ring.Rat
import Mathlib.Tactic.Linarith
import UnitWatch.Proofs.Session.Steps
import UnitWatch.Proofs.Session.Trace

/-!
# The reconnect policy

Which openings a session attempts, how long it waits before each of them, and when it gives up, for
any outcomes of its connections: a connection cannot be started, or it is lost after it was started.

**The policy** (`standing`, `Standing.verdict`) is an automaton over what happens with connections
(`Deed`). After a loss the `k`-th attempt follows one pause of `Backoff.delay k`; a failed attempt is
followed by the next one, up to the `N`-th. The session gives up if the first opening fails, if
connections are lost and no attempt is tolerated, or if the `N`-th attempt has failed.

**Runs** (`follows_policy`). What happens is what the policy allows; a session that the policy lets
go on has not ended; and one that it does not has nothing left to do but to close the connection,
and then fails with what the policy says. The policy has a limit: the factor of the delay before the
1025th attempt is no number of the binary format, and a session that gets so far fails otherwise
(`no_factor_left`).
-/

namespace UnitWatch

/-! ## Delays -/

namespace Backoff

theorem delay_seconds (base max : Rat) (k : Nat) :
    (⟨.seconds base, .seconds max⟩ : Backoff).delay (k + 1 : Nat) =
      .seconds (min (base * 2 ^ k) max) := by
  have exponent : ((k + 1 : Nat) : Int) - 1 = k := by omega
  simp only [delay, Span.double, Span.min, exponent, zpow_natCast, min_def]
  split <;> split <;> first | rfl | (congr 1; linarith)

/-- Delays never get shorter. -/
theorem monotone_seconds {base : Rat} (positive : 0 < base) (max : Rat) :
    Monotone fun k : Nat => min (base * 2 ^ k) max := by
  intro k l h
  have powers : (2 : Rat) ^ k ≤ 2 ^ l := pow_le_pow_right₀ one_le_two h
  exact min_le_min_right max (mul_le_mul_of_nonneg_left powers positive.le)

end Backoff

namespace Session

open Safe (Succeeds Ends)

variable {η : Type}

/-- What happens with a connection, and the pauses between connections. -/
inductive Deed where
  | opened
  /-- The connection could not be started. -/
  | refused (f : BusFault)
  | started
  | lost
  | slept (delay : Span)

def Exchange.deed? : Exchange η → Option Deed
  | ⟨.open, _⟩ => some .opened
  | ⟨.connect, .error (.fault (.bus f))⟩ => some (.refused f)
  | ⟨.subscribeManager, .error (.fault (.bus f))⟩ => some (.refused f)
  | ⟨.listUnits, .error (.fault (.bus f))⟩ => some (.refused f)
  | ⟨.note (.started _ _), _⟩ => some .started
  | ⟨.nextSignal, .error (.fault (.bus (.disconnected _)))⟩ => some .lost
  | ⟨.sleep delay, _⟩ => some (.slept delay)
  | _ => none

/-- What has happened with connections, the last thing first. -/
def deeds (w : Trace η) : List Deed := w.filterMap Exchange.deed?

/-! ## The policy -/

namespace Policy

/-- Where a session stands; `k` counts the attempts since the last loss and is 0 before there was
one. -/
inductive Standing where
  /-- The next connection is due. -/
  | due (k : Nat)
  | opening (k : Nat)
  | refused (k : Nat) (f : BusFault)
  | live
  | lost

/-- What may happen next, and where it leads to. -/
def Standing.after (b : Backoff) (N : Nat) : Standing → Deed → Option Standing
  | .due k, .opened => some (.opening k)
  | .opening k, .refused f => some (.refused k f)
  | .opening _, .started => some .live
  | .live, .lost => some .lost
  | .refused k _, .slept d =>
    if k ≠ 0 ∧ k < N ∧ d = b.delay (k + 1 : Nat) then some (.due (k + 1)) else none
  | .lost, .slept d => if 0 < N ∧ d = b.delay (1 : Nat) then some (.due 1) else none
  | _, _ => none

/-- Where a session stands after what has happened; nothing if that is not allowed. -/
def standing (b : Backoff) (N : Nat) : List Deed → Option Standing
  | [] => some (.due 0)
  | d :: ds => (standing b N ds).bind (·.after b N d)

/-- The reason and the number of attempts with which a session gives up, if it does. -/
def Standing.verdict (N : Nat) : Standing → Option (String × Nat)
  | .refused k f => if k = 0 ∨ k = N then some (f.message, k) else none
  | .lost => if N = 0 then some ("connection lost", 0) else none
  | _ => none

/-- The failure that is due, if there is one. A session that is to go on, but has come to an attempt
without a factor, fails as well. -/
def Standing.failure? (c : Plan) (N : Nat) (st : Standing) : Option Failure :=
  match st.verdict N, st with
  | some (reason, attempts), _ => some (givingUp c reason attempts)
  | none, .refused k _ => if 1024 ≤ k then some (.crash .tooLargeForBinary) else none
  | none, _ => none

/-- The attempt that a session has come to. -/
def Standing.attempt : Standing → Nat
  | .due k | .opening k | .refused k _ => k
  | .live | .lost => 0

theorem standing_cons {b : Backoff} {N : Nat} {ds : List Deed} {st : Standing}
    (h : standing b N ds = some st) (d : Deed) : standing b N (d :: ds) = st.after b N d := by
  rw [standing, h, Option.bind_some]

/-- No attempt is made after the `N`-th. -/
theorem attempt_le_of_standing {b : Backoff} {N : Nat} {ds : List Deed} {st : Standing}
    (h : standing b N ds = some st) : st.attempt ≤ N := by
  induction ds generalizing st with
  | nil =>
    cases h
    exact Nat.zero_le N
  | cons d ds ih =>
    obtain ⟨before, hb, after⟩ := Option.bind_eq_some_iff.1 h
    have le := ih hb
    cases before <;> cases d <;> simp only [Standing.after] at after <;> try cases after
    all_goals try exact le
    all_goals try exact Nat.zero_le N
    all_goals
      split at after
      · next more =>
        cases after
        simp only [Standing.attempt]
        omega
      · cases after

/-! ## Requests -/

/-- What is asked for on the way out of a connection. -/
def Closing : Request η → Prop
  | .unsubscribe _ | .close | .note (.unsubscribeFailed _) => True
  | _ => False

/-- A request fits what has happened: that is allowed, and no failure is due unless the connection is
being closed. -/
def Fits (c : Plan) (N : Nat) (ds : List Deed) (q : Request η) : Prop :=
  ∃ st, standing c.backoff N ds = some st ∧ (st.failure? c N = none ∨ Closing q)

def AtRequest (c : Plan) (N : Nat) (w : Trace η) (_ : State η) (q : Request η) : Prop :=
  Fits c N (deeds w) q

theorem deeds_quiet {e : Exchange η} (h : e.deed? = none) (w : Trace η) :
    deeds (e :: w) = deeds w := by
  rw [deeds, List.filterMap_cons, h]
  rfl

theorem deeds_loud {e : Exchange η} {d : Deed} (h : e.deed? = some d) (w : Trace η) :
    deeds (e :: w) = d :: deeds w := by
  rw [deeds, List.filterMap_cons, h]
  rfl

/-! ## Quiet steps -/

/-- A step during which nothing happens with the connection. It does not fail, and has values with
`P`. -/
abbrev Quiet (c : Plan) (N : Nat) (ds : List Deed) {α : Type} (P : α → Prop) (x : Step η α) :
    Prop :=
  Upholds Documented (AtRequest c N) (fun w _ => deeds w = ds) (fun _ _ _ => False) P x

variable {c : Plan} {N : Nat} {ds : List Deed} {st : Standing} {w : Trace η} {s : State η}

theorem ask_quiet {q : Request η} (fits : Fits c N ds q)
    (quiet : ∀ a, Documented q a → (⟨q, a⟩ : Exchange η).deed? = none) :
    Quiet c N ds (Documented q) (ask q) := by
  refine Upholds.ask (fun w s hw => (hw ▸ fits : Fits c N (deeds w) q)) ?_
  intro w s a ha hw
  exact (deeds_quiet (quiet a ha) w).trans hw

theorem note_quiet {n : Notice} (fits : Fits c N ds (.note n : Request η))
    (quiet : ∀ listed tracked, n ≠ .started listed tracked) :
    Quiet c N ds (fun _ => True) (note n : Step η Unit) := by
  have silent (a : Unit) : (⟨.note n, a⟩ : Exchange η).deed? = none := by
    cases n with
    | started a b => exact absurd rfl (quiet a b)
    | _ => rfl
  exact (ask_quiet fits fun a _ => silent a).imp fun _ _ => trivial

/-! ## Units -/

theorem release_quiet (fits : ∀ q : Request η, Closing q → Fits c N ds q) (k : η) :
    Quiet c N ds (fun _ => True) (release k) := by
  refine Upholds.bind (ask_quiet (fits (.unsubscribe k) trivial) fun _ _ => rfl) ?_
  intro r hr
  cases hr with
  | unsubscribed => exact .pure trivial
  | notUnsubscribed _ f ofBus =>
    simp only [if_pos ofBus]
    exact note_quiet (fits _ trivial) (by simp)

theorem track_quiet (fits : ∀ q : Request η, Fits c N ds q) (u : String) :
    Quiet c N ds (fun _ => True) (track u : Step η Unit) := by
  refine Upholds.bind (ask_quiet (fits (.subscribe u)) fun _ _ => rfl) ?_
  intro r hr
  cases hr with
  | notSubscribed => exact note_quiet (fits _) (by simp)
  | subscribed _ k =>
    refine Upholds.bind (ask_quiet (fits (.fetch u)) fun _ _ => rfl) ?_
    intro r hr
    cases hr with
    | notFetched =>
      exact (note_quiet (fits _) (by simp)).bind fun _ _ => release_quiet (fun q _ => fits q) k
    | fetched x =>
      simp only
      split
      · exact (Upholds.modify fun _ _ hw => hw).bind fun _ _ => note_quiet (fits _) (by simp)
      · exact (Upholds.modify fun _ _ hw => hw).bind fun _ _ => note_quiet (fits _) (by simp)

theorem emit_quiet (fits : ∀ q : Request η, Fits c N ds q) (t : Transition) :
    Quiet c N ds (fun _ => True) (demand (ask (.emit t)) : Step η Unit) := by
  refine Upholds.bind (ask_quiet (fits (.emit t)) fun _ _ => rfl) ?_
  intro r hr
  cases hr
  exact .pure trivial

theorem resync_quiet (fits : Fits c N ds (.clock : Request η)) (r : Registry η)
    (snapshot : Snapshot) : Quiet c N ds (fun _ => True) (resync r snapshot : Step η _) :=
  (Upholds.resync (fun _ _ hw => show Fits c N (deeds _) _ from hw ▸ fits)
    (fun w _ _ hw => (deeds_quiet rfl w).trans hw) r snapshot).imp fun _ _ => trivial

theorem handleSignal_quiet (fits : ∀ q : Request η, Fits c N ds q) (signal : Signal) :
    Quiet c N ds (fun _ => True) (handleSignal c signal : Step η (Option Transition)) := by
  have nothing : Quiet c N ds (fun _ => True) (Pure.pure none : Step η (Option Transition)) :=
    .pure trivial
  cases signal with
  | other kind => exact (note_quiet (fits _) (by simp)).bind fun _ _ => nothing
  | changed x =>
    refine Upholds.bind Upholds.get ?_
    intro s _
    split
    · exact nothing
    · simp only
      split
      · exact (note_quiet (fits _) (by simp)).bind fun _ _ => nothing
      · refine Upholds.bind (ask_quiet (fits .clock) fun _ _ => rfl) ?_
        intro now _
        refine Upholds.bind (Upholds.modify fun _ _ hw => hw) ?_
        intro _ _
        split
        · exact (note_quiet (fits _) (by simp)).bind fun _ _ => .pure trivial
        · exact nothing
  | added u =>
    refine Upholds.bind Upholds.get ?_
    intro s _
    simp only
    split
    · exact (track_quiet fits u).bind fun _ _ => nothing
    · exact nothing
  | removed u =>
    refine Upholds.bind Upholds.get ?_
    intro s _
    simp only
    split
    · next e _ =>
      refine Upholds.bind (Upholds.modify fun _ _ hw => hw) ?_
      intro _ _
      refine Upholds.bind (release_quiet (fun q _ => fits q) e.subscription) ?_
      intro _ _
      exact (note_quiet (fits _) (by simp)).bind fun _ _ => nothing
    · exact nothing

/-- On the way out of a connection nothing happens that the policy is about. -/
theorem teardown_quiet (fits : ∀ q : Request η, Closing q → Fits c N ds q) :
    Quiet c N ds (fun _ => True) (teardown : Step η Unit) := by
  refine Upholds.bind Upholds.get ?_
  intro s _
  refine Upholds.bind (Upholds.modify fun _ _ hw => hw) ?_
  intro _ _
  refine Upholds.bind (Upholds.each (fun e : Entry η => release_quiet fits e.subscription) _) ?_
  intro _ _
  refine Upholds.bind (Upholds.modify fun _ _ hw => hw) ?_
  intro _ _
  refine Upholds.bind (ask_quiet (fits .close trivial) fun _ _ => rfl) ?_
  intro r hr
  cases hr
  exact .pure trivial

/-! ## Connections -/

/-- What has happened leads to a standing. -/
def Stands (c : Plan) (N : Nat) (st : Standing) (w : Trace η) : Prop :=
  standing c.backoff N (deeds w) = some st

/-- A failure is due. -/
def Fails (c : Plan) (N : Nat) (w : Trace η) (_ : State η) (f : Failure) : Prop :=
  ∃ st, Stands c N st w ∧ st.failure? c N = some f

theorem Stands.fits (h : Stands c N st w) (goesOn : st.failure? c N = none) (q : Request η) :
    Fits c N (deeds w) q := ⟨st, h, .inl goesOn⟩

theorem Stands.fits_closing (h : Stands c N st w) (q : Request η) (closing : Closing q) :
    Fits c N (deeds w) q := ⟨st, h, .inr closing⟩

theorem Stands.quiet (h : Stands c N st w) {e : Exchange η} (quiet : e.deed? = none) :
    Stands c N st (e :: w) := (congrArg _ (deeds_quiet quiet w)).trans h

theorem Stands.loud (h : Stands c N st w) {e : Exchange η} {d : Deed} {next : Standing}
    (loud : e.deed? = some d) (after : st.after c.backoff N d = some next) :
    Stands c N next (e :: w) := by
  rw [Stands, deeds_loud loud, standing_cons h, after]

/-- A quiet step leads to where the session stands already. -/
theorem Stands.across {α : Type} {P : α → Prop} {x : Step η α} (h : Stands c N st w)
    (quiet : Quiet c N (deeds w) P x) :
    Safe (observed Documented) (AtRequest c N) (Succeeds fun w _ _ => Stands c N st w) (x s) w := by
  refine (quiet.succeeds rfl).weaken fun w s r hr => hr.imp ?_
  intro _ hw
  rw [Stands, hw.1]
  exact h

/-- A connection is started, or a call that starts it fails. -/
theorem start_policy {k : Nat} (h : Stands c N (.opening k) w) :
    Safe (observed Documented) (AtRequest c N)
      (Ends (fun w _ _ => Stands c N .live w)
        fun w _ f => ∃ b, f = .fault (.bus b) ∧ Stands c N (.refused k b) w)
      (start c s) w := by
  refine ask_observed (h.fits rfl _) ?_
  intro a ha
  cases ha with
  | refused scope reason => exact done_observed ⟨_, rfl, h.loud rfl rfl⟩
  | connected =>
    have h := h.quiet (e := ⟨.connect, .ok ()⟩) rfl
    refine ask_observed (h.fits rfl _) ?_
    intro a ha
    cases ha with
    | notSubscribedManager call reason name => exact done_observed ⟨_, rfl, h.loud rfl rfl⟩
    | subscribedManager =>
      have h := h.quiet (e := ⟨.subscribeManager, .ok ()⟩) rfl
      refine ask_observed (h.fits rfl _) ?_
      intro a ha
      cases ha with
      | notListed call reason name => exact done_observed ⟨_, rfl, h.loud rfl rfl⟩
      | listed units =>
        have h := h.quiet (e := ⟨.listUnits, .ok units⟩) rfl
        refine Safe.seq (h.across (Upholds.each (track_quiet (h.fits rfl)) _)) ?_
        intro w s _ h
        refine ask_observed (h.fits rfl _) ?_
        intro a _
        exact done_observed (h.loud rfl rfl)

/-- What comes next: the session goes on listening, or the next connection is due. -/
def Onward (c : Plan) (N : Nat) (w : Trace η) (_ : State η) : Option Stage → Prop
  | none => Stands c N .live w
  | some (.opening (some _) k) => k ≠ 0 ∧ Stands c N (.due k) w
  | some _ => False

/-- A pause after which the next connection is due. -/
theorem sleepThen_policy {n : Notice} (quiet : ∀ a b, n ≠ .started a b) {delay : Span}
    {snapshot : Snapshot} {k : Nat} (h : Stands c N st w) (goesOn : st.failure? c N = none)
    (more : k ≠ 0) (after : st.after c.backoff N (.slept delay) = some (.due k)) :
    Safe (observed Documented) (AtRequest c N) (Ends (Onward c N) (Fails c N))
      (sleepThen n delay (.opening (some snapshot) k) s) w := by
  refine Safe.seq (h.across (note_quiet (h.fits goesOn _) quiet)) ?_
  intro w s _ h
  refine ask_observed (h.fits goesOn _) ?_
  intro a ha
  cases ha
  exact done_observed ⟨more, h.loud rfl after⟩

/-- A connection that could not be started is given up, or the next one is due after a while. -/
theorem retry_policy (tolerated : c.attempts.toNat = N) {k : Nat} {f : BusFault}
    {snapshot : Option Snapshot} (first : snapshot = none ↔ k = 0)
    (h : Stands c N (.refused k f) w) :
    Safe (observed Documented) (AtRequest c N) (Ends (Onward c N) (Fails c N))
      (retry c snapshot k f.message s) w := by
  cases snapshot with
  | none =>
    obtain rfl : k = 0 := first.1 rfl
    exact done_observed ⟨_, h, rfl⟩
  | some snapshot =>
    have more : k ≠ 0 := fun none' => by simpa using first.2 none'
    have le : k ≤ N := attempt_le_of_standing h
    by_cases last : c.attempts < (k + 1 : Nat)
    · obtain rfl : k = N := by omega
      rw [retry_of_last last]
      refine done_observed ⟨_, h, ?_⟩
      simp [Standing.failure?, Standing.verdict]
    · have lt : k < N := by omega
      have goesOn : (Standing.refused k f).verdict N = none := by
        simp [Standing.verdict, more, Nat.ne_of_lt lt]
      -- From the 1025th attempt on the delay has no factor.
      by_cases early : k + 1 ≤ 1024
      · rw [retry_of_le last early]
        refine sleepThen_policy (by simp) h ?_ (Nat.succ_ne_zero k) ?_
        · simp only [Standing.failure?, goesOn, if_neg (Nat.not_le_of_lt early)]
        · simp [Standing.after, more, lt]
      · rw [retry_of_lt last (Nat.lt_of_not_le early)]
        refine done_observed ⟨_, h, ?_⟩
        simp only [Standing.failure?, goesOn, if_pos (Nat.le_of_lt_succ (Nat.lt_of_not_le early))]

/-- After a loss, the session gives up or the first attempt is due after a while. -/
theorem recover_policy (tolerated : c.attempts.toNat = N) (h : Stands c N .lost w) :
    Safe (observed Documented) (AtRequest c N) (Ends (Onward c N) (Fails c N))
      (recover c s) w := by
  by_cases last : c.attempts < 1
  · obtain rfl : N = 0 := by omega
    rw [recover_of_last last]
    exact done_observed ⟨_, h, rfl⟩
  · have more : 0 < N := by omega
    rw [recover_of_le last]
    refine sleepThen_policy (by simp) h ?_ Nat.one_ne_zero ?_
    · simp [Standing.failure?, Standing.verdict, Nat.ne_of_gt more]
    · simp [Standing.after, more]

theorem openConnection_policy (tolerated : c.attempts.toNat = N) {k : Nat}
    {snapshot : Option Snapshot} (first : snapshot = none ↔ k = 0)
    (h : Stands c N (.opening k) w) :
    Safe (observed Documented) (AtRequest c N) (Ends (Onward c N) (Fails c N))
      (openConnection c snapshot k s) w := by
  refine (start_policy h).attempt.seq ?_
  intro w s r hr
  cases r with
  | error f =>
    obtain ⟨b, rfl, h⟩ := hr
    exact retry_policy tolerated first h
  | ok _ =>
    have h : Stands c N .live w := hr
    cases snapshot with
    | none => exact done_observed h
    | some snapshot =>
      show Safe _ _ _ ((resync s.registry snapshot >>= _) s) w
      refine Safe.seq (h.across (resync_quiet (h.fits rfl .clock) s.registry snapshot)) ?_
      intro w s ts h
      refine Safe.seq (h.across (Upholds.each (emit_quiet (h.fits rfl)) ts)) ?_
      intro w s _ h
      refine Safe.seq (h.across (note_quiet (h.fits rfl _) (by simp))) ?_
      intro w s _ h
      exact done_observed h

/-- A signal is handled: the session goes on listening, or the connection is lost. -/
theorem listenOnce_policy (h : Stands c N .live w) :
    Safe (observed Documented) (AtRequest c N)
      (Ends (fun w _ _ => Stands c N .live w)
        fun w _ f => (∃ scope, f = .ofBus (.disconnected scope)) ∧ Stands c N .lost w)
      (listenOnce c s) w := by
  refine ask_observed (h.fits rfl _) ?_
  intro a ha
  cases ha with
  | lost scope => exact done_observed ⟨⟨scope, rfl⟩, h.loud rfl rfl⟩
  | signalled signal =>
    have h := h.quiet (e := ⟨.nextSignal, .ok signal⟩) rfl
    refine Safe.seq (h.across (handleSignal_quiet (h.fits rfl) signal)) ?_
    intro w s event h
    cases event with
    | none => exact done_observed h
    | some t =>
      refine (h.across (emit_quiet (h.fits rfl) t)).weaken ?_
      intro w s r hr
      cases r with
      | error f => exact hr.elim
      | ok _ => exact hr

theorem listen_policy (tolerated : c.attempts.toNat = N) (h : Stands c N .live w) :
    Safe (observed Documented) (AtRequest c N) (Ends (Onward c N) (Fails c N)) (listen c s) w := by
  refine (listenOnce_policy h).attempt.seq ?_
  intro w s r hr
  cases r with
  | ok _ => exact done_observed hr
  | error f =>
    obtain ⟨⟨scope, rfl⟩, h⟩ := hr
    exact recover_policy tolerated h

/-! ## Stages -/

/-- Where a stage can start. -/
def Ready (c : Plan) (N : Nat) : Stage → Trace η → State η → Prop
  | .opening snapshot k, w, _ => (snapshot = none ↔ k = 0) ∧ Stands c N (.due k) w
  | .listening, w, _ => Stands c N .live w

abbrev Leaves (c : Plan) (N : Nat) : Trace η → State η → Except Failure Stage → Prop :=
  Hands (Ready c N) (Fails c N)

theorem closing_policy {x : Step η (Option Stage)}
    (h : Safe (observed Documented) (AtRequest c N) (Ends (Onward c N) (Fails c N)) (x s) w) :
    Safe (observed Documented) (AtRequest c N) (Leaves c N) (closing x s) w := by
  refine closing_safe h ?_ ?_ ?_
  · intro w s h
    exact done_observed h
  · intro w s next h
    match next, h with
    | .opening (some snapshot) k, ⟨more, h⟩ =>
      refine Safe.seq (h.across (teardown_quiet h.fits_closing)) ?_
      intro w s _ h
      exact done_observed ⟨by simp [more], h⟩
  · rintro w s f ⟨st, h, fails⟩
    refine Safe.seq (h.across (teardown_quiet h.fits_closing)) ?_
    intro w s _ h
    exact done_observed ⟨st, h, fails⟩

/-- **Every stage follows the policy.** To tolerate less than no attempts is to tolerate none. -/
theorem stage_stands (tolerated : c.attempts.toNat = N) (stage : Stage) (w : Trace η) (s : State η)
    (h : Ready c N stage w s) :
    Safe (observed Documented) (AtRequest c N) (Leaves c N) (Session.stage c stage s) w := by
  cases stage with
  | listening => exact closing_policy (listen_policy tolerated h)
  | opening snapshot k =>
    obtain ⟨first, h⟩ := h
    refine ask_observed (h.fits rfl _) ?_
    intro a ha
    cases ha
    exact closing_policy (openConnection_policy tolerated first (h.loud rfl rfl))

theorem stage_policy (tolerated : c.attempts = N) (stage : Stage) (w : Trace η) (s : State η)
    (h : Ready c N stage w s) :
    Safe (observed Documented) (AtRequest c N) (Leaves c N) (Session.stage c stage s) w :=
  stage_stands (by omega) stage w s h

/-! ## Runs -/

theorem Stands.unique {st' : Standing} (h : Stands c N st w) (h' : Stands c N st' w) : st = st' :=
  Option.some.inj (h.symm.trans h')

theorem deed_of_closing {q : Request η} (h : Closing q) (a : Answer q) :
    (⟨q, a⟩ : Exchange η).deed? = none := by
  match q, h with
  | .unsubscribe _, _ => rfl
  | .close, _ => rfl
  | .note (.unsubscribeFailed _), _ => rfl

theorem Ready.goesOn {stage : Stage} (h : Ready c N stage w s) :
    ∃ st, Stands c N st w ∧ st.failure? c N = none := by
  cases stage with
  | opening snapshot k => exact ⟨_, h.2, rfl⟩
  | listening => exact ⟨_, h, rfl⟩

theorem stands_of_safe {p : Phase η}
    (h : Safe (observed Documented) (AtRequest c N) (Leaves c N) p w) : ∃ st, Stands c N st w := by
  cases p with
  | ask s q resume =>
    obtain ⟨⟨st, stands, -⟩, -⟩ := h w .refl
    exact ⟨st, stands⟩
  | done s r =>
    match r, h w .refl with
    | .ok _, ready =>
      obtain ⟨st, stands, -⟩ := Ready.goesOn ready
      exact ⟨st, stands⟩
    | .error _, ⟨st, stands, _⟩ => exact ⟨st, stands⟩

/-- There is nothing left to do but to close the connection, and then the session fails with `f`. -/
def Ending (f : Failure) (p : Phase η) (w : Trace η) : Prop :=
  Safe (observed Documented) (fun _ _ q => Closing q) (fun _ _ r => r = .error f) p w

/-- What is left of a session that is to fail, or to go on. -/
def Meets (failure : Option Failure) (p : Phase η) (w : Trace η) : Prop :=
  match failure with
  | some f => Ending f p w
  | none => p.outcome? = none

theorem ending_of_safe {p : Phase η} {f : Failure}
    (h : Safe (observed Documented) (AtRequest c N) (Leaves c N) p w) (stands : Stands c N st w)
    (due : st.failure? c N = some f) : Ending f p w := by
  induction p generalizing w with
  | done s r =>
    refine done_observed ?_
    match r, h w .refl with
    | .ok _, ready =>
      obtain ⟨st', stands', goesOn⟩ := Ready.goesOn ready
      rw [stands.unique stands', goesOn] at due
      cases due
    | .error _, ⟨st', stands', fails⟩ =>
      rw [stands.unique stands', fails] at due
      cases due
      rfl
  | ask s q resume ih =>
    obtain ⟨⟨st', stands', allowed⟩, later⟩ := h w .refl
    have closing : Closing q := by
      rw [← stands.unique stands', due] at allowed
      exact allowed.resolve_left nofun
    refine ask_observed closing ?_
    intro a ha
    exact ih a (later a _ ⟨ha, rfl⟩) (stands.quiet (deed_of_closing closing a))

theorem meets_of_safe {p : Phase η}
    (h : Safe (observed Documented) (AtRequest c N) (Leaves c N) p w) (stands : Stands c N st w) :
    Meets (st.failure? c N) p w := by
  cases due : st.failure? c N with
  | some f => exact ending_of_safe h stands due
  | none =>
    cases p with
    | ask s q resume => rfl
    | done s r =>
      match r, h w .refl with
      | .ok _, _ => rfl
      | .error _, ⟨st', stands', fails⟩ =>
        rw [stands.unique stands', fails] at due
        cases due

/-- As long as there are factors, only the policy makes a session fail. -/
theorem failure_of_standing (h : Stands c N st w) (factors : N ≤ 1024) :
    st.failure? c N = (st.verdict N).map fun v => givingUp c v.1 v.2 := by
  have le : st.attempt ≤ N := attempt_le_of_standing h
  cases verdict : st.verdict N with
  | some v => simp only [Standing.failure?, verdict, Option.map_some]
  | none =>
    cases st with
    | refused k f =>
      have early : ¬1024 ≤ k := by
        intro late
        obtain rfl : k = N := by
          simp only [Standing.attempt] at le
          omega
        simp [Standing.verdict] at verdict
      simp only [Standing.failure?, verdict, if_neg early, Option.map_none]
    | _ => simp only [Standing.failure?, verdict, Option.map_none]

/-! ## Runs that lose a connection -/

/-- A connection is lost, and the next one is waited for. -/
theorem reaches_loss (tolerated : c.attempts = N) (more : 0 < N) :
    Reaches c Documented (([] : Trace η), begin c) fun w p =>
      p = stage c (.opening (some []) 1) (State.initial c.scope) ∧
        deeds w = [.slept (c.backoff.delay 1), .lost, .started, .opened] := by
  refine .answer .opened ?_
  refine .answer .connected ?_
  refine .answer .subscribedManager ?_
  refine .answer (.listed []) ?_
  refine .answer (.noted _) ?_
  refine .next ?_
  refine .answer (.lost "") ?_
  refine .of_eq (closing_eq (recover c) _) ?_
  rw [recover_of_le (by omega)]
  refine .answer (.noted _) ?_
  refine .answer (.slept _) ?_
  refine .answer .closed ?_
  refine .next ?_
  exact .here ⟨rfl, rfl⟩

theorem stands_of_loss (more : 0 < N)
    (h : deeds w = [.slept (c.backoff.delay 1), .lost, .started, .opened]) :
    Stands c N (.due 1) w := by
  have lost : standing c.backoff N [.lost, .started, .opened] = some .lost := rfl
  rw [Stands, h, standing_cons lost]
  simp [Standing.after, more]

/-- A connection cannot be opened. -/
theorem reaches_refusal {k : Nat} {goal : Trace η → Phase η → Prop} (scope : BusScope)
    (h : Reaches c Documented
      (⟨.connect, .error (.ofBus (.connection "" ""))⟩ :: ⟨.open, .ok ()⟩ :: w,
        closing (retry c (some []) k (BusFault.connection "" "").message) (.initial scope)) goal) :
    Reaches c Documented (w, stage c (.opening (some []) k) (.initial scope)) goal := by
  refine .answer .opened ?_
  refine .answer (.refused "" "") ?_
  exact h

theorem stands_of_refusal {k : Nat} (stands : Stands c N (.due k) w) {f : BusFault} :
    standing c.backoff N (.refused f :: .opened :: deeds w) = some (.refused k f) :=
  standing_cons (standing_cons stands .opened) (.refused f)

/-- An attempt fails, and the next one is waited for. -/
theorem reaches_attempt {k : Nat} (more : ¬c.attempts < (k + 1 : Nat)) (early : k + 1 ≤ 1024)
    (scope : BusScope) (w : Trace η) :
    Reaches c Documented (w, stage c (.opening (some []) k) (.initial scope)) fun w' p =>
      p = stage c (.opening (some []) (k + 1)) (.initial scope) ∧
        deeds w' = .slept (c.backoff.delay (k + 1 : Nat)) :: .refused (.connection "" "") ::
          .opened :: deeds w := by
  refine reaches_refusal scope ?_
  refine .of_eq (closing_eq _ _) ?_
  rw [retry_of_le more early]
  refine .answer (.noted _) ?_
  refine .answer (.slept _) ?_
  refine .answer .closed ?_
  refine .next ?_
  exact .here ⟨rfl, rfl⟩

/-- Attempts fail one after another. -/
theorem reaches_attempts (tolerated : c.attempts = N) {k : Nat} (more : k < N) (h : k < 1024)
    (stands : Stands c N (.due 1) w) :
    Reaches c Documented (w, stage c (.opening (some []) 1) (.initial c.scope)) fun w' p =>
      p = stage c (.opening (some []) (k + 1)) (.initial c.scope) ∧
        Stands c N (.due (k + 1)) w' := by
  induction k with
  | zero => exact .here ⟨rfl, stands⟩
  | succ k ih =>
    refine (ih (by omega) (by omega)).trans ?_
    rintro w p ⟨rfl, stands⟩
    refine (reaches_attempt (by omega) (by omega) c.scope w).trans ?_
    rintro w' p ⟨rfl, happened⟩
    refine .here ⟨rfl, ?_⟩
    rw [Stands, happened, standing_cons (stands_of_refusal stands)]
    simp [Standing.after, more]

/-- No more attempts are tolerated. -/
theorem reaches_end {k : Nat} (last : c.attempts < (k + 1 : Nat)) (scope : BusScope)
    (w : Trace η) :
    Reaches c Documented (w, stage c (.opening (some []) k) (.initial scope)) fun w' p =>
      p.outcome? = some (givingUp c (BusFault.connection "" "").message k) ∧
        deeds w' = .refused (.connection "" "") :: .opened :: deeds w := by
  refine reaches_refusal scope ?_
  refine .of_eq (closing_eq _ _) ?_
  rw [retry_of_last last]
  refine .answer .closed ?_
  exact .here ⟨rfl, rfl⟩

/-- The factor of the next attempt is no number of the binary format. -/
theorem reaches_limit {k : Nat} (more : ¬c.attempts < (k + 1 : Nat)) (late : 1024 < k + 1)
    (scope : BusScope) (w : Trace η) :
    Reaches c Documented (w, stage c (.opening (some []) k) (.initial scope)) fun w' p =>
      p.outcome? = some (.crash .tooLargeForBinary) ∧
        deeds w' = .refused (.connection "" "") :: .opened :: deeds w := by
  refine reaches_refusal scope ?_
  refine .of_eq (closing_eq _ _) ?_
  rw [retry_of_lt more late]
  refine .answer .closed ?_
  exact .here ⟨rfl, rfl⟩

/-- A plan that tolerates so many failed openings in a row. -/
def tolerating (n : Nat) : Plan :=
  { Plan.everything with attempts := n, backoff := ⟨.seconds 1, .seconds 30⟩ }

/-! ## The policy over runs -/

/-- **Sessions follow the reconnect policy**, whatever happens with their connections. -/
theorem follows_policy {base max : Rat} (tolerated : c.attempts = N)
    (backoff : c.backoff = ⟨.seconds base, .seconds max⟩) (positive : 0 < base) {p : Phase η}
    (run : Runs c (observed Documented) ([], begin c) (w, p)) :
    (∃ st, standing c.backoff N (deeds w) = some st ∧ Meets (st.failure? c N) p w ∧
      (N ≤ 1024 → st.failure? c N = (st.verdict N).map fun v => givingUp c v.1 v.2)) ∧
      (∀ k : Nat, c.backoff.delay (k + 1 : Nat) = .seconds (min (base * 2 ^ k) max)) ∧
      Monotone fun k : Nat => min (base * 2 ^ k) max := by
  have ready : Ready c N (.opening none 0) ([] : Trace η) (State.initial c.scope) :=
    ⟨by simp, rfl⟩
  have safe := run.safe (stage_policy tolerated) (stage_policy tolerated _ _ _ ready)
  obtain ⟨st, stands⟩ := stands_of_safe safe
  refine ⟨⟨st, stands, meets_of_safe safe stands, failure_of_standing stands⟩, ?_, ?_⟩
  · intro k
    rw [backoff, Backoff.delay_seconds]
  · exact Backoff.monotone_seconds positive max

/-- A connection is lost, two attempts fail, and no more are tolerated. -/
theorem gives_up_after_two_attempts :
    ∃ (w : Trace Nat) (p : Phase Nat) (f : BusFault),
      Runs (tolerating 2) (observed Documented) ([], begin (tolerating 2)) (w, p) ∧
      standing (tolerating 2).backoff 2 (deeds w) = some (.refused 2 f) ∧
      Meets (some (givingUp (tolerating 2) f.message 2)) p w ∧
      p.outcome? = some (givingUp (tolerating 2) f.message 2) := by
  obtain ⟨w, p, run, stands, ended⟩ : Reaches (tolerating 2) Documented
      (([] : Trace Nat), begin (tolerating 2)) fun w p =>
        Stands (tolerating 2) 2 (.refused 2 (.connection "" "")) w ∧
          p.outcome? = some (givingUp (tolerating 2) (BusFault.connection "" "").message 2) := by
    refine (reaches_loss (N := 2) rfl (by decide)).trans ?_
    rintro w p ⟨rfl, lost⟩
    refine (reaches_attempts (N := 2) (k := 1) rfl (by decide) (by decide)
      (stands_of_loss (by decide) lost)).trans ?_
    rintro w p ⟨rfl, stands⟩
    refine (reaches_end (by decide) _ w).trans ?_
    rintro w' p ⟨ended, happened⟩
    refine .here ⟨?_, ended⟩
    rw [Stands, happened]
    exact stands_of_refusal stands
  have backoff : (tolerating 2).backoff = ⟨.seconds 1, .seconds 30⟩ := rfl
  obtain ⟨⟨st, given, meets, -⟩, -⟩ := follows_policy (N := 2) rfl backoff (by decide) run
  obtain rfl : Standing.refused 2 (.connection "" "") = st :=
    Option.some.inj (stands.symm.trans given)
  exact ⟨w, p, _, run, stands, meets, ended⟩

/-- **The limit of the policy.** After 1024 failed attempts a session fails otherwise, while the
policy lets it go on. -/
theorem no_factor_left :
    ∃ (w : Trace Nat) (p : Phase Nat) (f : BusFault),
      Runs (tolerating 2000) (observed Documented) ([], begin (tolerating 2000)) (w, p) ∧
      standing (tolerating 2000).backoff 2000 (deeds w) = some (.refused 1024 f) ∧
      (Standing.refused 1024 f).verdict 2000 = none ∧
      p.outcome? = some (.crash .tooLargeForBinary) := by
  obtain ⟨w, p, run, stands, ended⟩ : Reaches (tolerating 2000) Documented
      (([] : Trace Nat), begin (tolerating 2000)) fun w p =>
        Stands (tolerating 2000) 2000 (.refused 1024 (.connection "" "")) w ∧
          p.outcome? = some (.crash .tooLargeForBinary) := by
    refine (reaches_loss (N := 2000) rfl (by decide)).trans ?_
    rintro w p ⟨rfl, lost⟩
    refine (reaches_attempts (N := 2000) (k := 1023) rfl (by decide) (by decide)
      (stands_of_loss (by decide) lost)).trans ?_
    rintro w p ⟨rfl, stands⟩
    refine (reaches_limit (by decide) (by decide) _ w).trans ?_
    rintro w' p ⟨ended, happened⟩
    refine .here ⟨?_, ended⟩
    rw [Stands, happened]
    exact stands_of_refusal stands
  exact ⟨w, p, _, run, stands, rfl, ended⟩

end Policy

end Session

end UnitWatch
