import UnitWatch.Proofs.Supervisor.World

/-!
# The clock is never blocked

In a run from a start, nothing is ever late (`Punctual`), and what is due can be done: a worker
whose desk has a next move has a step of its lane (`Desk.works`). So whatever is due goes on at its
moment, and when nothing is due the clock goes on (`Runs.goes_on`). Only a bus or a notifier that
keeps a lane going without time passing can hold up the clock.
-/

namespace UnitWatch.Supervisor

open Dispatch (Delivery Outcome)
open UnitWatch.Span (isInstant)

variable {η : Type} {settings : Settings} {timeout : Span}

/-! ## What is due can be done -/

namespace Desk

variable {replies replies' : Replies} {yields more : List (Moment × Transition)} {k k' : Desk}
  {l l' : Lane η} {hs : List Happening} {flying flying' : Option Delivery}

/-- A send is in flight exactly if the worker waits for one that it has begun. -/
structure Carries (k : Desk) (flying : Option Delivery) : Prop where
  grounded : k.flight = none → flying = none
  aloft : ∀ lands, k.flight = some lands → ∃ event x resume,
    k.worker = .busy event (.ask () (.send x) resume) ∧ flying = some x

namespace Carries

theorem nothing (flight : k.flight = none) : k.Carries none where
  grounded _ := rfl
  aloft lands aloft := by simp [flight] at aloft

/-- A worker that waits for no send carries none. -/
theorem flight_eq_none (h : k.Carries flying)
    (sends : ∀ event x resume, k.worker ≠ .busy event (.ask () (.send x) resume)) :
    k.flight = none ∧ flying = none := by
  cases flight : k.flight with
  | none => exact ⟨rfl, h.grounded flight⟩
  | some lands =>
    obtain ⟨event, x, resume, busy, -⟩ := h.aloft lands flight
    exact absurd busy (sends event x resume)

theorem works (h : k.Carries flying) (mine : k.worker = l.worker)
    (works : l.Works settings timeout flying hs l' flying')
    (moves : k.move? settings timeout replies yields = some (k', hs)) : k'.Carries flying' := by
  rw [move?, mine] at moves
  cases works with
  | takes _ idle =>
    obtain ⟨flight, rfl⟩ := h.flight_eq_none (by simp [mine, idle])
    simp only [idle] at moves
    obtain ⟨entry, -, same⟩ := Option.map_eq_some_iff.1 moves
    cases same
    exact .nothing flight
  | notes _ t n resume busy =>
    obtain ⟨flight, rfl⟩ := h.flight_eq_none (by simp [mine, busy])
    simp only [busy] at moves
    cases moves
    exact .nothing flight
  | begins t x resume busy lasting =>
    cases flight : k.flight with
    | none =>
      simp only [busy, flight, lasting] at moves
      cases moves
      exact ⟨by simp, fun _ _ => ⟨t, x, resume, rfl, rfl⟩⟩
    | some lands =>
      obtain ⟨_, _, _, -, aloft⟩ := h.aloft lands flight
      cases aloft
  | skips t x resume busy instant =>
    cases flight : k.flight with
    | none =>
      simp only [busy, flight, instant] at moves
      cases moves
      exact .nothing flight
    | some lands =>
      obtain ⟨_, _, _, -, aloft⟩ := h.aloft lands flight
      cases aloft
  | ends t x resume o busy alive =>
    cases flight : k.flight with
    | none => cases h.grounded flight
    | some lands =>
      simp only [busy, flight] at moves
      obtain ⟨_, -, same⟩ := Option.map_eq_some_iff.1 moves
      cases same
      exact .nothing rfl
  | releases _ t r busy =>
    obtain ⟨flight, rfl⟩ := h.flight_eq_none (by simp [mine, busy])
    simp only [busy] at moves
    cases moves
    exact .nothing flight

end Carries

/-- What a worker is due to do is a step of its lane. -/
theorem works (carries : k.Carries flying) (mine : k.worker = l.worker)
    (queue : l.queue = (yields.drop k.taken).map Prod.snd)
    (moves : k.move? settings timeout replies yields = some (k', hs)) :
    ∃ l' flying', l.Works settings timeout flying hs l' flying' ∧ k'.worker = l'.worker := by
  unfold move? at moves
  split at moves
  · cases moves
  · cases moves
  · next idle =>
    obtain ⟨⟨t, event⟩, there, same⟩ := Option.map_eq_some_iff.1 moves
    cases same
    obtain ⟨inside, entry⟩ := List.getElem?_eq_some_iff.1 there
    -- The entry taken up is the first in the queue.
    have head : l.queue = event :: (yields.drop (k.taken + 1)).map Prod.snd := by
      rw [queue, List.drop_eq_getElem_cons inside, entry, List.map_cons]
    rw [mine] at idle
    refine ⟨_, flying, .takes l flying idle (by simp [head]), ?_⟩
    simp [Lane.take, idle, head]
  · next event s n resume busy =>
    cases moves
    rw [mine] at busy
    exact ⟨_, flying, .notes l flying event n resume busy, rfl⟩
  · next event s x resume busy =>
    have sending := busy
    rw [mine] at busy
    cases flight : k.flight with
    | none =>
      obtain rfl := carries.grounded flight
      by_cases instant : isInstant x.limit = true
      · simp only [flight, if_pos instant] at moves
        cases moves
        exact ⟨_, none, .skips l event x resume busy instant, rfl⟩
      · simp only [flight, if_neg instant] at moves
        cases moves
        exact ⟨l, some x, .begins l event x resume busy (by simpa using instant), mine⟩
    | some lands =>
      simp only [flight] at moves
      obtain ⟨⟨t, o⟩, -, same⟩ := Option.map_eq_some_iff.1 moves
      cases same
      obtain ⟨_, _, _, busy', rfl⟩ := carries.aloft lands flight
      rw [sending] at busy'
      cases busy'
      exact ⟨_, none, .ends l event x resume o.1 busy o.2, rfl⟩
  · next event s r busy =>
    cases moves
    rw [mine] at busy
    exact ⟨_, flying, .releases l flying event r busy, rfl⟩

/-- The moment of a move is the same whatever becomes of the next send. -/
theorem move?_replies (moves : k.move? settings timeout replies yields = some (k', hs))
    (replies' : Replies) : ∃ k'' hs',
      k.move? settings timeout replies' yields = some (k'', hs') ∧ k''.since = k'.since := by
  unfold move? at moves ⊢
  split at moves
  · cases moves
  · cases moves
  · exact ⟨k', hs, moves, rfl⟩
  · exact ⟨k', hs, moves, rfl⟩
  · next event s x resume busy =>
    cases flight : k.flight with
    | none =>
      by_cases instant : isInstant x.limit = true
      · simp only [flight, if_pos instant] at moves ⊢
        exact ⟨k', hs, moves, rfl⟩
      · simp only [flight, if_neg instant] at moves ⊢
        cases moves
        exact ⟨_, _, rfl, rfl⟩
    | some lands =>
      simp only [flight] at moves ⊢
      exact ⟨k', hs, moves, rfl⟩
  · exact ⟨k', hs, moves, rfl⟩

/-- With more events there is no earlier move, except for one that takes up a new event. -/
theorem move?_of_append
    (moves : k.move? settings timeout replies (yields ++ more) = some (k', hs)) :
    k.move? settings timeout replies yields = some (k', hs) ∨
      ∃ entry ∈ more, k'.since = max k.since entry.1 := by
  unfold move? at moves ⊢
  split at moves
  · cases moves
  · cases moves
  · by_cases inside : k.taken < yields.length
    · left
      simpa [List.getElem?_append_left inside] using moves
    · right
      obtain ⟨entry, there, same⟩ := Option.map_eq_some_iff.1 moves
      cases same
      rw [List.getElem?_append_right (Nat.le_of_not_lt inside)] at there
      exact ⟨entry, List.mem_of_getElem? there, rfl⟩
  all_goals exact .inl moves

end Desk

/-! ## Nothing is late -/

theorem Move.moment_of_yields {plan : Session.Plan} {script : Script η}
    {wall : Moment → Microseconds} {c : Course η} {m : Move η}
    (moves : c.move? plan script wall = some m) {entry : Moment × Transition}
    (yielded : entry ∈ m.dealings.flatMap Dealing.yields) : entry.1 = m.moment := by
  unfold Course.move? at moves
  split at moves
  · cases moves
  · cases moves
    cases yielded
  · obtain ⟨⟨t, a⟩, -, same⟩ := Option.map_eq_some_iff.1 moves
    cases same
    obtain ⟨x, only, here⟩ := List.mem_flatMap.1 yielded
    rw [List.mem_singleton.1 only] at here
    obtain ⟨event, -, rfl⟩ := List.mem_map.1 here
    rfl
  · cases moves
    cases yielded
  · cases moves

namespace World

variable {c : Conditions η} {w w' : World η} {scope : BusScope} {t₀ : Moment}

/-- What is due in a scope is due now or later. -/
structure Punctual (c : Conditions η) (scope : BusScope) (w : World η) : Prop where
  session : ∀ m, w.session? c scope = some m → w.clock ≤ m.moment
  worker : ∀ k hs, w.worker? c scope = some (k, hs) → w.clock ≤ k.since

theorem Punctual.step (h : Punctual c scope w) (step : Step c w w')
    (still : w'.clock = w.clock) : Punctual c scope w' := by
  cases step.locally scope with
  | session l m here moves now lane diary ledger records flying clock =>
    refine ⟨?_, ?_⟩
    · intro m' moves'
      rw [session?, lane, Option.bind_some] at moves'
      have since : (w'.course scope).since = w'.clock := by
        show (w'.diaries scope).since = w'.clock
        rw [diary, clock, ← now]
        rfl
      exact since ▸ Course.since_le_moment moves'
    · intro k hs moves'
      obtain ⟨settings, timeout⟩ := step.reaches.settings_eq
      have desk : w'.desk scope = w.desk scope := by
        simp [World.desk, lane, here, ledger, Lane.moveTo]
      have yields := yields_of_move diary
      rw [worker?, desk, yields, settings, timeout] at moves'
      obtain ⟨k', hs', moves', same⟩ := Desk.move?_replies moves' (c.replies w.daemon.log)
      rw [still, ← same]
      -- What the worker is due to do was due before, or is about an event yielded just now.
      rcases Desk.move?_of_append moves' with before | ⟨entry, yielded, since⟩
      · exact h.worker k' hs' before
      · rw [session?, here, Option.bind_some] at moves
        rw [since, Move.moment_of_yields moves yielded, now]
        exact le_max_right _ _
  | worker l l' k hs here works moves same now lane diary ledger records clock =>
    refine ⟨?_, ?_⟩
    · intro m moves'
      have unchanged : w'.session? c scope = w.session? c scope := by
        simp [session?, lane, here, course, diary, works.session_eq]
      rw [still]
      exact h.session m (unchanged ▸ moves')
    · intro k' hs' moves'
      have desk : w'.desk scope = k := by
        simp [World.desk, lane, ledger, ← same]
      have since := Desk.since_le_of_move? moves'
      rw [desk, now] at since
      exact still ▸ since
  | untouched lane diary ledger records flying clock =>
    refine ⟨?_, ?_⟩
    · intro m moves'
      have unchanged : w'.session? c scope = w.session? c scope := by
        simp [session?, lane, course, diary]
      rw [still]
      exact h.session m (unchanged ▸ moves')
    · intro k hs moves'
      obtain ⟨settings, timeout⟩ := step.reaches.settings_eq
      have desk : w'.desk scope = w.desk scope := by simp [World.desk, lane, ledger]
      have yields : w'.yields scope = w.yields scope := congrArg Diary.yields diary
      rw [worker?, desk, yields, settings, timeout] at moves'
      obtain ⟨k', hs', before, same⟩ := Desk.move?_replies moves' (c.replies w.daemon.log)
      rw [still, ← same]
      exact h.worker k' hs' before

/-- Steps at their moments, and the clock when nothing is due before, leave nothing late. -/
theorem Step.punctual (step : Step c w w') (h : ∀ scope, Punctual c scope w) (scope : BusScope) :
    Punctual c scope w' := by
  have whole := step
  cases step with
  | session | worker | aside => exact (h scope).step whole rfl
  | passes t later sessions workers =>
    exact ⟨fun m moves => sessions scope m moves, fun k hs moves => workers scope k hs moves⟩

theorem punctual_fresh (d : Daemon η) (t₀ : Moment) (scope : BusScope) :
    Punctual c scope (fresh d t₀) where
  session m moves := by
    obtain ⟨l, here, moves⟩ := Option.bind_eq_some_iff.1 moves
    exact Course.since_le_moment moves
  worker k hs moves := Desk.since_le_of_move? moves

theorem Runs.punctual {d : Daemon η} (run : Runs c (fresh d t₀) w) (scope : BusScope) :
    Punctual c scope w := by
  induction run generalizing scope with
  | refl => exact punctual_fresh d t₀ scope
  | tail _ step ih => exact step.punctual ih scope

/-! ## What is due goes on -/

theorem Step.carries (step : Step c w w') (h : (w.desk scope).Carries (w.daemon.flying scope)) :
    (w'.desk scope).Carries (w'.daemon.flying scope) := by
  cases step.locally scope with
  | session l m here moves now lane diary ledger records flying clock =>
    have desk : w'.desk scope = w.desk scope := by
      simp [World.desk, lane, here, ledger, Lane.moveTo]
    rwa [desk, flying]
  | worker l l' k hs here works moves same now lane diary ledger records clock =>
    have desk : w'.desk scope = k := by
      simp [World.desk, lane, ledger, ← same]
    rw [desk]
    exact h.works (desk_worker here) works moves
  | untouched lane diary ledger records flying clock =>
    have desk : w'.desk scope = w.desk scope := by simp [World.desk, lane, ledger]
    rwa [desk, flying]

theorem Runs.carries {d : Daemon η} (landed : ∀ scope, d.flying scope = none)
    (run : Runs c (fresh d t₀) w) : (w.desk scope).Carries (w.daemon.flying scope) := by
  induction run with
  | refl => exact ⟨fun _ => landed scope, by rintro _ ⟨⟩⟩
  | tail _ step ih => exact step.carries ih

/-- Between now and some moments that are all later there is another one. -/
theorem exists_later (now : Moment) (ts : List Moment) (later : ∀ t ∈ ts, now < t) :
    ∃ t, now < t ∧ ∀ u ∈ ts, t ≤ u := by
  induction ts with
  | nil => exact ⟨now + 1, lt_add_one now, by simp⟩
  | cons t ts ih =>
    obtain ⟨u, after, before⟩ := ih fun x hx => later x (List.mem_cons_of_mem t hx)
    refine ⟨min t u, lt_min (later t List.mem_cons_self) after, ?_⟩
    intro x hx
    rcases List.mem_cons.1 hx with rfl | hx
    · exact min_le_left _ _
    · exact (min_le_right _ _).trans (before x hx)

/-- The moments for which a scope waits. -/
def moments (c : Conditions η) (w : World η) (scope : BusScope) : List Moment :=
  ((w.session? c scope).map Move.moment).toList ++ ((w.worker? c scope).map (·.1.since)).toList

theorem mem_moments {u : Moment} : u ∈ moments c w scope ↔
    (∃ m, w.session? c scope = some m ∧ m.moment = u) ∨
      ∃ k hs, w.worker? c scope = some (k, hs) ∧ k.since = u := by
  simp [moments]

/-- **The clock is never blocked.** In a run from a start, what is due is due now or later; what is
due now goes on; and when nothing is due by now the clock goes on. -/
theorem Runs.goes_on {settings : Settings} {timeout : Span} {attempts : Int} {backoff : Backoff}
    {d : Daemon η} (started : d.JustStarted settings timeout attempts backoff)
    (run : Runs c (fresh d t₀) w) :
    (∀ scope m, w.session? c scope = some m → w.clock ≤ m.moment ∧ (m.moment = w.clock →
      ∃ w', Step c w w' ∧ w'.diaries scope = ((w.course scope).after m).toDiary)) ∧
    (∀ scope k hs, w.worker? c scope = some (k, hs) → w.clock ≤ k.since ∧ (k.since = w.clock →
      ∃ w', Step c w w' ∧ w'.ledgers scope = k.toLedger)) ∧
    ((∀ scope, w.SessionSettled c w.clock scope ∧ w.WorkerSettled c w.clock scope) →
      ∃ t, w.clock < t ∧ Step c w { w with clock := t }) := by
  refine ⟨?_, ?_, ?_⟩
  · intro scope m moves
    refine ⟨(run.punctual scope).session m moves, ?_⟩
    intro now
    obtain ⟨l, here, -⟩ := Option.bind_eq_some_iff.1 moves
    exact ⟨_, .session w scope l m here moves now, Function.update_self ..⟩
  · intro scope k hs moves
    refine ⟨(run.punctual scope).worker k hs moves, ?_⟩
    intro now
    obtain ⟨l, here⟩ : ∃ l, w.lane? scope = some l := by
      cases here : w.lane? scope with
      | none =>
        have absent : (w.desk scope).worker = .absent := by simp [desk, here]
        simp [worker?, Desk.move?, absent] at moves
      | some l => exact ⟨l, rfl⟩
    have queue := (run.stocked started scope).queue l here
    obtain ⟨l', flying, works, same⟩ :=
      (desk w scope).works (run.carries started.landed) (desk_worker here) queue moves
    exact ⟨_, .worker w scope l l' flying k hs here works moves same now, Function.update_self ..⟩
  · intro settled
    have later : ∀ u ∈ BusScope.all.flatMap (moments c w), w.clock < u := by
      intro u hu
      obtain ⟨scope, -, due⟩ := List.mem_flatMap.1 hu
      rcases mem_moments.1 due with ⟨m, moves, rfl⟩ | ⟨k, hs, moves, rfl⟩
      · exact (settled scope).1.2 m moves
      · exact (settled scope).2.2 k hs moves
    -- The clock goes on to the first moment that is due, or anywhere if none is.
    obtain ⟨t, after, before⟩ := exists_later w.clock _ later
    have among (scope : BusScope) (u : Moment) (due : u ∈ moments c w scope) : t ≤ u :=
      before u (List.mem_flatMap.2 ⟨scope, by cases scope <;> simp [BusScope.all], due⟩)
    refine ⟨t, after, .passes w t after ?_ ?_⟩
    · intro scope m moves
      exact among scope _ (mem_moments.2 (.inl ⟨m, moves, rfl⟩))
    · intro scope k hs moves
      exact among scope _ (mem_moments.2 (.inr ⟨k, hs, moves, rfl⟩))

end World

end UnitWatch.Supervisor
