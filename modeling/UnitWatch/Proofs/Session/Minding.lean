import UnitWatch.Proofs.Session.Service

/-!
# Minding units

What a session has to know about the units of a service manager that signals removed units to it
first, and new ones some time after that.

**One unit.** Before the session takes a signal, what is queued about a unit is all that was ever
received about it (`Announced`). From the listing on, the last word about the unit that is queued
says whether it is known; where nothing is queued, the unit is tracked if and only if it is known
(`Minded`). A unit that was reloaded between the two subscriptions is not known, although it is
loaded: its removal is queued, and its return is not.

**All units** (`Minds`). Each watched unit is minded, and the two subscriptions stay, since no entry
has one of them to give back.
-/

namespace UnitWatch.Session.Staggered

open Function (update)
open Wire (Interest MatchId Service)
open Wire.Service (Known Reloaded Fares)

/-! ## One unit -/

/-- Before any signal is taken: what the queue says of a unit is what was received of it. -/
structure Announced (w : Service) (u : String) : Prop where
  added : fate u w.inbox = some true → w.loaded u = true ∧ w.loadHeard u = true
  removed : fate u w.inbox = some false →
    w.unloadHeard u = true ∧ ¬(w.loaded u = true ∧ w.loadHeard u = true)
  silent : fate u w.inbox = none → w.unloadHeard u = false

/-- While signals are taken: the queue has the last word on whether a unit is known; if it says
nothing, the unit is tracked exactly if it is known, or is about to be. -/
structure Minded (w : Service) (u : String) (todo : Prop) (tracked : Bool) : Prop where
  added : fate u w.inbox = some true → w.Known u
  removed : fate u w.inbox = some false → ¬w.Known u
  sound : fate u w.inbox = none → tracked = true → w.Known u
  complete : fate u w.inbox = none → w.Known u → tracked = true ∨ todo
  due : fate u w.inbox = none → todo → w.loaded u = true → w.Known u

section

variable {path : String → String} {w w' : Service} {u : String} {todo : Prop} {tracked : Bool}

theorem Announced.fares (h : Announced w u) (hears : w.Hears .removed) (fares : Fares u w w') :
    Announced w' u := by
  cases fares with
  | stays loaded loadHeard unloadHeard queued =>
    refine ⟨?_, ?_, ?_⟩
    · rw [queued, loaded, loadHeard]
      exact h.added
    · rw [queued, loaded, loadHeard, unloadHeard]
      exact h.removed
    · rw [queued, unloadHeard]
      exact h.silent
  | load loaded heard queued => exact ⟨fun _ => ⟨loaded, heard⟩, by simp [queued], by simp [queued]⟩
  | loadUnheard unheard absent loaded missed unloadHeard queued =>
    refine ⟨?_, ?_, ?_⟩
    · intro f
      rw [queued] at f
      rw [(h.added f).1] at absent
      cases absent
    · intro f
      rw [queued] at f
      exact ⟨unloadHeard ▸ (h.removed f).1, by simp [missed]⟩
    · rw [queued, unloadHeard]
      exact h.silent
  | unload loaded heard queued =>
    exact ⟨by simp [queued], fun _ => ⟨heard, by simp [loaded]⟩, by simp [queued]⟩
  | unloadUnheard unheard => exact absurd hears unheard

/-- What is listed is about to be tracked. -/
theorem Announced.minded (h : Announced w u) (listed : todo ↔ w.loaded u = true) :
    Minded w u todo false where
  added f := by
    obtain ⟨loaded, heard⟩ := h.added f
    exact ⟨loaded, fun reloaded => Bool.false_ne_true (reloaded.2.symm.trans heard)⟩
  removed f known := by
    obtain ⟨unloaded, missed⟩ := h.removed f
    refine known.2 ⟨unloaded, ?_⟩
    simpa [known.1] using missed
  sound _ := nofun
  complete f known := .inr (listed.2 known.1)
  due f _ loaded :=
    ⟨loaded, fun reloaded => Bool.false_ne_true ((h.silent f).symm.trans reloaded.1)⟩

namespace Minded

theorem fares (h : Minded w u todo tracked) (removed : w.Hears .removed) (added : w.Hears .added)
    (fares : Fares u w w') : Minded w' u todo tracked := by
  cases fares with
  | stays loaded loadHeard unloadHeard queued =>
    have known : w'.Known u ↔ w.Known u := by
      rw [Known, Known, Reloaded, Reloaded, loaded, loadHeard, unloadHeard]
    refine ⟨?_, ?_, ?_, ?_, ?_⟩ <;> rw [queued, known]
    · exact h.added
    · exact h.removed
    · exact h.sound
    · exact h.complete
    · rw [loaded]
      exact h.due
  | load loaded heard queued =>
    have known : w'.Known u :=
      ⟨loaded, fun reloaded => Bool.false_ne_true (reloaded.2.symm.trans heard)⟩
    exact ⟨fun _ => known, by simp [queued], fun _ _ => known, by simp [queued], fun _ _ _ => known⟩
  | unload loaded heard queued =>
    have unknown : ¬w'.Known u := fun known => Bool.false_ne_true (loaded.symm.trans known.1)
    exact ⟨by simp [queued], fun _ => unknown, by simp [queued], by simp [queued], by simp [queued]⟩
  | loadUnheard unheard => exact absurd added unheard
  | unloadUnheard unheard => exact absurd removed unheard

theorem resubscribed (h : Minded w u todo tracked) (live : MatchId → Option Interest) :
    Minded { w with live := live } u todo tracked :=
  ⟨h.added, h.removed, h.sound, h.complete, h.due⟩

/-- A unit that is not loaded need not be tracked. -/
theorem skipped (h : Minded w u todo tracked) (absent : w.loaded u = false) :
    Minded w u False tracked where
  added := h.added
  removed := h.removed
  sound := h.sound
  complete _ known := by simp [known.1] at absent
  due _ := False.elim

theorem entered (h : Minded w u todo tracked) (due : todo) (loaded : w.loaded u = true) :
    Minded w u False true where
  added := h.added
  removed := h.removed
  sound f _ := h.due f due loaded
  complete _ _ := .inl rfl
  due _ := False.elim

/-! ### Taking a signal -/

section

variable {signal : Signal}

theorem ignored (h : Minded (w.behind [signal]) u todo tracked)
    (silent : signal.fateOf u = none) : Minded w u todo tracked := by
  have queued : fate u (w.behind [signal]).inbox = fate u w.inbox := by
    rw [Service.fate_behind, silent, Option.or_none]
  obtain ⟨added, removed, sound, complete, due⟩ := h
  rw [queued] at added removed sound complete due
  exact ⟨added, removed, sound, complete, due⟩

theorem evicted (h : Minded (w.behind [signal]) u todo tracked)
    (tells : signal.fateOf u = some false) : Minded w u False false := by
  have queued : fate u (w.behind [signal]).inbox = (fate u w.inbox).or (some false) := by
    rw [Service.fate_behind, tells]
  have unknown (f : fate u w.inbox = none) : ¬w.Known u := h.removed (by rw [queued, f]; rfl)
  refine ⟨?_, ?_, ?_, ?_, ?_⟩
  · exact fun f => h.added (by rw [queued, f]; rfl)
  · exact fun f => h.removed (by rw [queued, f]; rfl)
  · exact fun _ => nofun
  · exact fun f known => absurd known (unknown f)
  · exact fun _ => False.elim

theorem greeted (h : Minded (w.behind [signal]) u todo tracked)
    (tells : signal.fateOf u = some true) : Minded w u (tracked = false) tracked := by
  have queued : fate u (w.behind [signal]).inbox = (fate u w.inbox).or (some true) := by
    rw [Service.fate_behind, tells]
  have known (f : fate u w.inbox = none) : w.Known u := h.added (by rw [queued, f]; rfl)
  refine ⟨?_, ?_, ?_, ?_, ?_⟩
  · exact fun f => h.added (by rw [queued, f]; rfl)
  · exact fun f => h.removed (by rw [queued, f]; rfl)
  · exact fun f _ => known f
  · exact fun _ _ => by cases tracked <;> simp
  · exact fun f _ _ => known f

end

theorem plan (h : Minded w u todo tracked) {todo' : Prop} (same : todo ↔ todo') :
    Minded w u todo' tracked := propext same ▸ h

end Minded

end

/-! ## All units -/

/-- The session and its service manager since units are listed. `todo` are the units about to be
tracked. -/
structure Minds (c : Plan) (todo : String → Prop) (r : Registry (Option MatchId)) (w : Service) :
    Prop where
  removed : w.Hears .removed
  added : w.Hears .added
  spare : ∀ e ∈ r.entries, w.Spares e.subscription
  watched : ∀ u, r.contains u = true → c.watches u = true
  minded : ∀ u, c.watches u = true → Minded w u (todo u) (r.contains u)

namespace Minds

variable {c : Plan} {todo : String → Prop} {r : Registry (Option MatchId)} {w w' : Service}
  {path : String → String} {u : String} {signal : Signal}

theorem moves (h : Minds c todo r w) (step : Service.Moves path w w') : Minds c todo r w' := by
  have live := step.live_eq
  refine ⟨?_, ?_, ?_, h.watched, ?_⟩
  · simpa only [Service.Hears, live] using h.removed
  · simpa only [Service.Hears, live] using h.added
  · simpa only [Service.Spares, live] using h.spare
  · exact fun u hu => (h.minded u hu).fares h.removed h.added (step.fares u)

theorem plan (h : Minds c todo r w) {todo' : String → Prop}
    (same : ∀ u, c.watches u = true → (todo u ↔ todo' u)) : Minds c todo' r w :=
  { h with minded := fun u hu => (h.minded u hu).plan (same u hu) }

theorem subscribed (h : Minds c todo r w) {k : MatchId} (free : w.live k = none)
    (unit object : String) :
    Minds c todo r { w with live := update w.live k (some (.properties unit object)) } where
  removed := h.removed.resubscribed (by simp [free]) _
  added := h.added.resubscribed (by simp [free]) _
  spare e he := (h.spare e he).resubscribed k (by simp)
  watched := h.watched
  minded u hu := (h.minded u hu).resubscribed _

theorem released (h : Minds c todo r w) {k : MatchId} (spares : w.Spares (some k)) :
    Minds c todo r { w with live := update w.live k none } where
  removed := h.removed.resubscribed (spares k rfl).1 _
  added := h.added.resubscribed (spares k rfl).2 _
  spare e he := (h.spare e he).resubscribed k (by simp)
  watched := h.watched
  minded u hu := (h.minded u hu).resubscribed _

/-- The unit is left alone, since it is not loaded. -/
theorem skipped (h : Minds c todo r w) (absent : w.loaded u = false) :
    Minds c (fun v => todo v ∧ v ≠ u) r w := by
  refine { h with minded := fun v hv => ?_ }
  by_cases hvu : v = u
  · subst hvu
    exact ((h.minded v hv).skipped absent).plan (by simp)
  · exact (h.minded v hv).plan (by simp [hvu])

/-- The unit gets an entry. -/
theorem entered (h : Minds c todo r w) (watched : c.watches u = true) {e : Entry (Option MatchId)}
    (name : e.unit.name = u) (spares : w.Spares e.subscription) (enters : Minded w u False true) :
    Minds c (fun v => todo v ∧ v ≠ u) (r.put e) w := by
  refine ⟨h.removed, h.added, ?_, ?_, ?_⟩
  · intro e' he'
    rcases Registry.mem_put he' with rfl | ⟨he', -⟩
    · exact spares
    · exact h.spare e' he'
  · intro v hv
    rcases (Registry.contains_put r e v).1 hv with rfl | hv
    · exact name ▸ watched
    · exact h.watched v hv
  · intro v hv
    by_cases hvu : v = u
    · subst hvu
      rw [(Registry.contains_put r e v).2 (.inl name.symm)]
      exact enters.plan (by simp)
    · have same : (r.put e).contains v = r.contains v := by
        rw [Bool.eq_iff_iff, Registry.contains_put, name]
        simp [hvu]
      rw [same]
      exact (h.minded v hv).plan (by simp [hvu])

/-! ### Taking a signal -/

theorem ignored (h : Minds c todo r (w.behind [signal]))
    (silent : ∀ u, signal.fateOf u = none) : Minds c todo r w :=
  ⟨h.removed, h.added, h.spare, h.watched, fun u hu => (h.minded u hu).ignored (silent u)⟩

theorem greeted (h : Minds c (fun _ => False) r (w.behind [.added u])) :
    Minds c (fun v => v = u ∧ r.contains u = false) r w := by
  refine ⟨h.removed, h.added, h.spare, h.watched, ?_⟩
  intro v hv
  by_cases hvu : v = u
  · subst hvu
    exact ((h.minded v hv).greeted (by simp [Signal.fateOf])).plan (by simp)
  · refine ((h.minded v hv).ignored ?_).plan (by simp [hvu])
    simp [Signal.fateOf, Ne.symm hvu]

theorem evicted (h : Minds c (fun _ => False) r (w.behind [.removed u])) :
    Minds c (fun _ => False) (r.evict u) w := by
  refine ⟨h.removed, h.added, ?_, ?_, ?_⟩
  · exact fun e he => h.spare e (List.mem_filter.1 he).1
  · exact fun v hv => h.watched v ((Registry.contains_evict r u v).1 hv).2
  · intro v hv
    by_cases hvu : v = u
    · subst hvu
      have gone : (r.evict v).contains v = false := by
        rw [Bool.eq_false_iff]
        simp [Registry.contains_evict]
      rw [gone]
      exact (h.minded v hv).evicted (by simp [Signal.fateOf])
    · have same : (r.evict u).contains v = r.contains v := by
        rw [Bool.eq_iff_iff, Registry.contains_evict]
        simp [hvu]
      rw [same]
      exact (h.minded v hv).ignored (by simp [Signal.fateOf, Ne.symm hvu])

/-- A report changes neither which units are tracked nor their subscriptions. -/
theorem applied (h : Minds c todo r w) {report : Report} {e : Entry (Option MatchId)}
    (tracked : r.get? report.unit = some e) (now : Microseconds) :
    Minds c todo (r.apply report now).1 w := by
  refine ⟨h.removed, h.added, ?_, ?_, ?_⟩
  · intro e' he'
    rw [Registry.apply_of_get? now tracked] at he'
    rcases Registry.mem_put he' with rfl | ⟨he', -⟩
    · rw [Entry.update_subscription]
      exact h.spare e (Registry.mem_of_get? tracked)
    · exact h.spare e' he'
  · intro u hu
    exact h.watched u (Registry.contains_apply now tracked u ▸ hu)
  · intro u hu
    rw [Registry.contains_apply now tracked]
    exact h.minded u hu

end Minds

end UnitWatch.Session.Staggered
