import UnitWatch.Proofs.Session.Manager
import UnitWatch.Proofs.Session.Steps

/-!
# Following one unit

How the entry of one unit, the history of that unit and the queue between them belong together while
the unit is loaded, unloaded, changed and tracked in any order.

**The queue.** Of the signals that are still queued, the last load or unload says whether the unit
is loaded (`fate`); the changes that no removal follows are of the current lifetime (`current`),
and those that no load follows either have been heard in it (`latest`).

**The entry** (`Accurate`). What a settled entry says was the case in the current lifetime, and
whatever the entry does not know yet is still queued.

**The invariant** (`Follows`) holds between these from the moment loads are announced. Every move of
the manager, every signal that is taken from the queue, and every way of tracking the unit keeps it.
-/

namespace UnitWatch.Session

open Function (update)

variable {η : Type}

/-! ## What a queue says about a unit -/

/-- The change of a unit's state that a signal tells. -/
def Signal.changeOf (u : String) : Signal → List RawState
  | .changed x => if x.unit = u then [x] else []
  | _ => []

/-- Whether a signal says that a unit is loaded or unloaded. -/
def Signal.fateOf (u : String) : Signal → Option Bool
  | .added v => if v = u then some true else none
  | .removed v => if v = u then some false else none
  | _ => none

/-- The last thing that a queue says about whether a unit is loaded. -/
def fate (u : String) : List Signal → Option Bool
  | [] => none
  | s :: q => (fate u q).or (s.fateOf u)

/-- The changes of a unit after which the unit is not removed. -/
def current (u : String) : List Signal → List RawState
  | [] => []
  | s :: q => if .removed u ∈ q then current u q else s.changeOf u ++ current u q

/-- The changes of a unit after which it is neither removed nor added. -/
def latest (u : String) : List Signal → List RawState
  | [] => []
  | s :: q => if (fate u q).isSome then latest u q else s.changeOf u ++ latest u q

variable {u : String} {s : Signal} {q : List Signal}

theorem fate_concat (u : String) (q : List Signal) (s : Signal) :
    fate u (q ++ [s]) = (s.fateOf u).or (fate u q) := by
  induction q with
  | nil => simp [fate]
  | cons x q ih => simp [fate, ih, Option.or_assoc]

theorem fateOf_removed : s.fateOf u = some false ↔ s = .removed u := by
  cases s <;> simp [Signal.fateOf]

theorem removed_mem_of_fate (h : fate u q = some false) : .removed u ∈ q := by
  induction q with
  | nil => cases h
  | cons x q ih =>
    rcases Option.or_eq_some_iff.1 h with h | ⟨-, h⟩
    · exact List.mem_cons_of_mem _ (ih h)
    · exact fateOf_removed.1 h ▸ List.mem_cons_self

theorem fate_isSome_of_removed (h : .removed u ∈ q) : (fate u q).isSome = true := by
  induction q with
  | nil => cases h
  | cons x q ih =>
    rw [fate, Option.isSome_or]
    rcases List.mem_cons.1 h with rfl | h
    · simp [Signal.fateOf]
    · simp [ih h]

theorem current_concat_removed (u : String) (q : List Signal) :
    current u (q ++ [.removed u]) = [] := by
  induction q with
  | nil => simp [current, Signal.changeOf]
  | cons x q ih => simp [current, ih]

theorem current_concat (hs : s ≠ .removed u) (q : List Signal) :
    current u (q ++ [s]) = current u q ++ s.changeOf u := by
  induction q with
  | nil => simp [current]
  | cons x q ih =>
    simp only [List.cons_append, current, ih, List.mem_append, List.mem_singleton, Ne.symm hs,
      or_false]
    split <;> simp

theorem latest_concat (h : s.fateOf u = none) (q : List Signal) :
    latest u (q ++ [s]) = latest u q ++ s.changeOf u := by
  induction q with
  | nil => simp [latest, fate]
  | cons x q ih =>
    simp only [List.cons_append, latest, ih, fate_concat, h, Option.none_or]
    split <;> simp

theorem current_cons (h : s.changeOf u = []) (q : List Signal) :
    current u (s :: q) = current u q := by
  rw [current, h]
  split <;> simp

theorem latest_cons (h : s.changeOf u = []) (q : List Signal) : latest u (s :: q) = latest u q := by
  rw [latest, h]
  split <;> simp

theorem mem_current_cons {x : RawState} (h : x ∈ current u q) : x ∈ current u (s :: q) := by
  rw [current]
  split
  · exact h
  · exact List.mem_append_right _ h

theorem mem_current_of_mem_latest {x : RawState} (h : x ∈ latest u q) : x ∈ current u q := by
  induction q with
  | nil => cases h
  | cons s q ih =>
    rw [latest] at h
    rw [current]
    by_cases hr : .removed u ∈ q
    · rw [if_pos (fate_isSome_of_removed hr)] at h
      rw [if_pos hr]
      exact ih h
    · rw [if_neg hr]
      split at h
      · exact List.mem_append_right _ (ih h)
      · exact (List.mem_append.1 h).elim (List.mem_append_left _)
          fun h => List.mem_append_right _ (ih h)

/-! ## Accurate entries -/

/-- What an entry knows, given the unit's history and the changes that are still queued: a settled
entry holds a state of this lifetime, and what has been signalled, or is the case now, is not newer
than the entry or still to come. -/
structure Accurate (e : Entry η) (history : List Stay) (news : List RawState) : Prop where
  pending : e.state = none → e.timestamp = none
  known : ∀ s, e.state = some s → ∃ y ∈ history, ∃ r, y.state.report? = some r ∧ r.state = s ∧
    r.monotonic = e.timestamp
  covered : ∀ y ∈ history, y.signalled = true ∨ history.head? = some y →
    ∀ r, y.state.report? = some r → y.state ∈ news ∨ e.isStale r.monotonic = true

theorem IsStamped.monotonic {x : RawState} (hx : IsStamped x) {r : Report}
    (h : x.report? = some r) : ∃ t, r.monotonic = some t := by
  rw [RawState.monotonic_of_report h]
  exact Option.isSome_iff_exists.1 (by rw [hx, h]; rfl)

namespace Accurate

variable {e : Entry η} {history : List Stay} {news : List RawState} {x : RawState}

/-- A change whose state is none of the five passes by. -/
theorem skip (h : Accurate e history (x :: news)) (hx : x.report? = none) :
    Accurate e history news where
  pending := h.pending
  known := h.known
  covered y hy hs r hr := by
    refine (h.covered y hy hs r hr).imp_left ?_
    intro hm
    rcases List.mem_cons.1 hm with rfl | hm
    · rw [hx] at hr
      cases hr
    · exact hm

/-- A change of this lifetime that is applied. -/
theorem apply (h : Accurate e history (x :: news)) {y : Stay} (hy : y ∈ history)
    (hyx : y.state = x) (stamped : IsStamped x) {r : Report} (hr : x.report? = some r)
    (now : Microseconds) : Accurate (e.update r now).1 history news := by
  obtain ⟨t, ht⟩ := stamped.monotonic hr
  cases hs : e.isStale r.monotonic with
  | true =>
    rw [Entry.update_of_stale now hs]
    refine ⟨h.pending, h.known, ?_⟩
    intro z hz hzs rz hrz
    -- A stale report teaches nothing, and covers itself.
    rcases h.covered z hz hzs rz hrz with hm | hstale
    · rcases List.mem_cons.1 hm with rfl | hm
      · rw [hr] at hrz
        cases hrz
        exact .inr hs
      · exact .inl hm
    · exact .inr hstale
  | false =>
    rw [Entry.update_fst_of_not_stale now hs, ht]
    refine ⟨by simp, fun s hs' => ⟨y, hy, r, hyx ▸ hr, ?_, ?_⟩, ?_⟩
    · simpa using hs'
    · simp [ht]
    · intro z hz hzs rz hrz
      rcases h.covered z hz hzs rz hrz with hm | hstale
      · rcases List.mem_cons.1 hm with rfl | hm
        · rw [hr] at hrz
          cases hrz
          exact .inr (Entry.isStale_iff.2 ⟨t, t, ht, rfl, Int.le_refl t⟩)
        · exact .inl hm
      · -- What the old entry knew is older than what it learns.
        obtain ⟨t₁, t₂, h₁, h₂, le⟩ := Entry.isStale_iff.1 hstale
        have lt : t₂ < t := by
          by_contra hle
          have stale := Entry.isStale_iff.2 ⟨t, t₂, ht, h₂, Int.not_lt.1 hle⟩
          rw [stale] at hs
          cases hs
        exact .inr (Entry.isStale_iff.2 ⟨t₁, t, h₁, rfl, by omega⟩)

/-- The unit enters a state, and that is queued. -/
theorem change (h : Accurate e history news) (x : RawState) :
    Accurate e (⟨x, true⟩ :: history) (news ++ [x]) where
  pending := h.pending
  known s hs := by
    obtain ⟨y, hy, rest⟩ := h.known s hs
    exact ⟨y, List.mem_cons_of_mem _ hy, rest⟩
  covered y hy hs r hr := by
    rcases List.mem_cons.1 hy with rfl | hy
    · exact .inl (by simp)
    · by_cases signalled : y.signalled = true
      · exact (h.covered y hy (.inl signalled) r hr).imp_left (List.mem_append_left _)
      · obtain head | head := hs
        · exact absurd head signalled
        · have : (⟨x, true⟩ : Stay) = y := by simpa using head
          exact absurd (this ▸ rfl) signalled

/-- The entry that the current state makes. -/
theorem first {y : Stay} {past : List Stay} (stamped : IsStamped y.state)
    (told : ∀ z ∈ y :: past, z.signalled = true → z.state ∈ news) (unit : UnitId) (h : η) :
    Accurate (Entry.first unit h y.state) (y :: past) news where
  pending hs := by
    have hr : y.state.report? = none := by simpa [Entry.first] using hs
    simp [Entry.first, hr]
  known s hs := by
    obtain ⟨r, hr, rfl⟩ := Option.map_eq_some_iff.1 hs
    exact ⟨y, List.mem_cons_self, r, hr, rfl, by simp [Entry.first, hr]⟩
  covered z hz hzs rz hrz := by
    obtain signalled | head := hzs
    · exact .inl (told z hz signalled)
    · obtain rfl : y = z := by simpa using head
      obtain ⟨t, ht⟩ := stamped.monotonic hrz
      exact .inr (Entry.isStale_iff.2 ⟨t, t, ht, by simp [Entry.first, hrz, ht], Int.le_refl t⟩)

/-- Once nothing is queued, an entry knows the current state, if that is one of the five. -/
theorem current {y : Stay} {past : List Stay} (h : Accurate e (y :: past) [])
    (increasing : (y :: past).Pairwise fun x y => IsNewer x.state y.state) {r : Report}
    (hr : y.state.report? = some r) : e.state = some r.state ∧ e.timestamp = r.monotonic := by
  have stale := (h.covered y List.mem_cons_self (.inr rfl) r hr).resolve_left List.not_mem_nil
  obtain ⟨t, t', ht, ht', le⟩ := Entry.isStale_iff.1 stale
  cases hs : e.state with
  | none => simp [h.pending hs] at ht'
  | some s =>
    obtain ⟨z, hz, rz, hrz, rfl, hm⟩ := h.known s hs
    rcases List.mem_cons.1 hz with rfl | hz
    · rw [hr] at hrz
      cases hrz
      exact ⟨rfl, hm.symm⟩
    · -- An older state has an older timestamp.
      have newer := (List.pairwise_cons.1 increasing).1 z hz
      have lt := newer t t' (RawState.monotonic_of_report hr ▸ ht)
        (RawState.monotonic_of_report hrz ▸ hm.trans ht')
      omega

end Accurate

/-! ## One unit -/

/-- How one watched unit stands: its history, the queue, and its entry, if it has one. A unit that
is still `todo` is about to be tracked. -/
structure Follows (u : String) (todo : Prop) (entry : Option (Entry η)) (history : List Stay)
    (q : List Signal) : Prop where
  loaded : fate u q = some true → history ≠ []
  unloaded : fate u q = some false → history = []
  present : fate u q = none → entry.isSome = true → history ≠ []
  absent : fate u q = none → history ≠ [] → entry.isSome = true ∨ todo
  news : ∀ x ∈ current u q, ∃ y ∈ history, y.state = x
  told : (∀ y ∈ history, y.signalled = true → y.state ∈ latest u q) ∨
    (entry.isSome = true ∧ fate u q = none)
  accurate : ∀ e, entry = some e → .removed u ∉ q → Accurate e history (current u q)

/-- Whether a signal is about other units only. -/
def Signal.Spares (u : String) (s : Signal) : Prop := s.fateOf u = none ∧ s.changeOf u = []

theorem Signal.Spares.ne_removed (h : s.Spares u) : s ≠ .removed u := by
  rintro rfl
  simpa [Signal.fateOf] using h.1

namespace Follows

variable {todo : Prop} {entry : Option (Entry η)} {history : List Stay}

/-! ### Moves of the manager -/

theorem unheard (h : Follows u todo entry history q) (hs : s.Spares u) :
    Follows u todo entry history (q ++ [s]) := by
  have hf : fate u (q ++ [s]) = fate u q := by rw [fate_concat, hs.1, Option.none_or]
  have hc : current u (q ++ [s]) = current u q := by
    rw [current_concat hs.ne_removed, hs.2, List.append_nil]
  have hl : latest u (q ++ [s]) = latest u q := by rw [latest_concat hs.1, hs.2, List.append_nil]
  have hr : .removed u ∈ q ++ [s] ↔ .removed u ∈ q := by simp [hs.ne_removed.symm]
  constructor
  case accurate => simpa only [hc, hr] using h.accurate
  all_goals simp only [hf, hc, hl]
  exacts [h.loaded, h.unloaded, h.present, h.absent, h.news, h.told]

theorem load (h : Follows u todo entry [] q) (x : RawState) :
    Follows u todo entry [⟨x, false⟩] (q ++ [.added u]) := by
  have hf : fate u (q ++ [.added u]) = some true := by simp [fate_concat, Signal.fateOf]
  have hc : current u (q ++ [.added u]) = current u q := by
    simp [current_concat, Signal.changeOf]
  have nothing : current u q = [] := by
    refine List.eq_nil_iff_forall_not_mem.2 ?_
    intro y hy
    obtain ⟨z, hz, -⟩ := h.news y hy
    cases hz
  refine ⟨by simp, by simp [hf], by simp [hf], by simp [hf], by simp [hc, nothing], ?_, ?_⟩
  · exact .inl fun y hy signalled => by simp_all
  · -- A unit that is not loaded has no entry, unless the removal is still queued.
    intro e he hr
    have hr' : .removed u ∉ q := fun h => hr (List.mem_append_left _ h)
    cases hfate : fate u q with
    | none => exact absurd rfl (h.present hfate (by simp [he]))
    | some b =>
      cases b with
      | true => exact absurd rfl (h.loaded hfate)
      | false => exact absurd (removed_mem_of_fate hfate) hr'

theorem unload (todo : Prop) (entry : Option (Entry η)) (q : List Signal) :
    Follows u todo entry [] (q ++ [.removed u]) := by
  have hf : fate u (q ++ [.removed u]) = some false := by simp [fate_concat, Signal.fateOf]
  refine ⟨by simp [hf], by simp, by simp [hf], by simp, ?_, .inl (by simp), ?_⟩
  · simp [current_concat_removed]
  · intro e _ hr
    exact absurd (List.mem_append_right _ List.mem_cons_self) hr

theorem change (h : Follows u todo entry history q) (loaded : history ≠ []) {x : RawState}
    (hx : x.unit = u) : Follows u todo entry (⟨x, true⟩ :: history) (q ++ [.changed x]) := by
  -- A change leaves the fate of its unit alone, and is the last of its news.
  have hf : fate u (q ++ [.changed x]) = fate u q := by simp [fate_concat, Signal.fateOf]
  have hc : current u (q ++ [.changed x]) = current u q ++ [x] := by
    simp [current_concat, Signal.changeOf, hx]
  have hl : latest u (q ++ [.changed x]) = latest u q ++ [x] := by
    rw [latest_concat rfl]
    simp [Signal.changeOf, hx]
  have hr : .removed u ∈ q ++ [.changed x] ↔ .removed u ∈ q := by simp
  refine ⟨fun _ => List.cons_ne_nil _ _, ?_, fun _ _ => List.cons_ne_nil _ _, ?_, ?_, ?_, ?_⟩
  · exact fun hu => absurd (h.unloaded (hf ▸ hu)) loaded
  · exact fun hn _ => h.absent (hf ▸ hn) loaded
  · intro y hy
    rw [hc] at hy
    rcases List.mem_append.1 hy with hy | hy
    · obtain ⟨z, hz, rfl⟩ := h.news y hy
      exact ⟨z, List.mem_cons_of_mem _ hz, rfl⟩
    · exact ⟨_, List.mem_cons_self, (List.mem_singleton.1 hy).symm⟩
  · rw [hl, hf]
    refine h.told.imp_left ?_
    intro told y hy signalled
    rcases List.mem_cons.1 hy with rfl | hy
    · simp
    · exact List.mem_append_left _ (told y hy signalled)
  · intro e he hr'
    rw [hc]
    exact (h.accurate e he fun hm => hr' (hr.2 hm)).change x

/-- A change that nobody is told of: the unit is not tracked. -/
theorem changeUnheard (h : Follows u todo (none : Option (Entry η)) history q)
    (loaded : history ≠ []) (x : RawState) :
    Follows u todo (none : Option (Entry η)) (⟨x, false⟩ :: history) q := by
  refine ⟨fun _ => List.cons_ne_nil _ _, ?_, fun _ _ => List.cons_ne_nil _ _,
    fun hn _ => h.absent hn loaded, ?_, ?_, fun _ he => by cases he⟩
  · exact fun hu => absurd (h.unloaded hu) loaded
  · intro y hy
    obtain ⟨z, hz, rfl⟩ := h.news y hy
    exact ⟨z, List.mem_cons_of_mem _ hz, rfl⟩
  · obtain told | ⟨hn, -⟩ := h.told
    · refine .inl ?_
      intro y hy signalled
      rcases List.mem_cons.1 hy with rfl | hy
      · cases signalled
      · exact told y hy signalled
    · exact absurd hn (by simp)

/-! ### Signals that are taken -/

theorem skip (h : Follows u todo entry history (s :: q)) (hs : s.Spares u) :
    Follows u todo entry history q := by
  have hf : fate u (s :: q) = fate u q := by simp [fate, hs.1]
  have hc := current_cons hs.2 q
  have hl := latest_cons hs.2 q
  have hr : .removed u ∈ s :: q ↔ .removed u ∈ q := by simp [hs.ne_removed.symm]
  obtain ⟨loaded, unloaded, present, absent, news, told, accurate⟩ := h
  simp only [hf, hc, hl, hr] at loaded unloaded present absent news told accurate
  exact ⟨loaded, unloaded, present, absent, news, told, accurate⟩

/-- A change that reaches the entry of its unit. `e'` is what becomes of the entry, as long as the
change is of the current lifetime. -/
theorem heed {e e' : Entry η} {x : RawState} (h : Follows u todo (some e) history (.changed x :: q))
    (hx : x.unit = u)
    (keeps : ∀ y ∈ history, y.state = x → Accurate e history (x :: current u q) →
      Accurate e' history (current u q)) :
    Follows u todo (some e') history q := by
  have hf : fate u (.changed x :: q) = fate u q := by simp [fate, Signal.fateOf]
  have hr : .removed u ∈ Signal.changed x :: q ↔ .removed u ∈ q := by simp
  refine ⟨hf ▸ h.loaded, hf ▸ h.unloaded, fun hn _ => h.present (hf ▸ hn) rfl,
    fun _ _ => .inl rfl, fun y hy => h.news y (mem_current_cons hy), ?_, ?_⟩
  · cases hn : fate u q with
    | none => exact .inr ⟨rfl, rfl⟩
    | some b =>
      obtain told | ⟨-, hn'⟩ := h.told
      · rw [latest, if_pos (by simp [hn])] at told
        exact .inl told
      · rw [hf, hn] at hn'
        cases hn'
  · intro e₁ he₁ hr'
    cases he₁
    have hc : current u (.changed x :: q) = x :: current u q := by
      rw [current, if_neg hr', Signal.changeOf, if_pos hx, List.singleton_append]
    have accurate := h.accurate e rfl fun hm => hr' (hr.1 hm)
    rw [hc] at accurate
    obtain ⟨y, hy, hyx⟩ := h.news x (by rw [hc]; exact List.mem_cons_self)
    exact keeps y hy hyx accurate

/-- A change of a unit that is not tracked, and that nobody intends to track. -/
theorem ignore {x : RawState}
    (h : Follows u False (none : Option (Entry η)) history (.changed x :: q)) :
    Follows u False (none : Option (Entry η)) history q := by
  have hf : fate u (.changed x :: q) = fate u q := by simp [fate, Signal.fateOf]
  have nobody : fate u q = none → history = [] := by
    intro hn
    by_contra loaded
    rcases h.absent (hf ▸ hn) loaded with he | he
    · cases he
    · exact he
  refine ⟨hf ▸ h.loaded, hf ▸ h.unloaded, by simp, fun hn loaded => absurd (nobody hn) loaded,
    fun y hy => h.news y (mem_current_cons hy), ?_, by simp⟩
  cases hn : fate u q with
  | none => exact .inl (by simp [nobody hn])
  | some b =>
    obtain told | ⟨he, -⟩ := h.told
    · rw [latest, if_pos (by simp [hn])] at told
      exact .inl told
    · cases he

/-- The unit is evicted. -/
theorem evict (h : Follows u False entry history (.removed u :: q)) :
    Follows u False (none : Option (Entry η)) history q := by
  have hf : fate u (.removed u :: q) = (fate u q).or (some false) := by simp [fate, Signal.fateOf]
  have hc : current u (.removed u :: q) = current u q := current_cons rfl q
  have hl : latest u (.removed u :: q) = latest u q := latest_cons rfl q
  have gone : fate u q = none → history = [] := fun hn => h.unloaded (by rw [hf, hn]; rfl)
  refine ⟨fun hu => h.loaded (by rw [hf, hu]; rfl), fun hu => h.unloaded (by rw [hf, hu]; rfl),
    by simp, fun hn loaded => absurd (gone hn) loaded, hc ▸ h.news, ?_, by simp⟩
  obtain told | ⟨-, hn⟩ := h.told
  · exact .inl (hl ▸ told)
  · rw [hf] at hn
    cases hq : fate u q <;> simp [hq] at hn

/-- The unit is loaded: if it has no entry, it is to be tracked now. -/
theorem greet (h : Follows u False entry history (.added u :: q)) :
    Follows u (entry = none) entry history q := by
  have hf : fate u (.added u :: q) = (fate u q).or (some true) := by simp [fate, Signal.fateOf]
  have hc : current u (.added u :: q) = current u q := current_cons rfl q
  have hl : latest u (.added u :: q) = latest u q := latest_cons rfl q
  have here : fate u q = none → history ≠ [] := fun hn => h.loaded (by rw [hf, hn]; rfl)
  refine ⟨fun hu => h.loaded (by rw [hf, hu]; rfl), fun hu => h.unloaded (by rw [hf, hu]; rfl),
    fun hn _ => here hn, ?_, hc ▸ h.news, ?_, ?_⟩
  · intro _ _
    cases entry with
    | none => exact .inr rfl
    | some e => exact .inl rfl
  · obtain told | ⟨-, hn⟩ := h.told
    · exact .inl (hl ▸ told)
    · rw [hf] at hn
      cases hq : fate u q <;> simp [hq] at hn
  · intro e he hr
    exact hc ▸ h.accurate e he (by simpa using hr)

/-! ### Tracking -/

/-- What is to be done only matters for a unit that is loaded and has no entry. -/
theorem plan (h : Follows u todo entry history q) {todo' : Prop}
    (imp : fate u q = none → entry = none → history ≠ [] → todo → todo') :
    Follows u todo' entry history q := by
  refine { h with absent := ?_ }
  intro hn loaded
  cases entry with
  | none => exact (h.absent hn loaded).imp_right (imp hn rfl loaded)
  | some e => exact .inl rfl

/-- The unit gets an entry from its current state. -/
theorem settle {past : List Stay} {y : Stay} {e : Entry η}
    (h : Follows u todo (none : Option (Entry η)) (y :: past) q)
    (accurate : (∀ z ∈ y :: past, z.signalled = true → z.state ∈ current u q) →
      Accurate e (y :: past) (current u q)) : Follows u False (some e) (y :: past) q := by
  obtain told | ⟨he, -⟩ := h.told
  · refine ⟨h.loaded, h.unloaded, fun _ _ => List.cons_ne_nil _ _, fun _ _ => .inl rfl, h.news,
      .inl told, ?_⟩
    intro e' he' _
    cases he'
    exact accurate fun z hz signalled => mem_current_of_mem_latest (told z hz signalled)
  · cases he

end Follows

end UnitWatch.Session
