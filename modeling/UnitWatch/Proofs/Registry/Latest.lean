import Mathlib.Data.Finset.Max
import UnitWatch.Proofs.Registry

/-!
# The latest report wins

An entry is a register that keeps the latest of what is written to it. Whatever the order in which
timestamped reports come, and however often each of them comes, the entry ends up with the latest
one, if that is later than what the entry knew before (`latest_report_wins`).

**Two fields.** The timestamp is the maximum of all that the entry has been told
(`timestamp_after`), also when reports without a timestamp come in between. The state goes with it:
either every report has been stale and nothing has changed, or the state and the timestamp are those
of one report that was not stale (`after_cases`), and then none is later (`after_of_isLatest`).
-/

namespace UnitWatch.Entry

variable {σ : Type} {e : Entry σ}

/-- Reports in the order in which they come, each with the time on the clock at that moment. -/
abbrev Readings : Type := List (Report × Microseconds)

/-- The entry after reports. -/
def after (e : Entry σ) (rs : Readings) : Entry σ :=
  rs.foldl (fun e x => (e.update x.1 x.2).1) e

@[simp] theorem after_nil (e : Entry σ) : e.after [] = e := rfl

theorem after_append (e : Entry σ) (rs rs' : Readings) :
    e.after (rs ++ rs') = (e.after rs).after rs' := List.foldl_append

theorem after_concat (e : Entry σ) (rs : Readings) (x : Report × Microseconds) :
    e.after (rs ++ [x]) = ((e.after rs).update x.1 x.2).1 := by
  rw [after_append]
  rfl

/-! ## Timestamps -/

/-- A report moves the timestamp on, or leaves it. -/
theorem update_timestamp (e : Entry σ) (r : Report) (now : Microseconds) :
    (e.update r now).1.timestamp = max e.timestamp r.monotonic := by
  cases stale : e.isStale r.monotonic with
  | true =>
    rw [update_of_stale now stale]
    obtain ⟨t, t', ht, ht', le⟩ := isStale_iff.1 stale
    rw [ht, ht']
    exact congrArg some (max_eq_left le).symm
  | false =>
    rw [update_fst_of_not_stale now stale]
    cases ht : r.monotonic with
    | none => cases e.timestamp <;> rfl
    | some t =>
      cases ht' : e.timestamp with
      | none => rfl
      | some t' =>
        have later : t' < t := by simpa [isStale, ht, ht'] using stale
        exact congrArg some (max_eq_right later.le).symm

/-- **The timestamp is the maximum** of the first one and all that have come. -/
theorem timestamp_after (e : Entry σ) (rs : Readings) :
    (e.after rs).timestamp = (rs.map (·.1.monotonic)).foldl max e.timestamp := by
  induction rs generalizing e with
  | nil => rfl
  | cons x rs ih => exact (ih (e.update x.1 x.2).1).trans (by rw [update_timestamp]; rfl)

/-- A report leaves no timestamp that is earlier than its own or than the one before. -/
theorem le_update_timestamp {r : Report} {t : Int} (now : Microseconds)
    (h : e.timestamp = some t ∨ r.monotonic = some t) :
    ∃ t', (e.update r now).1.timestamp = some t' ∧ t ≤ t' := by
  rw [update_timestamp]
  rcases h with h | h
  · cases r.monotonic with
    | none => exact ⟨t, by rw [h]; rfl, le_rfl⟩
    | some t' => exact ⟨max t t', by rw [h]; rfl, le_max_left t t'⟩
  · cases e.timestamp with
    | none => exact ⟨t, by rw [h]; rfl, le_rfl⟩
    | some t' => exact ⟨max t' t, by rw [h]; rfl, le_max_right t' t⟩

/-- The timestamp never decreases, and nothing that has come is later. -/
theorem le_timestamp_after {t : Int} (rs : Readings)
    (h : e.timestamp = some t ∨ ∃ x ∈ rs, x.1.monotonic = some t) :
    ∃ t', (e.after rs).timestamp = some t' ∧ t ≤ t' := by
  induction rs generalizing e t with
  | nil => exact ⟨t, h.resolve_right (by simp), le_rfl⟩
  | cons x rs ih =>
    have first (h : e.timestamp = some t ∨ x.1.monotonic = some t) :
        ∃ t', (e.after (x :: rs)).timestamp = some t' ∧ t ≤ t' := by
      obtain ⟨t', ht', le⟩ := le_update_timestamp x.2 h
      obtain ⟨t'', ht'', le'⟩ := ih (.inl ht')
      exact ⟨t'', ht'', le.trans le'⟩
    rcases h with h | ⟨y, hy, ht⟩
    · exact first (.inl h)
    · rcases List.mem_cons.1 hy with rfl | hy
      · exact first (.inr ht)
      · exact ih (e := (e.update x.1 x.2).1) (.inr ⟨y, hy, ht⟩)

/-- A report that comes again, at any later point, is lost on the entry. -/
theorem update_of_repeated {x : Report × Microseconds} {t : Int} (ht : x.1.monotonic = some t)
    (before between : Readings) (now : Microseconds) :
    (e.after (before ++ x :: between)).update x.1 now =
      (e.after (before ++ x :: between), none) := by
  obtain ⟨t', ht', le⟩ := le_timestamp_after (e := e) (before ++ x :: between)
    (.inr ⟨x, by simp, ht⟩)
  exact update_of_stale now (isStale_iff.2 ⟨t, t', ht, ht', le⟩)

/-! ## The latest report -/

theorem not_isStale_some {t : Int} :
    e.isStale (some t) = false ↔ ∀ t₀, e.timestamp = some t₀ → t₀ < t := by
  rw [← Bool.not_eq_true, isStale_iff]
  simp

/-- Nothing has changed, or the entry has been written by one report, which was not stale. -/
theorem after_cases {rs : Readings} (timed : ∀ x ∈ rs, x.1.monotonic.isSome = true) :
    e.after rs = e ∨ ∃ x ∈ rs, ∃ t, x.1.monotonic = some t ∧ e.isStale (some t) = false ∧
      e.after rs = { e with state := some x.1.state, timestamp := some t } := by
  induction rs using List.reverseRecOn with
  | nil => exact .inl rfl
  | append_singleton rs z ih =>
    rw [List.forall_mem_append, List.forall_mem_singleton] at timed
    obtain ⟨t, ht⟩ := Option.isSome_iff_exists.1 timed.2
    rw [after_concat]
    cases stale : (e.after rs).isStale z.1.monotonic with
    | true =>
      rw [update_of_stale z.2 stale]
      refine (ih timed.1).imp id ?_
      rintro ⟨x, hx, written⟩
      exact ⟨x, List.mem_append_left _ hx, written⟩
    | false =>
      have fresh : e.isStale (some t) = false := by
        refine not_isStale_some.2 fun t₀ ht₀ => ?_
        obtain ⟨t₁, ht₁, le⟩ := le_timestamp_after rs (.inl ht₀)
        exact le.trans_lt (not_isStale_some.1 (ht ▸ stale) t₁ ht₁)
      refine .inr ⟨z, by simp, t, ht, fresh, ?_⟩
      rw [update_fst_of_not_stale z.2 stale, ht, Option.some_or]
      rcases ih timed.1 with same | ⟨x, -, tx, -, -, same⟩ <;> rw [same]

/-- Reports of which no two different ones have the same timestamp. -/
structure Distinguished (reports : Finset Report) : Prop where
  timed : ∀ r ∈ reports, r.monotonic.isSome = true
  distinct : ∀ r ∈ reports, ∀ r' ∈ reports, r.monotonic = r'.monotonic → r = r'

/-- The reports of a run are those of a collection, in any order and each as often as it comes. -/
def Brings (rs : Readings) (reports : Finset Report) : Prop :=
  ∀ r, r ∈ rs.map Prod.fst ↔ r ∈ reports

theorem Brings.mem {rs : Readings} {reports : Finset Report} (h : Brings rs reports)
    {x : Report × Microseconds} (hx : x ∈ rs) : x.1 ∈ reports :=
  (h x.1).1 (List.mem_map_of_mem hx)

theorem Brings.eq_nil {rs : Readings} (h : Brings rs ∅) : rs = [] :=
  List.eq_nil_iff_forall_not_mem.2 fun _ hx => Finset.notMem_empty _ (h.mem hx)

theorem Brings.exists_mem {rs : Readings} {reports : Finset Report} (h : Brings rs reports)
    {r : Report} (hr : r ∈ reports) : ∃ x ∈ rs, x.1 = r :=
  List.mem_map.1 ((h r).2 hr)

/-- A report of a collection, and its timestamp, later than which there is none. -/
structure IsLatest (reports : Finset Report) (r : Report) (t : Int) : Prop where
  mem : r ∈ reports
  timed : r.monotonic = some t
  latest : ∀ r' ∈ reports, ∀ t', r'.monotonic = some t' → t' ≤ t

theorem exists_isLatest {reports : Finset Report} (h : Distinguished reports)
    (nonempty : reports.Nonempty) : ∃ r t, IsLatest reports r t := by
  obtain ⟨r, hr, greatest⟩ := reports.exists_max_image (fun r => r.monotonic.getD 0) nonempty
  obtain ⟨t, ht⟩ := Option.isSome_iff_exists.1 (h.timed r hr)
  refine ⟨r, t, hr, ht, ?_⟩
  intro r' hr' t' ht'
  simpa [ht, ht'] using greatest r' hr'

/-- The latest of the reports is what the entry ends up with, unless it is stale. -/
theorem after_of_isLatest {rs : Readings} {reports : Finset Report} {r : Report} {t : Int}
    (h : Distinguished reports) (brings : Brings rs reports) (last : IsLatest reports r t) :
    e.after rs = if e.isStale (some t) then e
      else { e with state := some r.state, timestamp := some t } := by
  have timed : ∀ x ∈ rs, x.1.monotonic.isSome = true := fun x hx => h.timed x.1 (brings.mem hx)
  obtain ⟨y, hy, rfl⟩ := brings.exists_mem last.mem
  obtain ⟨t₁, ht₁, le⟩ := le_timestamp_after (e := e) rs (.inr ⟨y, hy, last.timed⟩)
  rcases after_cases (e := e) timed with same | ⟨x, hx, tx, htx, fresh, same⟩
  · rw [same] at ht₁ ⊢
    rw [if_pos (isStale_iff.2 ⟨t, t₁, rfl, ht₁, le⟩)]
  · rw [same] at ht₁
    obtain rfl : tx = t₁ := Option.some.inj ht₁
    obtain rfl : tx = t := le_antisymm (last.latest x.1 (brings.mem hx) tx htx) le
    have one : x.1 = y.1 :=
      h.distinct _ (brings.mem hx) _ last.mem (htx.trans last.timed.symm)
    rw [same, if_neg (by simp [fresh]), one]

/-- An entry is a register that keeps the latest of what is written to it. -/
structure KeepsLatest (e : Entry σ) : Prop where
  /-- The order of the reports and their repetitions do not matter. -/
  same : ∀ reports, Distinguished reports → ∀ rs rs', Brings rs reports → Brings rs' reports →
    e.after rs = e.after rs'
  /-- The latest report counts if it is later than what the entry knew. -/
  latest : ∀ reports r t, Distinguished reports → IsLatest reports r t →
    (∀ t₀, e.timestamp = some t₀ → t₀ < t) → ∀ rs, Brings rs reports →
      (e.after rs).state = some r.state ∧ (e.after rs).timestamp = some t
  /-- Otherwise nothing changes. -/
  stale : ∀ reports r t, Distinguished reports → IsLatest reports r t →
    ∀ t₀, e.timestamp = some t₀ → t ≤ t₀ → ∀ rs, Brings rs reports → e.after rs = e
  untold : ∀ rs, Brings rs ∅ → e.after rs = e
  /-- A report that comes again is lost, whatever has come besides. -/
  repeated : ∀ before between x now, x.1.monotonic.isSome = true →
    (e.after (before ++ x :: between)).update x.1 now =
      (e.after (before ++ x :: between), none)
  /-- With any reports the timestamp is the maximum of all, and never decreases. -/
  timestamp : ∀ rs, (e.after rs).timestamp = (rs.map (·.1.monotonic)).foldl max e.timestamp
  increases : ∀ rs rs' t, (e.after rs).timestamp = some t →
    ∃ t', (e.after (rs ++ rs')).timestamp = some t' ∧ t ≤ t'

/-- **The latest report wins**, in every entry. -/
theorem latest_report_wins (e : Entry σ) : KeepsLatest e := by
  refine ⟨?_, ?_, ?_, ?_, ?_, timestamp_after e, ?_⟩
  · intro reports h rs rs' brings brings'
    rcases reports.eq_empty_or_nonempty with rfl | nonempty
    · rw [brings.eq_nil, brings'.eq_nil]
    · obtain ⟨r, t, last⟩ := exists_isLatest h nonempty
      rw [after_of_isLatest h brings last, after_of_isLatest h brings' last]
  · intro reports r t h last later rs brings
    rw [after_of_isLatest h brings last, if_neg (by simp [not_isStale_some.2 later])]
    exact ⟨rfl, rfl⟩
  · intro reports r t h last t₀ ht₀ le rs brings
    rw [after_of_isLatest h brings last, if_pos (isStale_iff.2 ⟨t, t₀, rfl, ht₀, le⟩)]
  · intro rs brings
    rw [brings.eq_nil, after_nil]
  · intro before between x now timed
    obtain ⟨t, ht⟩ := Option.isSome_iff_exists.1 timed
    exact update_of_repeated ht before between now
  · intro rs rs' t ht
    rw [after_append]
    exact le_timestamp_after rs' (.inl ht)

theorem latest_report_wins_twice_told :
    let early : Report := ⟨"a.service", .failed, some 7, none⟩
    let late : Report := ⟨"a.service", .inactive, some 9, none⟩
    let e : Entry Unit := ⟨⟨.system, "a.service"⟩, some .active, some 5, ()⟩
    let ends := e.after [(early, 1), (late, 2), (early, 3)]
    Distinguished {early, late} ∧ ends.state = some .inactive ∧ ends.timestamp = some 9 ∧
      e.after [(late, 4), (early, 5)] = ends := by
  intro early late e ends
  have h : Distinguished {early, late} := ⟨by decide, by decide⟩
  have brings : Brings [(early, 1), (late, 2), (early, 3)] {early, late} := by
    intro r
    simp [or_comm]
  have brings' : Brings [(late, 4), (early, 5)] {early, late} := by
    intro r
    simp [or_comm]
  have last : IsLatest {early, late} late 9 := ⟨by decide, rfl, by decide⟩
  obtain ⟨state, timestamp⟩ := (latest_report_wins e).latest _ late 9 h last (by decide) _ brings
  exact ⟨h, state, timestamp, (latest_report_wins e).same _ h _ _ brings' brings⟩

end UnitWatch.Entry
