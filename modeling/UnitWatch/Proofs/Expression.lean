import Mathlib.Data.List.Infix
import UnitWatch.Expression

/-!
# Valid expressions

**Suffixes.** No suffix of a unit type is a suffix of another (`UnitType.eq_of_suffix`), so a name
has at most one type and the order of the list of types does not matter (`of?_eq_some_iff`).

**Spellings.** A type of expressions has two spellings, and no two types share one
(`ExpressionType.parse?_eq_some_iff`).

**Validity** (`ExpressionType.Admits`). What a text has to be to be an expression of a type: a stem
with a suffix, a suffix, or a pattern that can be read. It compiles if and only if it is
(`Expression.compileType_ok_iff`).

**Selection.** A valid type expression selects the names of its type, and a valid name expression
selects itself. Main result: `Expression.types_partition_names`.
-/

namespace UnitWatch

/-! ## Unit types -/

namespace UnitType

theorem mem_all (t : UnitType) : t ∈ all := by cases t <;> decide

/-- No suffix is a suffix of another. -/
theorem eq_of_suffix {t u : UnitType} (h : t.suffix.toList <:+ u.suffix.toList) : t = u := by
  have apart : ∀ t ∈ all, ∀ u ∈ all, t.suffix.toList <:+ u.suffix.toList → t = u := by decide
  exact apart t (mem_all t) u (mem_all u) h

theorem suffix_inj {t u : UnitType} : t.suffix = u.suffix ↔ t = u :=
  ⟨fun h => eq_of_suffix (h ▸ List.suffix_refl _), congrArg _⟩

theorem fits_iff {t : UnitType} {name : String} :
    t.fits name ↔ ∃ stem, name = stem ++ t.suffix := by
  simp only [fits, List.isSuffixOf_iff_suffix]
  constructor
  · rintro ⟨stem, h⟩
    exact ⟨String.ofList stem, String.toList_injective (by simp [h])⟩
  · rintro ⟨stem, rfl⟩
    exact ⟨stem.toList, by simp⟩

/-- A name has at most one type. -/
theorem eq_of_fits {t u : UnitType} {name : String} (ht : t.fits name) (hu : u.fits name) :
    t = u := by
  simp only [fits, List.isSuffixOf_iff_suffix] at ht hu
  cases List.suffix_or_suffix_of_suffix ht hu with
  | inl h => exact eq_of_suffix h
  | inr h => exact (eq_of_suffix h).symm

/-- Among types in any order, the first that fits is the one that does. -/
theorem find?_fits_eq_some_iff {ts : List UnitType} (complete : ∀ t, t ∈ ts) {name : String}
    {t : UnitType} : ts.find? (·.fits name) = some t ↔ t.fits name := by
  constructor
  · intro h
    exact List.find?_some (p := fun t : UnitType => t.fits name) h
  · intro fits
    have : (ts.find? (·.fits name)).isSome := by
      simpa using ⟨t, complete t, fits⟩
    obtain ⟨u, hu⟩ := Option.isSome_iff_exists.mp this
    have := List.find?_some (p := fun t : UnitType => t.fits name) hu
    rw [hu, eq_of_fits this fits]

theorem of?_eq_some_iff {name : String} {t : UnitType} : of? name = some t ↔ t.fits name :=
  find?_fits_eq_some_iff mem_all

/-- The order of the types does not matter. -/
theorem find?_fits_of_perm {ts : List UnitType} (h : ts.Perm all) (name : String) :
    ts.find? (·.fits name) = of? name := by
  refine Option.ext fun t => ?_
  rw [of?_eq_some_iff, find?_fits_eq_some_iff fun t => h.mem_iff.mpr (mem_all t)]

theorem isSome_ofSuffix?_iff {s : String} :
    (ofSuffix? s).isSome ↔ ∃ t : UnitType, s = t.suffix := by
  simp only [ofSuffix?, List.find?_isSome, beq_iff_eq]
  exact ⟨fun ⟨t, _, h⟩ => ⟨t, h.symm⟩, fun ⟨t, h⟩ => ⟨t, mem_all t, h.symm⟩⟩

end UnitType

/-! ## Spellings -/

namespace ExpressionType

/-- The two spellings of a type. -/
def spellings (t : ExpressionType) : List String := [t.word, t.hyphenated]

theorem parse?_eq_some_iff {s : String} {t : ExpressionType} :
    parse? s = some t ↔ s ∈ t.spellings := by
  constructor
  · intro h
    have spelled : all.find? (·.hyphenated == s) = some t ∨ ofWord? s = some t := by
      unfold parse? at h
      cases hs : all.find? (·.hyphenated == s) with
      | some u => exact .inl (by simpa [hs] using h)
      | none => exact .inr (by simpa [hs] using h)
    cases spelled with
    | inl h =>
      have : t.hyphenated = s := by simpa using List.find?_some h
      simp [spellings, this]
    | inr h =>
      have : t.word = s := by
        simpa using List.find?_some (p := fun t : ExpressionType => t.word == s) h
      simp [spellings, this]
  · intro h
    have reads : ∀ t ∈ all, ∀ s ∈ t.spellings, parse? s = some t := by decide
    exact reads t (by cases t <;> decide) s h

end ExpressionType

/-! ## Validity -/

/-- What a text has to be to be an expression of a type. -/
def ExpressionType.Admits (value : String) : ExpressionType → Prop
  | unitName => ∃ stem, ∃ t : UnitType, stem ≠ "" ∧ value = stem ++ t.suffix
  | unitType => ∃ t : UnitType, value = t.suffix
  | regex => ∃ pattern, Pattern.read value.toList = .ok pattern

namespace Expression

theorem isUnitName_iff {value : String} :
    isUnitName value ↔ ExpressionType.unitName.Admits value := by
  simp only [isUnitName, Option.any_eq_true, UnitType.of?_eq_some_iff, UnitType.fits_iff,
    ExpressionType.Admits, bne_iff_ne]
  constructor
  · rintro ⟨t, ⟨stem, rfl⟩, h⟩
    exact ⟨stem, t, fun empty => h (by simp [empty]), rfl⟩
  · rintro ⟨stem, t, h, rfl⟩
    refine ⟨t, ⟨stem, rfl⟩, fun same => h ?_⟩
    have shorter := congrArg String.length same
    rw [String.length_append] at shorter
    exact String.length_eq_zero_iff.mp (by omega)

/-- A text compiles as an expression of a type if and only if the type admits it. -/
theorem compileType_ok_iff {value : String} {type : ExpressionType} :
    (∃ e, compileType value type = .ok e) ↔ type.Admits value := by
  cases type with
  | unitName =>
    rw [← isUnitName_iff]
    simp only [compileType]
    split <;> simp [*]
  | unitType =>
    rw [ExpressionType.Admits, ← UnitType.isSome_ofSuffix?_iff]
    simp only [compileType]
    split <;> simp [*]
  | regex =>
    simp only [compileType, ExpressionType.Admits]
    cases Pattern.read value.toList <;> simp

/-! ## Selection by type and by name -/

theorem compile_unitType {s : String} {e : Expression} :
    compile s "unit type" = .ok e ↔ ∃ t : UnitType, s = t.suffix ∧ e = unitType t.suffix := by
  have spelled : ExpressionType.parse? "unit type" = some .unitType := by decide
  have known := UnitType.isSome_ofSuffix?_iff (s := s)
  simp only [compile, spelled, compileType]
  split
  · next h =>
    obtain ⟨t, rfl⟩ := known.mp h
    simp [UnitType.suffix_inj, eq_comm]
  · next h =>
    simp only [reduceCtorEq, false_iff]
    rintro ⟨t, same, -⟩
    exact h (known.mpr ⟨t, same⟩)

theorem compile_unitName {s : String} {e : Expression} :
    compile s "unit name" = .ok e ↔ ExpressionType.unitName.Admits s ∧ e = unitName s := by
  have spelled : ExpressionType.parse? "unit name" = some .unitName := by decide
  rw [← isUnitName_iff]
  simp only [compile, spelled, compileType]
  split <;> simp [*, eq_comm]

theorem selects_suffix {t : UnitType} {name : String} :
    (unitType t.suffix).selects name = true ↔ UnitType.of? name = some t :=
  UnitType.of?_eq_some_iff.symm

/-- A text is a valid type expression that selects the name. -/
def SelectsByType (s name : String) : Prop :=
  ∃ e, compile s "unit type" = .ok e ∧ e.selects name = true

theorem selectsByType_iff {s name : String} :
    SelectsByType s name ↔ (UnitType.of? name).map UnitType.suffix = some s := by
  simp only [SelectsByType, compile_unitType, Option.map_eq_some_iff]
  constructor
  · rintro ⟨_, ⟨t, rfl, rfl⟩, h⟩
    exact ⟨t, selects_suffix.mp h, rfl⟩
  · rintro ⟨t, h, rfl⟩
    exact ⟨_, ⟨t, rfl, rfl⟩, selects_suffix.mpr h⟩

theorem SelectsByType.unique {s s' name : String} (h : SelectsByType s name)
    (h' : SelectsByType s' name) : s = s' :=
  Option.some.inj ((selectsByType_iff.mp h).symm.trans (selectsByType_iff.mp h'))

/-- **Types partition names.** The valid type expressions are the suffixes of the types. At most one
of them selects a name: the suffix of the name's type, if it has one, in whichever order the types
are listed. A text is a valid name expression if and only if it is a stem, not empty, with a suffix.
It then selects itself and nothing else, and exactly one type expression selects it. -/
theorem types_partition_names (name : String) :
    (∀ s, (∃ e, compile s "unit type" = .ok e) ↔ s ∈ UnitType.all.map UnitType.suffix) ∧
    (∀ s s', SelectsByType s name → SelectsByType s' name → s = s') ∧
    (∀ s, SelectsByType s name ↔ (UnitType.of? name).map UnitType.suffix = some s) ∧
    (UnitType.of? name = none ↔ ∀ s, ¬SelectsByType s name) ∧
    (∀ ts : List UnitType, ts.Perm UnitType.all →
      ts.find? (·.fits name) = UnitType.of? name) ∧
    ((∃ e, compile name "unit name" = .ok e) ↔
      ∃ stem, ∃ t : UnitType, stem ≠ "" ∧ name = stem ++ t.suffix) ∧
    ∀ e, compile name "unit name" = .ok e →
      (∀ other, e.selects other = true ↔ other = name) ∧ ∃! s, SelectsByType s name := by
  refine ⟨fun s => ?_, fun _ _ => SelectsByType.unique, fun _ => selectsByType_iff, ?_,
    fun ts h => UnitType.find?_fits_of_perm h name, ?_, fun e compiled => ?_⟩
  · simp only [compile_unitType, List.mem_map]
    constructor
    · rintro ⟨_, t, rfl, -⟩
      exact ⟨t, UnitType.mem_all t, rfl⟩
    · rintro ⟨t, -, rfl⟩
      exact ⟨_, t, rfl, rfl⟩
  · simp only [selectsByType_iff]
    cases UnitType.of? name <;> simp
  · simp only [compile_unitName]
    exact ⟨fun ⟨_, admitted, _⟩ => admitted, fun admitted => ⟨_, admitted, rfl⟩⟩
  · obtain ⟨⟨stem, t, -, same⟩, rfl⟩ := compile_unitName.mp compiled
    have typed : UnitType.of? name = some t :=
      UnitType.of?_eq_some_iff.mpr (UnitType.fits_iff.mpr ⟨stem, same⟩)
    have selected : SelectsByType t.suffix name :=
      selectsByType_iff.mpr (congrArg (Option.map UnitType.suffix) typed)
    exact ⟨fun other => by simp [selects], t.suffix, selected, fun s h => h.unique selected⟩

/-- The name of an automount unit is no name of a mount unit. -/
theorem automount_is_no_mount :
    (∃ e, compile "home.automount" "unit name" = .ok e ∧
      ∀ other, e.selects other = true ↔ other = "home.automount") ∧
    SelectsByType ".automount" "home.automount" ∧ ¬SelectsByType ".mount" "home.automount" := by
  obtain ⟨-, once, typed, -, -, valid, only⟩ := types_partition_names "home.automount"
  obtain ⟨e, compiled⟩ := valid.mpr ⟨"home", .automount, by decide, by decide⟩
  have auto : SelectsByType ".automount" "home.automount" := (typed _).mpr (by decide)
  refine ⟨⟨e, compiled, (only e compiled).1⟩, auto, fun mount => ?_⟩
  exact absurd (once _ _ auto mount) (by decide)

end Expression

end UnitWatch
