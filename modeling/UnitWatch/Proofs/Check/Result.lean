import Mathlib.Data.List.Forall2
import UnitWatch.Check.Scalar

/-!
# When a check succeeds, and when it breaks off

A check is built from checks of parts. For each way to build one there are two laws here.

**Success.** The whole is valid if and only if the parts are, and its value is made of theirs.

**Crash** (`Result.crash?`). The whole breaks off with the crash of the first part that breaks off,
whatever has been found about the others. Checks of single values never break off.

A check that neither succeeds nor breaks off has at least one finding (`Result.findings_of`).
-/

namespace UnitWatch.Check

variable {α β : Type}

namespace Result

/-! ## Success -/

@[simp] theorem map_eq_valid {f : α → β} {r : Result α} {b : β} :
    r.map f = .valid b ↔ ∃ a, r = .valid a ∧ f a = b := by
  cases r <;> simp [map]

@[simp] theorem andThen_eq_valid {r : Result α} {next : α → Result β} {b : β} :
    r.andThen next = .valid b ↔ ∃ a, r = .valid a ∧ next a = .valid b := by
  cases r <;> simp [andThen]

@[simp] theorem both_eq_valid {r : Result α} {s : Result β} {p : α × β} :
    r.both s = .valid p ↔ r = .valid p.1 ∧ s = .valid p.2 := by
  obtain ⟨a, b⟩ := p
  cases r <;> cases s <;> simp [both]

@[simp] theorem within_eq_valid {place : Place} {r : Result α} {a : α} :
    r.within place = .valid a ↔ r = .valid a := by
  cases r <;> simp [within]

@[simp] theorem reject_ne_valid {p : Problem} {a : α} : (reject p : Result α) ≠ .valid a := by
  simp [reject]

theorem all_eq_valid {rs : List (Result α)} {as : List α} :
    all rs = .valid as ↔ rs = as.map .valid := by
  induction rs generalizing as with
  | nil => cases as <;> simp [all]
  | cons r rs ih =>
    cases as with
    | nil => simp [all]
    | cons a as => simp [all, ih]

theorem exists_all_eq_valid {rs : List (Result α)} :
    (∃ as, all rs = .valid as) ↔ ∀ r ∈ rs, ∃ a, r = .valid a := by
  simp only [all_eq_valid]
  constructor
  · rintro ⟨as, rfl⟩
    simp
  · intro h
    induction rs with
    | nil => exact ⟨[], rfl⟩
    | cons r rs ih =>
      obtain ⟨a, rfl⟩ := h r List.mem_cons_self
      obtain ⟨as, rfl⟩ := ih fun r hr => h r (List.mem_cons_of_mem _ hr)
      exact ⟨a :: as, rfl⟩

/-! ## Crashes -/

/-- The crash that a check breaks off with. -/
def crash? : Result α → Option Crash
  | broken c => some c
  | _ => none

@[simp] theorem crash?_valid (a : α) : (valid a).crash? = none := rfl

@[simp] theorem crash?_reject (p : Problem) : (reject p : Result α).crash? = none := rfl

@[simp] theorem crash?_broken (c : Crash) : (broken c : Result α).crash? = some c := rfl

@[simp] theorem crash?_map (f : α → β) (r : Result α) : (r.map f).crash? = r.crash? := by
  cases r <;> rfl

@[simp] theorem crash?_within (place : Place) (r : Result α) :
    (r.within place).crash? = r.crash? := by
  cases r <;> rfl

@[simp] theorem crash?_both (r : Result α) (s : Result β) :
    (r.both s).crash? = r.crash?.or s.crash? := by
  cases r <;> cases s <;> rfl

theorem crash?_all (rs : List (Result α)) : (all rs).crash? = rs.findSome? crash? := by
  induction rs with
  | nil => rfl
  | cons r rs ih =>
    simp only [all, crash?_map, crash?_both, ih, List.findSome?_cons]
    cases r.crash? <;> rfl

theorem crash?_all_of_safe {rs : List (Result α)} (safe : ∀ r ∈ rs, r.crash? = none) :
    (all rs).crash? = none := by
  rw [crash?_all, List.findSome?_eq_none_iff]
  exact safe

theorem crash?_andThen {r : Result α} (safe : r.crash? = none) {next : α → Result β} {c : Crash} :
    (r.andThen next).crash? = some c ↔ ∃ a, r = .valid a ∧ (next a).crash? = some c := by
  cases r with
  | valid a => simp [andThen]
  | invalid g gs => simp [andThen, crash?]
  | broken c => cases safe

theorem crash?_andThen_of_next (r : Result α) {next : α → Result β}
    (safe : ∀ a, (next a).crash? = none) : (r.andThen next).crash? = r.crash? := by
  cases r with
  | valid a => exact safe a
  | invalid g gs => rfl
  | broken c => rfl

/-! ## Findings -/

theorem findings_of {r : Result α} (notValid : ∀ a, r ≠ .valid a) (safe : r.crash? = none) :
    ∃ first others, r = .invalid first others := by
  cases r with
  | valid a => exact absurd rfl (notValid a)
  | invalid g gs => exact ⟨g, gs, rfl⟩
  | broken c => cases safe

end Result

/-! ## Items and fields -/

theorem itemsFrom_eq_valid {check : Checker α} {vs : List Value} {as : List α} (n : Nat) :
    itemsFrom check n vs = as.map .valid ↔
      List.Forall₂ (fun v a => check v = .valid a) vs as := by
  induction vs generalizing as n with
  | nil => cases as <;> simp [itemsFrom]
  | cons v vs ih => cases as <;> simp [itemsFrom, ih]

@[simp] theorem listOf_eq_valid {check : Checker α} {v : Value} {as : List α} :
    listOf check v = .valid as ↔
      ∃ vs, v = .list vs ∧ List.Forall₂ (fun v a => check v = .valid a) vs as := by
  cases v <;> simp [listOf, Result.all_eq_valid, itemsFrom_eq_valid]

/-- Partners for all of a list come together, in one list. -/
theorem exists_forall₂_iff {P : α → β → Prop} {as : List α} :
    (∃ bs, List.Forall₂ P as bs) ↔ ∀ a ∈ as, ∃ b, P a b := by
  constructor
  · rintro ⟨bs, related⟩
    induction related with
    | nil => simp
    | cons head _ ih => exact List.forall_mem_cons.mpr ⟨⟨_, head⟩, ih⟩
  · intro each
    induction as with
    | nil => exact ⟨[], .nil⟩
    | cons a as ih =>
      rw [List.forall_mem_cons] at each
      obtain ⟨b, head⟩ := each.1
      obtain ⟨bs, tail⟩ := ih each.2
      exact ⟨b :: bs, .cons head tail⟩

theorem exists_listOf_iff {check : Checker α} {vs : List Value} :
    (∃ as, listOf check (.list vs) = .valid as) ↔ ∀ v ∈ vs, ∃ a, check v = .valid a := by
  simp [exists_forall₂_iff]

/-- Where each item can be written in one way only, so can the list. -/
theorem listOf_eq_valid_iff_eq {check : Checker α} {write : α → Value}
    (items : ∀ v a, check v = .valid a ↔ v = write a) {v : Value} {as : List α} :
    listOf check v = .valid as ↔ v = .list (as.map write) := by
  have written (vs : List Value) :
      List.Forall₂ (fun v a => check v = .valid a) vs as ↔ vs = as.map write := by
    simp only [items]
    rw [← List.forall₂_map_right_iff (R := (· = ·)), List.forall₂_eq_eq_eq]
  simp [written]

@[simp] theorem mappingOf_eq_valid {check : Checker α} {v : Value} {as : List (String × α)} :
    mappingOf check v = .valid as ↔
      ∃ fs, v = .object fs ∧
        List.Forall₂ (fun f a => f.1 = a.1 ∧ check f.2 = .valid a.2) fs as := by
  have each (fs : List (String × Value)) (as : List (String × α)) :
      fs.map (fun f => ((check f.2).within (.field f.1)).map fun a => (f.1, a)) = as.map .valid ↔
        List.Forall₂ (fun f a => f.1 = a.1 ∧ check f.2 = .valid a.2) fs as := by
    induction fs generalizing as with
    | nil => cases as <;> simp
    | cons f fs ih =>
      cases as with
      | nil => simp
      | cons a as => simp [ih, Prod.ext_iff, and_comm]
  cases v with
  | object fs => simp [mappingOf, Result.all_eq_valid, each]
  | foreign what => cases what <;> simp [mappingOf]
  | _ => simp [mappingOf]

@[simp] theorem required_eq_valid {fields : List (String × Value)} {name : String}
    {check : Checker α} {a : α} :
    required fields name check = .valid a ↔
      ∃ v, Value.field? fields name = some v ∧ check v = .valid a := by
  unfold required
  split <;> simp [*]

@[simp] theorem noOthers_eq_valid {fields : List (String × Value)} {names : List String} :
    noOthers fields names = .valid () ↔ ∀ f ∈ fields, f.1 ∈ names := by
  simp only [noOthers, Result.map_eq_valid, and_true, Result.exists_all_eq_valid, List.mem_map]
  constructor
  · intro h f hf
    by_contra other
    obtain ⟨_, ha⟩ := h _ ⟨f, List.mem_filter.mpr ⟨hf, by simpa using other⟩, rfl⟩
    simp at ha
  · rintro h r ⟨f, hf, -⟩
    obtain ⟨hf, other⟩ := List.mem_filter.mp hf
    exact absurd (h f hf) (by simpa using other)

@[simp] theorem description_eq_valid {kind : String} {parts : List (String × Value) → Result α}
    {whole : α → Result β} {v : Value} {b : β} :
    description kind parts whole v = .valid b ↔
      ∃ fs, v = .object fs ∧ ∃ a, parts fs = .valid a ∧ whole a = .valid b := by
  cases v with
  | object fs => simp [description]
  | foreign what =>
    cases what with
    | kind name => simp [description]
    | fields entries =>
      simp only [description, reduceCtorEq, false_and, exists_false, iff_false]
      split <;> simp
  | _ => simp [description]

theorem crash?_itemsFrom (check : Checker α) (n : Nat) (vs : List Value) :
    (itemsFrom check n vs).findSome? Result.crash? = vs.findSome? fun v => (check v).crash? := by
  induction vs generalizing n with
  | nil => rfl
  | cons v vs ih => simp [itemsFrom, List.findSome?_cons, ih]

theorem crash?_listOf (check : Checker α) (v : Value) :
    (listOf check v).crash? = v.items.findSome? fun v => (check v).crash? := by
  cases v <;> simp [listOf, Value.items, Result.crash?_all, crash?_itemsFrom]

@[simp] theorem crash?_key (name : List Nat) : (key name).crash? = none := by
  unfold key
  split <;> rfl

/-- Names do not make a table break off. -/
theorem crash?_mappingOf {check : Checker α} (safe : ∀ v, (check v).crash? = none) (v : Value) :
    (mappingOf check v).crash? = none := by
  cases v with
  | object fs =>
    refine Result.crash?_all_of_safe fun r hr => ?_
    obtain ⟨f, -, rfl⟩ := List.mem_map.mp hr
    simp [safe]
  | foreign what =>
    cases what with
    | kind name => rfl
    | fields entries =>
      rw [mappingOf, Result.crash?_andThen_of_next _ fun _ => rfl]
      refine Result.crash?_all_of_safe fun r hr => ?_
      obtain ⟨e, -, rfl⟩ := List.mem_map.mp hr
      simp [safe]
  | _ => rfl

theorem crash?_required (fields : List (String × Value)) (name : String) (check : Checker α) :
    (required fields name check).crash? =
      (Value.field? fields name).bind fun v => (check v).crash? := by
  unfold required
  split <;> simp [*]

@[simp] theorem crash?_noOthers (fields : List (String × Value)) (names : List String) :
    (noOthers fields names).crash? = none := by
  rw [noOthers, Result.crash?_map]
  refine Result.crash?_all_of_safe fun r hr => ?_
  obtain ⟨f, -, rfl⟩ := List.mem_map.mp hr
  rfl

/-- The fields of an object are looked through even where some name is no text. -/
theorem crash?_description (kind : String) (parts : List (String × Value) → Result α)
    (whole : α → Result β) (v : Value) :
    (description kind parts whole v).crash? = match v with
      | .object fs => ((parts fs).andThen whole).crash?
      | .foreign (.fields entries) => (parts (Value.shownFields entries)).crash?
      | _ => none := by
  cases v with
  | foreign what =>
    cases what with
    | kind name => rfl
    | fields entries =>
      simp only [description]
      cases parts (Value.shownFields entries) <;> rfl
  | _ => rfl

/-! ## Single values -/

@[simp] theorem text_eq_valid {v : Value} {s : String} : text v = .valid s ↔ v = .text s := by
  cases v <;> simp [text]

/-- A member is written as its word, if no two members have the same one. -/
theorem member_eq_valid {all : List α} {word : α → String} (complete : ∀ a, a ∈ all)
    (distinct : Function.Injective word) {v : Value} {a : α} :
    member all word v = .valid a ↔ v = .text (word a) := by
  have found (s : String) : (all.find? fun a => word a == s) = some a ↔ s = word a := by
    constructor
    · intro h
      have same : word a = s := by simpa using List.find?_some h
      exact same.symm
    · rintro rfl
      have : (all.find? fun b => word b == word a).isSome := by
        simpa using ⟨a, complete a, rfl⟩
      obtain ⟨b, hb⟩ := Option.isSome_iff_exists.mp this
      have same : word b = word a := by simpa using List.find?_some hb
      rw [hb, distinct same]
  unfold member
  cases v with
  | text s =>
    simp only [Value.text?, Option.bind_some, Value.text.injEq, ← found]
    cases all.find? fun a => word a == s <;> simp
  | _ => simp [Value.text?]

@[simp] theorem crash?_text (v : Value) : (text v).crash? = none := by
  cases v <;> rfl

@[simp] theorem crash?_member (all : List α) (word : α → String) (v : Value) :
    (member all word v).crash? = none := by
  unfold member
  split <;> rfl

@[simp] theorem crash?_readInteger (s : List Char) : (readInteger s).crash? = none := by
  unfold readInteger
  dsimp only
  repeat' split
  all_goals rfl

@[simp] theorem crash?_integer (v : Value) : (integer v).crash? = none := by
  cases v with
  | text s => exact crash?_readInteger _
  | float x =>
    unfold integer
    dsimp only
    repeat' split
    all_goals rfl
  | _ => rfl

end UnitWatch.Check
