import Mathlib.Data.List.Basic
import Mathlib.Tactic.Tauto
import UnitWatch.Bus.Name

/-!
# Which texts are bus names

**The grammar of names** (`BusName.Consists`). A name consists of elements with single dots between
them; so it has no dot at an end and no two side by side (`Separated`). Cutting at the dots finds
the elements (`elements_eq_splitOn`), and they are what the grammar asks for if and only if the name
is valid (`isValid_iff`).

**The grammar of paths** (`BusName.IsPath`). An object path has a slash in front of each element.
The path behind a name is made by replacing characters, and this comes to the same as cutting the
name and putting its elements together again (`Consists.isPath`).

Main result: `consists_and_path`.
-/

namespace UnitWatch

/-! ## Separators -/

/-- A text has no separator at an end, and no two side by side. -/
structure Separated (sep : Char) (s : List Char) : Prop where
  front : s.head? ≠ some sep
  back : s.getLast? ≠ some sep
  single : ¬[sep, sep] <:+: s

/-- A text is separated if nothing between its separators is empty. -/
theorem separated_of_splitOn {sep : Char} {s : List Char} (full : [] ∉ s.splitOn sep) :
    Separated sep s where
  front h := by
    obtain ⟨rest, rfl⟩ := List.head?_eq_some_iff.mp h
    have cut := List.splitOn_append_cons_self (a := sep) [] rest
    exact full (by simp_all)
  back h := by
    obtain ⟨init, rfl⟩ := List.getLast?_eq_some_iff.mp h
    have cut := List.splitOn_append_cons_self (a := sep) init []
    exact full (by simp_all)
  single := by
    rintro ⟨before, after, rfl⟩
    have cut := List.splitOn_append_cons_self (a := sep) before (sep :: after)
    have empty := List.splitOn_append_cons_self (a := sep) [] after
    exact full (by simp_all)

/-- Parts that are not empty and have no separator are separated when joined. -/
theorem separated_intercalate {sep : Char} {parts : List (List Char)} (nonempty : parts ≠ [])
    (full : ∀ e ∈ parts, e ≠ []) (free : ∀ e ∈ parts, sep ∉ e) :
    Separated sep ([sep].intercalate parts) := by
  refine separated_of_splitOn ?_
  rw [List.splitOn_intercalate sep free nonempty]
  exact fun h => full _ h rfl

theorem mem_of_mem_intercalate {α : Type} {sep : List α} {parts : List (List α)} {a : α}
    (h : a ∈ sep.intercalate parts) : a ∈ sep ∨ ∃ e ∈ parts, a ∈ e := by
  induction parts with
  | nil => simp at h
  | cons e parts ih =>
    cases parts with
    | nil => exact .inr ⟨e, List.mem_cons_self, by simpa using h⟩
    | cons e' parts =>
      rw [List.intercalate_cons_cons, List.mem_append, List.mem_append] at h
      rcases h with (h | h) | h
      · exact .inr ⟨e, List.mem_cons_self, h⟩
      · exact .inl h
      · exact (ih h).imp_right fun ⟨x, hx, ha⟩ => ⟨x, List.mem_cons_of_mem _ hx, ha⟩

theorem map_intercalate {α β : Type} (f : α → β) (sep : List α) (parts : List (List α)) :
    (sep.intercalate parts).map f = (sep.map f).intercalate (parts.map (List.map f)) := by
  induction parts with
  | nil => rfl
  | cons e parts ih =>
    cases parts with
    | nil => simp
    | cons e' parts =>
      simp only [List.intercalate_cons_cons, List.map_append, List.map_cons, ih]

namespace BusName

/-! ## Names -/

/-- An element of a name: ASCII letters, ASCII digits, low lines and hyphens, at least one of them
and no digit in front. -/
structure IsElement (e : String) : Prop where
  nonempty : e ≠ ""
  chars : ∀ c ∈ e.toList, c.isAlphanum ∨ c = '_' ∨ c = '-'
  start : ∀ c, e.toList.head? = some c → c.isDigit = false

/-- A text is a name that consists of these elements. -/
structure Consists (name : String) (es : List String) : Prop where
  short : name.length ≤ 255
  several : 2 ≤ es.length
  elements : ∀ e ∈ es, IsElement e
  joined : name = ".".intercalate es

theorem isElementRest_iff {c : Char} :
    isElementRest c = true ↔ c.isAlphanum ∨ c = '_' ∨ c = '-' := by
  simp only [isElementRest, isElementStart, Char.isAlphanum, Bool.or_eq_true, beq_iff_eq]
  tauto

theorem isAlpha_iff_toNat {c : Char} : c.isAlpha = true ↔
    ('A'.toNat ≤ c.toNat ∧ c.toNat ≤ 'Z'.toNat) ∨ 'a'.toNat ≤ c.toNat ∧ c.toNat ≤ 'z'.toNat := by
  show (decide (c.val ≥ 'A'.val ∧ c.val ≤ 'Z'.val) ||
    (c.val ≥ 'a'.val && c.val ≤ 'z'.val)) = true ↔ _
  simp only [Bool.or_eq_true, Bool.and_eq_true, decide_eq_true_eq, ge_iff_le,
    UInt32.le_iff_toNat_le]
  rfl

/-- No letter is a digit. -/
theorem isElementStart_iff {c : Char} :
    isElementStart c = true ↔ isElementRest c = true ∧ c.isDigit = false := by
  have letter (h : c.isAlpha = true) : c.isDigit = false := by
    have beyond : '9'.toNat < 'A'.toNat ∧ '9'.toNat < 'a'.toNat := by decide
    rw [isAlpha_iff_toNat] at h
    rw [← Bool.not_eq_true, Char.isDigit_iff_toNat]
    omega
  simp only [isElementRest, isElementStart, Bool.or_eq_true, beq_iff_eq]
  constructor
  · rintro ((h | rfl) | rfl)
    · exact ⟨.inl (.inl (.inl h)), letter h⟩
    · exact ⟨.inl (.inl (.inr rfl)), by decide⟩
    · exact ⟨.inl (.inr rfl), by decide⟩
  · rintro ⟨h | h, other⟩
    · exact h
    · rw [other] at h
      cases h

theorem isElement_iff {e : String} : isElement e.toList = true ↔ IsElement e := by
  have spelled (s : List Char) : isElement s = true ↔ s ≠ [] ∧
      (∀ c ∈ s, isElementRest c = true) ∧ ∀ c, s.head? = some c → c.isDigit = false := by
    cases s with
    | nil => simp [isElement]
    | cons c rest =>
      simp only [isElement, Bool.and_eq_true, List.all_eq_true, isElementStart_iff]
      simp
      tauto
  rw [spelled]
  simp only [isElementRest_iff, ne_eq, String.toList_eq_nil_iff]
  exact ⟨fun ⟨h, h', h''⟩ => ⟨h, h', h''⟩, fun ⟨h, h', h''⟩ => ⟨h, h', h''⟩⟩

theorem elements_eq_splitOn (s : List Char) : elements s = s.splitOn '.' := by
  induction s with
  | nil => rfl
  | cons c rest ih =>
    rw [elements, ih, List.splitOn_cons_eq_if_modifyHead]
    cases h : rest.splitOn '.' with
    | nil => exact absurd h (List.splitOn_ne_nil _ _)
    | cons e es => by_cases dot : c = '.' <;> simp [dot]

theorem IsElement.dot_not_mem {e : String} (h : IsElement e) : '.' ∉ e.toList := by
  intro dot
  have := h.chars _ dot
  revert this
  decide

namespace Consists

variable {name : String} {es : List String}

theorem ne_nil (h : Consists name es) : es ≠ [] := by
  rintro rfl
  exact absurd h.several (by decide)

theorem toList_eq (h : Consists name es) :
    name.toList = ['.'].intercalate (es.map String.toList) := by
  rw [h.joined, String.toList_intercalate]
  rfl

theorem elements_eq (h : Consists name es) :
    BusName.elements name.toList = es.map String.toList := by
  rw [elements_eq_splitOn, h.toList_eq]
  refine List.splitOn_intercalate '.' ?_ (by simpa using h.ne_nil)
  simp only [List.forall_mem_map]
  exact fun e he => (h.elements e he).dot_not_mem

/-- There is no dot at an end, and no two are side by side. -/
theorem separated (h : Consists name es) : Separated '.' name.toList := by
  rw [h.toList_eq]
  refine separated_intercalate (by simpa using h.ne_nil) ?_ ?_
  · simp only [List.forall_mem_map, ne_eq, String.toList_eq_nil_iff]
    exact fun e he => (h.elements e he).nonempty
  · simp only [List.forall_mem_map]
    exact fun e he => (h.elements e he).dot_not_mem

theorem char_of_mem (h : Consists name es) {c : Char} (hc : c ∈ name.toList) :
    c = '.' ∨ c.isAlphanum ∨ c = '_' ∨ c = '-' := by
  rw [h.toList_eq] at hc
  rcases mem_of_mem_intercalate hc with dot | ⟨_, part, hc⟩
  · exact .inl (List.mem_singleton.mp dot)
  · obtain ⟨e, he, rfl⟩ := List.mem_map.mp part
    exact .inr ((h.elements e he).chars c hc)

end Consists

/-- **A name is valid if and only if it consists of elements.** -/
theorem isValid_iff {name : String} : isValid name = true ↔ ∃ es, Consists name es := by
  simp only [isValid, Bool.and_eq_true, decide_eq_true_eq, String.length_toList, maxLength,
    List.all_eq_true]
  constructor
  · rintro ⟨⟨short, several⟩, valid⟩
    refine ⟨(elements name.toList).map String.ofList, short, by simpa using several, ?_, ?_⟩
    · simp only [List.forall_mem_map, ← isElement_iff, String.toList_ofList]
      exact valid
    · refine String.toList_injective ?_
      simp [String.toList_intercalate, elements_eq_splitOn, List.intercalate_splitOn]
  · rintro ⟨es, h⟩
    have elements := h.elements
    rw [h.elements_eq]
    exact ⟨⟨h.short, by simpa using h.several⟩, by simpa [isElement_iff] using elements⟩

/-! ## Paths -/

/-- A text is an object path that consists of these elements: ASCII letters, ASCII digits and low
lines. -/
structure IsPath (path : String) (es : List String) : Prop where
  elements : ∀ e ∈ es, e ≠ "" ∧ ∀ c ∈ e.toList, c.isAlphanum ∨ c = '_'
  joined : path = "/" ++ "/".intercalate es

/-- The path element behind an element of a name. -/
def pathElement (e : String) : String := e.map fun c => if c = '-' then '_' else c

theorem pathElement_chars {e : String} (h : IsElement e) :
    pathElement e ≠ "" ∧ ∀ c ∈ (pathElement e).toList, c.isAlphanum ∨ c = '_' := by
  constructor
  · rw [ne_eq, ← String.toList_eq_nil_iff, pathElement, String.toList_map, List.map_eq_nil_iff,
      String.toList_eq_nil_iff]
    exact h.nonempty
  · simp only [pathElement, String.toList_map, List.forall_mem_map]
    intro c hc
    split
    · exact .inr rfl
    · next other => exact (h.chars c hc).imp_right (Or.resolve_right · other)

namespace IsPath

variable {path : String} {es es' : List String}

theorem toList_eq (h : IsPath path es) :
    path.toList = '/' :: ['/'].intercalate (es.map String.toList) := by
  rw [h.joined, String.toList_append, String.toList_intercalate]
  rfl

theorem slash_not_mem (h : IsPath path es) : ∀ e ∈ es.map String.toList, '/' ∉ e := by
  simp only [List.forall_mem_map]
  intro e he slash
  have := (h.elements e he).2 _ slash
  revert this
  decide

theorem splitOn_eq (h : IsPath path es) (nonempty : es ≠ []) :
    path.toList.splitOn '/' = [] :: es.map String.toList := by
  have cut := List.splitOn_append_cons_self (a := '/') [] (['/'].intercalate (es.map String.toList))
  rw [List.splitOn_intercalate '/' h.slash_not_mem (by simpa using nonempty)] at cut
  rw [h.toList_eq]
  exact cut

/-- Only the path without elements ends in a slash. -/
theorem back_iff (h : IsPath path es) : path.toList.getLast? = some '/' ↔ es = [] := by
  rw [h.toList_eq]
  constructor
  · intro last
    by_contra nonempty
    have parts : ∀ e ∈ es.map String.toList, e ≠ [] := by
      simp only [List.forall_mem_map, ne_eq, String.toList_eq_nil_iff]
      exact fun e he => (h.elements e he).1
    have separated := separated_intercalate (by simpa using nonempty) parts h.slash_not_mem
    cases hs : ['/'].intercalate (es.map String.toList) with
    | nil =>
      have cut := List.splitOn_intercalate '/' h.slash_not_mem (by simpa using nonempty)
      rw [hs, List.splitOn_nil] at cut
      exact parts [] (cut ▸ List.mem_singleton_self []) rfl
    | cons c rest =>
      rw [hs, List.getLast?_cons_cons] at last
      exact separated.back (hs ▸ last)
  · rintro rfl
    rfl

/-- A path has one list of elements. -/
theorem unique (h : IsPath path es) (h' : IsPath path es') : es = es' := by
  have both : es = [] ↔ es' = [] := h.back_iff.symm.trans h'.back_iff
  by_cases root : es = []
  · rw [root, both.mp root]
  · have same := (h.splitOn_eq root).symm.trans (h'.splitOn_eq (root ∘ both.mpr))
    exact List.map_injective_iff.mpr (fun _ _ => String.toList_injective) (List.cons.inj same).2

end IsPath

/-- **The path behind a name** has the elements of the name, with low lines for hyphens. -/
theorem Consists.isPath {name : String} {es : List String} (h : Consists name es) :
    IsPath (objectPath name) (es.map pathElement) where
  elements := by
    simp only [List.forall_mem_map]
    exact fun e he => pathElement_chars (h.elements e he)
  joined := by
    refine String.toList_injective ?_
    have each : ∀ e ∈ es, (List.map pathChar ∘ String.toList) e = (pathElement e).toList := by
      intro e he
      rw [pathElement, String.toList_map]
      refine List.map_congr_left fun c hc => ?_
      have other : c ≠ '.' := by
        rintro rfl
        exact (h.elements e he).dot_not_mem hc
      rw [pathChar, if_neg other]
    rw [objectPath, String.toList_ofList, h.toList_eq, map_intercalate, List.map_map,
      List.map_congr_left each]
    simp [String.toList_intercalate, pathChar, Function.comp_def]

/-! ## Both -/

theorem ascii_of_char {c : Char} (h : c = '.' ∨ c.isAlphanum ∨ c = '_' ∨ c = '-') :
    c.toNat < 128 ∧ c ≠ ':' ∧ c ≠ '\n' := by
  have plain (alphanumeric : c.isAlphanum = true) : c.toNat < 128 := by
    have ascii : 'Z'.toNat < 128 ∧ 'z'.toNat < 128 ∧ '9'.toNat < 128 := by decide
    rw [Char.isAlphanum, Bool.or_eq_true, isAlpha_iff_toNat, Char.isDigit_iff_toNat] at alphanumeric
    omega
  rcases h with rfl | h | rfl | rfl
  · decide
  · refine ⟨plain h, ?_, ?_⟩ <;> rintro rfl <;> revert h <;> decide
  · decide
  · decide

/-- **Names and their paths.** A text is a valid name if and only if it consists of elements of the
grammar, two or more of them and at most 255 characters in all. Then

- it has no dot at an end and no two side by side, and all its characters are ASCII, without colons
  and line feeds;
- the path behind it starts with a slash and does not end with one, and its elements, which are
  unique, are those of the name with low lines for hyphens. -/
theorem consists_and_path (name : String) :
    (isValid name = true ↔ ∃ es, Consists name es) ∧
    ∀ es, Consists name es →
      Separated '.' name.toList ∧
      (∀ c ∈ name.toList, c.toNat < 128 ∧ c ≠ ':' ∧ c ≠ '\n') ∧
      (objectPath name).toList.head? = some '/' ∧
      (objectPath name).toList.getLast? ≠ some '/' ∧
      ∀ ps, IsPath (objectPath name) ps ↔
        ps = es.map (String.map fun c => if c = '-' then '_' else c) := by
  refine ⟨isValid_iff, fun es h => ?_⟩
  have path := h.isPath
  refine ⟨h.separated, fun c hc => ascii_of_char (h.char_of_mem hc), ?_, ?_, fun ps => ?_⟩
  · rw [path.toList_eq]
    rfl
  · rw [ne_eq, path.back_iff, List.map_eq_nil_iff]
    exact h.ne_nil
  · exact ⟨fun h' => h'.unique path, fun same => same ▸ path⟩

/-- Hyphens and digits may stand where they like, except that no element starts with a digit. -/
theorem path_of_hyphenated_name :
    Consists "org.mail-box.-2" ["org", "mail-box", "-2"] ∧
    isValid "org.mail-box.-2" = true ∧
    IsPath (objectPath "org.mail-box.-2") ["org", "mail_box", "_2"] := by
  have consists : Consists "org.mail-box.-2" ["org", "mail-box", "-2"] := by
    refine ⟨by decide, by decide, ?_, by decide⟩
    simp only [List.forall_mem_cons, List.not_mem_nil, false_imp_iff, implies_true, and_true]
    exact ⟨⟨by decide, by simp, by simp⟩, ⟨by decide, by simp, by simp⟩,
      ⟨by decide, by simp, by simp⟩⟩
  obtain ⟨valid, path⟩ := consists_and_path "org.mail-box.-2"
  refine ⟨consists, valid.mpr ⟨_, consists⟩, ?_⟩
  exact ((path _ consists).2.2.2.2 _).mpr (by simp [← String.toList_inj])

end BusName

end UnitWatch
