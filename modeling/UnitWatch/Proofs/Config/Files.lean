import UnitWatch.Config.Load
import UnitWatch.Proofs.Config.Options
import UnitWatch.Proofs.Json.Reader
import UnitWatch.Proofs.Text.LowerCase

/-!
# What configuration files say

**Mappings** (`WellFormed`). The mapping of a YAML text has each key once, and so does every mapping
under one of its keys (`wellFormed_of_read`). Keys become names without a clash as long as a name has
only characters that stand for themselves (`Ordinary`), as the names of options do.

**Files** (`Holds`, `Proper`). A file is absent, or it holds a mapping. The last file that has a name
decides on it, as a whole (`fileValue`, `field?_updates`): here an option of an earlier file is lost if
a later file has another option of its group.
-/

namespace UnitWatch.Yaml.Data

/-! ## Keys as names -/

/-- A name whose characters stand for themselves. -/
def Ordinary (name : String) : Prop := ∀ c ∈ name.toList, c ≠ '\ufffd' ∧ c ≠ '\x00'

instance (name : String) : Decidable (Ordinary name) := List.decidableBAll _ name.toList

theorem eq_of_textOf {codes : List Nat} {name : String} (ordinary : Ordinary name)
    (h : textOf codes = name) : codes = name.toList.map Char.toNat := by
  subst h
  rw [Ordinary, textOf, String.toList_ofList] at ordinary
  rw [textOf, String.toList_ofList, List.map_map]
  refine (List.map_id codes).symm.trans (List.map_congr_left fun n hn => ?_)
  obtain ⟨notReplaced, notNull⟩ := ordinary _ (List.mem_map_of_mem hn)
  by_cases surrogate : Text.isSurrogate n = true
  · exact absurd (if_pos surrogate) notReplaced
  · rw [if_neg surrogate] at notNull
    rw [Function.comp, if_neg surrogate, (Text.toNat_ofNat_or n).resolve_right notNull, id]

/-- The key that a name stands for. -/
def keyOf (name : String) : Data := .text (name.toList.map Char.toNat)

theorem textOf_key (name : String) : textOf (name.toList.map Char.toNat) = name := by
  rw [textOf, List.map_map]
  have characters : name.toList.map ((fun n => if Text.isSurrogate n then '\ufffd'
      else Char.ofNat n) ∘ Char.toNat) = name.toList := by
    refine (List.map_congr_left fun c _ => ?_).trans (List.map_id _)
    have valid : c.toNat < 0xd800 ∨ 0xdfff < c.toNat ∧ c.toNat < 0x110000 := c.valid
    have notSurrogate : Text.isSurrogate c.toNat = false := by
      simp only [Text.isSurrogate, Text.isHighSurrogate, Text.isLowSurrogate, Bool.or_eq_false_iff,
        Bool.and_eq_false_iff, decide_eq_false_iff_not]
      omega
    rw [Function.comp, notSurrogate, if_neg Bool.false_ne_true, Char.ofNat_toNat, id]
  rw [characters, String.ofList_toList]

/-- Of an ordinary name there is only one key. -/
theorem textOf_eq_iff {codes : List Nat} {name : String} (ordinary : Ordinary name) :
    textOf codes = name ↔ Data.text codes = keyOf name := by
  constructor
  · intro h
    rw [eq_of_textOf ordinary h, keyOf]
  · intro h
    cases h
    exact textOf_key name

/-! ## Mappings -/

/-- Each key occurs once. -/
def Distinct (entries : List (Data × Data)) : Prop :=
  entries.Pairwise fun e f => e.1.sameKey f.1 = false

theorem map_fst_put (entries : List (Data × Data)) (k v : Data) :
    (put entries k v).map Prod.fst =
      if entries.any fun e => e.1.sameKey k then entries.map Prod.fst
      else entries.map Prod.fst ++ [k] := by
  unfold put
  split
  · rw [List.map_map]
    refine List.map_congr_left fun e _ => ?_
    simp only [Function.comp]
    split <;> rfl
  · simp

theorem Distinct.put {entries : List (Data × Data)} (h : Distinct entries) (k v : Data) :
    Distinct (put entries k v) := by
  unfold Distinct at *
  rw [← List.pairwise_map (f := Prod.fst) (R := fun a b => Data.sameKey a b = false)] at h ⊢
  rw [map_fst_put]
  split
  · exact h
  · next fresh =>
    refine List.pairwise_append.mpr ⟨h, List.pairwise_singleton .., ?_⟩
    simpa using fresh

theorem mem_put {entries : List (Data × Data)} {k v : Data} {e : Data × Data}
    (h : e ∈ put entries k v) : e ∈ entries ∨ e.2 = v := by
  unfold put at h
  split at h
  · obtain ⟨f, hf, rfl⟩ := List.mem_map.mp h
    split
    · exact .inr rfl
    · exact .inl hf
  · simp only [List.mem_append, List.mem_singleton] at h
    rcases h with h | rfl
    · exact .inl h
    · exact .inr rfl

/-- Entries put one after the other: keys are distinct, and values are those that were put. -/
theorem distinct_putAll {entries : List (Data × Data)} (h : Distinct entries)
    (later : List (Data × Data)) :
    Distinct (later.foldl (fun m e => put m e.1 e.2) entries) ∧
      ∀ e ∈ later.foldl (fun m e => put m e.1 e.2) entries,
        e ∈ entries ∨ ∃ f ∈ later, e.2 = f.2 := by
  induction later generalizing entries with
  | nil => exact ⟨h, fun e he => .inl he⟩
  | cons f later ih =>
    obtain ⟨distinct, from_⟩ := ih (h.put f.1 f.2)
    refine ⟨distinct, fun e he => ?_⟩
    rcases from_ e he with earlier | ⟨g, hg, same⟩
    · rcases mem_put earlier with earlier | same
      · exact .inl earlier
      · exact .inr ⟨f, List.mem_cons_self, same⟩
    · exact .inr ⟨g, List.mem_cons_of_mem _ hg, same⟩

theorem ofNodePairs_values {nodes : List (Node × Node)} {entries : List (Data × Data)}
    (h : ofNodePairs nodes = .ok entries) : ∀ e ∈ entries, ∃ n, ofNode n = .ok e.2 := by
  induction nodes generalizing entries with
  | nil => cases h; simp
  | cons p rest ih =>
    obtain ⟨k, v⟩ := p
    rw [ofNodePairs] at h
    cases hk : ofNode k with
    | error e => simp [hk, bind, Except.bind] at h
    | ok dk =>
      cases hv : ofNode v with
      | error e => simp [hk, hv, bind, Except.bind] at h
      | ok dv =>
        cases hrest : ofNodePairs rest with
        | error e => simp [hk, hv, hrest, bind, Except.bind] at h
        | ok entries' =>
          obtain rfl : entries = (dk, dv) :: entries' := by
            simpa [hk, hv, hrest, bind, Except.bind, pure, Except.pure, eq_comm] using h
          exact List.forall_mem_cons.mpr ⟨⟨v, hv⟩, ih hrest⟩

theorem map_ne_mapping {α ε : Type} {x : Except ε α} {f : α → Data} {entries : List (Data × Data)}
    (plain : ∀ a, f a ≠ .mapping entries) : x.map f ≠ .ok (.mapping entries) := by
  cases x with
  | error e => nofun
  | ok a => simpa [Except.map] using plain a

theorem ofScalar_ne_mapping (tag : String) (codes : List Nat) (entries : List (Data × Data)) :
    ofScalar tag codes ≠ .ok (.mapping entries) := by
  intro h
  simp only [ofScalar] at h
  split at h
  · next k found =>
    have among := List.mem_of_find?_eq_some found
    simp only [List.mem_cons, List.not_mem_nil, or_false] at among
    rcases among with rfl | rfl | rfl | rfl | rfl | rfl | rfl
    · cases h
    · exact map_ne_mapping nofun h
    · exact map_ne_mapping nofun h
    · exact map_ne_mapping nofun h
    · exact map_ne_mapping nofun h
    · simp only [ofLetters] at h
      repeat' split at h
      all_goals cases h
    · cases h
  · cases h

theorem ofSequence_ne_mapping (tag : String) (items : List Data) (entries : List (Data × Data)) :
    ofSequence tag items ≠ .ok (.mapping entries) := by
  unfold ofSequence
  split
  · nofun
  · split
    · exact map_ne_mapping nofun
    · nofun

theorem ofMapping_eq_mapping {tag : String} {entries entries' : List (Data × Data)}
    (h : ofMapping tag entries = .ok (.mapping entries')) :
    entries' = entries.foldl (fun m e => put m e.1 e.2) [] := by
  unfold ofMapping ofEntries at h
  split at h
  · split at h
    · simpa [Except.map, eq_comm] using h
    · cases h
  · split at h
    · exact absurd h (map_ne_mapping nofun)
    · cases h

/-- Only a mapping is read as a mapping, and its keys are distinct. -/
theorem distinct_of_ofNode {n : Node} {entries : List (Data × Data)}
    (h : ofNode n = .ok (.mapping entries)) :
    Distinct entries ∧ ∀ e ∈ entries, ∃ n, ofNode n = .ok e.2 := by
  cases n with
  -- A scalar or a sequence is never read as a mapping, whatever its tag.
  | scalar tag codes plain =>
    exfalso
    cases tag with
    | some tag => exact ofScalar_ne_mapping _ _ _ (by simpa [ofNode] using h)
    | none =>
      cases plain with
      | true => exact ofScalar_ne_mapping _ _ _ (by simpa [ofNode] using h)
      | false => simp [ofNode] at h
  | sequence tag items =>
    simp only [ofNode, bind, Except.bind] at h
    split at h
    · cases h
    · exact absurd h (ofSequence_ne_mapping _ _ _)
  | mapping tag nodes =>
    simp only [ofNode, bind, Except.bind] at h
    split at h
    · cases h
    · next pairs read =>
      obtain rfl := ofMapping_eq_mapping h
      obtain ⟨distinct, among⟩ := distinct_putAll (show Distinct [] from .nil) pairs
      refine ⟨distinct, fun e he => ?_⟩
      rcases among e he with none | ⟨f, hf, same⟩
      · cases none
      · rw [same]
        exact ofNodePairs_values read f hf
  | cycle => simp [ofNode] at h

/-- A mapping as it is read: its keys are distinct, and those of the mappings in it are. -/
structure WellFormed (entries : List (Data × Data)) : Prop where
  distinct : Distinct entries
  inner : ∀ e ∈ entries, ∀ entries', e.2 = .mapping entries' → Distinct entries'

theorem wellFormed_of_read {s : List Char} {entries : List (Data × Data)}
    (h : Yaml.read s = .ok (.mapping entries)) : WellFormed entries := by
  simp only [Yaml.read, bind, Except.bind] at h
  split at h
  · cases h
  · split at h
    · cases h
    · split at h
      · obtain ⟨distinct, values⟩ := distinct_of_ofNode h
        refine ⟨distinct, fun e he entries' same => ?_⟩
        obtain ⟨n, hn⟩ := values e he
        exact (distinct_of_ofNode (same ▸ hn)).1
      · cases h

/-! ## Mappings as fields -/

theorem sameKey_keyOf {k : Data} {name : String} : k.sameKey (keyOf name) ↔ k = keyOf name := by
  cases k <;> simp [sameKey, keyOf, keyNumber?]

theorem keyOf_sameKey {k : Data} {name : String} : (keyOf name).sameKey k ↔ keyOf name = k := by
  cases k <;> simp [sameKey, keyOf, keyNumber?]

theorem field?_toFields_cons_self {e : Data × Data} {name : String} (h : e.1 = keyOf name)
    (entries : List (Data × Data)) :
    Value.field? (toFields (e :: entries)) name = some e.2.toValue := by
  obtain ⟨k, v⟩ := e
  obtain rfl : k = keyOf name := h
  unfold keyOf
  rw [toFields, Value.field?_cons, if_pos (textOf_key name).symm]

theorem field?_toFields_cons_of_ne {e : Data × Data} {name : String} (ordinary : Ordinary name)
    (h : e.1 ≠ keyOf name) (entries : List (Data × Data)) :
    Value.field? (toFields (e :: entries)) name = Value.field? (toFields entries) name := by
  obtain ⟨k, v⟩ := e
  cases k with
  | text codes =>
    rw [toFields, Value.field?_cons, if_neg fun same => h ((textOf_eq_iff ordinary).mp same.symm)]
  | _ => rfl

theorem field?_toFields_eq_none {name : String} (ordinary : Ordinary name)
    {entries : List (Data × Data)} :
    Value.field? (toFields entries) name = none ↔ ∀ e ∈ entries, e.1 ≠ keyOf name := by
  induction entries with
  | nil => simp [toFields]
  | cons e entries ih =>
    rw [List.forall_mem_cons]
    by_cases h : e.1 = keyOf name
    · rw [field?_toFields_cons_self h]
      exact ⟨nofun, fun apart => absurd h apart.1⟩
    · rw [field?_toFields_cons_of_ne ordinary h, ih]
      exact ⟨fun rest => ⟨h, rest⟩, And.right⟩

theorem field?_toFields_append {name : String} (entries others : List (Data × Data)) :
    Value.field? (toFields (entries ++ others)) name =
      (Value.field? (toFields entries) name).or (Value.field? (toFields others) name) := by
  induction entries with
  | nil => simp [toFields]
  | cons e entries ih =>
    obtain ⟨k, v⟩ := e
    cases k with
    | text codes =>
      rw [List.cons_append, toFields, toFields, Value.field?_cons, Value.field?_cons, ih]
      split <;> rfl
    | _ => exact ih

/-- Putting an entry decides on the name of its key. -/
theorem field?_toFields_put_self {name : String} (ordinary : Ordinary name)
    (entries : List (Data × Data)) (v : Data) :
    Value.field? (toFields (put entries (keyOf name) v)) name = some v.toValue := by
  unfold put
  split
  · next there =>
    induction entries with
    | nil => simp at there
    | cons e entries ih =>
      rw [List.map_cons]
      by_cases h : e.1 = keyOf name
      · rw [if_pos (sameKey_keyOf.mpr h)]
        exact field?_toFields_cons_self (e := (e.1, v)) h _
      · have differs : ¬e.1.sameKey (keyOf name) = true := fun same => h (sameKey_keyOf.mp same)
        rw [if_neg differs, field?_toFields_cons_of_ne ordinary h]
        exact ih (by simpa [differs] using there)
  · next fresh =>
    have absent : Value.field? (toFields entries) name = none := by
      rw [field?_toFields_eq_none ordinary]
      intro e he atName
      exact fresh (List.any_eq_true.mpr ⟨e, he, sameKey_keyOf.mpr atName⟩)
    rw [field?_toFields_append, absent, field?_toFields_cons_self rfl]
    rfl

/-- Putting an entry leaves other names as they are. -/
theorem field?_toFields_put_of_ne {name : String} (ordinary : Ordinary name) {k : Data}
    (h : k ≠ keyOf name) (entries : List (Data × Data)) (v : Data) :
    Value.field? (toFields (put entries k v)) name = Value.field? (toFields entries) name := by
  unfold put
  split
  · clear * - ordinary h
    induction entries with
    | nil => rfl
    | cons e entries ih =>
      rw [List.map_cons]
      by_cases atName : e.1 = keyOf name
      · have differs : ¬e.1.sameKey k = true := by
          rw [atName, keyOf_sameKey]
          exact h.symm
        rw [if_neg differs, field?_toFields_cons_self atName, field?_toFields_cons_self atName]
      · have apart : (if e.1.sameKey k then (e.1, v) else e).1 ≠ keyOf name := by
          split <;> exact atName
        rw [field?_toFields_cons_of_ne ordinary apart, field?_toFields_cons_of_ne ordinary atName,
          ih]
  · rw [field?_toFields_append, field?_toFields_cons_of_ne ordinary h, toFields, Value.field?_nil,
      Option.or_none]

/-- Where a key is fresh, the name of it is absent. -/
theorem field?_toFields_of_fresh {name : String} (ordinary : Ordinary name) {k : Data}
    (h : k = keyOf name) {entries : List (Data × Data)}
    (fresh : ∀ e ∈ entries, k.sameKey e.1 = false) :
    Value.field? (toFields entries) name = none := by
  rw [field?_toFields_eq_none ordinary]
  intro e he atName
  have apart := fresh e he
  rw [h, atName, keyOf_sameKey.mpr rfl] at apart
  cases apart

theorem once_of_distinct {entries : List (Data × Data)} (h : Distinct entries) {name : String}
    (ordinary : Ordinary name) : ((toFields entries).map Prod.fst).count name ≤ 1 := by
  induction entries with
  | nil => simp [toFields]
  | cons e entries ih =>
    obtain ⟨k, v⟩ := e
    obtain ⟨fresh, rest⟩ := List.pairwise_cons.mp h
    cases k with
    | text codes =>
      rw [toFields, List.map_cons, List.count_cons]
      by_cases same : textOf codes = name
      · have absent : Value.field? (toFields entries) name = none :=
          field?_toFields_of_fresh ordinary ((textOf_eq_iff ordinary).mp same) fresh
        rw [Value.field?_eq_none_iff, ← List.count_eq_zero] at absent
        rw [absent]
        split <;> omega
      · simpa [same] using ih rest
    | _ => simpa [toFields] using ih rest

theorem name_of_toFields {entries : List (Data × Data)} {name : String} :
    name ∈ (toFields entries).map Prod.fst ↔
      ∃ codes, .text codes ∈ entries.map Prod.fst ∧ textOf codes = name := by
  induction entries with
  | nil => simp [toFields]
  | cons e entries ih =>
    obtain ⟨k, v⟩ := e
    cases k with
    | text codes =>
      rw [toFields, List.map_cons, List.map_cons, List.mem_cons, ih]
      simp only [List.mem_cons, text.injEq, or_and_right, exists_or, exists_eq_left]
      rw [eq_comm]
    | _ => simpa [toFields] using ih

theorem exists_of_field?_toFields {entries : List (Data × Data)} {name : String} {v : Value}
    (h : Value.field? (toFields entries) name = some v) : ∃ e ∈ entries, e.2.toValue = v := by
  induction entries with
  | nil => cases h
  | cons e entries ih =>
    have later (there : Value.field? (toFields entries) name = some v) :
        ∃ f ∈ e :: entries, f.2.toValue = v := by
      obtain ⟨f, hf, same⟩ := ih there
      exact ⟨f, List.mem_cons_of_mem _ hf, same⟩
    obtain ⟨k, d⟩ := e
    cases k with
    | text codes =>
      rw [toFields, Value.field?_cons] at h
      split at h
      · exact ⟨_, List.mem_cons_self, Option.some.inj h⟩
      · exact later h
    | _ => exact later h

theorem toValue_eq_object {d : Data} {fields : List (String × Value)}
    (h : d.toValue = .object fields) : ∃ inner, d = .mapping inner ∧ fields = toFields inner := by
  cases d with
  | mapping inner => exact ⟨inner, rfl, by simpa [toValue, eq_comm] using h⟩
  | text codes =>
    have none := Json.namedFields?_textValue codes
    rw [show Json.textValue codes = .object fields from h] at none
    cases none
  | _ => simp [toValue] at h

/-- An object in a mapping that is read has each ordinary name once. -/
theorem WellFormed.once {entries : List (Data × Data)} (h : WellFormed entries) {name : String}
    {fields : List (String × Value)}
    (found : Value.field? (toFields entries) name = some (.object fields)) {option : String}
    (ordinary : Ordinary option) : (fields.map Prod.fst).count option ≤ 1 := by
  obtain ⟨e, he, same⟩ := exists_of_field?_toFields found
  obtain ⟨inner, mapping, rfl⟩ := toValue_eq_object same
  exact once_of_distinct (h.inner e he inner mapping) ordinary

end UnitWatch.Yaml.Data

namespace UnitWatch.Config

open Yaml (Data)
open Yaml.Data

/-! ## Files over files -/

/-- What a later file says counts before what the earlier ones say. -/
theorem field?_update {name : String} (ordinary : Ordinary name) (entries : List (Data × Data))
    {later : List (Data × Data)} (distinct : Distinct later) :
    Value.field? (toFields (update entries later)) name =
      (Value.field? (toFields later) name).or (Value.field? (toFields entries) name) := by
  unfold update
  induction later generalizing entries with
  | nil => rfl
  | cons e later ih =>
    obtain ⟨fresh, rest⟩ := List.pairwise_cons.mp distinct
    rw [List.foldl_cons, ih _ rest]
    by_cases h : e.1 = keyOf name
    · rw [h, field?_toFields_put_self ordinary, field?_toFields_of_fresh ordinary h fresh,
        field?_toFields_cons_self h]
      rfl
    · rw [field?_toFields_put_of_ne ordinary h, field?_toFields_cons_of_ne ordinary h]

/-- The keys of files over files are keys of one of them. -/
theorem key_of_update {entries later : List (Data × Data)} {k : Data}
    (h : k ∈ (update entries later).map Prod.fst) :
    k ∈ entries.map Prod.fst ∨ k ∈ later.map Prod.fst := by
  unfold update at h
  induction later generalizing entries with
  | nil => exact .inl h
  | cons e later ih =>
    rcases ih h with earlier | there
    · rw [map_fst_put] at earlier
      split at earlier
      · exact .inl earlier
      · rcases List.mem_append.mp earlier with earlier | this
        · exact .inl earlier
        · exact .inr (List.mem_cons.mpr (.inl (List.mem_singleton.mp this)))
    · exact .inr (List.mem_cons_of_mem _ there)

/-! ## Files -/

/-- A file is absent, or it holds a mapping. -/
def Holds (h : Host) (p : Path) (said : List (Data × Data)) : Prop :=
  (h.isThere p = .ok false ∧ said = []) ∨
    ∃ text, h.isThere p = .ok true ∧ h.readText p = .ok text ∧
      Yaml.read text = .ok (.mapping said)

theorem Holds.wellFormed {h : Host} {p : Path} {said : List (Data × Data)}
    (holds : Holds h p said) : WellFormed said := by
  rcases holds with ⟨-, rfl⟩ | ⟨text, -, -, read⟩
  · exact ⟨.nil, by simp⟩
  · exact wellFormed_of_read read

theorem wellFormed_of_holds {h : Host} {paths : List Path} {said : List (List (Data × Data))}
    (holds : List.Forall₂ (Holds h) paths said) : ∀ m ∈ said, WellFormed m := by
  induction holds with
  | nil => nofun
  | cons first _ ih => exact List.forall_mem_cons.mpr ⟨first.wellFormed, ih⟩

theorem addFile_of_holds {h : Host} {p : Path} {said : List (Data × Data)}
    (holds : Holds h p said) (entries : List (Data × Data)) :
    addFile h entries p = .ok (update entries said) := by
  rcases holds with ⟨absent, rfl⟩ | ⟨text, there, read, data⟩
  · simp [addFile, absent, bind, Except.bind, Except.mapError, update, pure, Except.pure]
  · have mapping : entriesOf (.mapping said) = .ok said := by
      cases said <;> rfl
    simp [addFile, there, read, data, mapping, bind, Except.bind, Except.mapError, pure,
      Except.pure]

theorem addFiles_of_holds {h : Host} {paths : List Path} {said : List (List (Data × Data))}
    (holds : List.Forall₂ (Holds h) paths said) (entries : List (Data × Data)) :
    paths.foldlM (addFile h) entries = .ok (said.foldl update entries) := by
  induction holds generalizing entries with
  | nil => rfl
  | cons first _ ih =>
    rw [List.foldlM_cons, addFile_of_holds first, List.foldl_cons]
    exact ih _

/-- A mapping with options: keys are texts, names of options are written as they are, and groups are
mappings. -/
structure Proper (said : List (Data × Data)) : Prop where
  texts : ∀ e ∈ said, isText e.1 = true
  spelled : Spelled fieldNames (toFields said)
  groups : ∀ g ∈ groups, IsGroup (Value.field? (toFields said) g.1)

instance (said : List (Data × Data)) : Decidable (Proper said) :=
  decidable_of_iff (_ ∧ _ ∧ _)
    ⟨fun h => ⟨h.1, h.2.1, h.2.2⟩, fun h => ⟨h.texts, h.spelled, h.groups⟩⟩

/-- What the files say under a name: the last one that has the name decides. -/
def fileValue (said : List (List (Data × Data))) (name : String) : Option Value :=
  said.reverse.findSome? fun entries => Value.field? (toFields entries) name

theorem field?_updates {name : String} (ordinary : Ordinary name)
    {said : List (List (Data × Data))} (distinct : ∀ m ∈ said, Distinct m)
    (entries : List (Data × Data)) :
    Value.field? (toFields (said.foldl update entries)) name =
      (fileValue said name).or (Value.field? (toFields entries) name) := by
  unfold fileValue
  induction said generalizing entries with
  | nil => rfl
  | cons m said ih =>
    rw [List.forall_mem_cons] at distinct
    rw [List.foldl_cons, ih distinct.2, field?_update ordinary _ distinct.1, List.reverse_cons,
      List.findSome?_append, Option.or_assoc]
    congr 1
    cases h : Value.field? (toFields m) name <;> simp [h]

theorem key_of_updates {said : List (List (Data × Data))} {entries : List (Data × Data)} {k : Data}
    (h : k ∈ (said.foldl update entries).map Prod.fst) :
    k ∈ entries.map Prod.fst ∨ ∃ m ∈ said, k ∈ m.map Prod.fst := by
  induction said generalizing entries with
  | nil => exact .inl h
  | cons m said ih =>
    rcases ih h with earlier | ⟨m', hm, there⟩
    · rcases key_of_update earlier with earlier | this
      · exact .inl earlier
      · exact .inr ⟨m, List.mem_cons_self, this⟩
    · exact .inr ⟨m', List.mem_cons_of_mem _ hm, there⟩

/-- What the files say is read as named values. -/
theorem ofFiles_of_holds {h : Host} {file : Option Path} {paths : List Path}
    {said : List (List (Data × Data))} (located : files h file = .ok paths)
    (holds : List.Forall₂ (Holds h) paths said) (proper : ∀ m ∈ said, Proper m) :
    ofFiles h file = .ok (toFields (said.foldl update [])) := by
  have texts : ((said.foldl update []).all fun e => isText e.1) = true := by
    rw [List.all_eq_true]
    intro e he
    rcases key_of_updates (List.mem_map_of_mem he) with none | ⟨m, hm, there⟩
    · cases none
    · obtain ⟨f, hf, same⟩ := List.mem_map.mp there
      exact same ▸ (proper m hm).texts f hf
  simp [ofFiles, located, addFiles_of_holds holds, texts, bind, Except.bind, Except.mapError, pure,
    Except.pure]

theorem names_of_files {said : List (List (Data × Data))} (proper : ∀ m ∈ said, Proper m) :
    Spelled fieldNames (toFields (said.foldl update [])) := by
  intro name hn
  obtain ⟨codes, there, rfl⟩ := name_of_toFields.mp hn
  rcases key_of_updates there with none | ⟨m, hm, key⟩
  · cases none
  · exact (proper m hm).spelled _ (name_of_toFields.mpr ⟨codes, key, rfl⟩)

/-! ## Names of options -/

theorem ordinary_names : ∀ name ∈ fieldNames, Ordinary name := by decide

theorem toLower_names : ∀ name ∈ fieldNames, Text.toLower name = name := by decide +kernel

theorem field?_filterMap {names : List String} {pick : String → Option Value} (name : String) :
    Value.field? (names.filterMap fun n => (pick n).map fun v => (n, v)) name =
      if name ∈ names then pick name else none := by
  induction names with
  | nil => rfl
  | cons n names ih =>
    rw [List.filterMap_cons]
    by_cases same : name = n
    · subst same
      cases h : pick name with
      | none => simp [ih, h]
      | some v => simp [Value.field?_cons]
    · cases h : pick n with
      | none => simp [ih, same]
      | some v => simp [Value.field?_cons, ih, same]

theorem map_fst_filterMap_sublist (names : List String) (pick : String → Option Value) :
    ((names.filterMap fun n => (pick n).map fun v => (n, v)).map Prod.fst).Sublist names := by
  induction names with
  | nil => exact .slnil
  | cons n names ih =>
    rw [List.filterMap_cons]
    cases pick n with
    | none => exact ih.cons n
    | some v => exact ih.cons_cons n

theorem named_select (fields : List (String × Value)) : Value.Named (select fields) :=
  (map_fst_filterMap_sublist fieldNames _).nodup (by decide)

/-- Among names that are written as they are, each option has the value under its name. -/
theorem field?_select {fields : List (String × Value)} {name : String} (known : name ∈ fieldNames)
    (spelled : Spelled fieldNames fields) :
    Value.field? (select fields) name = Value.field? fields name := by
  rw [select, field?_filterMap, if_pos known]
  cases h : Value.field? fields name with
  | some v => rfl
  | none =>
    have absent : fields.find? (fun f => Text.toLower f.1 == name) = none := by
      rw [List.find?_eq_none]
      intro f hf lower
      have small : Text.toLower f.1 = name := eq_of_beq lower
      have written : f.1 = name := by
        rw [← toLower_names f.1 (spelled f.1 (List.mem_map_of_mem hf) (small ▸ known)), small]
      exact Value.field?_eq_none_iff.mp h (written ▸ List.mem_map_of_mem hf)
    rw [absent]
    rfl

end UnitWatch.Config
