import UnitWatch.Proofs.Settings.Document
import UnitWatch.Proofs.Value

/-!
# Spellings of a document

One document can be spelled in several ways: an object may have its fields in any order, a type of
expressions has two words, and the states of a rule may come in any order and more than once.

**Spellings** (`Value.Reordered`, `Respelled`). Two values are reordered if they differ in the order
of fields, at any depth. Two documents are respelled if they differ in that, in the words for types
and in how lists of states are written.

**Checks** (`Respects`). A check respects a relation of values if what it finds in a value it also
finds in the related ones. Checks of single values see nothing of an order (`respects_of_atoms`),
and checks of fields look them up by name (`SameFields.required_valid`). What differs is forgotten
where it is checked: the word of a type (`respects_checkExpressionType`), the order of states
(`states_of_ruleField`), and the order of notifiers (`table_of_reordered`), of which only lookups
are used (`assemble_of_lookups`).

Main result: `respelled_documents_agree`.
-/

namespace UnitWatch

open Check

/-! ## Order of fields -/

namespace Value

/-- A value without parts. -/
def IsAtom : Value → Prop
  | list _ | object _ | foreign (.fields _) => False
  | _ => True

/-- Two values differ in the order of fields at most: lists are compared by position, and objects,
in which a name occurs once, by name. -/
inductive Reordered : Value → Value → Prop
  | atom {v : Value} (h : v.IsAtom) : Reordered v v
  | list {vs ws : List Value} (length : vs.length = ws.length)
      (items : ∀ i (h : i < vs.length) (h' : i < ws.length), Reordered vs[i] ws[i]) :
      Reordered (.list vs) (.list ws)
  | object {fs gs : List (String × Value)} (left : Named fs) (right : Named gs)
      (names : ∀ name, name ∈ fs.map Prod.fst ↔ name ∈ gs.map Prod.fst)
      (fields : ∀ name v w, field? fs name = some v → field? gs name = some w → Reordered v w) :
      Reordered (.object fs) (.object gs)
  | foreign {fs gs : List (List Nat × Value)} (left : Named fs) (right : Named gs)
      (names : ∀ name, name ∈ fs.map Prod.fst ↔ name ∈ gs.map Prod.fst)
      (fields : ∀ name v w, field? fs name = some v → field? gs name = some w → Reordered v w) :
      Reordered (.foreign (.fields fs)) (.foreign (.fields gs))

/-- Two objects have fields of the same names, with related values. -/
structure SameFields {κ : Type} [BEq κ] (R : κ → Value → Value → Prop)
    (fs gs : List (κ × Value)) : Prop where
  left : Named fs
  right : Named gs
  names (name : κ) : name ∈ fs.map Prod.fst ↔ name ∈ gs.map Prod.fst
  fields {name : κ} {v w : Value} :
    field? fs name = some v → field? gs name = some w → R name v w

variable {v w : Value} {vs ws : List Value} {fs gs : List (String × Value)}
  {R R' : String → Value → Value → Prop}

theorem Reordered.symm (h : Reordered v w) : Reordered w v := by
  induction h with
  | atom h => exact .atom h
  | list length _ ih => exact .list length.symm fun i h h' => ih i h' h
  | object left right names _ ih =>
    exact .object right left (fun name => (names name).symm) fun name v w hv hw => ih name w v hw hv
  | foreign left right names _ ih =>
    exact .foreign right left (fun name => (names name).symm) fun name v w hv hw =>
      ih name w v hw hv

theorem Reordered.of_sameFields (h : SameFields (fun _ => Reordered) fs gs) :
    Reordered (.object fs) (.object gs) :=
  .object h.left h.right h.names fun _ _ _ => h.fields

theorem reordered_texts (items : List String) : Reordered (.texts items) (.texts items) :=
  .list rfl fun i h _ => by
    rw [List.getElem_map]
    exact .atom trivial

theorem Reordered.exists_list (h : Reordered (.list vs) w) :
    ∃ ws, w = .list ws ∧ List.Forall₂ Reordered vs ws := by
  cases h with
  | atom h => exact h.elim
  | list length items => exact ⟨_, rfl, List.forall₂_iff_get.mpr ⟨length, items⟩⟩

theorem Reordered.exists_object (h : Reordered (.object fs) w) :
    ∃ gs, w = .object gs ∧ SameFields (fun _ => Reordered) fs gs := by
  cases h with
  | atom h => exact h.elim
  | object left right names fields => exact ⟨_, rfl, left, right, names, fields _ _ _⟩

namespace SameFields

theorem symm {κ : Type} [BEq κ] {R : κ → Value → Value → Prop} {fs gs : List (κ × Value)}
    (h : SameFields R fs gs) (symm : ∀ name v w, R name v w → R name w v) :
    SameFields R gs fs where
  left := h.right
  right := h.left
  names name := (h.names name).symm
  fields hv hw := symm _ _ _ (h.fields hw hv)

theorem imp (h : SameFields R fs gs) (imp : ∀ name v w, R name v w → R' name v w) :
    SameFields R' fs gs :=
  ⟨h.left, h.right, h.names, fun hv hw => imp _ _ _ (h.fields hv hw)⟩

/-- It is enough to compare the fields of the names that are there. -/
theorem of_names (left : Named fs) (right : Named gs)
    (names : (fs.map Prod.fst).Perm (gs.map Prod.fst))
    (each : ∀ name ∈ fs.map Prod.fst, ∃ v w, field? fs name = some v ∧
      field? gs name = some w ∧ R name v w) : SameFields R fs gs where
  left := left
  right := right
  names _ := names.mem_iff
  fields {name v w} hv hw := by
    obtain ⟨v', w', hv', hw', related⟩ := each name (mem_of_field? hv)
    obtain rfl := Option.some.inj (hv'.symm.trans hv)
    obtain rfl := Option.some.inj (hw'.symm.trans hw)
    exact related

theorem exists_field (h : SameFields R fs gs) {name : String} (hv : field? fs name = some v) :
    ∃ w, field? gs name = some w ∧ R name v w := by
  have there : field? gs name ≠ none := fun absent =>
    field?_eq_none_iff.mp absent ((h.names name).mp (mem_of_field? hv))
  obtain ⟨w, hw⟩ := Option.ne_none_iff_exists'.mp there
  exact ⟨w, hw, h.fields hv hw⟩

end SameFields

end Value

open Value (Reordered SameFields reordered_texts)

/-! ## Checks -/

namespace Check

variable {α : Type} {R : Value → Value → Prop} {F : String → Value → Value → Prop}
  {fs gs : List (String × Value)}

/-- What is found in a value is found in the values to which it is related. -/
def Respects (R : Value → Value → Prop) (check : Checker α) : Prop :=
  ∀ ⦃v w : Value⦄ ⦃a : α⦄, R v w → check v = .valid a → check w = .valid a

theorem respects_of_atoms {check : Checker α} (atoms : ∀ v a, check v = .valid a → v.IsAtom) :
    Respects Reordered check := by
  intro v w a h hv
  cases h with
  | atom _ => exact hv
  | list _ _ => exact (atoms _ a hv).elim
  | object _ _ _ _ => exact (atoms _ a hv).elim
  | foreign _ _ _ _ => exact (atoms _ a hv).elim

theorem respects_text : Respects Reordered text :=
  respects_of_atoms fun v s h => by
    rw [text_eq_valid.mp h]
    trivial

theorem Respects.of_forall₂ {check : Checker α} (h : Respects R check) {vs ws : List Value}
    {as : List α} (items : List.Forall₂ R vs ws) (valid : listOf check (.list vs) = .valid as) :
    listOf check (.list ws) = .valid as := by
  simp only [listOf_eq_valid, Value.list.injEq, exists_eq_left'] at valid ⊢
  induction items generalizing as with
  | nil => exact valid
  | cons item _ ih =>
    cases valid with
    | cons head tail => exact .cons (h item head) (ih tail)

theorem respects_listOf {check : Checker α} (h : Respects Reordered check) :
    Respects Reordered (listOf check) := by
  intro v w as related valid
  obtain ⟨vs, rfl, -⟩ := listOf_eq_valid.mp valid
  obtain ⟨ws, rfl, items⟩ := related.exists_list
  exact h.of_forall₂ items valid

theorem mem_iff_of_listOf {check : Checker α} {vs : List Value} {as : List α}
    (valid : listOf check (.list vs) = .valid as) (a : α) :
    a ∈ as ↔ ∃ v ∈ vs, check v = .valid a := by
  simp only [listOf_eq_valid, Value.list.injEq, exists_eq_left'] at valid
  induction valid with
  | nil => simp
  | cons head _ ih => simp [ih, head, eq_comm]

/-- Two lists have related members, in any order and any number. -/
def SameMembers (R : Value → Value → Prop) (vs ws : List Value) : Prop :=
  (∀ v ∈ vs, ∃ w ∈ ws, R v w) ∧ ∀ w ∈ ws, ∃ v ∈ vs, R v w

/-- From lists with the same members, the same members are found. -/
theorem Respects.of_sameMembers {check : Checker α} (h : Respects R check) {vs ws : List Value}
    {as : List α} (members : SameMembers R vs ws) (valid : listOf check (.list vs) = .valid as) :
    ∃ bs, listOf check (.list ws) = .valid bs ∧ ∀ a, a ∈ bs ↔ a ∈ as := by
  have found : ∀ w ∈ ws, ∃ a, check w = .valid a ∧ ∃ v ∈ vs, check v = .valid a := by
    intro w hw
    obtain ⟨v, hv, related⟩ := members.2 w hw
    obtain ⟨a, ha⟩ := exists_listOf_iff.1 ⟨as, valid⟩ v hv
    exact ⟨a, h related ha, v, hv, ha⟩
  obtain ⟨bs, valid'⟩ : ∃ bs, listOf check (.list ws) = .valid bs :=
    exists_listOf_iff.2 fun w hw => (found w hw).imp fun _ => And.left
  refine ⟨bs, valid', fun a => ?_⟩
  rw [mem_iff_of_listOf valid', mem_iff_of_listOf valid]
  constructor
  · rintro ⟨w, hw, ha⟩
    obtain ⟨b, hb, there⟩ := found w hw
    obtain rfl : b = a := Result.valid.inj (hb.symm.trans ha)
    exact there
  · rintro ⟨v, hv, ha⟩
    obtain ⟨w, hw, related⟩ := members.1 v hv
    exact ⟨w, hw, h related ha⟩

end Check

namespace Value.SameFields

variable {α : Type} {R : String → Value → Value → Prop} {fs gs : List (String × Value)}

theorem required_valid {name : String} {check : Checker α} {a : α} (h : SameFields R fs gs)
    (respects : Respects (R name) check) (valid : required fs name check = .valid a) :
    required gs name check = .valid a := by
  obtain ⟨v, hv, checked⟩ := required_eq_valid.mp valid
  obtain ⟨w, hw, related⟩ := h.exists_field hv
  exact required_eq_valid.mpr ⟨w, hw, respects related checked⟩

theorem noOthers_valid {names : List String} (h : SameFields R fs gs)
    (valid : noOthers fs names = .valid ()) : noOthers gs names = .valid () := by
  simp only [noOthers_eq_valid] at valid ⊢
  intro g hg
  obtain ⟨f, hf, same⟩ := List.mem_map.mp ((h.names g.1).mpr (List.mem_map_of_mem hg))
  exact same ▸ valid f hf

end Value.SameFields

namespace Settings

/-! ## Spellings of a document -/

/-- Two values of one field of a rule say the same. -/
inductive RuleField (name : String) : Value → Value → Prop
  | same {v w : Value} (h : Reordered v w) : RuleField name v w
  | type {t : ExpressionType} {a b : String} (at' : name = "expression_type")
      (left : a ∈ t.spellings) (right : b ∈ t.spellings) : RuleField name (.text a) (.text b)
  | states {vs ws : List Value} (at' : name = "active_states")
      (members : SameMembers Reordered vs ws) : RuleField name (.list vs) (.list ws)

/-- Two values say the same as rules. -/
inductive RuleRespelled : Value → Value → Prop
  | same {v w : Value} (h : Reordered v w) : RuleRespelled v w
  | object {fs gs : List (String × Value)} (fields : SameFields RuleField fs gs) :
      RuleRespelled (.object fs) (.object gs)
  | foreign {fs gs : List (List Nat × Value)}
      (fields : SameFields (fun name => RuleField (Text.shown name)) fs gs) :
      RuleRespelled (.foreign (.fields fs)) (.foreign (.fields gs))

/-- Two values of one field of a document say the same. -/
inductive DocumentField (name : String) : Value → Value → Prop
  | same {v w : Value} (h : Reordered v w) : DocumentField name v w
  | rules {vs ws : List Value} (at' : name = "rules") (rules : List.Forall₂ RuleRespelled vs ws) :
      DocumentField name (.list vs) (.list ws)

/-- Two values say the same as settings documents: they differ in the order of fields, in the words
for the types of expressions, and in the order and repetition of states. -/
inductive Respelled : Value → Value → Prop
  | same {v w : Value} (h : Reordered v w) : Respelled v w
  | object {fs gs : List (String × Value)} (fields : SameFields DocumentField fs gs) :
      Respelled (.object fs) (.object gs)
  | foreign {fs gs : List (List Nat × Value)}
      (fields : SameFields (fun name => DocumentField (Text.shown name)) fs gs) :
      Respelled (.foreign (.fields fs)) (.foreign (.fields gs))

section

variable {name : String} {v w : Value}

/-- The words for the states of a rule may come in any order and more than once. -/
theorem RuleField.of_subset {items others : List String} (left : items ⊆ others)
    (right : others ⊆ items) : RuleField "active_states" (.texts items) (.texts others) := by
  refine .states rfl ⟨fun v hv => ?_, fun w hw => ?_⟩
  · obtain ⟨s, hs, rfl⟩ := List.mem_map.mp hv
    exact ⟨_, List.mem_map_of_mem (left hs), .atom trivial⟩
  · obtain ⟨s, hs, rfl⟩ := List.mem_map.mp hw
    exact ⟨_, List.mem_map_of_mem (right hs), .atom trivial⟩

theorem RuleField.symm (h : RuleField name v w) : RuleField name w v := by
  cases h with
  | same h => exact .same h.symm
  | type at' left right => exact .type at' right left
  | states at' members =>
    refine .states at' ⟨fun w hw => ?_, fun v hv => ?_⟩
    · obtain ⟨v, hv, related⟩ := members.2 w hw
      exact ⟨v, hv, related.symm⟩
    · obtain ⟨w, hw, related⟩ := members.1 v hv
      exact ⟨w, hw, related.symm⟩

theorem RuleRespelled.symm (h : RuleRespelled v w) : RuleRespelled w v := by
  cases h with
  | same h => exact .same h.symm
  | object fields => exact .object (fields.symm fun _ _ _ => RuleField.symm)
  | foreign fields => exact .foreign (fields.symm fun _ _ _ => RuleField.symm)

/-- Rules that say the same are compared field by field. -/
theorem RuleRespelled.exists_object {fs : List (String × Value)}
    (h : RuleRespelled (.object fs) w) : ∃ gs, w = .object gs ∧ SameFields RuleField fs gs := by
  cases h with
  | same h =>
    obtain ⟨gs, rfl, fields⟩ := h.exists_object
    exact ⟨gs, rfl, fields.imp fun _ _ _ => .same⟩
  | object fields => exact ⟨_, rfl, fields⟩

theorem DocumentField.symm (h : DocumentField name v w) : DocumentField name w v := by
  cases h with
  | same h => exact .same h.symm
  | rules at' rules => exact .rules at' (rules.flip.imp fun _ _ => RuleRespelled.symm)

theorem Respelled.symm (h : Respelled v w) : Respelled w v := by
  cases h with
  | same h => exact .same h.symm
  | object fields => exact .object (fields.symm fun _ _ _ => DocumentField.symm)
  | foreign fields => exact .foreign (fields.symm fun _ _ _ => DocumentField.symm)

theorem Respelled.exists_object {fs : List (String × Value)} (h : Respelled (.object fs) w) :
    ∃ gs, w = .object gs ∧ SameFields DocumentField fs gs := by
  cases h with
  | same h =>
    obtain ⟨gs, rfl, fields⟩ := h.exists_object
    exact ⟨gs, rfl, fields.imp fun _ _ _ => .same⟩
  | object fields => exact ⟨_, rfl, fields⟩

end

/-! ## Rules -/

theorem respects_checkScope : Respects Reordered checkScope :=
  respects_of_atoms fun _ _ h => by
    rw [checkScope_eq_valid.mp h]
    trivial

theorem respects_checkBusName : Respects Reordered checkBusName :=
  respects_of_atoms fun _ _ h => by
    rw [(checkBusName_eq_valid.mp h).1]
    trivial

theorem respects_checkState : Respects Reordered (member ActiveState.all ActiveState.word) :=
  respects_of_atoms fun _ _ h => by
    rw [checkState_eq_valid.mp h]
    trivial

theorem respects_checkVersion : Respects Reordered checkVersion := by
  refine respects_of_atoms fun v _ h => ?_
  obtain ⟨n, read, -⟩ := Result.andThen_eq_valid.mp h
  cases v with
  | list | object => simp [integer] at read
  | _ => trivial

/-- Most fields of a rule differ in the order of fields at most. -/
theorem respects_ruleField {α : Type} {check : Checker α} {name : String}
    (h : Respects Reordered check) (type : name ≠ "expression_type")
    (states : name ≠ "active_states") : Respects (RuleField name) check := by
  intro v w a related valid
  cases related with
  | same related => exact h related valid
  | type at' => exact absurd at' type
  | states at' => exact absurd at' states

theorem respects_checkExpressionType :
    Respects (RuleField "expression_type") checkExpressionType := by
  intro v w t h valid
  obtain ⟨spelling, spelled, rfl⟩ := checkExpressionType_eq_valid.mp valid
  cases h with
  | same h =>
    cases h
    exact valid
  | type _ left right =>
    have same := (ExpressionType.parse?_eq_some_iff.mpr left).symm.trans
      (ExpressionType.parse?_eq_some_iff.mpr spelled)
    cases same
    exact checkExpressionType_eq_valid.mpr ⟨_, right, rfl⟩

/-- What a rule's list of states is does not depend on how it is written. -/
theorem states_of_ruleField {v w : Value} {states : List ActiveState}
    (h : RuleField "active_states" v w)
    (valid : listOf (member ActiveState.all ActiveState.word) v = .valid states) :
    ∃ states', listOf (member ActiveState.all ActiveState.word) w = .valid states' ∧
      ActiveState.all.filter states'.contains = ActiveState.all.filter states.contains := by
  cases h with
  | same h => exact ⟨states, respects_listOf respects_checkState h valid, rfl⟩
  | type at' => simp at at'
  | states _ members =>
    obtain ⟨states', valid', same⟩ := respects_checkState.of_sameMembers members valid
    refine ⟨states', valid', List.filter_congr fun state _ => ?_⟩
    simp only [List.contains_eq_mem, same]

/-- What is checked of a rule does not depend on how the rule is written. -/
theorem respects_checkRule : Respects RuleRespelled checkRule := by
  intro v w draft related valid
  obtain ⟨fs, rfl, -⟩ := description_eq_valid.mp valid
  obtain ⟨gs, rfl, h⟩ := related.exists_object
  simp only [checkRule, description_eq_valid, ruleParts, Result.map_eq_valid,
    Result.both_eq_valid, Value.object.injEq, exists_eq_left'] at valid ⊢
  obtain ⟨⟨⟨scope, states, value, type, labels⟩, ⟨⟩⟩,
    ⟨⟨hscope, hstates, hvalue, htype, hlabels⟩, others⟩, e, compiled, rfl⟩ := valid
  obtain ⟨v, hv, checked⟩ := required_eq_valid.mp hstates
  obtain ⟨w, hw, related⟩ := h.exists_field hv
  obtain ⟨states', checked', same⟩ := states_of_ruleField related checked
  refine ⟨((scope, states', value, type, labels), ()),
    ⟨⟨?_, required_eq_valid.mpr ⟨w, hw, checked'⟩, ?_, ?_, ?_⟩, h.noOthers_valid others⟩,
    e, compiled, by rw [same]⟩
  · exact h.required_valid (respects_ruleField respects_checkScope (by decide) (by decide)) hscope
  · exact h.required_valid (respects_ruleField respects_text (by decide) (by decide)) hvalue
  · exact h.required_valid respects_checkExpressionType htype
  · refine h.required_valid (respects_ruleField ?_ (by decide) (by decide)) hlabels
    exact respects_listOf respects_text

/-! ## Notifiers -/

theorem respects_checkNotifier : Respects Reordered checkNotifier := by
  intro v w notifier related valid
  obtain ⟨fs, rfl, -⟩ := description_eq_valid.mp valid
  obtain ⟨gs, rfl, h⟩ := related.exists_object
  simp only [checkNotifier, description_eq_valid, notifierParts, Result.both_eq_valid,
    Result.valid.injEq, Value.object.injEq, exists_eq_left'] at valid ⊢
  obtain ⟨p, ⟨⟨hscope, hname⟩, others⟩, rfl⟩ := valid
  exact ⟨p, ⟨⟨h.required_valid respects_checkScope hscope,
    h.required_valid respects_checkBusName hname⟩, h.noOthers_valid others⟩, rfl⟩

section

variable {α : Type} {check : Checker α} {fs gs : List (String × Value)} {table : List (String × α)}

/-- Under a name of a checked table stands what is found in the field of that name. -/
theorem lookup_of_mappingOf (valid : mappingOf check (.object fs) = .valid table) (name : String) :
    (table.lookup name).map .valid = (Value.field? fs name).map check := by
  simp only [mappingOf_eq_valid, Value.object.injEq, exists_eq_left'] at valid
  induction valid with
  | nil => rfl
  | @cons f entry fs table head _ ih =>
    obtain ⟨n, a⟩ := entry
    obtain ⟨rfl, checked⟩ := head
    rw [Value.field?_cons, List.lookup_cons]
    by_cases here : name = f.1
    · rw [if_pos here, here, beq_self_eq_true]
      exact congrArg some checked.symm
    · rw [if_neg here, beq_false_of_ne here]
      exact ih

/-- Tables that differ in the order of fields are looked up alike. -/
theorem table_of_reordered (h : Respects Reordered check) {v w : Value} (related : Reordered v w)
    (valid : mappingOf check v = .valid table) :
    ∃ table', mappingOf check w = .valid table' ∧
      ∀ name, table'.lookup name = table.lookup name := by
  obtain ⟨fs, rfl, -⟩ := mappingOf_eq_valid.mp valid
  obtain ⟨gs, rfl, fields⟩ := related.exists_object
  have same (name : String) :
      (Value.field? gs name).map check = (table.lookup name).map .valid := by
    rw [lookup_of_mappingOf valid]
    cases hv : Value.field? fs name with
    | none =>
      have absent : Value.field? gs name = none := by
        rwa [Value.field?_eq_none_iff, ← fields.names, ← Value.field?_eq_none_iff]
      rw [absent]
    | some v =>
      obtain ⟨w, hw, related⟩ := fields.exists_field hv
      have found := lookup_of_mappingOf valid name
      rw [hv] at found
      obtain ⟨a, -, ha⟩ := Option.map_eq_some_iff.mp found
      rw [hw, Option.map_some, Option.map_some, ← ha, h related ha.symm]
  -- A field is the one that is looked up under its name, since the name occurs once.
  have each : ∀ g ∈ gs, ∃ entry : String × α, g.1 = entry.1 ∧ check g.2 = .valid entry.2 := by
    intro g hg
    have found := same g.1
    rw [fields.right.field?_of_mem hg] at found
    obtain ⟨a, -, ha⟩ := Option.map_eq_some_iff.mp found.symm
    exact ⟨(g.1, a), rfl, ha.symm⟩
  obtain ⟨table', valid'⟩ : ∃ table', mappingOf check (.object gs) = .valid table' := by
    simpa using exists_forall₂_iff.2 each
  refine ⟨table', valid', fun name => ?_⟩
  have injective : Function.Injective (Result.valid (α := α)) := fun _ _ => Result.valid.inj
  exact Option.map_injective injective ((lookup_of_mappingOf valid' name).trans (same name))

end

/-! ## The document -/

/-- The notifier with a label is what stands under the label in the table. -/
theorem find?_of_table (table : List (String × BusScope × String)) (label : String) :
    (table.map fun (label, scope, busName) => (⟨label, scope, busName⟩ : Notifier)).find?
      (·.label == label) = (table.lookup label).map fun (scope, busName) =>
        ⟨label, scope, busName⟩ := by
  induction table with
  | nil => rfl
  | cons entry table ih =>
    obtain ⟨l, scope, busName⟩ := entry
    rw [List.map_cons, List.find?_cons, List.lookup_cons]
    by_cases here : label = l
    · subst here
      simp
    · rw [beq_false_of_ne (Ne.symm here), beq_false_of_ne here]
      exact ih

/-- Two settings have the same rules and the same notifiers under each label. -/
structure Same (s t : Settings) : Prop where
  rules : s.rules = t.rules
  notifiers (label : String) : s.notifier? label = t.notifier? label

/-- Of the table of notifiers, settings are made of what is looked up in it. -/
theorem assemble_of_lookups {drafts : List RuleDraft}
    {table table' : List (String × BusScope × String)}
    (lookups : ∀ label, table'.lookup label = table.lookup label) {s : Settings}
    (valid : assemble drafts table = .valid s) :
    ∃ t, assemble drafts table' = .valid t ∧ Same s t := by
  obtain ⟨known, rfl⟩ := (assemble_eq_valid rfl).mp valid
  set notifiers := table.map fun (label, scope, busName) => (⟨label, scope, busName⟩ : Notifier)
  let notifiers' := table'.map fun (label, scope, busName) => (⟨label, scope, busName⟩ : Notifier)
  have agree (label : String) :
      notifiers'.find? (·.label == label) = notifiers.find? (·.label == label) := by
    rw [find?_of_table, find?_of_table, lookups]
  have known' : ∀ r ∈ drafts, ∀ l ∈ r.labels, ∃ m ∈ notifiers', m.label = l := by
    intro r hr l hl
    have there : (notifiers'.find? (·.label == l)).isSome := by
      rw [agree]
      simpa using known r hr l hl
    simpa using there
  refine ⟨⟨drafts.map (·.resolve notifiers'), notifiers'⟩,
    (assemble_eq_valid rfl).mpr ⟨known', rfl⟩, ?_, fun label => (agree label).symm⟩
  simp only [RuleDraft.resolve, agree]

/-- Most fields of a document differ in the order of fields at most. -/
theorem respects_documentField {α : Type} {check : Checker α} {name : String}
    (h : Respects Reordered check) (rules : name ≠ "rules") :
    Respects (DocumentField name) check := by
  intro v w a related valid
  cases related with
  | same related => exact h related valid
  | rules at' => exact absurd at' rules

theorem respects_rules : Respects (DocumentField "rules") (listOf checkRule) := by
  intro v w drafts related valid
  cases related with
  | same related =>
    exact respects_listOf (fun _ _ _ h => respects_checkRule (.same h)) related valid
  | rules _ rules => exact respects_checkRule.of_forall₂ rules valid

theorem table_of_documentField {v w : Value} {table : List (String × BusScope × String)}
    (related : DocumentField "notifiers" v w) (valid : mappingOf checkNotifier v = .valid table) :
    ∃ table', mappingOf checkNotifier w = .valid table' ∧
      ∀ label, table'.lookup label = table.lookup label := by
  cases related with
  | same related => exact table_of_reordered respects_checkNotifier related valid
  | rules at' => simp at at'

/-- A document is accepted along with its other spellings, and stands for the same settings. -/
theorem check_of_respelled {v w : Value} (respelled : Respelled v w) {s : Settings}
    (valid : check v = .valid s) : ∃ t, check w = .valid t ∧ Same s t := by
  obtain ⟨fs, rfl, -⟩ := description_eq_valid.mp valid
  obtain ⟨gs, rfl, h⟩ := respelled.exists_object
  simp only [check, description_eq_valid, documentParts, Result.both_eq_valid,
    Value.object.injEq, exists_eq_left'] at valid ⊢
  obtain ⟨⟨⟨⟨⟩, drafts, table⟩, ⟨⟩⟩, ⟨⟨hversion, hrules, hnotifiers⟩, others⟩, made⟩ := valid
  obtain ⟨v, hv, checked⟩ := required_eq_valid.mp hnotifiers
  obtain ⟨w, hw, related⟩ := h.exists_field hv
  obtain ⟨table', checked', lookups⟩ := table_of_documentField related checked
  obtain ⟨t, made', same⟩ := assemble_of_lookups lookups made
  refine ⟨t, ⟨(((), drafts, table'), ()), ⟨⟨?_, ?_, ?_⟩, h.noOthers_valid others⟩, made'⟩, same⟩
  · exact h.required_valid (respects_documentField respects_checkVersion (by decide)) hversion
  · exact h.required_valid respects_rules hrules
  · exact required_eq_valid.mpr ⟨w, hw, checked'⟩

theorem Same.watches {s t : Settings} (h : Same s t) (scope : BusScope) (unit : String) :
    s.watches scope unit = t.watches scope unit := by
  simp only [Settings.watches, Settings.rulesFor, h.rules]

theorem Same.matchingRules {s t : Settings} (h : Same s t) (scope : BusScope) (unit : String)
    (state : ActiveState) :
    s.matchingRules scope unit state = t.matchingRules scope unit state := by
  simp only [Settings.matchingRules, Settings.rulesFor, h.rules]

theorem Same.scopes {s t : Settings} (h : Same s t) : s.scopes = t.scopes := by
  simp only [Settings.scopes, h.rules]

/-- **Spellings do not matter.** Two documents that differ in the order of fields, in the words for
the types of expressions, and in the order and repetition of states are either both refused, or they
stand for the same settings: these watch the same units, contact the same notifiers about them, and
are about the same scopes. -/
theorem respelled_documents_agree {v w : Value} (h : Respelled v w) :
    ((∃ f, ofDocument v = .error f) ∧ ∃ g, ofDocument w = .error g) ∨
      ∃ s t, ofDocument v = .ok s ∧ ofDocument w = .ok t ∧ Same s t ∧
        (∀ scope unit, s.watches scope unit = t.watches scope unit) ∧
        (∀ scope unit state,
          s.matchingRules scope unit state = t.matchingRules scope unit state) ∧
        s.scopes = t.scopes := by
  cases hv : ofDocument v with
  | ok s =>
    obtain ⟨t, valid, same⟩ := check_of_respelled h (ofDocument_eq_ok.mp hv)
    exact .inr ⟨s, t, rfl, ofDocument_eq_ok.mpr valid, same, same.watches, same.matchingRules,
      same.scopes⟩
  | error f =>
    cases hw : ofDocument w with
    | ok t =>
      -- A spelling that is accepted would have the other one accepted, by symmetry.
      obtain ⟨s, valid, -⟩ := check_of_respelled h.symm (ofDocument_eq_ok.mp hw)
      rw [ofDocument_eq_ok.mpr valid] at hv
      cases hv
    | error g => exact .inl ⟨⟨f, rfl⟩, g, rfl⟩

/-- A rule about timers. -/
def timerRule : Value := .object
  [("bus_type", .text "system"), ("active_states", .texts ["active", "failed"]),
   ("expression", .text ".timer"), ("expression_type", .text "unit type"),
   ("notifiers", .texts ["mail"])]

/-- The same rule, with the fields in another order, the second word for the type, and a state named
twice. -/
def timerRuleRespelled : Value := .object
  [("expression_type", .text "type-suffix"), ("expression", .text ".timer"),
   ("active_states", .texts ["failed", "active", "failed"]), ("notifiers", .texts ["mail"]),
   ("bus_type", .text "system")]

def mailNotifier : Value := .object
  [("bus_type", .text "session"), ("bus_name", .text "org.example.Mail")]

def mailNotifierRespelled : Value := .object
  [("bus_name", .text "org.example.Mail"), ("bus_type", .text "session")]

def timers : Value := .object
  [("version", .int 1), ("rules", .list [timerRule]),
   ("notifiers", .object [("mail", mailNotifier)])]

def timersRespelled : Value := .object
  [("rules", .list [timerRuleRespelled]), ("notifiers", .object [("mail", mailNotifierRespelled)]),
   ("version", .int 1)]

theorem timers_agree : Respelled timers timersRespelled ∧
    ∃ s t, ofDocument timers = .ok s ∧ ofDocument timersRespelled = .ok t ∧ Same s t := by
  have rule : RuleRespelled timerRule timerRuleRespelled := by
    refine .object (.of_names (by decide) (by decide) (by decide) ?_)
    simp only [List.map_cons, List.map_nil, List.forall_mem_cons]
    exact ⟨⟨_, _, rfl, rfl, .same (.atom trivial)⟩,
      ⟨_, _, rfl, rfl, .of_subset (by decide) (by decide)⟩,
      ⟨_, _, rfl, rfl, .same (.atom trivial)⟩,
      ⟨_, _, rfl, rfl, .type (t := .unitType) rfl (by decide) (by decide)⟩,
      ⟨_, _, rfl, rfl, .same (reordered_texts _)⟩, by simp⟩
  have notifier : Reordered mailNotifier mailNotifierRespelled := by
    refine Reordered.of_sameFields (.of_names (by decide) (by decide) (by decide) ?_)
    simp only [List.map_cons, List.map_nil, List.forall_mem_cons]
    exact ⟨⟨_, _, rfl, rfl, .atom trivial⟩, ⟨_, _, rfl, rfl, .atom trivial⟩, by simp⟩
  have table : Reordered (.object [("mail", mailNotifier)])
      (.object [("mail", mailNotifierRespelled)]) := by
    refine Reordered.of_sameFields (.of_names (by decide) (by decide) (by decide) ?_)
    simp only [List.map_cons, List.map_nil, List.forall_mem_cons]
    exact ⟨⟨_, _, rfl, rfl, notifier⟩, by simp⟩
  have respelled : Respelled timers timersRespelled := by
    refine .object (.of_names (by decide) (by decide) (by decide) ?_)
    simp only [List.map_cons, List.map_nil, List.forall_mem_cons]
    exact ⟨⟨_, _, rfl, rfl, .same (.atom trivial)⟩,
      ⟨_, _, rfl, rfl, .rules rfl (.cons rule .nil)⟩,
      ⟨_, _, rfl, rfl, .same table⟩, by simp⟩
  have accepted : (ofDocument timers).isOk = true := by decide +kernel
  refine ⟨respelled, ?_⟩
  rcases respelled_documents_agree respelled with ⟨⟨f, refused⟩, -⟩ | ⟨s, t, hs, ht, same, -⟩
  · rw [refused] at accepted
    cases accepted
  · exact ⟨s, t, hs, ht, same⟩

end Settings

end UnitWatch
