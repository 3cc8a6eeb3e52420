import UnitWatch.Proofs.Check.Result
import UnitWatch.Proofs.Expression
import UnitWatch.Settings.Document

/-!
# Which documents are accepted

**As written** (`RuleText`, `DocumentText`). What a document says before anything in it is compiled
or looked up: the words of each rule and of each notifier. `WrittenIn` says which objects write it
down: those with exactly the fields of the document, each with a value of its kind.

**Soundness** (`DocumentText.Sound`). What a text has to say to be accepted: expressions that their
types admit, labels that name notifiers, and bus names that are valid.

**Settings** (`DocumentText.Yields`). What a sound text stands for: its notifiers, and one rule for
each of its rules, in their order.

The check of a document finds exactly this (`check_eq_valid`), and it breaks off only on a pattern
that overtaxes the engine (`crash?_check`). Main result: `accepts_iff_acceptable`.
-/

namespace UnitWatch

open Check

/-! ## Objects -/

/-- An object has the named fields and no others. -/
def Exactly (names : List String) (fields : List (String × Value)) : Prop :=
  ∀ name, name ∈ fields.map Prod.fst ↔ name ∈ names

/-- A value is an object with fields as described. -/
def IsObject (P : List (String × Value) → Prop) (v : Value) : Prop := ∃ fs, v = .object fs ∧ P fs

theorem mem_of_field? {fields : List (String × Value)} {name : String} {v : Value}
    (h : Value.field? fields name = some v) : name ∈ fields.map Prod.fst := by
  induction fields with
  | nil => cases h
  | cons f fs ih =>
    obtain ⟨n, w⟩ := f
    simp only [Value.field?, List.lookup_cons] at h
    by_cases same : name = n
    · simp [same]
    · have : (name == n) = false := by simpa using same
      rw [this] at h
      simp [ih h]

/-- Where all the named fields are there, no others means exactly these. -/
theorem noOthers_iff_exactly {names : List String} {fields : List (String × Value)}
    (present : ∀ name ∈ names, ∃ v, Value.field? fields name = some v) :
    noOthers fields names = .valid () ↔ Exactly names fields := by
  rw [noOthers_eq_valid]
  constructor
  · intro h name
    constructor
    · simp only [List.mem_map]
      rintro ⟨f, hf, rfl⟩
      exact h f hf
    · intro hn
      obtain ⟨v, hv⟩ := present name hn
      exact mem_of_field? hv
  · intro h f hf
    exact (h f.1).mp (List.mem_map_of_mem hf)

/-- The crash that reading a pattern ends in; the other faults are told as findings. -/
def Pattern.Fault.crash? : Pattern.Fault → Option Crash
  | .countTooLarge => some .countTooLarge
  | .tooDeep => some .tooDeep
  | _ => none

namespace Settings

/-! ## Documents as written -/

/-- A rule as written, with nothing compiled or looked up. -/
structure RuleText where
  scope : BusScope
  states : List ActiveState
  expression : String
  type : ExpressionType
  labels : List String

/-- The object that writes down a rule. -/
structure RuleText.WrittenIn (r : RuleText) (fields : List (String × Value)) : Prop where
  exact : Exactly ruleFields fields
  scope : Value.field? fields "bus_type" = some (.text r.scope.word)
  states : Value.field? fields "active_states" = some (.texts (r.states.map ActiveState.word))
  expression : Value.field? fields "expression" = some (.text r.expression)
  type : ∃ spelling ∈ r.type.spellings,
    Value.field? fields "expression_type" = some (.text spelling)
  labels : Value.field? fields "notifiers" = some (.texts r.labels)

/-- The object that writes down a notifier under its label. -/
structure NotifierWritten (n : Notifier) (fields : List (String × Value)) : Prop where
  exact : Exactly notifierFields fields
  scope : Value.field? fields "bus_type" = some (.text n.scope.word)
  busName : Value.field? fields "bus_name" = some (.text n.busName)

/-- A document as written. -/
structure DocumentText where
  rules : List RuleText
  notifiers : List Notifier

namespace DocumentText

/-- The object that writes down a document. -/
structure WrittenIn (d : DocumentText) (fields : List (String × Value)) : Prop where
  exact : Exactly documentFields fields
  version : Value.field? fields "version" = some (.int Settings.version)
  rules : ∃ vs, Value.field? fields "rules" = some (.list vs) ∧
    List.Forall₂ (fun v r => IsObject r.WrittenIn v) vs d.rules
  notifiers : ∃ table, Value.field? fields "notifiers" = some (.object table) ∧
    List.Forall₂ (fun entry n => entry.1 = n.label ∧ IsObject (NotifierWritten n) entry.2) table
      d.notifiers

/-- What a document has to say to be accepted. -/
structure Sound (d : DocumentText) : Prop where
  expressions : ∀ r ∈ d.rules, r.type.Admits r.expression
  labels : ∀ r ∈ d.rules, ∀ l ∈ r.labels, ∃ n ∈ d.notifiers, n.label = l
  busNames : ∀ n ∈ d.notifiers, BusName.isValid n.busName

end DocumentText

/-- The documents that are to be accepted. -/
def Acceptable (v : Value) : Prop := ∃ d : DocumentText, IsObject d.WrittenIn v ∧ d.Sound

/-- The rule that a text stands for, among notifiers: its states without repetitions, its expression
compiled, and its labels looked up. -/
structure RuleText.Yields (notifiers : List Notifier) (r : RuleText) (rule : Rule) : Prop where
  scope : rule.scope = r.scope
  states : rule.states = ActiveState.all.filter r.states.contains
  expression : Expression.compileType r.expression r.type = .ok rule.expression
  notifiers : r.labels.map (fun l => notifiers.find? (·.label == l)) = rule.notifiers.map some

/-- The settings that a document stands for. -/
structure DocumentText.Yields (d : DocumentText) (s : Settings) : Prop where
  notifiers : s.notifiers = d.notifiers
  rules : List.Forall₂ (RuleText.Yields d.notifiers) d.rules s.rules

/-! ## Words -/

theorem checkScope_eq_valid {v : Value} {scope : BusScope} :
    checkScope v = .valid scope ↔ v = .text scope.word :=
  member_eq_valid (fun a => by cases a <;> decide)
    (fun a b => by cases a <;> cases b <;> decide)

theorem checkState_eq_valid {v : Value} {state : ActiveState} :
    member ActiveState.all ActiveState.word v = .valid state ↔ v = .text state.word :=
  member_eq_valid (fun a => by cases a <;> decide)
    (fun a b => by cases a <;> cases b <;> decide)

theorem checkBusName_eq_valid {v : Value} {name : String} :
    checkBusName v = .valid name ↔ v = .text name ∧ BusName.isValid name := by
  simp only [checkBusName, Result.andThen_eq_valid, text_eq_valid]
  constructor
  · rintro ⟨s, rfl, h⟩
    split at h
    · next valid => cases h; exact ⟨rfl, valid⟩
    · simp at h
  · rintro ⟨rfl, valid⟩
    exact ⟨name, rfl, if_pos valid⟩

theorem checkExpressionType_eq_valid {v : Value} {type : ExpressionType} :
    checkExpressionType v = .valid type ↔ ∃ spelling ∈ type.spellings, v = .text spelling := by
  simp only [checkExpressionType, Result.andThen_eq_valid, text_eq_valid,
    ← ExpressionType.parse?_eq_some_iff]
  constructor
  · rintro ⟨s, rfl, h⟩
    refine ⟨s, ?_, rfl⟩
    split at h <;> simp_all
  · rintro ⟨s, h, rfl⟩
    exact ⟨s, rfl, by simp [h]⟩

/-! ## Rules -/

/-- The rule of checked fields. -/
def RuleText.ofParts :
    BusScope × List ActiveState × String × ExpressionType × List String → RuleText
  | (scope, states, expression, type, labels) => ⟨scope, states, expression, type, labels⟩

/-- A written rule whose expression is compiled. -/
def RuleText.draft (r : RuleText) (e : Expression) : RuleDraft :=
  ⟨r.scope, ActiveState.all.filter r.states.contains, e, r.labels⟩

theorem checkRule_eq : checkRule = description "RuleDocument" ruleParts fun p =>
    (checkExpression (RuleText.ofParts p.1).expression (RuleText.ofParts p.1).type).map
      (RuleText.ofParts p.1).draft := rfl

theorem ruleParts_eq_valid {fields : List (String × Value)}
    {p : (BusScope × List ActiveState × String × ExpressionType × List String) × Unit} :
    ruleParts fields = .valid p ↔ (RuleText.ofParts p.1).WrittenIn fields := by
  obtain ⟨⟨scope, states, value, type, labels⟩, ⟨⟩⟩ := p
  simp only [ruleParts, Result.both_eq_valid, required_eq_valid, checkScope_eq_valid,
    listOf_eq_valid_iff_eq fun _ _ => checkState_eq_valid, text_eq_valid,
    checkExpressionType_eq_valid, listOf_eq_valid_iff_eq fun _ _ => text_eq_valid]
  constructor
  · rintro ⟨⟨⟨_, hscope, rfl⟩, ⟨_, hstates, rfl⟩, ⟨_, hvalue, rfl⟩, ⟨_, htype, spelling, hs, rfl⟩,
      _, hlabels, rfl⟩, others⟩
    have present : ∀ name ∈ ruleFields, ∃ v, Value.field? fields name = some v := by
      simp [ruleFields, hscope, hstates, hvalue, htype, hlabels]
    exact
      { exact := (noOthers_iff_exactly present).mp others
        scope := hscope
        states := by simpa [Value.texts, RuleText.ofParts, Function.comp_def] using hstates
        expression := hvalue
        type := ⟨spelling, hs, htype⟩
        labels := hlabels }
  · intro h
    obtain ⟨spelling, hs, htype⟩ := h.type
    refine ⟨⟨⟨_, h.scope, rfl⟩, ⟨_, h.states, ?_⟩, ⟨_, h.expression, rfl⟩,
      ⟨_, htype, spelling, hs, rfl⟩, _, h.labels, rfl⟩, ?_⟩
    · simp [Value.texts, RuleText.ofParts]
    · refine (noOthers_iff_exactly ?_).mpr h.exact
      simp [ruleFields, h.scope, h.states, h.expression, htype, h.labels]

theorem RuleText.exists_parts (r : RuleText) : ∃ p, RuleText.ofParts p = r :=
  ⟨(r.scope, r.states, r.expression, r.type, r.labels), rfl⟩

theorem checkExpression_eq_valid {value : String} {type : ExpressionType} {e : Expression} :
    checkExpression value type = .valid e ↔ Expression.compileType value type = .ok e := by
  unfold checkExpression
  split <;> simp_all

theorem checkRule_eq_valid {v : Value} {draft : RuleDraft} :
    checkRule v = .valid draft ↔ ∃ r e, IsObject (RuleText.WrittenIn r) v ∧
      Expression.compileType r.expression r.type = .ok e ∧ draft = r.draft e := by
  simp only [checkRule_eq, description_eq_valid, ruleParts_eq_valid, Result.map_eq_valid,
    checkExpression_eq_valid]
  constructor
  · rintro ⟨fields, rfl, p, written, e, compiled, rfl⟩
    exact ⟨_, e, ⟨fields, rfl, written⟩, compiled, rfl⟩
  · rintro ⟨r, e, ⟨fields, rfl, written⟩, compiled, rfl⟩
    obtain ⟨p, rfl⟩ := r.exists_parts
    exact ⟨fields, rfl, (p, ()), written, e, compiled, rfl⟩

/-! ## Notifiers -/

theorem checkNotifier_eq_valid (label : String) {v : Value} {p : BusScope × String} :
    checkNotifier v = .valid p ↔
      IsObject (NotifierWritten ⟨label, p.1, p.2⟩) v ∧ BusName.isValid p.2 := by
  obtain ⟨scope, name⟩ := p
  simp only [checkNotifier, description_eq_valid, notifierParts, Result.both_eq_valid,
    required_eq_valid, checkScope_eq_valid, checkBusName_eq_valid, Prod.exists, Result.valid.injEq,
    Prod.mk.injEq]
  constructor
  · rintro ⟨fields, rfl, _, _, ⟨⟩, ⟨⟨⟨_, hscope, rfl⟩, _, hname, rfl, valid⟩, others⟩, rfl, rfl⟩
    have present : ∀ name ∈ notifierFields, ∃ v, Value.field? fields name = some v := by
      simp [notifierFields, hscope, hname]
    exact ⟨⟨fields, rfl, (noOthers_iff_exactly present).mp others, hscope, hname⟩, valid⟩
  · rintro ⟨⟨fields, rfl, h⟩, valid⟩
    refine ⟨fields, rfl, scope, name, (), ⟨⟨⟨_, h.scope, rfl⟩, _, h.busName, rfl, valid⟩, ?_⟩,
      rfl, rfl⟩
    refine (noOthers_iff_exactly ?_).mpr h.exact
    simp [notifierFields, h.scope, h.busName]

/-! ## References -/

theorem danglingFrom_eq_none {notifiers : List Notifier} {drafts : List RuleDraft} (n : Nat) :
    danglingFrom notifiers n drafts = none ↔
      ∀ r ∈ drafts, ∀ l ∈ r.labels, ∃ m ∈ notifiers, m.label = l := by
  induction drafts generalizing n with
  | nil => simp [danglingFrom]
  | cons r rs ih =>
    simp only [danglingFrom, List.forall_mem_cons]
    cases h : r.labels.find? fun l => !notifiers.any (·.label == l) with
    | some l =>
      have unknown := List.find?_some h
      have listed := List.mem_of_find?_eq_some h
      simp only [reduceCtorEq, false_iff, not_and]
      intro known
      obtain ⟨m, hm, same⟩ := known l listed
      simp at unknown
      exact absurd same (unknown m hm)
    | none =>
      have known : ∀ l ∈ r.labels, ∃ m ∈ notifiers, m.label = l := by simpa using h
      rw [ih]
      exact ⟨fun rest => ⟨known, rest⟩, And.right⟩

theorem assemble_eq_valid {drafts : List RuleDraft} {table : List (String × BusScope × String)}
    {notifiers : List Notifier}
    (h : notifiers = table.map fun (label, scope, busName) => ⟨label, scope, busName⟩)
    {s : Settings} :
    assemble drafts table = .valid s ↔
      (∀ r ∈ drafts, ∀ l ∈ r.labels, ∃ m ∈ notifiers, m.label = l) ∧
        s = ⟨drafts.map (·.resolve notifiers), notifiers⟩ := by
  rw [← danglingFrom_eq_none 0]
  simp only [assemble, ← h]
  cases danglingFrom notifiers 0 drafts with
  | some d => simp
  | none => simp [eq_comm]

/-- Looking up labels gives every one of them, if each is there. -/
theorem lookups_of_known {notifiers : List Notifier} {labels : List String}
    (known : ∀ l ∈ labels, ∃ m ∈ notifiers, m.label = l) :
    labels.map (fun l => notifiers.find? (·.label == l)) =
      (labels.filterMap fun l => notifiers.find? (·.label == l)).map some := by
  induction labels with
  | nil => rfl
  | cons l ls ih =>
    rw [List.forall_mem_cons] at known
    have : (notifiers.find? (·.label == l)).isSome := by simpa using known.1
    obtain ⟨m, hm⟩ := Option.isSome_iff_exists.mp this
    simp [hm, ih known.2]

theorem known_of_lookups {notifiers found : List Notifier} {labels : List String}
    (h : labels.map (fun l => notifiers.find? (·.label == l)) = found.map some) :
    (∀ l ∈ labels, ∃ m ∈ notifiers, m.label = l) ∧
      (labels.filterMap fun l => notifiers.find? (·.label == l)) = found := by
  constructor
  · intro l hl
    have : notifiers.find? (·.label == l) ∈ found.map some := h ▸ List.mem_map_of_mem hl
    obtain ⟨m, _, hm⟩ := List.mem_map.mp this
    exact ⟨m, List.mem_of_find?_eq_some hm.symm, by simpa using List.find?_some hm.symm⟩
  · have := congrArg (List.filterMap id) h
    simpa [List.filterMap_map] using this

/-- A text yields a rule if and only if its draft resolves to the rule. -/
theorem yields_iff {notifiers : List Notifier} {r : RuleText} {rule : Rule} :
    r.Yields notifiers rule ↔ ∃ e, Expression.compileType r.expression r.type = .ok e ∧
      (∀ l ∈ r.labels, ∃ m ∈ notifiers, m.label = l) ∧ rule = (r.draft e).resolve notifiers := by
  constructor
  · intro h
    obtain ⟨known, found⟩ := known_of_lookups h.notifiers
    obtain ⟨scope, states, expression, targets⟩ := rule
    obtain ⟨rfl, rfl, compiled, _⟩ := h
    exact ⟨expression, compiled, known, by simp [RuleText.draft, RuleDraft.resolve, found]⟩
  · rintro ⟨e, compiled, known, rfl⟩
    exact ⟨rfl, rfl, compiled, lookups_of_known known⟩

/-- Compiled and resolved, written rules are the rules that they yield. -/
theorem forall₂_yields_iff {notifiers : List Notifier} {vs : List Value} {rules : List Rule} :
    (∃ drafts, List.Forall₂ (fun v draft => checkRule v = .valid draft) vs drafts ∧
      (∀ r ∈ drafts, ∀ l ∈ r.labels, ∃ m ∈ notifiers, m.label = l) ∧
      rules = drafts.map (·.resolve notifiers)) ↔
    ∃ texts, List.Forall₂ (fun v r => IsObject (RuleText.WrittenIn r) v) vs texts ∧
      List.Forall₂ (RuleText.Yields notifiers) texts rules := by
  constructor
  · rintro ⟨drafts, checked, known, rfl⟩
    induction checked with
    | nil => exact ⟨[], .nil, .nil⟩
    | cons h _ ih =>
      rw [List.forall_mem_cons] at known
      obtain ⟨texts, written, yields⟩ := ih known.2
      obtain ⟨r, e, hr, compiled, rfl⟩ := checkRule_eq_valid.mp h
      exact ⟨r :: texts, .cons hr written,
        .cons (yields_iff.mpr ⟨e, compiled, known.1, rfl⟩) yields⟩
  · rintro ⟨texts, written, yields⟩
    induction written generalizing rules with
    | nil => cases yields; exact ⟨[], .nil, by simp, rfl⟩
    | cons hr _ ih =>
      cases yields with
      | cons h rest =>
        obtain ⟨drafts, checked, known, rfl⟩ := ih rest
        obtain ⟨e, compiled, labels, rfl⟩ := yields_iff.mp h
        exact ⟨_ :: drafts, .cons (checkRule_eq_valid.mpr ⟨_, e, hr, compiled, rfl⟩) checked,
          List.forall_mem_cons.mpr ⟨labels, known⟩, rfl⟩

/-! ## Documents -/

theorem check_eq : check = description "SettingsDocument" documentParts fun p =>
    assemble p.1.2.1 p.1.2.2 := rfl

theorem checkVersion_eq_valid {n : Int} : checkVersion (.int n) = .valid () ↔ n = version := by
  simp only [checkVersion, integer, Result.andThen]
  split <;> simp [*]

/-- The notifiers of a checked table. -/
def notifiersOf (table : List (String × BusScope × String)) : List Notifier :=
  table.map fun (label, scope, busName) => ⟨label, scope, busName⟩

theorem checkNotifiers_eq_valid {entries : List (String × Value)} {notifiers : List Notifier} :
    (∃ table, List.Forall₂ (fun f a => f.1 = a.1 ∧ checkNotifier f.2 = .valid a.2) entries table ∧
      notifiers = notifiersOf table) ↔
    List.Forall₂ (fun entry n => entry.1 = n.label ∧ IsObject (NotifierWritten n) entry.2) entries
      notifiers ∧ ∀ n ∈ notifiers, BusName.isValid n.busName := by
  constructor
  · rintro ⟨table, checked, rfl⟩
    induction checked with
    | nil => exact ⟨.nil, by simp [notifiersOf]⟩
    | @cons f a _ _ h _ ih =>
      obtain ⟨written, valid⟩ := (checkNotifier_eq_valid a.1).mp h.2
      exact ⟨.cons ⟨h.1, written⟩ ih.1, List.forall_mem_cons.mpr ⟨valid, ih.2⟩⟩
  · rintro ⟨written, valid⟩
    induction written with
    | nil => exact ⟨[], .nil, rfl⟩
    | @cons f n _ _ h _ ih =>
      rw [List.forall_mem_cons] at valid
      obtain ⟨table, checked, rfl⟩ := ih valid.2
      exact ⟨(n.label, n.scope, n.busName) :: table,
        .cons ⟨h.1, (checkNotifier_eq_valid _).mpr ⟨h.2, valid.1⟩⟩ checked, rfl⟩

/-- **A document is valid if and only if it writes down a text that yields settings.** -/
theorem check_eq_valid {v : Value} {s : Settings}
    (integral : ∀ fields w, v = .object fields → Value.field? fields "version" = some w →
      ∃ n, w = .int n) :
    check v = .valid s ↔ ∃ d : DocumentText, IsObject d.WrittenIn v ∧
      (∀ n ∈ d.notifiers, BusName.isValid n.busName) ∧ d.Yields s := by
  simp only [check_eq, description_eq_valid, documentParts, Result.both_eq_valid,
    required_eq_valid, listOf_eq_valid, mappingOf_eq_valid]
  constructor
  · rintro ⟨fields, rfl, ⟨⟨⟨⟩, drafts, table⟩, ⟨⟩⟩, ⟨⟨⟨w, hversion, isVersion⟩,
      ⟨_, hrules, vs, rfl, checked⟩, _, hnotifiers, entries, rfl, tabled⟩, others⟩, assembled⟩
    obtain ⟨n, rfl⟩ := integral fields w rfl hversion
    obtain rfl := checkVersion_eq_valid.mp isVersion
    -- The labels are known, so each draft becomes a rule.
    obtain ⟨known, rfl⟩ := (assemble_eq_valid (show notifiersOf table = _ from rfl)).mp assembled
    obtain ⟨texts, written, yields⟩ := forall₂_yields_iff.mp ⟨drafts, checked, known, rfl⟩
    obtain ⟨listed, valid⟩ := checkNotifiers_eq_valid.mp ⟨table, tabled, rfl⟩
    have present : ∀ name ∈ documentFields, ∃ v, Value.field? fields name = some v := by
      simp [documentFields, hversion, hrules, hnotifiers]
    exact ⟨⟨texts, notifiersOf table⟩, ⟨fields, rfl, (noOthers_iff_exactly present).mp others,
      hversion, ⟨vs, hrules, written⟩, entries, hnotifiers, listed⟩, valid, rfl, yields⟩
  · rintro ⟨d, ⟨fields, rfl, h⟩, valid, same, yields⟩
    obtain ⟨vs, hrules, written⟩ := h.rules
    obtain ⟨entries, hnotifiers, listed⟩ := h.notifiers
    -- Each text has its draft, and the checked table is that of the notifiers.
    obtain ⟨drafts, checked, known, rules⟩ := forall₂_yields_iff.mpr ⟨d.rules, written, yields⟩
    obtain ⟨table, tabled, hd⟩ := checkNotifiers_eq_valid.mpr ⟨listed, valid⟩
    refine ⟨fields, rfl, (((), drafts, table), ()), ⟨⟨⟨_, h.version, checkVersion_eq_valid.mpr rfl⟩,
      ⟨_, hrules, vs, rfl, checked⟩, _, hnotifiers, entries, rfl, tabled⟩, ?_⟩, ?_⟩
    · refine (noOthers_iff_exactly ?_).mpr h.exact
      simp [documentFields, h.version, hrules, hnotifiers]
    · refine (assemble_eq_valid hd).mpr ⟨known, ?_⟩
      obtain ⟨ruleList, notifierList⟩ := s
      obtain rfl : notifierList = d.notifiers := same
      obtain rfl : ruleList = _ := rules
      rfl

/-- Sound texts are those that yield settings and have valid bus names. -/
theorem sound_iff {d : DocumentText} :
    d.Sound ↔ (∀ n ∈ d.notifiers, BusName.isValid n.busName) ∧ ∃ s, d.Yields s := by
  constructor
  · rintro ⟨expressions, labels, busNames⟩
    have each : ∀ r ∈ d.rules, ∃ rule, r.Yields d.notifiers rule := by
      intro r hr
      obtain ⟨e, compiled⟩ := Expression.compileType_ok_iff.mpr (expressions r hr)
      exact ⟨_, yields_iff.mpr ⟨e, compiled, labels r hr, rfl⟩⟩
    obtain ⟨out, yields⟩ := exists_forall₂_iff.mpr each
    exact ⟨busNames, ⟨out, d.notifiers⟩, rfl, yields⟩
  · rintro ⟨busNames, s, _, yields⟩
    have each := exists_forall₂_iff.mp ⟨s.rules, yields⟩
    refine ⟨fun r hr => ?_, fun r hr => ?_, busNames⟩
    · obtain ⟨rule, h⟩ := each r hr
      exact Expression.compileType_ok_iff.mp ⟨_, h.expression⟩
    · obtain ⟨rule, h⟩ := each r hr
      exact (known_of_lookups h.notifiers).1

/-! ## Crashes -/

/-- A rule with a pattern that the engine cannot read without a crash. -/
def RuleText.Overtaxes (r : RuleText) (c : Crash) : Prop :=
  r.type = .regex ∧ ∃ f, Pattern.read r.expression.toList = .error f ∧ f.crash? = some c

theorem crash?_checkExpression {value : String} {type : ExpressionType} {c : Crash} :
    (checkExpression value type).crash? = some c ↔
      type = .regex ∧ ∃ f, Pattern.read value.toList = .error f ∧ f.crash? = some c := by
  cases type with
  | unitName =>
    by_cases h : Expression.isUnitName value <;> simp [checkExpression, Expression.compileType, h]
  | unitType =>
    by_cases h : (UnitType.ofSuffix? value).isSome <;>
      simp [checkExpression, Expression.compileType, h]
  | regex =>
    simp only [checkExpression, Expression.compileType, true_and]
    cases h : Pattern.read value.toList with
    | ok p => simp
    | error f => cases f <;> simp [Pattern.Fault.crash?]

@[simp] theorem crash?_checkScope (v : Value) : (checkScope v).crash? = none := crash?_member ..

@[simp] theorem crash?_checkVersion (v : Value) : (checkVersion v).crash? = none := by
  rw [checkVersion, Result.crash?_andThen_of_next, crash?_integer]
  intro n
  split <;> rfl

@[simp] theorem crash?_checkBusName (v : Value) : (checkBusName v).crash? = none := by
  rw [checkBusName, Result.crash?_andThen_of_next, crash?_text]
  intro s
  split <;> rfl

@[simp] theorem crash?_checkExpressionType (v : Value) :
    (checkExpressionType v).crash? = none := by
  rw [checkExpressionType, Result.crash?_andThen_of_next, crash?_text]
  intro s
  split <;> rfl

theorem crash?_notifierParts (fields : List (String × Value)) :
    (notifierParts fields).crash? = none := by
  simp [notifierParts, crash?_required]

@[simp] theorem crash?_checkNotifier (v : Value) : (checkNotifier v).crash? = none := by
  rw [checkNotifier, crash?_description]
  cases v with
  | object fields =>
    exact (Result.crash?_andThen_of_next _ fun _ => rfl).trans (crash?_notifierParts fields)
  | foreign what =>
    cases what with
    | kind name => rfl
    | fields entries => exact crash?_notifierParts _
  | _ => rfl

theorem crash?_assemble (drafts : List RuleDraft) (table : List (String × BusScope × String)) :
    (assemble drafts table).crash? = none := by
  unfold assemble
  dsimp only
  split <;> rfl

theorem crash?_ruleParts (fields : List (String × Value)) : (ruleParts fields).crash? = none := by
  simp [ruleParts, crash?_required, crash?_listOf]

/-- A rule breaks off if and only if it is well formed and its pattern overtaxes the engine. -/
theorem crash?_checkRule {v : Value} {c : Crash} :
    (checkRule v).crash? = some c ↔ ∃ r, IsObject (RuleText.WrittenIn r) v ∧ r.Overtaxes c := by
  have object (fields : List (String × Value)) :
      ((ruleParts fields).andThen fun p =>
        (checkExpression (RuleText.ofParts p.1).expression (RuleText.ofParts p.1).type).map
          (RuleText.ofParts p.1).draft).crash? = some c ↔
        ∃ r : RuleText, r.WrittenIn fields ∧ r.Overtaxes c := by
    simp only [Result.crash?_andThen (crash?_ruleParts fields), ruleParts_eq_valid,
      Result.crash?_map, crash?_checkExpression]
    constructor
    · rintro ⟨p, written, overtaxes⟩
      exact ⟨_, written, overtaxes⟩
    · rintro ⟨r, written, overtaxes⟩
      obtain ⟨p, rfl⟩ := r.exists_parts
      exact ⟨(p, ()), written, overtaxes⟩
  rw [checkRule_eq, crash?_description]
  cases v with
  | object fields => simp [object, IsObject]
  | foreign what => cases what <;> simp [crash?_ruleParts, IsObject]
  | _ => simp [IsObject]

theorem crash?_documentParts (fields : List (String × Value)) :
    (documentParts fields).crash? =
      ((Value.field? fields "rules").getD .null).items.findSome? fun rule =>
        (checkRule rule).crash? := by
  simp only [documentParts, Result.crash?_both, crash?_required, crash?_noOthers, crash?_listOf,
    crash?_mappingOf crash?_checkNotifier, crash?_checkVersion]
  cases Value.field? fields "rules" with
  | none => simp [Value.items]
  | some rules => simp

/-- A document breaks off with the crash of its first rule that does. -/
theorem crash?_check (v : Value) :
    (check v).crash? = (v.get "rules").items.findSome? fun rule => (checkRule rule).crash? := by
  rw [check_eq, crash?_description]
  cases v with
  | object fields =>
    exact (Result.crash?_andThen_of_next _ fun _ => crash?_assemble _ _).trans
      (crash?_documentParts fields)
  | foreign what =>
    cases what with
    | kind name => rfl
    | fields entries => exact crash?_documentParts _
  | _ => rfl

/-- The texts of the rules that are patterns. -/
def patterns (v : Value) : List String :=
  (v.get "rules").items.filterMap fun rule =>
    if (rule.get "expression_type").text?.bind ExpressionType.parse? = some .regex
    then (rule.get "expression").text? else none

theorem mem_patterns {v rule : Value} (listed : rule ∈ (v.get "rules").items) {r : RuleText}
    (written : IsObject r.WrittenIn rule) (isPattern : r.type = .regex) :
    r.expression ∈ patterns v := by
  obtain ⟨fields, rfl, h⟩ := written
  obtain ⟨spelling, spelled, htype⟩ := h.type
  rw [isPattern, ← ExpressionType.parse?_eq_some_iff] at spelled
  refine List.mem_filterMap.mpr ⟨_, listed, ?_⟩
  simp [Value.get, htype, h.expression, Value.text?, spelled]

theorem crash?_check_of_readable {v : Value}
    (readable : ∀ p ∈ patterns v, ∀ f, Pattern.read p.toList = .error f → f.crash? = none) :
    (check v).crash? = none := by
  rw [crash?_check, List.findSome?_eq_none_iff]
  intro rule listed
  rw [Option.eq_none_iff_forall_not_mem]
  intro c hc
  obtain ⟨r, written, isPattern, f, unread, crashes⟩ := crash?_checkRule.mp hc
  rw [readable r.expression (mem_patterns listed written isPattern) f unread] at crashes
  cases crashes

/-! ## Acceptance -/

theorem ofDocument_eq_ok {v : Value} {s : Settings} :
    ofDocument v = .ok s ↔ check v = .valid s := by
  unfold ofDocument
  split <;> simp [*]

/-- A rule of an accepted document contacts the notifiers that its labels name. -/
theorem notifier?_of_ofDocument {v : Value} {s : Settings} (read : ofDocument v = .ok s)
    {rule : Rule} (hr : rule ∈ s.rules) {n : Notifier} (hn : n ∈ rule.notifiers) :
    s.notifier? n.label = some n := by
  have valid := ofDocument_eq_ok.mp read
  simp only [check_eq, description_eq_valid] at valid
  obtain ⟨fields, rfl, parts, -, assembled⟩ := valid
  obtain ⟨-, rfl⟩ := (assemble_eq_valid (show notifiersOf parts.1.2.2 = _ from rfl)).mp assembled
  obtain ⟨draft, -, rfl⟩ := List.mem_map.mp hr
  obtain ⟨label, -, found⟩ := List.mem_filterMap.mp hn
  have named : n.label = label := by simpa using List.find?_some found
  rw [notifier?, named]
  exact found

/-- **A document is accepted if and only if it says what it has to say**, in full and in order, and
otherwise there are findings about it. The version is taken to be an integer where there is one, and
no pattern to be beyond the engine. -/
theorem accepts_iff_acceptable {v : Value}
    (integral : ∀ fields w, v = .object fields → Value.field? fields "version" = some w →
      ∃ n, w = .int n)
    (readable : ∀ p ∈ patterns v, ∀ f, Pattern.read p.toList = .error f → f.crash? = none) :
    ((∃ s, ofDocument v = .ok s) ↔ Acceptable v) ∧
    (¬Acceptable v → ∃ first others,
      ofDocument v = .error (.fault (invalid (first :: others)))) ∧
    ∀ s, ofDocument v = .ok s →
      ∃ d : DocumentText, IsObject d.WrittenIn v ∧ d.Sound ∧ d.Yields s := by
  have stands : ∀ s, ofDocument v = .ok s →
      ∃ d : DocumentText, IsObject d.WrittenIn v ∧ d.Sound ∧ d.Yields s := by
    intro s h
    obtain ⟨d, written, busNames, yields⟩ := (check_eq_valid integral).mp (ofDocument_eq_ok.mp h)
    exact ⟨d, written, sound_iff.mpr ⟨busNames, s, yields⟩, yields⟩
  have accepted : (∃ s, ofDocument v = .ok s) ↔ Acceptable v := by
    constructor
    · rintro ⟨s, h⟩
      obtain ⟨d, written, sound, -⟩ := stands s h
      exact ⟨d, written, sound⟩
    · rintro ⟨d, written, sound⟩
      obtain ⟨busNames, s, yields⟩ := sound_iff.mp sound
      exact ⟨s, ofDocument_eq_ok.mpr ((check_eq_valid integral).mpr ⟨d, written, busNames, yields⟩)⟩
  refine ⟨accepted, fun refused => ?_, stands⟩
  have notValid : ∀ s, check v ≠ .valid s := fun s h =>
    refused (accepted.mp ⟨s, ofDocument_eq_ok.mpr h⟩)
  obtain ⟨first, others, h⟩ := Result.findings_of notValid (crash?_check_of_readable readable)
  exact ⟨first, others, by simp [ofDocument, h]⟩

/-- A document with one rule, which names one notifier. -/
def mailOnFailure : Value := .object
  [("version", .int 1),
   ("rules", .list [.object
     [("bus_type", .text "system"), ("active_states", .texts ["failed"]),
      ("expression", .text "ssh.*"), ("expression_type", .text "pattern"),
      ("notifiers", .texts ["mail"])]]),
   ("notifiers", .object [("mail", .object
     [("bus_type", .text "session"), ("bus_name", .text "org.example.Mail")])])]

theorem accepts_mailOnFailure :
    (∃ s, ofDocument mailOnFailure = .ok s) ∧ Acceptable mailOnFailure := by
  have pattern : (Pattern.read "ssh.*".toList).isOk = true := by decide +kernel
  obtain ⟨source, read⟩ : ∃ source, Pattern.read "ssh.*".toList = .ok source := by
    cases h : Pattern.read "ssh.*".toList with
    | ok source => exact ⟨source, rfl⟩
    | error f => rw [h] at pattern; cases pattern
  have acceptable : Acceptable mailOnFailure := by
    refine ⟨⟨[⟨.system, [.failed], "ssh.*", .regex, ["mail"]⟩],
      [⟨"mail", .session, "org.example.Mail"⟩]⟩, ⟨_, rfl, ?_⟩, ?_⟩
    · refine ⟨fun _ => Iff.rfl, rfl, ⟨_, rfl, .cons ⟨_, rfl, ?_⟩ .nil⟩,
        ⟨_, rfl, .cons ⟨rfl, _, rfl, fun _ => Iff.rfl, rfl, rfl⟩ .nil⟩⟩
      exact ⟨fun _ => Iff.rfl, rfl, rfl, rfl, ⟨"pattern", by decide, rfl⟩, rfl⟩
    · exact ⟨by simpa [ExpressionType.Admits] using ⟨source, read⟩, by simp, by decide⟩
  have integral : ∀ fields w, mailOnFailure = .object fields →
      Value.field? fields "version" = some w → ∃ n, w = .int n := by
    rintro fields w ⟨⟩ ⟨⟩
    exact ⟨1, rfl⟩
  have readable : ∀ p ∈ patterns mailOnFailure, ∀ f, Pattern.read p.toList = .error f →
      f.crash? = none := by
    intro p hp f unread
    obtain rfl : p = "ssh.*" := List.mem_singleton.mp hp
    rw [read] at unread
    cases unread
  exact ⟨(accepts_iff_acceptable integral readable).1.mpr acceptable, acceptable⟩

end Settings

end UnitWatch
