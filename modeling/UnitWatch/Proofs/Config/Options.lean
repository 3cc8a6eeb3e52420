import UnitWatch.Config.Basic
import UnitWatch.Proofs.Check.Result
import UnitWatch.Proofs.Config.Merge
import UnitWatch.Text.LowerCase

/-!
# Options and where their values come from

A configuration has one value for each option. `Reads` relates it to the raw value that counts for
the option, which may be missing: then the default stands. `Config.ReadFrom` says so of all options,
for any choice of raw values.

Named values are a configuration if and only if their groups are objects, every option reads its raw
value, and the delays are in order (`check_eq_valid`). No option can be an object, so for an option a
merge is a choice (`reads_overlay`).
-/

namespace UnitWatch.Config

open Check

variable {α : Type}

/-- An option has the value that passes its check, or its default where there is none. -/
def Reads (check : Checker α) (default : α) (raw : Option Value) (a : α) : Prop :=
  match raw with
  | some v => check v = .valid a
  | none => a = default

theorem optional_eq_valid {fields : List (String × Value)} {name : String} {check : Checker α}
    {default a : α} :
    Check.optional fields name check default = .valid a ↔
      Reads check default (Value.field? fields name) a := by
  unfold Check.optional Reads
  cases Value.field? fields name with
  | none => simp [eq_comm]
  | some v => simp

/-! ## Groups and names -/

/-- A group is an object, if it is there. -/
def IsGroup (group : Option Value) : Prop := ∀ v, group = some v → ∃ fields, v = .object fields

theorem isGroup_none : IsGroup none := nofun

theorem isGroup_object (fields : List (String × Value)) : IsGroup (some (.object fields)) :=
  fun _ same => ⟨fields, (Option.some.inj same).symm⟩

instance (group : Option Value) : Decidable (IsGroup group) :=
  match group with
  | none => .isTrue isGroup_none
  | some (.object fields) => .isTrue (isGroup_object fields)
  | some .null | some (.bool _) | some (.int _) | some (.float _) | some (.text _)
  | some (.brokenText _) | some (.list _) | some (.foreign _) =>
    .isFalse fun h => nomatch h _ rfl

/-- Names of options are written as they are. -/
def Spelled (options : List String) (fields : List (String × Value)) : Prop :=
  ∀ name ∈ fields.map Prod.fst, Text.toLower name ∈ options → name ∈ options

instance (options : List String) (fields : List (String × Value)) :
    Decidable (Spelled options fields) := List.decidableBAll _ (fields.map Prod.fst)

/-! ## Checks of options -/

def checkLevel : Checker Log.Threshold := oneOf Log.Threshold.all Log.Threshold.word

def checkFormat : Checker Log.Format := oneOf Log.Format.all Log.Format.word

/-- Every option of a configuration has the raw value that counts for it, or its default. -/
structure ReadFrom (c : Config) (raw : String → String → Option Value) (path : Option Value) :
    Prop where
  level : Reads checkLevel .info (raw "logging" "level") c.logging.level
  format : Reads checkFormat .console (raw "logging" "format") c.logging.format
  file : Reads checkPath none (raw "logging" "file") c.logging.file
  callTimeout : Reads (above 0) (.ofInt 1) (raw "bus" "call_timeout_seconds") c.bus.callTimeout
  attempts : Reads (between 0 100) 5 (raw "bus" "reconnect_attempts") c.bus.attempts
  backoff : Reads (above 0) (.ofInt 1) (raw "bus" "reconnect_backoff_seconds") c.bus.backoff
  backoffMax :
    Reads (above 0) (.ofInt 30) (raw "bus" "reconnect_backoff_max_seconds") c.bus.backoffMax
  notifyTimeout : Reads (above 0) (.ofInt 5) (raw "notify" "timeout_seconds") c.notifyTimeout
  settingsPath : Reads checkPath none path c.settingsPath

/-- The greatest delay is not less than the first. -/
def InOrder (c : Config) : Prop := c.bus.backoffMax.lt c.bus.backoff = false

/-! ## Groups -/

theorem logging_eq_valid {group : Option Value} {o : Log.Options} :
    Reads checkLogging {} group o ↔ IsGroup group ∧
      Reads checkLevel .info (inner? group "level") o.level ∧
      Reads checkFormat .console (inner? group "format") o.format ∧
      Reads checkPath none (inner? group "file") o.file := by
  obtain ⟨level, format, file⟩ := o
  cases group with
  | none => simp [Reads, IsGroup, inner?]
  | some v =>
    simp only [Reads, IsGroup, inner?, checkLogging, description_eq_valid, loggingParts,
      Result.both_eq_valid, optional_eq_valid, Option.bind_some, Option.some.injEq, forall_eq']
    constructor
    · rintro ⟨fields, rfl, ⟨_, _, _⟩, ⟨hlevel, hformat, hfile⟩, ⟨⟩⟩
      exact ⟨⟨fields, rfl⟩, hlevel, hformat, hfile⟩
    · rintro ⟨⟨fields, rfl⟩, hlevel, hformat, hfile⟩
      exact ⟨fields, rfl, (level, format, file), ⟨hlevel, hformat, hfile⟩, rfl⟩

theorem checkDelays_eq_valid {o o' : BusOptions} :
    checkDelays o = .valid o' ↔ o.backoffMax.lt o.backoff = false ∧ o = o' := by
  unfold checkDelays
  cases o.backoffMax.lt o.backoff <;> simp

theorem bus_eq_valid {group : Option Value} {o : BusOptions} :
    Reads checkBus {} group o ↔ IsGroup group ∧
      Reads (above 0) (.ofInt 1) (inner? group "call_timeout_seconds") o.callTimeout ∧
      Reads (between 0 100) 5 (inner? group "reconnect_attempts") o.attempts ∧
      Reads (above 0) (.ofInt 1) (inner? group "reconnect_backoff_seconds") o.backoff ∧
      Reads (above 0) (.ofInt 30) (inner? group "reconnect_backoff_max_seconds") o.backoffMax ∧
      o.backoffMax.lt o.backoff = false := by
  obtain ⟨timeout, attempts, delay, longest⟩ := o
  cases group with
  | none =>
    have ordered : (Binary64.ofInt 30).lt (.ofInt 1) = false := by decide +kernel
    simp only [Reads, IsGroup, inner?, Option.bind_none, BusOptions.mk.injEq, reduceCtorEq,
      false_implies, implies_true, true_and]
    constructor
    · rintro ⟨rfl, rfl, rfl, rfl⟩
      exact ⟨rfl, rfl, rfl, rfl, ordered⟩
    · rintro ⟨rfl, rfl, rfl, rfl, -⟩
      exact ⟨rfl, rfl, rfl, rfl⟩
  | some v =>
    simp only [Reads, IsGroup, inner?, checkBus, description_eq_valid, busParts,
      Result.both_eq_valid, optional_eq_valid, checkDelays_eq_valid, Option.bind_some,
      Option.some.injEq, forall_eq']
    constructor
    · rintro ⟨fields, rfl, ⟨_, _, _, _⟩, ⟨htimeout, hattempts, hdelay, hlongest⟩, ordered, ⟨⟩⟩
      exact ⟨⟨fields, rfl⟩, htimeout, hattempts, hdelay, hlongest, ordered⟩
    · rintro ⟨⟨fields, rfl⟩, htimeout, hattempts, hdelay, hlongest, ordered⟩
      exact ⟨fields, rfl, (timeout, attempts, delay, longest),
        ⟨htimeout, hattempts, hdelay, hlongest⟩, ordered, rfl⟩

theorem notify_eq_valid {group : Option Value} {timeout : Binary64} :
    Reads checkNotify (.ofInt 5) group timeout ↔ IsGroup group ∧
      Reads (above 0) (.ofInt 5) (inner? group "timeout_seconds") timeout := by
  cases group with
  | none => simp [Reads, IsGroup, inner?]
  | some v =>
    simp only [Reads, IsGroup, inner?, checkNotify, description_eq_valid, optional_eq_valid,
      Option.bind_some, Option.some.injEq, forall_eq']
    constructor
    · rintro ⟨fields, rfl, _, h, ⟨⟩⟩
      exact ⟨⟨fields, rfl⟩, h⟩
    · rintro ⟨⟨fields, rfl⟩, h⟩
      exact ⟨fields, rfl, timeout, h, rfl⟩

/-! ## The configuration -/

/-- **Named values are a configuration if and only if every option reads its own.** -/
theorem check_eq_valid {fields : List (String × Value)} {c : Config} :
    check fields = .valid c ↔
      (∀ group ∈ groups.map Prod.fst, IsGroup (Value.field? fields group)) ∧
      c.ReadFrom (fun group option => inner? (Value.field? fields group) option)
        (Value.field? fields settingsField) ∧
      c.InOrder := by
  obtain ⟨logging, bus, notify, path⟩ := c
  simp only [check, Result.map_eq_valid, Result.both_eq_valid, optional_eq_valid,
    logging_eq_valid, bus_eq_valid, notify_eq_valid, groups, List.map_cons, List.map_nil,
    List.forall_mem_cons, List.not_mem_nil, false_implies, implies_true, and_true]
  constructor
  · rintro ⟨⟨_, _, _, _⟩, ⟨⟨isLogging, h1, h2, h3⟩, ⟨isBus, h4, h5, h6, h7, ordered⟩,
      ⟨isNotify, h8⟩, h9⟩, ⟨⟩⟩
    exact ⟨⟨isLogging, isBus, isNotify⟩, ⟨h1, h2, h3, h4, h5, h6, h7, h8, h9⟩, ordered⟩
  · rintro ⟨⟨isLogging, isBus, isNotify⟩, ⟨h1, h2, h3, h4, h5, h6, h7, h8, h9⟩, ordered⟩
    exact ⟨(logging, bus, notify, path), ⟨⟨isLogging, h1, h2, h3⟩,
      ⟨isBus, h4, h5, h6, h7, ordered⟩, ⟨isNotify, h8⟩, h9⟩, rfl⟩

/-! ## Merged values of options -/

/-- A check that no object passes. -/
def Plain (check : Checker α) : Prop := ∀ fields a, check (.object fields) ≠ .valid a

/-- Where no object counts, one value over another is the one with priority. -/
theorem reads_overlay {check : Checker α} (plain : Plain check) {default a : α}
    {base upper : Option Value} :
    Reads check default (overlay base upper) a ↔ Reads check default (upper.or base) a := by
  cases upper with
  | none => rfl
  | some v =>
    cases v with
    | object fields =>
      obtain ⟨_, merged⟩ := mergeValue_object base fields
      simp only [overlay_some, merged, Option.some_or, Reads]
      exact ⟨fun h => absurd h (plain _ _), fun h => absurd h (plain _ _)⟩
    | _ => rfl

theorem plain_oneOf (all : List α) (word : α → String) : Plain (oneOf all word) := by
  intro fields a
  simp [oneOf, Value.text?]

theorem plain_checkPath : Plain checkPath := by
  intro fields a
  simp [checkPath]

theorem plain_above (bound : Int) : Plain (above bound) := by
  intro fields a
  simp [above, number, Result.reject, Result.andThen]

theorem plain_between (low high : Int) : Plain (between low high) := by
  intro fields a
  simp [between, integer, Result.reject, Result.andThen]

/-- Raw values may be replaced by others that read the same where no object counts. -/
theorem ReadFrom.imp {c : Config} {raw raw' : String → String → Option Value}
    {path path' : Option Value} (h : c.ReadFrom raw path)
    (same : ∀ {α : Type} {check : Checker α}, Plain check → ∀ g ∈ groups, ∀ option ∈ g.2,
      ∀ default a : α, Reads check default (raw g.1 option) a →
        Reads check default (raw' g.1 option) a)
    (samePath : ∀ p, Reads checkPath none path p → Reads checkPath none path' p) :
    c.ReadFrom raw' path' := by
  simp only [groups, loggingFields, busFields, notifyFields, List.forall_mem_cons,
    List.not_mem_nil, false_implies, implies_true, and_true] at same
  exact {
    level := (same (plain_oneOf _ _)).1.1 _ _ h.level
    format := (same (plain_oneOf _ _)).1.2.1 _ _ h.format
    file := (same plain_checkPath).1.2.2 _ _ h.file
    callTimeout := (same (plain_above _)).2.1.1 _ _ h.callTimeout
    attempts := (same (plain_between _ _)).2.1.2.1 _ _ h.attempts
    backoff := (same (plain_above _)).2.1.2.2.1 _ _ h.backoff
    backoffMax := (same (plain_above _)).2.1.2.2.2 _ _ h.backoffMax
    notifyTimeout := (same (plain_above _)).2.2 _ _ h.notifyTimeout
    settingsPath := samePath _ h.settingsPath }

/-- Options read through a merge read what has priority. -/
theorem readFrom_overlay {c : Config} (raw base upper : String → String → Option Value)
    {basePath overPath : Option Value}
    (merged : ∀ g ∈ groups, ∀ option ∈ g.2,
      raw g.1 option = overlay (base g.1 option) (upper g.1 option)) :
    c.ReadFrom raw (overlay basePath overPath) ↔
      c.ReadFrom (fun group option => (upper group option).or (base group option))
        (overPath.or basePath) := by
  constructor
  · intro h
    refine h.imp (fun plain g hg option ho _ _ read => ?_) fun _ =>
      (reads_overlay plain_checkPath).mp
    rw [merged g hg option ho] at read
    exact (reads_overlay plain).mp read
  · intro h
    refine h.imp (fun plain g hg option ho _ _ read => ?_) fun _ =>
      (reads_overlay plain_checkPath).mpr
    rw [merged g hg option ho]
    exact (reads_overlay plain).mpr read

end UnitWatch.Config
