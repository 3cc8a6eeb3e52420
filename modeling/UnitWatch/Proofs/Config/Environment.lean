import UnitWatch.Config.Environment
import UnitWatch.Proofs.Config.Options
import UnitWatch.Proofs.Json.Reader
import UnitWatch.Proofs.Text.LowerCase

/-!
# What the environment says

**Variables** (`variableNamed`). A variable is known by its name in small letters; of several with one
name the last one counts.

**Options.** The value of an option is the text of the option's own variable, whatever variables there
are below it. With neither, the option has the value that its group has as a whole, if the group is
given so (`Speaks`, `gives_of_ofEnvironment`).
-/

namespace UnitWatch.Config

/-! ## Variables -/

/-- The variable with a name in small letters; of several the last one counts. -/
def variableNamed (environment : List (String × String)) (name : String) : Option String :=
  (environment.reverse.find? fun v => Text.toLower v.1 == name).map (·.2)

/-- Variables as named values. -/
def asFields (vs : List (String × String)) : List (String × Value) :=
  vs.map fun v => (v.1, .text v.2)

theorem field?_asFields (vs : List (String × String)) (name : String) :
    Value.field? (asFields vs) name = (vs.lookup name).map .text := by
  induction vs with
  | nil => rfl
  | cons v vs ih =>
    obtain ⟨n, text⟩ := v
    rw [asFields, List.map_cons, Value.field?_cons, List.lookup_cons]
    by_cases same : name = n
    · simp [same]
    · rw [if_neg same, beq_false_of_ne same]
      exact ih

theorem asFields_put (vs : List (String × String)) (name text : String) :
    asFields (if vs.any (·.1 == name) then vs.map fun v => if v.1 == name then (name, text) else v
      else vs ++ [(name, text)]) = Value.put (asFields vs) name (.text text) := by
  unfold Value.put asFields
  rw [List.any_map]
  simp only [Function.comp_def]
  split
  · rw [List.map_map, List.map_map]
    refine List.map_congr_left fun v _ => ?_
    simp only [Function.comp]
    split <;> rfl
  · simp

/-- Variables with their names in small letters. -/
def inSmallLetters (environment : List (String × String)) : List (String × String) :=
  environment.map fun v => (Text.toLower v.1, v.2)

/-- A variable put under its name in small letters. -/
def putVariable (vs : List (String × String)) (v : String × String) : List (String × String) :=
  if vs.any (·.1 == Text.toLower v.1) then
    vs.map fun u => if u.1 == Text.toLower v.1 then (Text.toLower v.1, v.2) else u
  else vs ++ [(Text.toLower v.1, v.2)]

theorem asFields_foldNames (environment : List (String × String)) :
    asFields (foldNames environment) = Value.putAll [] (asFields (inSmallLetters environment)) := by
  have each (vs environment : List (String × String)) :
      asFields (environment.foldl putVariable vs) =
        Value.putAll (asFields vs) (asFields (inSmallLetters environment)) := by
    induction environment generalizing vs with
    | nil => rfl
    | cons v environment ih =>
      rw [List.foldl_cons, ih, putVariable, asFields_put]
      rfl
  exact each [] environment

theorem lookup_foldNames (environment : List (String × String)) (name : String) :
    (foldNames environment).lookup name = variableNamed environment name := by
  have found (vs : List (String × String)) :
      Value.field? (asFields (inSmallLetters vs)) name =
        (vs.find? fun v => Text.toLower v.1 == name).map (.text ·.2) := by
    induction vs with
    | nil => rfl
    | cons v vs ih =>
      rw [inSmallLetters, asFields, List.map_cons, List.map_cons, Value.field?_cons]
      by_cases same : name = Text.toLower v.1
      · simp [same]
      · rw [if_neg same, List.find?_cons_of_neg (by simpa using Ne.symm same)]
        exact ih
  have reversed : (asFields (inSmallLetters environment)).reverse =
      asFields (inSmallLetters environment.reverse) := by
    simp [asFields, inSmallLetters]
  have texts : ((foldNames environment).lookup name).map Value.text =
      (variableNamed environment name).map Value.text := by
    rw [← field?_asFields, asFields_foldNames, Value.field?_putAll, Value.field?_nil,
      Option.or_none, reversed, found, variableNamed, Option.map_map]
    rfl
  exact Option.map_injective (fun _ _ h => Value.text.inj h) texts

theorem named_foldNames (environment : List (String × String)) :
    ((foldNames environment).map Prod.fst).Nodup := by
  have names : (foldNames environment).map Prod.fst =
      (asFields (foldNames environment)).map Prod.fst := by
    simp [asFields, Function.comp_def]
  rw [names, asFields_foldNames]
  exact Value.Named.putAll (by simp [Value.Named]) _

theorem exists_of_mem_foldNames {environment : List (String × String)} {v : String × String}
    (h : v ∈ foldNames environment) : ∃ u ∈ environment, Text.toLower u.1 = v.1 := by
  have there : v.1 ∈ (asFields (foldNames environment)).map Prod.fst := by
    simpa [asFields, Function.comp_def] using ⟨v.2, h⟩
  rw [asFields_foldNames] at there
  rcases Value.name_of_putAll there with none | among
  · simp at none
  · simpa [asFields, inSmallLetters, Function.comp_def] using among

/-! ## Names of options -/

/-- The name of the variable of a group. -/
def groupVariable (group : String) : String := variableStart ++ group

/-- The name of the variable of an option. -/
def optionVariable (group option : String) : String :=
  variableStart ++ group ++ String.ofList groupMark ++ option

theorem dropStart?_eq_some {start name : String} {rest : List Char} :
    dropStart? start name = some rest ↔ name.toList = start.toList ++ rest := by
  unfold dropStart?
  constructor
  · intro h
    split at h
    · next starts =>
      obtain ⟨rest', same⟩ := List.isPrefixOf_iff_prefix.mp starts
      rw [← same] at h ⊢
      rw [← String.length_toList, List.drop_left] at h
      cases h
      rfl
    · cases h
  · intro h
    have starts : start.toList.isPrefixOf name.toList :=
      List.isPrefixOf_iff_prefix.mpr ⟨rest, h.symm⟩
    rw [if_pos starts, h, ← String.length_toList, List.drop_left]

theorem nameParts_ne_nil (s : List Char) : nameParts s ≠ [] := by
  fun_induction nameParts s <;> simp_all

/-- The first part of a name is all of it, or it goes on with a mark. -/
theorem nameParts_eq_cons {s p : List Char} {ps : List (List Char)} (h : nameParts s = p :: ps) :
    (ps = [] → p = s) ∧ (ps ≠ [] → p ++ groupMark <+: s) := by
  fun_induction nameParts s generalizing p ps with
  | case1 rest =>
    obtain ⟨rfl, rfl⟩ := List.cons.inj h
    exact ⟨fun none => absurd none (nameParts_ne_nil rest), fun _ => List.prefix_append _ rest⟩
  | case2 c rest _ q qs inner ih =>
    obtain ⟨rfl, rfl⟩ := List.cons.inj h
    obtain ⟨whole, marked⟩ := ih inner
    exact ⟨fun none => by rw [whole none],
      fun more => List.cons_prefix_cons.mpr ⟨rfl, marked more⟩⟩
  | case3 c rest _ none => exact absurd none (nameParts_ne_nil rest)
  | case4 =>
    obtain ⟨rfl, rfl⟩ := List.cons.inj h
    exact ⟨fun _ => rfl, fun more => absurd rfl more⟩

/-- Where the variable of a name puts its text among the options of a group. -/
def pathIn (group name : String) : Option (List String) :=
  (dropStart? (variableStart ++ group ++ String.ofList groupMark) name).map fun rest =>
    (nameParts rest).map String.ofList

/-- A name goes on below the variable of an option. -/
def Below (group option name : String) : Prop :=
  (optionVariable group option).toList ++ groupMark <+: name.toList

/-- A path begins with an option only for the option's own variable and for those below it. -/
theorem pathIn_eq_cons {group name option : String} {more : List String}
    (h : pathIn group name = some (option :: more)) :
    (more = [] → name = optionVariable group option) ∧
      (more ≠ [] → Below group option name) := by
  unfold pathIn at h
  obtain ⟨rest, dropped, parts⟩ := Option.map_eq_some_iff.mp h
  obtain ⟨p, ps, hparts, hp, rfl⟩ := List.map_eq_cons_iff.mp parts
  obtain ⟨whole, marked⟩ := nameParts_eq_cons hparts
  have same := dropStart?_eq_some.mp dropped
  have letters : p = option.toList := by rw [← hp, String.toList_ofList]
  have spelled : (optionVariable group option).toList =
      (variableStart ++ group ++ String.ofList groupMark).toList ++ p := by
    simp only [optionVariable, String.toList_append, letters]
  simp only [ne_eq, List.map_eq_nil_iff]
  constructor
  · intro none
    apply String.toList_injective
    rw [same, spelled, whole none]
  · intro more
    rw [Below, spelled, same, List.append_assoc]
    exact (List.prefix_append_right_inj _).mpr (marked more)

theorem pathIn_optionVariable {group option : String}
    (single : nameParts option.toList = [option.toList]) :
    pathIn group (optionVariable group option) = some [option] := by
  have dropped : dropStart? (variableStart ++ group ++ String.ofList groupMark)
      (optionVariable group option) = some option.toList := by
    rw [dropStart?_eq_some]
    simp only [optionVariable, String.toList_append]
  rw [pathIn, dropped, Option.map_some, single]
  simp

/-! ## Options one by one -/

/-- A text is put by a write under the first name of its path, or not at all. -/
theorem putAt_cases (fields : List (String × Value)) (name : String) (more : List String)
    (text : String) : putAt fields (name :: more) text = fields ∨
      ∃ v, putAt fields (name :: more) text = Value.put fields name v := by
  cases more with
  | nil => exact .inr ⟨_, rfl⟩
  | cons n more =>
    simp only [putAt]
    split
    · exact .inr ⟨_, rfl⟩
    · exact .inr ⟨_, rfl⟩
    · exact .inl rfl

theorem field?_putAt_of_ne {name option : String} (h : option ≠ name)
    (fields : List (String × Value)) (more : List String) (text : String) :
    Value.field? (putAt fields (name :: more) text) option = Value.field? fields option := by
  rcases putAt_cases fields name more text with same | ⟨v, written⟩
  · rw [same]
  · rw [written, Value.field?_put, if_neg h]

theorem field?_putAt_below {fields : List (String × Value)} {option t : String}
    (h : Value.field? fields option = some (.text t)) (n : String) (more : List String)
    (text : String) : putAt fields (option :: n :: more) text = fields := by
  simp only [putAt, h]

theorem named_putAt {fields : List (String × Value)} (h : Value.Named fields) (path : List String)
    (text : String) : Value.Named (putAt fields path text) := by
  cases path with
  | nil => exact h
  | cons name more =>
    rcases putAt_cases fields name more text with same | ⟨v, written⟩
    · rwa [same]
    · rw [written]
      exact h.put _ _

theorem name_of_putAt {fields : List (String × Value)} {path : List String} {text name : String}
    (h : name ∈ (putAt fields path text).map Prod.fst) :
    name ∈ fields.map Prod.fst ∨ path.head? = some name := by
  cases path with
  | nil => exact .inl h
  | cons n more =>
    rcases putAt_cases fields n more text with same | ⟨v, written⟩
    · rw [same] at h
      exact .inl h
    · rw [written] at h
      exact (Value.name_of_put h).imp_right fun same => congrArg some same.symm

/-- What a variable says about the options of a group. -/
def assign (group : String) (fields : List (String × Value)) (v : String × String) :
    List (String × Value) :=
  match pathIn group v.1 with
  | some path => putAt fields path v.2
  | none => fields

theorem assign_of_none {group : String} {v : String × String} (h : pathIn group v.1 = none)
    (fields : List (String × Value)) : assign group fields v = fields := by
  rw [assign, h]

theorem assign_of_some {group : String} {v : String × String} {path : List String}
    (h : pathIn group v.1 = some path) (fields : List (String × Value)) :
    assign group fields v = putAt fields path v.2 := by
  rw [assign, h]

theorem named_assign {fields : List (String × Value)} (h : Value.Named fields) (group : String)
    (v : String × String) : Value.Named (assign group fields v) := by
  unfold assign
  split
  · exact named_putAt h _ _
  · exact h

theorem name_of_assign {fields : List (String × Value)} {group name : String}
    {v : String × String} (h : name ∈ (assign group fields v).map Prod.fst) :
    name ∈ fields.map Prod.fst ∨ ∃ more, pathIn group v.1 = some (name :: more) := by
  cases place : pathIn group v.1 with
  | none =>
    rw [assign_of_none place] at h
    exact .inl h
  | some path =>
    rw [assign_of_some place] at h
    rcases name_of_putAt h with earlier | first
    · exact .inl earlier
    · obtain ⟨more, rfl⟩ := List.head?_eq_some_iff.mp first
      exact .inr ⟨more, rfl⟩

/-- A variable with another name does not touch an option that has its text. -/
theorem assign_keeps {fields : List (String × Value)} {group option t : String}
    {v : String × String} (other : v.1 ≠ optionVariable group option)
    (h : Value.field? fields option = some (.text t)) :
    Value.field? (assign group fields v) option = some (.text t) := by
  cases place : pathIn group v.1 with
  | none => rwa [assign_of_none place]
  | some path =>
    rw [assign_of_some place]
    match path with
    | [] => exact h
    | [name] =>
      have differs : option ≠ name := by
        rintro rfl
        exact other ((pathIn_eq_cons place).1 rfl)
      rwa [field?_putAt_of_ne differs]
    | name :: n :: more =>
      by_cases same : option = name
      · subst same
        rwa [field?_putAt_below h]
      · rwa [field?_putAt_of_ne same]

/-- A variable that is not the option's own and not below it does not touch the option. -/
theorem assign_passes {group option : String} {v : String × String}
    (other : v.1 ≠ optionVariable group option) (apart : ¬Below group option v.1)
    (fields : List (String × Value)) :
    Value.field? (assign group fields v) option = Value.field? fields option := by
  cases place : pathIn group v.1 with
  | none => rw [assign_of_none place]
  | some path =>
    rw [assign_of_some place]
    cases path with
    | nil => rfl
    | cons name more =>
      refine field?_putAt_of_ne ?_ _ _ _
      rintro rfl
      by_cases alone : more = []
      · exact other ((pathIn_eq_cons place).1 alone)
      · exact apart ((pathIn_eq_cons place).2 alone)

theorem singleOptions_eq (vs : List (String × String)) (group : String) :
    singleOptions vs group = vs.foldl (assign group) [] := by
  unfold singleOptions
  congr 1
  funext fields v
  obtain ⟨name, text⟩ := v
  simp only [assign, pathIn]
  cases dropStart? (variableStart ++ group ++ String.ofList groupMark) name <;> rfl

theorem named_singleOptions (vs : List (String × String)) (group : String) :
    Value.Named (singleOptions vs group) := by
  rw [singleOptions_eq]
  exact List.foldlRecOn vs (assign group) (by simp [Value.Named]) fun _ h v _ => named_assign h _ v

theorem name_of_singleOptions {vs : List (String × String)} {group name : String}
    (h : name ∈ (singleOptions vs group).map Prod.fst) :
    ∃ v ∈ vs, ∃ more, pathIn group v.1 = some (name :: more) := by
  rw [singleOptions_eq] at h
  refine List.foldlRecOn vs (assign group)
    (motive := fun fields => name ∈ fields.map Prod.fst → _) (by simp) ?_ h
  intro fields earlier v hv there
  rcases name_of_assign there with before | here
  · exact earlier before
  · exact ⟨v, hv, here⟩

/-- **The variable of an option decides on it**, whatever other variables there are. -/
theorem field?_singleOptions_of_variable {group option t : String} {vs : List (String × String)}
    (single : nameParts option.toList = [option.toList]) (named : (vs.map Prod.fst).Nodup)
    (h : vs.lookup (optionVariable group option) = some t) :
    Value.field? (singleOptions vs group) option = some (.text t) := by
  obtain ⟨before, after, rfl, -⟩ := List.lookup_eq_some_iff.mp h
  have others : ∀ v ∈ after, v.1 ≠ optionVariable group option := by
    rintro v hv same
    rw [List.map_append, List.map_cons] at named
    have fresh := (List.nodup_cons.mp (List.nodup_append.mp named).2.1).1
    exact fresh (List.mem_map.mpr ⟨v, hv, same⟩)
  have place : pathIn group (optionVariable group option) = some [option] :=
    pathIn_optionVariable single
  have assigned (fields : List (String × Value)) :
      Value.field? (assign group fields (optionVariable group option, t)) option =
        some (.text t) := by
    rw [assign_of_some (v := (optionVariable group option, t)) place, putAt, Value.field?_put,
      if_pos rfl]
  rw [singleOptions_eq, List.foldl_append, List.foldl_cons]
  exact List.foldlRecOn after (assign group)
    (motive := fun fields => Value.field? fields option = some (.text t)) (assigned _)
    fun fields kept v hv => assign_keeps (others v hv) kept

/-- An option has no value where there is neither its own variable nor one below it. -/
theorem field?_singleOptions_of_apart {group option : String} {vs : List (String × String)}
    (apart : ∀ v ∈ vs, v.1 ≠ optionVariable group option ∧ ¬Below group option v.1) :
    Value.field? (singleOptions vs group) option = none := by
  rw [singleOptions_eq]
  exact List.foldlRecOn vs (assign group)
    (motive := fun fields => Value.field? fields option = none) rfl
    fun fields none v hv => (assign_passes (apart v hv).1 (apart v hv).2 fields).trans none

/-! ## Groups -/

/-- Names of options from variables are in small letters, since those of the variables are. -/
theorem toLower_of_singleOptions {environment : List (String × String)} {group name : String}
    (h : name ∈ (singleOptions (foldNames environment) group).map Prod.fst) :
    Text.toLower name = name := by
  obtain ⟨v, hv, more, place⟩ := name_of_singleOptions h
  obtain ⟨u, -, same⟩ := exists_of_mem_foldNames hv
  have within : name.toList ⊆ v.1.toList := by
    have ofOption : name.toList ⊆ (optionVariable group name).toList := by
      rw [optionVariable, String.toList_append]
      exact List.subset_append_right _ _
    by_cases alone : more = []
    · rw [(pathIn_eq_cons place).1 alone]
      exact ofOption
    · exact List.Subset.trans (List.Subset.trans ofOption (List.subset_append_left _ _))
        ((pathIn_eq_cons place).2 alone).subset
  exact Text.toLower_of_isLower fun c hc => Text.isLower_of_mem_toLower (same ▸ within hc)

theorem toLower_options : ∀ g ∈ groups, ∀ option ∈ g.2, Text.toLower option = option := by
  decide +kernel

theorem knownName_of_spelled {known : List String} {name : String}
    (lower : ∀ n ∈ known, Text.toLower n = n) (h : Text.toLower name ∈ known → name ∈ known) :
    knownName known name = name := by
  unfold knownName
  cases found : known.find? (· == Text.toLower name) with
  | none => rfl
  | some n =>
    have same : n = Text.toLower name := by simpa using List.find?_some found
    have there : name ∈ known := h (same ▸ List.mem_of_find?_eq_some found)
    rw [same, lower name there, Option.getD_some]

theorem field?_renameFields {known : List String} {fields : List (String × Value)}
    (lower : ∀ n ∈ known, Text.toLower n = n) (spelled : Spelled known fields)
    (named : Value.Named fields) (name : String) :
    Value.field? (renameFields known fields) name = Value.field? fields name := by
  have unchanged : renameFields known fields = Value.putAll [] fields := by
    unfold renameFields Value.putAll
    refine List.foldl_ext _ _ _ fun fs f hf => ?_
    obtain ⟨n, v⟩ := f
    have same : knownName known n = n :=
      knownName_of_spelled lower (spelled n (List.mem_map_of_mem hf))
    simp only [same]
  rw [unchanged, Value.field?_putAll, named.field?_reverse, Value.field?_nil, Option.or_none]

/-- What is given for a group as a whole: nothing, or the fields of an object in which the names of
options are written as they are. -/
def Whole (environment : List (String × String)) (g : String × List String)
    (fields : List (String × Value)) : Prop :=
  match variableNamed environment (groupVariable g.1) with
  | none => fields = []
  | some text => ∃ v, Json.read text = .ok v ∧ v.namedFields? = some fields ∧ Spelled g.2 fields

/-- A group has the options that are given one by one over those that are given as a whole. -/
theorem groupValue_of_whole {environment : List (String × String)} {g : String × List String}
    (hg : g ∈ groups) {fields : List (String × Value)} (whole : Whole environment g fields) :
    ∃ value, groupValue (foldNames environment) g.1 g.2 = .ok value ∧ IsGroup value ∧
      ∀ option, inner? value option = overlay (Value.field? fields option)
        (Value.field? (singleOptions (foldNames environment) g.1) option) := by
  have named := named_singleOptions (foldNames environment) g.1
  have small : Spelled g.2 (singleOptions (foldNames environment) g.1) := fun name hn known =>
    toLower_of_singleOptions hn ▸ known
  unfold groupValue
  rw [lookup_foldNames, show variableStart ++ g.1 = groupVariable g.1 from rfl]
  cases given : variableNamed environment (groupVariable g.1) with
  | none =>
    rw [Whole, given] at whole
    subst whole
    dsimp only
    by_cases empty : (singleOptions (foldNames environment) g.1).isEmpty
    · refine ⟨none, by simp [empty, Except.map], isGroup_none, fun option => ?_⟩
      rw [List.isEmpty_iff.mp empty]
      rfl
    · refine ⟨some (.object (renameFields g.2 (singleOptions (foldNames environment) g.1))),
        by simp [empty, Except.map], isGroup_object _, fun option => ?_⟩
      rw [Value.field?_nil, overlay_none_left]
      exact field?_renameFields (toLower_options g hg) small named option
  | some text =>
    rw [Whole, given] at whole
    obtain ⟨v, read, isObject, spelled⟩ := whole
    -- A group that is `null` would count as missing; this one has fields.
    have notNull : v ≠ .null := by
      rintro rfl
      cases isObject
    dsimp only
    rw [read]
    refine ⟨some (.object (renameFields g.2 (mergeFields fields
      (singleOptions (foldNames environment) g.1)))), by simp [isObject, Except.map],
      isGroup_object _, fun option => ?_⟩
    rw [← field?_mergeFields (named.once option)]
    refine field?_renameFields (toLower_options g hg) (fun name hn => ?_)
      (named_mergeFields (Json.named_of_read read isObject) _) option
    exact (name_of_mergeFields hn).elim (spelled name) (small name)

/-! ## The environment as a whole -/

theorem ofEnvironment_eq_ok {environment : List (String × String)}
    {fields : List (String × Value)} :
    ofEnvironment environment = .ok fields ↔ ∃ logging bus notify,
      groupValue (foldNames environment) "logging" loggingFields = .ok logging ∧
      groupValue (foldNames environment) "bus" busFields = .ok bus ∧
      groupValue (foldNames environment) "notify" notifyFields = .ok notify ∧
      fields = (logging.map fun v => ("logging", v)).toList ++
        ((bus.map fun v => ("bus", v)).toList ++ ((notify.map fun v => ("notify", v)).toList ++
          ((variableNamed environment (groupVariable settingsField)).map fun s =>
            (settingsField, Value.text s)).toList)) := by
  simp only [ofEnvironment, lookup_foldNames, groups, List.filterMapM_cons, List.filterMapM_nil]
  cases groupValue (foldNames environment) "logging" loggingFields with
  | error e => simp [bind, Except.bind]
  | ok logging =>
    cases groupValue (foldNames environment) "bus" busFields with
    | error e => cases logging <;> simp [bind, Except.bind, pure, Except.pure]
    | ok bus =>
      cases groupValue (foldNames environment) "notify" notifyFields with
      | error e =>
        cases logging <;> cases bus <;> simp [bind, Except.bind, pure, Except.pure]
      | ok notify =>
        cases logging <;> cases bus <;> cases notify <;>
          simp [bind, Except.bind, pure, Except.pure, groupVariable, eq_comm]

/-- What the environment says about an option: the text of its variable, or what is said by the group
as a whole if there is neither the variable nor one below it. -/
structure Speaks (environment : List (String × String)) (group option : String)
    (whole raw : Option Value) : Prop where
  text : ∀ s, variableNamed environment (optionVariable group option) = some s →
    raw = some (.text s)
  silent : variableNamed environment (optionVariable group option) = none →
    (∀ v ∈ environment, ¬Below group option (Text.toLower v.1)) → raw = whole

theorem speaks_of_single {environment : List (String × String)} {group option : String}
    (plain : nameParts option.toList = [option.toList]) (whole : Option Value) :
    Speaks environment group option whole
      (overlay whole (Value.field? (singleOptions (foldNames environment) group) option)) where
  text s h := by
    rw [field?_singleOptions_of_variable plain (named_foldNames environment)
      ((lookup_foldNames environment _).trans h), overlay_some, mergeValue]
    intro given same
    cases same
  silent none apart := by
    rw [field?_singleOptions_of_apart, overlay_none_right]
    intro v hv
    obtain ⟨u, hu, same⟩ := exists_of_mem_foldNames hv
    refine ⟨fun own => ?_, same ▸ apart u hu⟩
    rw [← lookup_foldNames, List.lookup_eq_none_iff] at none
    exact absurd own.symm (by simpa using none v hv)

theorem plain_options :
    ∀ g ∈ groups, ∀ option ∈ g.2, nameParts option.toList = [option.toList] := by
  decide

theorem field?_toList {α : Type} (n name : String) (f : α → Value) (x : Option α) :
    Value.field? (x.map fun a => (n, f a)).toList name = if name = n then x.map f else none := by
  cases x <;> simp [Value.field?_cons]

/-- Under the name of a group the environment has the value of the group. -/
theorem groupValue_of_given {environment : List (String × String)}
    {fields : List (String × Value)} (h : ofEnvironment environment = .ok fields) :
    ∀ g ∈ groups, groupValue (foldNames environment) g.1 g.2 = .ok (Value.field? fields g.1) := by
  obtain ⟨logging, bus, notify, hlogging, hbus, hnotify, rfl⟩ := ofEnvironment_eq_ok.mp h
  have entry (n name : String) (v : Option Value) := field?_toList n name id v
  simp only [id, Option.map_id_fun] at entry
  simp [groups, hlogging, hbus, hnotify, Value.field?_append, entry, field?_toList, settingsField]

theorem settingsPath_of_given {environment : List (String × String)}
    {fields : List (String × Value)} (h : ofEnvironment environment = .ok fields) :
    Value.field? fields settingsField =
      (variableNamed environment (groupVariable settingsField)).map .text := by
  obtain ⟨logging, bus, notify, -, -, -, rfl⟩ := ofEnvironment_eq_ok.mp h
  have entry (n name : String) (v : Option Value) := field?_toList n name id v
  simp only [id, Option.map_id_fun] at entry
  simp [Value.field?_append, entry, field?_toList, settingsField]

/-- What is read of an environment: the text of the path's variable, and groups whose options are what
the environment says about them. -/
structure Gives (environment : List (String × String)) (given : List (String × Value)) : Prop where
  path : Value.field? given settingsField =
    (variableNamed environment (groupVariable settingsField)).map .text
  group : ∀ g ∈ groups, ∀ fields, Whole environment g fields → IsGroup (Value.field? given g.1) ∧
    ∀ option ∈ g.2, Speaks environment g.1 option (Value.field? fields option)
      (inner? (Value.field? given g.1) option)

/-- **What the environment gives.** -/
theorem gives_of_ofEnvironment {environment : List (String × String)}
    {given : List (String × Value)} (h : ofEnvironment environment = .ok given) :
    Gives environment given where
  path := settingsPath_of_given h
  group g hg fields whole := by
    obtain ⟨value, hvalue, isGroup, options⟩ := groupValue_of_whole hg whole
    have same : value = Value.field? given g.1 :=
      Except.ok.inj (hvalue.symm.trans (groupValue_of_given h g hg))
    subst same
    refine ⟨isGroup, fun option ho => ?_⟩
    rw [options]
    exact speaks_of_single (plain_options g hg option ho) _

/-- An environment can be read if its groups can. -/
theorem exists_given {environment : List (String × String)}
    (whole : ∀ g ∈ groups, ∃ fields, Whole environment g fields) :
    ∃ given, ofEnvironment environment = .ok given := by
  have values (g : String × List String) (hg : g ∈ groups) :
      ∃ value, groupValue (foldNames environment) g.1 g.2 = .ok value := by
    obtain ⟨fields, hfields⟩ := whole g hg
    obtain ⟨value, hvalue, -⟩ := groupValue_of_whole hg hfields
    exact ⟨value, hvalue⟩
  obtain ⟨logging, hlogging⟩ := values ("logging", loggingFields) (by decide)
  obtain ⟨bus, hbus⟩ := values ("bus", busFields) (by decide)
  obtain ⟨notify, hnotify⟩ := values ("notify", notifyFields) (by decide)
  exact ⟨_, ofEnvironment_eq_ok.mpr ⟨logging, bus, notify, hlogging, hbus, hnotify, rfl⟩⟩

end UnitWatch.Config
