import UnitWatch.Proofs.Config.Environment
import UnitWatch.Proofs.Config.Files

/-!
# Which value counts for an option

Where files are absent or hold mappings with options, loading gives a configuration if and only if
every option reads the value that counts for it (`load_by_priority`).

**Groups.** Of the files, the last one that has the option's group decides, as a whole. What an earlier
file says about another option of that group is lost.

**The environment.** A variable counts only where that file does not have the option.

The documented priority is another one (`documented`): variables first, and of the files the last one
that has the option. It holds where a variable is not contradicted by the files, and where the last file
with the group has what the last file with the option says.
-/

namespace UnitWatch.Config

open Yaml (Data)
open Yaml.Data

variable {h : Host} {file : Option Path} {paths : List Path} {said : List (List (Data × Data))}

/-! ## Files over the environment -/

/-- What is checked: what the files say over what the environment gives. -/
def merged (given : List (String × Value)) (said : List (List (Data × Data))) :
    List (String × Value) :=
  mergeFields given (select (toFields (said.foldl update [])))

theorem load_eq_ok (located : files h file = .ok paths) (holds : List.Forall₂ (Holds h) paths said)
    (proper : ∀ m ∈ said, Proper m) {c : Config} :
    load h file = .ok c ↔
      ∃ given, ofEnvironment h.environment = .ok given ∧ check (merged given said) = .valid c := by
  rw [load, ofFiles_of_holds located holds proper]
  change ofFields h.environment _ = .ok c ↔ _
  unfold ofFields
  cases ofEnvironment h.environment with
  | error e => simp [bind, Except.bind, Except.mapError]
  | ok given =>
    simp only [bind, Except.bind, Except.mapError, merged, Except.ok.injEq, exists_eq_left']
    cases check (mergeFields given (select (toFields (said.foldl update [])))) <;> simp

theorem field?_merged (wellFormed : ∀ m ∈ said, WellFormed m) (proper : ∀ m ∈ said, Proper m)
    (given : List (String × Value)) {name : String} (known : name ∈ fieldNames) :
    Value.field? (merged given said) name =
      overlay (Value.field? given name) (fileValue said name) := by
  rw [merged, field?_mergeFields ((named_select _).once name),
    field?_select known (names_of_files proper),
    field?_updates (ordinary_names name known) (fun m hm => (wellFormed m hm).distinct) [],
    toFields, Value.field?_nil, Option.or_none]

/-! ## Groups in files -/

theorem ordinary_options : ∀ g ∈ groups, ∀ option ∈ g.2, Ordinary option := by decide

/-- A group in the files is an object, with each option once. -/
theorem group_of_files (wellFormed : ∀ m ∈ said, WellFormed m) (proper : ∀ m ∈ said, Proper m)
    {g : String × List String} (hg : g ∈ groups) {v : Value} (found : fileValue said g.1 = some v) :
    ∃ fields, v = .object fields ∧ ∀ option ∈ g.2, (fields.map Prod.fst).count option ≤ 1 := by
  obtain ⟨m, hm, there⟩ := List.exists_of_findSome?_eq_some found
  rw [List.mem_reverse] at hm
  obtain ⟨fields, rfl⟩ := (proper m hm).groups g hg v there
  exact ⟨fields, rfl, fun option ho =>
    (wellFormed m hm).once there (ordinary_options g hg option ho)⟩

theorem isGroup_overlay (wellFormed : ∀ m ∈ said, WellFormed m) (proper : ∀ m ∈ said, Proper m)
    {g : String × List String} (hg : g ∈ groups) (base : Option Value) :
    IsGroup (overlay base (fileValue said g.1)) ↔ (fileValue said g.1 = none → IsGroup base) := by
  cases found : fileValue said g.1 with
  | none => simp
  | some v =>
    obtain ⟨fields, rfl, -⟩ := group_of_files wellFormed proper hg found
    refine ⟨nofun, fun _ => ?_⟩
    obtain ⟨_, merged⟩ := mergeValue_object base fields
    rw [overlay_some, merged]
    exact isGroup_object _

theorem inner?_merged (wellFormed : ∀ m ∈ said, WellFormed m) (proper : ∀ m ∈ said, Proper m)
    {g : String × List String} (hg : g ∈ groups) {option : String} (ho : option ∈ g.2)
    (base : Option Value) :
    inner? (overlay base (fileValue said g.1)) option =
      overlay (inner? base option) (inner? (fileValue said g.1) option) := by
  cases found : fileValue said g.1 with
  | none => simp [inner?]
  | some v =>
    obtain ⟨fields, rfl, once⟩ := group_of_files wellFormed proper hg found
    exact inner?_overlay (once option ho)

theorem group_known : ∀ g ∈ groups, g.1 ∈ fieldNames := by decide

/-! ## What counts -/

/-- What counts for an option: what the last file with the option's group says about it, or else what
the environment gives. -/
def ranked (given : List (String × Value)) (said : List (List (Data × Data)))
    (group option : String) : Option Value :=
  (inner? (fileValue said group) option).or (inner? (Value.field? given group) option)

def rankedPath (given : List (String × Value)) (said : List (List (Data × Data))) : Option Value :=
  (fileValue said settingsField).or (Value.field? given settingsField)

theorem check_merged (wellFormed : ∀ m ∈ said, WellFormed m) (proper : ∀ m ∈ said, Proper m)
    (given : List (String × Value)) {c : Config} :
    check (merged given said) = .valid c ↔
      (∀ g ∈ groups, fileValue said g.1 = none → IsGroup (Value.field? given g.1)) ∧
      c.ReadFrom (ranked given said) (rankedPath given said) ∧ c.InOrder := by
  have value {g : String × List String} (hg : g ∈ groups) :
      Value.field? (merged given said) g.1 =
        overlay (Value.field? given g.1) (fileValue said g.1) :=
    field?_merged wellFormed proper given (group_known g hg)
  have areGroups :
      (∀ group ∈ groups.map Prod.fst, IsGroup (Value.field? (merged given said) group)) ↔
        ∀ g ∈ groups, fileValue said g.1 = none → IsGroup (Value.field? given g.1) := by
    rw [List.forall_mem_map]
    exact forall₂_congr fun g hg => by rw [value hg, isGroup_overlay wellFormed proper hg]
  have options : ∀ g ∈ groups, ∀ option ∈ g.2,
      inner? (Value.field? (merged given said) g.1) option =
        overlay (inner? (Value.field? given g.1) option) (inner? (fileValue said g.1) option) := by
    intro g hg option ho
    rw [value hg, inner?_merged wellFormed proper hg ho]
  rw [check_eq_valid, areGroups, field?_merged wellFormed proper given (by decide),
    readFrom_overlay (fun group option => inner? (Value.field? (merged given said) group) option)
      (fun group option => inner? (Value.field? given group) option)
      (fun group option => inner? (fileValue said group) option) options]
  rfl

/-! ## The documented priority -/

/-- What the last file says that has an option. -/
def fileOption (said : List (List (Data × Data))) (group option : String) : Option Value :=
  said.reverse.findSome? fun m => inner? (Value.field? (toFields m) group) option

/-- What is documented to count for an option: the text of its variable, or else what the last file
says that has the option. -/
def documented (environment : List (String × String)) (said : List (List (Data × Data)))
    (group option : String) : Option Value :=
  ((variableNamed environment (optionVariable group option)).map .text).or
    (fileOption said group option)

def documentedPath (environment : List (String × String)) (said : List (List (Data × Data))) :
    Option Value :=
  ((variableNamed environment (groupVariable settingsField)).map .text).or
    (fileValue said settingsField)

/-- What is documented counts if and only if what counts in the files does not contradict a variable,
and is that of the last file with the option where there is no variable. -/
theorem ranked_eq_documented_iff {environment : List (String × String)}
    {given : List (String × Value)} {group option : String}
    (speaks : Speaks environment group option none (inner? (Value.field? given group) option))
    (apart : ∀ v ∈ environment, ¬Below group option (Text.toLower v.1)) :
    ranked given said group option = documented environment said group option ↔
      (∀ s, variableNamed environment (optionVariable group option) = some s →
        ∀ v, inner? (fileValue said group) option = some v → v = .text s) ∧
      (variableNamed environment (optionVariable group option) = none →
        inner? (fileValue said group) option = fileOption said group option) := by
  unfold ranked documented
  cases own : variableNamed environment (optionVariable group option) with
  | some s =>
    rw [speaks.text s own]
    cases inner? (fileValue said group) option <;> simp
  | none =>
    rw [speaks.silent own apart]
    simp

theorem rankedPath_eq_documentedPath_iff {environment : List (String × String)}
    {given : List (String × Value)} (gives : Gives environment given) :
    rankedPath given said = documentedPath environment said ↔
      ∀ s, variableNamed environment (groupVariable settingsField) = some s →
        ∀ v, fileValue said settingsField = some v → v = .text s := by
  unfold rankedPath documentedPath
  rw [gives.path]
  cases variableNamed environment (groupVariable settingsField) <;>
    cases fileValue said settingsField <;> simp

/-! ## Loading -/

/-- **Which value counts for each option**, what the environment gives, and when this is what is
documented. -/
theorem load_by_priority (located : files h file = .ok paths)
    (holds : List.Forall₂ (Holds h) paths said) (proper : ∀ m ∈ said, Proper m) :
    (∀ c, load h file = .ok c ↔ ∃ given, ofEnvironment h.environment = .ok given ∧
      (∀ g ∈ groups, fileValue said g.1 = none → IsGroup (Value.field? given g.1)) ∧
      c.ReadFrom (ranked given said) (rankedPath given said) ∧ c.InOrder) ∧
    ((∀ g ∈ groups, ∃ fields, Whole h.environment g fields) →
      ∃ given, ofEnvironment h.environment = .ok given) ∧
    ∀ given, ofEnvironment h.environment = .ok given → Gives h.environment given ∧
      (rankedPath given said = documentedPath h.environment said ↔
        ∀ s, variableNamed h.environment (groupVariable settingsField) = some s →
          ∀ v, fileValue said settingsField = some v → v = .text s) ∧
      ∀ g ∈ groups, Whole h.environment g [] → ∀ option ∈ g.2,
        (∀ v ∈ h.environment, ¬Below g.1 option (Text.toLower v.1)) →
        (ranked given said g.1 option = documented h.environment said g.1 option ↔
          (∀ s, variableNamed h.environment (optionVariable g.1 option) = some s →
            ∀ v, inner? (fileValue said g.1) option = some v → v = .text s) ∧
          (variableNamed h.environment (optionVariable g.1 option) = none →
            inner? (fileValue said g.1) option = fileOption said g.1 option)) := by
  refine ⟨fun c => ?_, exists_given, fun given hgiven => ?_⟩
  · rw [load_eq_ok located holds proper]
    exact exists_congr fun given => and_congr_right fun _ =>
      check_merged (wellFormed_of_holds holds) proper given
  · have gives := gives_of_ofEnvironment hgiven
    refine ⟨gives, rankedPath_eq_documentedPath_iff gives, fun g hg whole option ho apart => ?_⟩
    exact ranked_eq_documented_iff ((gives.group g hg [] whole).2 option ho) apart

/-! ## Hosts with files -/

/-- A host with some files, and nothing else. -/
def hostWith (environment : List (String × String)) (texts : List (String × String)) : Host where
  environment := ("HOME", "/home/user") :: environment
  look p := match texts.lookup p.display with
    | some content => .ok (.file content.toUTF8.toList)
    | none => .error .missing
  directory := "/"
  accountHome := none

/-- The usual files of such a host. -/
def usualFiles : List Path :=
  [Path.ofText "/etc/killjoy/config.yaml", Path.ofText "/home/user/.config/killjoy/config.yaml"]

theorem exists_mapping {s : List Char} {p : List (Data × Data) → Bool}
    (h : (match Yaml.read s with
      | .ok (.mapping m) => p m
      | _ => false) = true) : ∃ m, Yaml.read s = .ok (.mapping m) ∧ p m := by
  split at h
  · next m read => exact ⟨m, read, h⟩
  · cases h

/-- The user has one level in a file and another one in a variable. -/
def demo : Host :=
  hostWith [("KILLJOY_LOGGING__LEVEL", "error"), ("KILLJOY_LOGGING__FORMAT", "json")]
    [("/home/user/.config/killjoy/config.yaml", "logging: \x7blevel: debug\x7d\n")]

theorem demo_said : ∃ m, Proper m ∧ List.Forall₂ (Holds demo) usualFiles [[], m] ∧
    (inner? (fileValue [[], m] "logging") "level").bind Value.text? = some "debug" ∧
    inner? (fileValue [[], m] "logging") "format" = none := by
  obtain ⟨m, read, hm⟩ := exists_mapping (s := "logging: \x7blevel: debug\x7d\n".toList)
    (p := fun m => decide (Proper m ∧
      (inner? (fileValue [[], m] "logging") "level").bind Value.text? = some "debug" ∧
      (inner? (fileValue [[], m] "logging") "format").isNone)) (by decide +kernel)
  obtain ⟨proper, level, format⟩ := of_decide_eq_true hm
  have system : Holds demo (Path.ofText "/etc/killjoy/config.yaml") [] :=
    .inl ⟨by decide +kernel, rfl⟩
  have user : Holds demo (Path.ofText "/home/user/.config/killjoy/config.yaml") m :=
    .inr ⟨_, by decide +kernel, by decide +kernel, read⟩
  exact ⟨m, proper, .cons system (.cons user .nil), level, Option.isNone_iff_eq_none.mp format⟩

theorem demo_loads : ∃ c, load demo none = .ok c ∧ c.logging.level = .debug := by
  have level : (load demo none).toOption.map (·.logging.level) = some .debug := by decide +kernel
  cases loaded : load demo none with
  | error e => simp [loaded, Except.toOption] at level
  | ok c => exact ⟨c, rfl, by simpa [loaded, Except.toOption] using level⟩

theorem text_of_bind {raw : Option Value} {s : String} (h : raw.bind Value.text? = some s) :
    raw = some (.text s) := by
  cases raw with
  | none => cases h
  | some v => cases v <;> simp_all [Value.text?]

/-- The level is that of the file; the variable of the format counts, since the file has none. -/
theorem level_from_file :
    ∃ c, load demo none = .ok c ∧ c.logging.level = .debug ∧ c.logging.format = .json := by
  obtain ⟨m, proper, holds, level, format⟩ := demo_said
  have located : files demo none = .ok usualFiles := by decide +kernel
  obtain ⟨law, -, environment⟩ :=
    load_by_priority located holds (by simpa using ⟨by decide +kernel, proper⟩)
  obtain ⟨c, loaded, -⟩ := demo_loads
  obtain ⟨given, hgiven, -, reads, -⟩ := (law c).mp loaded
  have whole : Whole demo.environment ("logging", loggingFields) [] := by
    rw [Whole, show variableNamed demo.environment (groupVariable "logging") = none by
      decide +kernel]
  have own : inner? (Value.field? given "logging") "format" = some (.text "json") :=
    (((environment given hgiven).1.group _ (by decide) _ whole).2 "format" (by decide)).text
      "json" (by decide +kernel)
  have hlevel := reads.level
  have hformat := reads.format
  rw [ranked, text_of_bind level] at hlevel
  rw [ranked, format, own] at hformat
  have debug : checkLevel (.text "debug") = .valid .debug := rfl
  have json : checkFormat (.text "json") = .valid .json := rfl
  simp only [Option.some_or, Option.none_or, Reads, debug, json] at hlevel hformat
  exact ⟨c, loaded, (Check.Result.valid.inj hlevel).symm, (Check.Result.valid.inj hformat).symm⟩

/-- A variable does not count if a file has its option. -/
theorem file_before_variable :
    ¬∀ (h : Host) (file : Option Path) (paths : List Path) (said : List (List (Data × Data)))
      (c : Config), files h file = .ok paths → List.Forall₂ (Holds h) paths said →
      (∀ m ∈ said, Proper m) → load h file = .ok c →
      c.ReadFrom (documented h.environment said) (documentedPath h.environment said) := by
  intro every
  obtain ⟨m, proper, holds, -⟩ := demo_said
  obtain ⟨c, loaded, level⟩ := demo_loads
  have read := (every demo none usualFiles [[], m] c (by decide +kernel) holds
    (by simpa using ⟨by decide +kernel, proper⟩) loaded).level
  have own : variableNamed demo.environment (optionVariable "logging" "level") = some "error" := by
    decide +kernel
  have error : checkLevel (.text "error") = .valid .error := rfl
  rw [documented, own, level] at read
  simp [Reads, error] at read

/-- The user has a format, and the file that is given has a level. -/
def splitGroup : Host :=
  hostWith [] [("/home/user/.config/killjoy/config.yaml", "logging: \x7bformat: json\x7d\n"),
    ("/given.yaml", "logging: \x7blevel: debug\x7d\n")]

/-- Without variables an option does not count if a later file has another option of its group. -/
theorem sibling_before_option :
    ¬∀ (h : Host) (file : Option Path) (paths : List Path) (said : List (List (Data × Data)))
      (c : Config), (∀ v ∈ h.environment, ¬variableStart.toList <+: (Text.toLower v.1).toList) →
      files h file = .ok paths → List.Forall₂ (Holds h) paths said → (∀ m ∈ said, Proper m) →
      load h file = .ok c →
      c.ReadFrom (documented h.environment said) (documentedPath h.environment said) := by
  intro every
  obtain ⟨user, readUser, hu⟩ := exists_mapping (s := "logging: \x7bformat: json\x7d\n".toList)
    (p := fun m => decide (Proper m ∧
      (inner? (Value.field? (toFields m) "logging") "format").bind Value.text? = some "json"))
    (by decide +kernel)
  obtain ⟨later, readLater, hl⟩ := exists_mapping (s := "logging: \x7blevel: debug\x7d\n".toList)
    (p := fun m => decide (Proper m ∧
      (inner? (Value.field? (toFields m) "logging") "format").isNone))
    (by decide +kernel)
  obtain ⟨properUser, json⟩ := of_decide_eq_true hu
  obtain ⟨properLater, none⟩ := of_decide_eq_true hl
  have loaded : (load splitGroup (some (Path.ofText "/given.yaml"))).toOption.map
      (·.logging.format) = some .console := by decide +kernel
  have holds : List.Forall₂ (Holds splitGroup) (usualFiles ++ [Path.ofText "/given.yaml"])
      [[], user, later] :=
    .cons (.inl ⟨by decide +kernel, rfl⟩)
      (.cons (.inr ⟨_, by decide +kernel, by decide +kernel, readUser⟩)
        (.cons (.inr ⟨_, by decide +kernel, by decide +kernel, readLater⟩) .nil))
  -- The format is the default: the group of the later file stands for both.
  cases hc : load splitGroup (some (Path.ofText "/given.yaml")) with
  | error e => simp [hc, Except.toOption] at loaded
  | ok c =>
    have format : c.logging.format = .console := by simpa [hc, Except.toOption] using loaded
    have read := (every splitGroup (some (Path.ofText "/given.yaml")) _ _ c (by decide +kernel)
      (by decide +kernel) holds (by simpa using ⟨by decide +kernel, properUser, properLater⟩)
      hc).format
    have own : variableNamed splitGroup.environment (optionVariable "logging" "format") =
      Option.none := by decide +kernel
    have valid : checkFormat (.text "json") = .valid .json := rfl
    rw [documented, own, format] at read
    simp [Reads, fileOption, text_of_bind json, Option.isNone_iff_eq_none.mp none, valid] at read

end UnitWatch.Config
