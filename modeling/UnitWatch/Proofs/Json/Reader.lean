import UnitWatch.Json.Reader
import UnitWatch.Proofs.Value

/-!
# Objects that are read

In an object that is read from a text each name occurs once (`named_of_read`): fields are written one
after the other, and a name that occurs again is written over. Names are compared by their code
points, and those that are texts stay different as texts (`codes_of_ofCodes?`).
-/

namespace UnitWatch

/-! ## Texts of code points -/

/-- Code points can be told from the text that they are. -/
theorem Text.codes_of_ofCodes? {codes : List Nat} {s : String} (h : Text.ofCodes? codes = some s) :
    codes = s.toList.map Char.toNat := by
  unfold Text.ofCodes? at h
  split at h
  · next valid =>
    cases h
    rw [String.toList_ofList, List.map_map]
    refine (List.map_id codes).symm.trans (List.map_congr_left fun n hn => ?_)
    rw [Function.comp, Char.ofNat, dif_pos (valid n hn)]
    rfl
  · cases h

namespace Json

open Value (Named)

/-! ## Names -/

theorem named_of_readFields {value : List Char → Except Stop (Value × List Char)} {fuel : Nat}
    {done entries : List (List Nat × Value)} {s rest : List Char}
    (h : readFields value fuel done s = .ok (entries, rest)) (named : Named done) :
    Named entries := by
  induction fuel generalizing done s with
  | zero => cases h
  | succ fuel ih =>
    simp only [readFields, bind, Except.bind] at h
    repeat' split at h
    all_goals first
      | exact ih h (named.put _ _)
      | cases h
    exact named.put _ _

/-- Whether some name is no text or not, the fields of an object are those whose names are. -/
theorem namedFields?_objectValue (entries : List (List Nat × Value)) :
    (objectValue entries).namedFields? =
      some (entries.filterMap fun e => (Text.ofCodes? e.1).map fun name => (name, e.2)) := by
  unfold objectValue
  split
  · next fields read =>
    refine congrArg some ?_
    induction entries generalizing fields with
    | nil => cases read; rfl
    | cons e entries ih =>
      simp only [List.mapM_cons, Option.bind_eq_bind, Option.bind_eq_some_iff] at read
      obtain ⟨f, hf, fs, hfs, ⟨⟩⟩ := read
      rw [List.filterMap_cons, hf, ih fs hfs]
  · rfl

theorem named_objectValue {entries : List (List Nat × Value)} {fields : List (String × Value)}
    (named : Named entries) (h : (objectValue entries).namedFields? = some fields) :
    Named fields := by
  rw [namedFields?_objectValue] at h
  cases h
  have names : (entries.filterMap fun e => (Text.ofCodes? e.1).map fun name => (name, e.2)).map
      Prod.fst = (entries.map Prod.fst).filterMap Text.ofCodes? := by
    rw [List.map_filterMap, List.filterMap_map]
    simp [Function.comp_def]
  rw [Named, names]
  refine List.Nodup.filterMap (fun codes codes' s h h' => ?_) named
  exact (Text.codes_of_ofCodes? h).trans (Text.codes_of_ofCodes? h').symm

/-! ## What is no object -/

theorem namedFields?_textValue (codes : List Nat) : (textValue codes).namedFields? = none := by
  unfold textValue
  split <;> rfl

theorem namedFields?_of_readNumber {s rest : List Char} {v : Value}
    (h : readNumber s = .ok (v, rest)) : v.namedFields? = none := by
  unfold readNumber at h
  dsimp only at h
  repeat' split at h
  all_goals cases h
  all_goals rfl

theorem namedFields?_of_words : ∀ w ∈ words, w.2.namedFields? = none := by
  simp [words, Value.namedFields?]

theorem named_of_readValue {fuel depth : Nat} {s rest : List Char} {v : Value}
    {fields : List (String × Value)} (h : readValue fuel depth s = .ok (v, rest))
    (isObject : v.namedFields? = some fields) : Named fields := by
  unfold readValue at h
  split at h
  · simp only [bind, Except.bind] at h
    split at h
    · cases h
    · cases h
      rw [namedFields?_textValue] at isObject
      cases isObject
  · simp only [bind, Except.bind] at h
    repeat' split at h
    all_goals cases h
    all_goals cases isObject
  · simp only [bind, Except.bind] at h
    split at h
    · cases h
    · split at h
      · cases h
        cases isObject
        exact List.nodup_nil
      · split at h
        · cases h
        · next read =>
          cases h
          -- Of a name that occurs more than once, the last value is kept.
          exact named_objectValue (named_of_readFields read List.nodup_nil) isObject
  · split at h
    · next found =>
      cases h
      obtain ⟨w, hw, dropped⟩ := List.exists_of_findSome?_eq_some found
      obtain ⟨_, -, same⟩ := Option.map_eq_some_iff.mp dropped
      cases same
      rw [namedFields?_of_words w hw] at isObject
      cases isObject
    · rw [namedFields?_of_readNumber h] at isObject
      cases isObject

/-- **Each name of an object occurs once.** -/
theorem named_of_read {text : String} {v : Value} {fields : List (String × Value)}
    (h : Json.read text = .ok v) (isObject : v.namedFields? = some fields) : Named fields := by
  unfold Json.read readChars readDecoded at h
  simp only [bind, Except.bind] at h
  split at h
  · cases h
  · split at h
    · cases h
    · next found read =>
      split at h
      · cases h
        exact named_of_readValue read isObject
      · cases h

end Json

end UnitWatch
