import UnitWatch.Proofs.Wire.Conduct

/-!
# The ledger of connections

Where the connections of a sender are (`World.Ledger`). What is cached and what closes have taken are
all different (`held`), and everything opened is among it unless it was found lost (`kept`).

A part either opens one connection, in place of one that was found lost, or moves connections from
the cache to a close (`Does.moves`). This is all that the ledger depends on, so one part keeps it
right (`World.Ledger.goes`), and so does a run (`World.Runs.ledger`).

Once a close has emptied the cache, nothing is cached but what has been opened since
(`World.Ledger.cached_since`).
-/

namespace UnitWatch.Wire

namespace Sender

/-! ## Where connections are -/

/-- A part leaves connections where they are, or takes all that are cached into the hands of a
close, or opens one in place of one that was found lost. -/
theorem Does.moves {c c' : Cache} {t : Errand} {st : Stage t} {asked : List Exchange}
    {r : Except Failure (Stage t)} (h : Does c st asked r c') :
    (openings asked = [] ∧ ¬st.Takes ∧ c' = c ∧
      ((Stage.next r).left ++ closings asked).Perm st.left) ∨
    (openings asked = [] ∧ st.Takes ∧ c' = [] ∧
      ((Stage.next r).left ++ closings asked).Perm (c.buses ++ st.left)) ∨
    ∃ scope bus, openings asked = [(bus, scope)] ∧ ¬st.Takes ∧ c' = c.keep scope bus ∧
      ((Stage.next r).left ++ closings asked).Perm st.left ∧
      ∀ old, c.lookup scope = some old → .probed old false ∈ asked := by
  -- What is asked aside opens and closes nothing.
  have quiet {asked : List Exchange} (aside : ∀ x ∈ asked, x.Aside) :
      openings asked = [] ∧ closings asked = [] :=
    ⟨List.filterMap_eq_nil_iff.2 fun x hx => (aside x hx).opening?_eq,
      List.filterMap_eq_nil_iff.2 fun x hx => (aside x hx).closing?_eq⟩
  cases h with
  | prepares aside =>
    refine .inl ⟨(quiet aside).1, id, rfl, ?_⟩
    rw [(quiet aside).2]
    exact .refl _
  | cannot f aside =>
    refine .inl ⟨(quiet aside).1, id, rfl, ?_⟩
    rw [(quiet aside).2]
    exact .refl _
  | reuses | acknowledged | fails => exact .inl ⟨rfl, id, rfl, .refl _⟩
  | @opens scope call tried bus missing =>
    refine .inr (.inr ⟨scope, bus, ?_⟩)
    cases missing with
    | never none =>
      refine ⟨rfl, id, rfl, .refl _, ?_⟩
      intro old cached
      rw [none] at cached
      cases cached
    | lost cached =>
      refine ⟨rfl, id, rfl, .refl _, ?_⟩
      intro old cached'
      rw [cached] at cached'
      cases cached'
      simp
  | refused e missing =>
    cases missing with
    | never => exact .inl ⟨rfl, id, rfl, .refl _⟩
    | lost => exact .inl ⟨rfl, id, rfl, .refl _⟩
  | takes => exact .inr (.inl ⟨rfl, trivial, rfl, .refl _⟩)
  | closes noted r aside =>
    obtain ⟨opened, closed⟩ := quiet aside
    refine .inl ⟨?_, id, rfl, ?_⟩
    · rw [openings, List.filterMap_append, ← openings, opened]
      rfl
    · rw [closings, List.filterMap_append, ← closings, closed]
      exact List.perm_append_singleton _ _
  | finishes => exact .inl ⟨rfl, id, rfl, .refl _⟩

/-! ## The ledger -/

namespace World

/-- The connections that are cached or that closes have taken. -/
def held (w : World) : List BusId := w.cache.buses ++ w.taken

/-- The connections of a sender are where they belong, and its operations stand as they should. -/
structure Ledger (w : World) : Prop where
  scopes : w.cache.scopes.Nodup
  numbers : w.buses.numbers.Nodup
  held : w.held.Nodup
  known : ∀ bus ∈ w.held, bus ∈ w.buses.numbers
  origin : ∀ e ∈ w.cache, (e.2, e.1) ∈ w.buses.opened
  kept : ∀ bus ∈ w.buses.numbers, bus ∈ w.held ∨ w.FoundLost bus
  conduct : ∀ o ∈ w.operations, Conducted w.buses.opened o.stage o.asked

theorem Ledger.initial : Ledger {} where
  scopes := List.nodup_nil
  numbers := List.nodup_nil
  held := List.nodup_nil
  known := List.forall_mem_nil _
  origin := List.forall_mem_nil _
  kept := List.forall_mem_nil _
  conduct := List.forall_mem_nil _

theorem taken_begins (w : World) (t : Errand) :
    ({ w with operations := w.operations ++ [⟨t, .begun, []⟩] } : World).taken = w.taken := by
  cases t <;> simp [taken, Operation.taken, Stage.left, closings]

theorem Ledger.begins {w : World} (ledger : Ledger w) (t : Errand) :
    Ledger { w with operations := w.operations ++ [⟨t, .begun, []⟩] } where
  scopes := ledger.scopes
  numbers := ledger.numbers
  held := by
    rw [World.held, taken_begins]
    exact ledger.held
  known := by
    rw [World.held, taken_begins]
    exact ledger.known
  origin := ledger.origin
  kept := by
    rw [World.held, taken_begins]
    intro bus opened
    refine (ledger.kept bus opened).imp_right ?_
    rintro ⟨o, member, found⟩
    exact ⟨o, List.mem_append_left _ member, found⟩
  conduct := by
    intro o member
    obtain old | new := List.mem_append.1 member
    · exact ledger.conduct o old
    · cases List.mem_singleton.1 new
      exact .begun

variable {w w' : World} {t : Errand} {st : Stage t} {asked : List Exchange}
  {r : Except Failure (Stage t)}

namespace Goes

theorem does (h : Goes w st asked r w') : Does w.cache st asked r w'.cache := by
  obtain ⟨before, after, here, run⟩ := h
  exact .of_concludes here run

theorem opened_eq (h : Goes w st asked r w') :
    w'.buses.opened = openings asked ++ w.buses.opened := by
  obtain ⟨before, after, here, run⟩ := h
  obtain ⟨got, rfl, opened, -⟩ := account_of_concludes run
  simpa using opened

theorem nodup_numbers (h : Goes w st asked r w') (nodup : w.buses.numbers.Nodup) :
    w'.buses.numbers.Nodup := by
  obtain ⟨before, after, here, run⟩ := h
  obtain ⟨-, -, -, numbers⟩ := account_of_concludes run
  exact numbers nodup

/-- One operation goes on. -/
theorem operations_eq (h : Goes w st asked r w') : ∃ before earlier after,
    w.operations = before ++ ⟨t, st, earlier⟩ :: after ∧
      w'.operations = before ++ ⟨t, .next r, asked ++ earlier⟩ :: after := by
  obtain ⟨before, after, here, run⟩ := h
  exact ⟨before, _, after, rfl, rfl⟩

/-- What the part or a part before it found lost stays found. -/
theorem foundLost (h : Goes w st asked r w') {bus : BusId}
    (found : w.FoundLost bus ∨ .probed bus false ∈ asked) : w'.FoundLost bus := by
  obtain ⟨before, earlier, after, eq, eq'⟩ := h.operations_eq
  unfold FoundLost at *
  rw [eq] at found
  rw [eq']
  obtain ⟨o, member, found⟩ | found := found
  · obtain old | rfl | old := by simpa using member
    · exact ⟨o, by simp [old], found⟩
    · exact ⟨_, List.mem_append_cons_self, List.mem_append_right _ found⟩
    · exact ⟨o, by simp [old], found⟩
  · exact ⟨_, List.mem_append_cons_self, List.mem_append_left _ found⟩

/-- What a part does to what closes have taken. -/
theorem taken_perm (h : Goes w st asked r w') : ∃ others,
    w.taken.Perm (st.left ++ others) ∧
      w'.taken.Perm ((Stage.next r).left ++ closings asked ++ others) := by
  obtain ⟨before, earlier, after, eq, eq'⟩ := h.operations_eq
  refine ⟨closings earlier ++ (before.flatMap Operation.taken ++ after.flatMap Operation.taken),
    ?_, ?_⟩
  · refine List.perm_iff_count.2 fun bus => ?_
    simp only [taken, eq, List.flatMap_append, List.flatMap_cons, Operation.taken,
      List.count_append]
    omega
  · refine List.perm_iff_count.2 fun bus => ?_
    simp only [taken, eq', List.flatMap_append, List.flatMap_cons, Operation.taken, closings,
      List.filterMap_append, List.count_append]
    omega

open scoped List in
/-- What a part does to the cache and to what closes have taken. -/
theorem moves (h : Goes w st asked r w') :
    (openings asked = [] ∧ ¬st.Takes ∧ w'.cache = w.cache ∧ w'.taken ~ w.taken) ∨
    (openings asked = [] ∧ st.Takes ∧ w'.cache = [] ∧ w'.taken ~ w.cache.buses ++ w.taken) ∨
    ∃ scope bus, openings asked = [(bus, scope)] ∧ ¬st.Takes ∧
      w'.cache = w.cache.keep scope bus ∧ w'.taken ~ w.taken ∧
      ∀ old, w.cache.lookup scope = some old → .probed old false ∈ asked := by
  obtain ⟨others, before, after⟩ := h.taken_perm
  have stays (moved : (Stage.next r).left ++ closings asked ~ st.left) : w'.taken ~ w.taken :=
    (after.trans (moved.append_right others)).trans before.symm
  obtain ⟨none, not, cache, moved⟩ | ⟨none, takes, cache, moved⟩ |
    ⟨scope, bus, one, not, cache, moved, lost⟩ := h.does.moves
  · exact .inl ⟨none, not, cache, stays moved⟩
  · refine .inr (.inl ⟨none, takes, cache, ?_⟩)
    calc w'.taken
      _ ~ (Stage.next r).left ++ closings asked ++ others := after
      _ ~ w.cache.buses ++ st.left ++ others := moved.append_right others
      _ ~ w.cache.buses ++ w.taken := by
          rw [List.append_assoc]
          exact before.symm.append_left _
  · exact .inr (.inr ⟨scope, bus, one, not, cache, stays moved, lost⟩)

theorem taken_of_leaves (h : Goes w st asked r w') (leaves : ¬st.Takes) :
    w'.taken.Perm w.taken := by
  obtain ⟨-, -, -, same⟩ | ⟨-, takes, -⟩ | ⟨_, _, -, -, -, same, -⟩ := h.moves
  · exact same
  · exact absurd takes leaves
  · exact same

theorem taken_of_takes (h : Goes w st asked r w') (takes : st.Takes) :
    w'.cache = [] ∧ w'.taken.Perm (w.cache.buses ++ w.taken) := by
  obtain ⟨-, leaves, -⟩ | ⟨-, -, empty, all⟩ | ⟨_, _, -, leaves, -⟩ := h.moves
  · exact absurd takes leaves
  · exact ⟨empty, all⟩
  · exact absurd takes leaves

open scoped List in
/-- A part keeps all that is held, or a connection that was found lost makes way for a new one. -/
theorem held_perm (h : Goes w st asked r w') (scopes : w.cache.scopes.Nodup) :
    (openings asked = [] ∧ (w'.cache = w.cache ∨ w'.cache = []) ∧ w'.held ~ w.held) ∨
    ∃ scope bus rest, openings asked = [(bus, scope)] ∧ w'.cache = w.cache.keep scope bus ∧
      w.held ~ (w.cache.lookup scope).toList ++ rest ∧ w'.held ~ bus :: rest ∧
      ∀ old, w.cache.lookup scope = some old → .probed old false ∈ asked := by
  obtain ⟨none, -, cache, taken⟩ | ⟨none, -, cache, taken⟩ |
    ⟨scope, bus, one, -, cache, taken, lost⟩ := h.moves
  · refine .inl ⟨none, .inl cache, ?_⟩
    rw [held, held, cache]
    exact taken.append_left _
  · refine .inl ⟨none, .inr cache, ?_⟩
    rw [held, held, cache]
    exact taken
  · obtain ⟨rest, was, is⟩ := w.cache.buses_keep scope bus scopes
    refine .inr ⟨scope, bus, rest ++ w.taken, one, cache, ?_, ?_, lost⟩
    · rw [← List.append_assoc]
      exact was.append_right _
    · rw [held, cache]
      exact is.append taken

theorem known_opened (h : Goes w st asked r w') : w.buses.numbers ⊆ w'.buses.numbers := by
  rw [Buses.numbers, Buses.numbers, h.opened_eq, List.map_append]
  exact List.subset_append_right _ _

/-- A connection that a part opens has a number that no other one had. -/
theorem not_mem_numbers (h : Goes w st asked r w') (nodup : w.buses.numbers.Nodup) {bus : BusId}
    {scope : BusScope} (opened : openings asked = [(bus, scope)]) : bus ∉ w.buses.numbers := by
  have numbers := h.nodup_numbers nodup
  rw [Buses.numbers, h.opened_eq, opened] at numbers
  exact (List.nodup_cons.1 numbers).1

end Goes

/-- A part keeps the conduct of the operations. -/
theorem Ledger.conduct_goes (ledger : Ledger w) (h : Goes w st asked r w') :
    ∀ o ∈ w'.operations, Conducted w'.buses.opened o.stage o.asked := by
  obtain ⟨before, earlier, after, eq, eq'⟩ := h.operations_eq
  have conducted := ledger.conduct
  rw [eq] at conducted
  rw [eq', h.opened_eq]
  intro o member
  obtain old | rfl | old : o ∈ before ∨ o = ⟨t, .next r, asked ++ earlier⟩ ∨ o ∈ after := by
    simpa using member
  · exact (conducted o (by simp [old])).mono (List.subset_append_right _ _)
  · exact (conducted _ List.mem_append_cons_self).does ledger.origin h.does
  · exact (conducted o (by simp [old])).mono (List.subset_append_right _ _)

/-- A part that opens nothing keeps the ledger right. -/
theorem Ledger.goes_of_kept (ledger : Ledger w) (h : Goes w st asked r w')
    (none : openings asked = []) (cache : w'.cache = w.cache ∨ w'.cache = [])
    (same : w'.held.Perm w.held) : Ledger w' := by
  have opened : w'.buses.opened = w.buses.opened := by rw [h.opened_eq, none, List.nil_append]
  have fewer : w'.cache.Sublist w.cache := by
    obtain same | empty := cache
    · rw [same]
    · rw [empty]
      exact List.nil_sublist _
  exact {
    scopes := (fewer.map _).nodup ledger.scopes
    numbers := h.nodup_numbers ledger.numbers
    held := same.nodup_iff.2 ledger.held
    known := fun bus member => h.known_opened (ledger.known bus (same.mem_iff.1 member))
    origin := by
      rw [opened]
      exact fun e member => ledger.origin e (fewer.subset member)
    kept := by
      rw [Buses.numbers, opened]
      intro bus member
      exact (ledger.kept bus member).imp same.mem_iff.2 fun found => h.foundLost (.inl found)
    conduct := ledger.conduct_goes h }

open scoped List in
/-- A part that opens a connection, in place of one that it found lost, keeps the ledger right. -/
theorem Ledger.goes_of_opened (ledger : Ledger w) (h : Goes w st asked r w') {scope : BusScope}
    {bus : BusId} {rest : List BusId} (one : openings asked = [(bus, scope)])
    (cache : w'.cache = w.cache.keep scope bus)
    (was : w.held ~ (w.cache.lookup scope).toList ++ rest) (is : w'.held ~ bus :: rest)
    (lost : ∀ old, w.cache.lookup scope = some old → .probed old false ∈ asked) : Ledger w' := by
  -- A connection just opened has a number of its own.
  have new : bus ∉ w.buses.numbers := h.not_mem_numbers ledger.numbers one
  have opened : w'.buses.opened = (bus, scope) :: w.buses.opened := by
    rw [h.opened_eq, one]
    rfl
  have stays : rest ⊆ w.held := fun other member =>
    was.mem_iff.2 (List.mem_append_right _ member)
  exact {
    scopes := by
      rw [cache]
      exact Cache.nodup_scopes_keep ledger.scopes
    numbers := h.nodup_numbers ledger.numbers
    held := by
      refine is.nodup_iff.2 (List.nodup_cons.2 ⟨?_, ?_⟩)
      · exact fun member => new (ledger.known bus (stays member))
      · exact (List.nodup_append.1 (was.nodup_iff.1 ledger.held)).2.1
    known := by
      intro other member
      obtain rfl | member := List.mem_cons.1 (is.mem_iff.1 member)
      · simp [Buses.numbers, opened]
      · exact h.known_opened (ledger.known other (stays member))
    origin := by
      rw [cache, opened]
      intro e member
      obtain old | rfl := Cache.mem_keep member
      · exact List.mem_cons_of_mem _ (ledger.origin e old)
      · exact List.mem_cons_self
    kept := by
      rw [Buses.numbers, opened]
      intro other member
      obtain rfl | member := List.mem_cons.1 member
      · exact .inl (is.mem_iff.2 List.mem_cons_self)
      obtain held | found := ledger.kept other member
      · obtain dropped | held := List.mem_append.1 (was.mem_iff.1 held)
        · exact .inr (h.foundLost (.inr (lost other (Option.mem_toList.1 dropped))))
        · exact .inl (is.mem_iff.2 (List.mem_cons_of_mem _ held))
      · exact .inr (h.foundLost (.inl found))
    conduct := ledger.conduct_goes h }

/-- A part keeps the ledger right. -/
theorem Ledger.goes (ledger : Ledger w) (h : Goes w st asked r w') : Ledger w' := by
  obtain ⟨none, cache, same⟩ | ⟨scope, bus, rest, one, cache, was, is, lost⟩ :=
    h.held_perm ledger.scopes
  · exact ledger.goes_of_kept h none cache same
  · exact ledger.goes_of_opened h one cache was is lost

/-- The loss of a connection is no matter of the ledger. -/
theorem Ledger.lost (ledger : Ledger w) (bus : BusId) :
    Ledger { w with buses := w.buses.lose bus } :=
  { ledger with }

theorem Ledger.step (ledger : Ledger w) (step : Step w w') : Ledger w' := by
  cases step with
  | goes h => exact ledger.goes h
  | begins t => exact ledger.begins t
  | lost bus => exact ledger.lost bus

theorem Runs.ledger (run : Runs {} w) : Ledger w := by
  induction run with
  | refl => exact .initial
  | tail _ step ih => exact ih.step step

/-! ## Since a close -/

/-- What is cached after a step was cached before it, or has been opened by it. -/
theorem Ledger.cached (ledger : Ledger w) (step : Step w w') :
    ∀ e ∈ w'.cache, e ∈ w.cache ∨ e.2 ∉ w.buses.numbers := by
  intro e member
  cases step with
  | goes h =>
    obtain ⟨-, same | empty, -⟩ | ⟨scope, bus, rest, one, cache, -⟩ := h.held_perm ledger.scopes
    · exact .inl (same ▸ member)
    · rw [empty] at member
      cases member
    · rw [cache] at member
      obtain old | rfl := Cache.mem_keep member
      · exact .inl old
      · exact .inr (h.not_mem_numbers ledger.numbers one)
  | begins | lost => exact .inl member

theorem Step.known_opened (step : Step w w') : w.buses.numbers ⊆ w'.buses.numbers := by
  cases step with
  | goes h => exact h.known_opened
  | begins | lost => exact List.Subset.refl _

/-- Once the cache is empty, nothing is cached but what has been opened since. -/
theorem Ledger.cached_since (ledger : Ledger w) (empty : w.cache = []) (run : Runs w w') :
    ∀ e ∈ w'.cache, e.2 ∉ w.buses.numbers := by
  have since : Ledger w' ∧ w.buses.numbers ⊆ w'.buses.numbers ∧
      ∀ e ∈ w'.cache, e.2 ∉ w.buses.numbers := by
    induction run with
    | refl => exact ⟨ledger, List.Subset.refl _, by simp [empty]⟩
    | tail _ step ih =>
      obtain ⟨ledger, opened, since⟩ := ih
      refine ⟨ledger.step step, List.Subset.trans opened step.known_opened, ?_⟩
      intro e member
      obtain old | new := ledger.cached step e member
      · exact since e old
      · exact fun known => new (opened known)
  exact since.2.2

end World

end Sender

end UnitWatch.Wire
