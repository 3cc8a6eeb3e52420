import Mathlib.Data.List.Nodup
import UnitWatch.Wire.Sender

/-!
# The cache of a sender

What `Cache.keep` does to a cache: a connection is added, or it takes the place of the one that was
kept for the scope, which is dropped (`Cache.buses_keep`).
-/

namespace UnitWatch.Wire

namespace Cache

def scopes (c : Cache) : List BusScope := c.map (·.1)

def buses (c : Cache) : List BusId := c.map (·.2)

variable {c : Cache} {scope : BusScope} {bus : BusId}

theorem mem_of_lookup (h : c.lookup scope = some bus) : (scope, bus) ∈ c := by
  obtain ⟨before, after, rfl, -⟩ := List.lookup_eq_some_iff.1 h
  simp

theorem keep_of_none (h : c.lookup scope = none) : c.keep scope bus = c ++ [(scope, bus)] := by
  have absent : c.any (·.1 == scope) = false := by
    rw [List.any_eq_false]
    intro e he
    simpa using (bne_iff_ne.1 (List.lookup_eq_none_iff.1 h e he)).symm
  rw [keep, if_neg (by simp [absent])]

/-- A connection takes the place of the one before it. -/
theorem keep_of_some (bus : BusId) {old : BusId} (nodup : c.scopes.Nodup)
    (h : c.lookup scope = some old) : ∃ before after, c = before ++ (scope, old) :: after ∧
      c.keep scope bus = before ++ (scope, bus) :: after := by
  obtain ⟨before, after, rfl, -⟩ := List.lookup_eq_some_iff.1 h
  refine ⟨before, after, rfl, ?_⟩
  rw [scopes, List.map_append, List.map_cons, List.nodup_middle, List.nodup_cons,
    ← List.map_append] at nodup
  have stays (l : List (BusScope × BusId)) (among : l ⊆ before ++ after) :
      (l.map fun e => if e.1 == scope then (scope, bus) else e) = l := by
    refine (List.map_congr_left fun e he => ?_).trans (List.map_id' l)
    have other : e.1 ≠ scope := by
      rintro rfl
      have member : e.1 ∈ (before ++ after).map (·.1) := List.mem_map_of_mem (among he)
      exact nodup.1 member
    rw [if_neg (by simpa using other)]
  rw [keep, if_pos (by simp), List.map_append, List.map_cons,
    stays before (List.subset_append_left _ _), stays after (List.subset_append_right _ _)]
  simp

theorem mem_keep {e : BusScope × BusId} (h : e ∈ c.keep scope bus) : e ∈ c ∨ e = (scope, bus) := by
  unfold keep at h
  split at h
  · obtain ⟨x, hx, rfl⟩ := List.mem_map.1 h
    split
    · exact .inr rfl
    · exact .inl hx
  · simpa using h

theorem nodup_scopes_keep (nodup : c.scopes.Nodup) : (c.keep scope bus).scopes.Nodup := by
  cases found : c.lookup scope with
  | none =>
    have absent : scope ∉ c.scopes := by
      rintro member
      obtain ⟨e, he, rfl⟩ := List.mem_map.1 member
      exact bne_iff_ne.1 (List.lookup_eq_none_iff.1 found e he) rfl
    rw [keep_of_none found, scopes, List.map_append]
    exact nodup.append (List.nodup_singleton scope) (List.disjoint_singleton.2 absent)
  | some old =>
    obtain ⟨before, after, rfl, eq⟩ := keep_of_some bus nodup found
    rw [eq]
    simpa [scopes] using nodup

/-- The connection that was cached for a scope is dropped when another one is kept. -/
theorem buses_keep (c : Cache) (scope : BusScope) (bus : BusId) (nodup : c.scopes.Nodup) :
    ∃ rest, c.buses.Perm ((c.lookup scope).toList ++ rest) ∧
      (c.keep scope bus).buses.Perm (bus :: rest) := by
  cases found : c.lookup scope with
  | none =>
    refine ⟨c.buses, .refl _, ?_⟩
    rw [keep_of_none found, buses, List.map_append]
    exact List.perm_append_singleton _ _
  | some old =>
    obtain ⟨before, after, rfl, eq⟩ := keep_of_some bus nodup found
    refine ⟨before.map (·.2) ++ after.map (·.2), ?_, ?_⟩
    · simp [buses]
    · rw [eq]
      simp [buses]

end Cache

end UnitWatch.Wire
