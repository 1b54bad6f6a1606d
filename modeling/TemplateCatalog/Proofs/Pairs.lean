import Mathlib.Data.List.Nodup

/-!
# Lists of pairs

What a key finds in a list of pairs. The entries of a cache and the children of a directory are kept
in such lists, and no two of them have the same key there.

Main statements:

* `Pairs.lookup_eq_some_iff_mem`: with different keys, a key finds what stands under it.
-/

namespace TemplateCatalog

namespace Pairs

variable {κ ν : Type} [BEq κ] [LawfulBEq κ] {pairs : List (κ × ν)} {key : κ} {value : ν}

/-- A key finds something that stands under it. -/
theorem mem_of_lookup (hfound : pairs.lookup key = some value) : (key, value) ∈ pairs := by
  obtain ⟨before, after, rfl, -⟩ := List.lookup_eq_some_iff.mp hfound
  simp

/-- A key that no pair has finds nothing. -/
theorem lookup_eq_none_of_not_mem (hnew : key ∉ pairs.map Prod.fst) :
    pairs.lookup key = none := by
  refine List.lookup_eq_none_iff.mpr fun pair hpair => ?_
  have hne : key ≠ pair.1 := fun hsame => hnew (List.mem_map.mpr ⟨pair, hpair, hsame.symm⟩)
  simpa using hne

/-- If no two pairs have the same key, a key finds what stands under it, and nothing else. -/
theorem lookup_eq_some_iff_mem (hdistinct : (pairs.map Prod.fst).Nodup) :
    pairs.lookup key = some value ↔ (key, value) ∈ pairs := by
  refine ⟨mem_of_lookup, fun hmem => ?_⟩
  obtain ⟨before, after, rfl⟩ := List.append_of_mem hmem
  rw [List.map_append, List.map_cons] at hdistinct
  -- No pair before this one has its key.
  have hnew : key ∉ before.map Prod.fst := fun hearlier =>
    (List.nodup_append.mp hdistinct).2.2 key hearlier key List.mem_cons_self rfl
  rw [List.lookup_append, lookup_eq_none_of_not_mem hnew, List.lookup_cons_self, Option.none_or]

end Pairs

end TemplateCatalog
