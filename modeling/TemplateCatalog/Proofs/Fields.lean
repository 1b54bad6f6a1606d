import TemplateCatalog.Fields
import TemplateCatalog.Proofs.Pairs

/-!
# Names of fields

Fields are read by their names only: a name finds something exactly if it is one of the names of the
fields, and in ascending fields it finds the one value that stands under it.

Main statements:

* `Fields.mem_names_iff`: the names that find something.
* `Fields.sorted_ofPairs`: fields made from pairs are in ascending order.
* `Fields.find?_eq_some_iff_mem`: what a name finds in ascending fields.
* `Fields.find?_insertNew`: what a name finds after a value was put where there was none.
* `Fields.insert_cons_of_lt`, `Fields.insert_cons_of_gt`: where a value is put.
-/

namespace TemplateCatalog.Fields

variable {α : Type} {name : String} {value : α} {fields other : Fields α}

/-- A name finds something exactly if it is one of the names. -/
theorem mem_names_iff : name ∈ fields.names ↔ ∃ value, fields.find? name = some value := by
  induction fields with
  | nil => simp [names]
  | cons field rest ih =>
    obtain ⟨key, first⟩ := field
    simp only [names, List.map_cons, List.mem_cons] at ih ⊢
    rw [ih, find?_cons]
    split <;> simp_all

theorem find?_eq_none_iff : fields.find? name = none ↔ name ∉ fields.names := by
  rw [mem_names_iff]
  cases fields.find? name <;> simp

theorem has_iff : fields.has name = true ↔ name ∈ fields.names := by
  rw [mem_names_iff, has, Option.isSome_iff_exists]

theorem has_eq_false_iff : fields.has name = false ↔ name ∉ fields.names := by
  rw [← has_iff, Bool.not_eq_true]

/-- No two of ascending fields have the same name. -/
theorem Sorted.nodup (hsorted : fields.Sorted) : fields.names.Nodup :=
  hsorted.imp fun hlt => String.ne_of_lt hlt

/-- In ascending fields a name finds what stands under it. -/
theorem find?_eq_some_iff_mem (hsorted : fields.Sorted) :
    fields.find? name = some value ↔ (name, value) ∈ fields :=
  Pairs.lookup_eq_some_iff_mem hsorted.nodup

/-- Fields made from pairs are in ascending order. -/
theorem sorted_ofPairs (pairs : List (String × α)) : (ofPairs pairs).Sorted := by
  suffices hall : ∀ start : Fields α, start.Sorted →
      Sorted (pairs.foldl (fun fields pair => fields.insert pair.1 pair.2) start) from
    hall [] List.Pairwise.nil
  induction pairs with
  | nil => exact fun _ hstart => hstart
  | cons pair rest ih => exact fun start hstart => ih _ (sorted_insert hstart)

/-- Of fields made from pairs, the last one is put there last. -/
theorem ofPairs_concat (pairs : List (String × α)) (pair : String × α) :
    ofPairs (pairs ++ [pair]) = (ofPairs pairs).insert pair.1 pair.2 := by
  rw [ofPairs, List.foldl_append]
  rfl

/-- A value is put under a name only if nothing stands there. -/
theorem find?_insertNew (name other : String) (value : α) (fields : Fields α) :
    find? other (insertNew name value fields) =
      if other = name then some ((fields.find? name).getD value) else fields.find? other := by
  unfold insertNew
  split
  · next htaken =>
    obtain ⟨old, hold⟩ := mem_names_iff.mp (has_iff.mp htaken)
    split
    · next hsame => rw [hsame, hold, Option.getD_some]
    · rfl
  · next hfree =>
    have hnone : fields.find? name = none :=
      find?_eq_none_iff.mpr (has_eq_false_iff.mp (Bool.eq_false_iff.mpr hfree))
    rw [find?_insert, hnone, Option.getD_none]

theorem sorted_insertNew (hsorted : fields.Sorted) : Sorted (insertNew name value fields) := by
  unfold insertNew
  split
  · exact hsorted
  · exact sorted_insert hsorted

variable {key : String} {old : α} {rest : Fields α}

/-- A value whose name comes before all others is put in front. -/
theorem insert_cons_of_lt (hlt : name < key) :
    insert name value ((key, old) :: rest) = (name, value) :: (key, old) :: rest :=
  if_pos hlt

/-- A value whose name comes after the first one is put behind it. -/
theorem insert_cons_of_gt (hgt : key < name) :
    insert name value ((key, old) :: rest) = (key, old) :: insert name value rest := by
  rw [insert, if_neg (String.lt_asymm hgt), if_neg (String.ne_of_lt hgt).symm]

end TemplateCatalog.Fields
