/-!
# Fields

Finite maps from names to values, kept as lists of pairs in ascending order of the names. Objects
of the data notations, argument declarations, registry entries and render contexts are all fields,
so everything that is printed from them comes out in the order of the names.

Main statements:

* `find?_insert`: a name finds the last value that was inserted under it.
* `sorted_insert`: insertion keeps the names strictly ascending.
-/

namespace TemplateCatalog

/-- Values under names, in ascending order of the names. -/
abbrev Fields (α : Type) : Type :=
  List (String × α)

namespace Fields

variable {α β : Type}

/-- The names, in order. -/
def names (fields : Fields α) : List String :=
  fields.map Prod.fst

/-- The names are strictly ascending. -/
def Sorted (fields : Fields α) : Prop :=
  fields.names.Pairwise (· < ·)

/-- The value under a name. -/
def find? (name : String) (fields : Fields α) : Option α :=
  fields.lookup name

/-- Some value stands under the name. -/
def has (name : String) (fields : Fields α) : Bool :=
  (fields.find? name).isSome

/-- Put a value under a name, in place of the one that stood there. -/
def insert (name : String) (value : α) : Fields α → Fields α
  | [] => [(name, value)]
  | (key, old) :: rest =>
    if name < key then (name, value) :: (key, old) :: rest
    else if name = key then (name, value) :: rest
    else (key, old) :: insert name value rest

/-- Put a value under a name unless the name is taken. -/
def insertNew (name : String) (value : α) (fields : Fields α) : Fields α :=
  if fields.has name then fields else fields.insert name value

/-- The fields without a name. -/
def erase (name : String) (fields : Fields α) : Fields α :=
  fields.filter fun field => field.1 ≠ name

/-- Fields from pairs in any order; of two pairs with one name the later one counts. -/
def ofPairs (pairs : List (String × α)) : Fields α :=
  pairs.foldl (fun fields pair => fields.insert pair.1 pair.2) []

/-- Change every value. -/
def mapValues (f : α → β) (fields : Fields α) : Fields β :=
  fields.map fun field => (field.1, f field.2)

@[simp]
theorem find?_nil (name : String) : find? name ([] : Fields α) = none := rfl

theorem find?_cons (name key : String) (value : α) (rest : Fields α) :
    find? name ((key, value) :: rest) = if name = key then some value else find? name rest := by
  by_cases h : name = key
  · simp [find?, h]
  · rw [if_neg h, find?, List.lookup_cons, beq_false_of_ne h]
    rfl

/-- A name finds what was inserted last under it; other names are not affected. -/
theorem find?_insert (name other : String) (value : α) (fields : Fields α) :
    find? other (insert name value fields) =
      if other = name then some value else find? other fields := by
  induction fields with
  | nil => simp [insert, find?_cons]
  | cons field rest ih =>
    obtain ⟨key, old⟩ := field
    simp only [insert]
    split
    · rw [find?_cons]
    · split
      · next eq =>
        subst eq
        simp only [find?_cons]
        split <;> rfl
      · simp only [find?_cons, ih]
        split <;> split <;> simp_all

/-- What is found under a name is one of the fields. -/
theorem mem_of_find? {name : String} {value : α} {fields : Fields α}
    (found : fields.find? name = some value) : (name, value) ∈ fields := by
  induction fields with
  | nil => simp at found
  | cons field rest ih =>
    rw [find?_cons] at found
    split at found
    · next eq =>
      subst eq
      cases found
      exact List.mem_cons_self
    · exact List.mem_cons_of_mem _ (ih found)

/-- Insertion adds at most the one name. -/
theorem mem_names_insert {name other : String} {value : α} {fields : Fields α} :
    other ∈ names (insert name value fields) ↔ other = name ∨ other ∈ fields.names := by
  induction fields with
  | nil => simp [insert, names]
  | cons field rest ih =>
    obtain ⟨key, old⟩ := field
    simp only [names] at ih
    simp only [insert, names]
    split
    · simp
    · split
      · next eq => simp [eq]
      · simp only [List.map_cons, List.mem_cons, ih]
        constructor
        · rintro (h | h | h) <;> simp [h]
        · rintro (h | h | h) <;> simp [h]

/-- Insertion keeps the names strictly ascending. -/
theorem sorted_insert {name : String} {value : α} {fields : Fields α} (sorted : fields.Sorted) :
    Sorted (insert name value fields) := by
  induction fields with
  | nil => simp [insert, Sorted, names]
  | cons field rest ih =>
    obtain ⟨key, old⟩ := field
    have tail : Sorted rest := by
      simp only [Sorted, names, List.map_cons, List.pairwise_cons] at sorted
      exact sorted.2
    have first : ∀ other ∈ names rest, key < other := by
      simp only [Sorted, names, List.map_cons, List.pairwise_cons] at sorted
      exact sorted.1
    simp only [insert]
    split
    · next lt =>
      simp only [Sorted, names, List.map_cons, List.pairwise_cons] at sorted ⊢
      refine ⟨?_, sorted⟩
      intro other member
      rcases List.mem_cons.1 member with rfl | member
      · exact lt
      · exact String.lt_trans lt (sorted.1 other member)
    · split
      · next eq =>
        subst eq
        simpa [Sorted, names] using sorted
      · next ge ne =>
        have lt : key < name := by
          refine Decidable.byContradiction fun nlt => ne ?_
          exact String.le_antisymm (String.not_lt.1 nlt) (String.not_lt.1 ge)
        simp only [Sorted, names, List.map_cons, List.pairwise_cons]
        refine ⟨?_, ih tail⟩
        intro other member
        rcases mem_names_insert.1 member with rfl | member
        · exact lt
        · exact first other member

end Fields

end TemplateCatalog
