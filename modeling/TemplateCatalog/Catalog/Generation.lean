import TemplateCatalog.Catalog.Filter
import TemplateCatalog.Catalog.Item

/-!
# Generations

A generation is a whole catalog at one moment: its items in the order of their documents, with the
templates they are rendered from. It never changes once it is built, so whoever holds one sees the
same catalog whatever is loaded meanwhile.

Main statements:

* `items_ofItems`: items with different ids all have their place in a generation.
* `total_census`, `count_census`: the census counts every item once, under its state.
-/

namespace TemplateCatalog

open Item (State)

/-- How many items a generation has in each state. -/
structure Census where
  /-- The number of the generation. -/
  generation : Nat
  /-- All items. -/
  total : Nat
  /-- The active items. -/
  active : Nat
  /-- The items without metadata. -/
  legacy : Nat
  /-- The items whose metadata is about another item. -/
  invalid : Nat
  /-- The items that the registry has withdrawn. -/
  disabled : Nat
  /-- The items with flaws. -/
  warning : Nat
  deriving DecidableEq, Repr

namespace Census

/-- The census of no items. -/
def empty (generation : Nat) : Census :=
  ⟨generation, 0, 0, 0, 0, 0, 0⟩

/-- The census with another item in the given state. -/
def add (census : Census) (state : State) : Census :=
  let counted := { census with total := census.total + 1 }
  match state with
  | .active => { counted with active := census.active + 1 }
  | .legacy => { counted with legacy := census.legacy + 1 }
  | .invalid => { counted with invalid := census.invalid + 1 }
  | .disabled => { counted with disabled := census.disabled + 1 }
  | .warning => { counted with warning := census.warning + 1 }

/-- How many items are in a state. -/
def count (census : Census) : State → Nat
  | .active => census.active
  | .legacy => census.legacy
  | .invalid => census.invalid
  | .disabled => census.disabled
  | .warning => census.warning

/-- The census as a printable record. -/
def tree (census : Census) : Json.Tree :=
  .record [
    ("generation", .nat census.generation),
    ("total", .nat census.total),
    ("active", .nat census.active),
    ("legacy", .nat census.legacy),
    ("invalid", .nat census.invalid),
    ("disabled", .nat census.disabled),
    ("warning", .nat census.warning)]

@[simp]
theorem total_add (census : Census) (state : State) :
    (census.add state).total = census.total + 1 := by
  cases state <;> rfl

theorem count_add (census : Census) (added state : State) :
    (census.add added).count state =
      census.count state + if added = state then 1 else 0 := by
  cases added <;> cases state <;> rfl

end Census

/-- A catalog at one moment. -/
structure Generation where
  /-- The number of the generation. -/
  number : Nat
  /-- The items, in the order of their documents. -/
  items : List CatalogItem
  /-- The places of the items, under their ids. -/
  index : Fields Nat
  /-- The templates that the items are rendered from. -/
  library : Template.Library

namespace Generation

/-- The generation of the given number without items. -/
def bare (number : Nat) (library : Template.Library) : Generation :=
  ⟨number, [], [], library⟩

/-- The generation before the first load. -/
def empty : Generation :=
  bare 0 []

/-- The generation with another item, unless there is an item of its id already. -/
def add (generation : Generation) (item : CatalogItem) : Generation :=
  if generation.index.has item.id then generation
  else
    { generation with
      items := generation.items ++ [item]
      index := Fields.insert item.id generation.items.length generation.index }

/-- The generation of the given items. Of several items with one id the first keeps it. -/
def ofItems (number : Nat) (library : Template.Library) (items : List CatalogItem) : Generation :=
  items.foldl add (bare number library)

/-- The item with the given id. -/
def find? (id : String) (generation : Generation) : Option CatalogItem :=
  (generation.index.find? id).bind (generation.items[·]?)

/-- The profiles of the items that a filter admits. -/
def list (filter : Filter) (generation : Generation) : List Item.Profile :=
  (generation.items.map CatalogItem.profile).filter filter.admits

/-- The census of the generation. -/
def census (generation : Generation) : Census :=
  (generation.items.map (·.profile.state)).foldl Census.add (.empty generation.number)

/-- Render the item with the given id, unless the registry has withdrawn it. -/
def render (id : String) (arguments : Fields Json.Value) (generation : Generation) :
    Except RenderFault String :=
  match generation.find? id with
  | none => .error (.notFound id)
  | some item =>
    if item.profile.state = .disabled then .error (.disabled id)
    else item.render generation.library arguments

@[simp]
theorem number_add (generation : Generation) (item : CatalogItem) :
    (generation.add item).number = generation.number := by
  unfold add
  split <;> rfl

@[simp]
theorem library_add (generation : Generation) (item : CatalogItem) :
    (generation.add item).library = generation.library := by
  unfold add
  split <;> rfl

@[simp]
theorem number_ofItems (number : Nat) (library : Template.Library) (items : List CatalogItem) :
    (ofItems number library items).number = number := by
  suffices all : ∀ generation : Generation,
      (items.foldl add generation).number = generation.number from all _
  induction items with
  | nil => exact fun _ => rfl
  | cons item items ih => intro generation; simp [ih]

@[simp]
theorem library_ofItems (number : Nat) (library : Template.Library) (items : List CatalogItem) :
    (ofItems number library items).library = library := by
  suffices all : ∀ generation : Generation,
      (items.foldl add generation).library = generation.library from all _
  induction items with
  | nil => exact fun _ => rfl
  | cons item items ih => intro generation; simp [ih]

/-- An item whose id is new has its place behind the others. -/
theorem add_of_find?_eq_none {generation : Generation} {item : CatalogItem}
    (new : generation.index.find? item.id = none) :
    generation.add item =
      { generation with
        items := generation.items ++ [item]
        index := Fields.insert item.id generation.items.length generation.index } := by
  simp [add, Fields.has, new]

/-- Items with different ids all have their place. -/
theorem items_ofItems (number : Nat) (library : Template.Library) {items : List CatalogItem}
    (distinct : (items.map CatalogItem.id).Nodup) :
    (ofItems number library items).items = items := by
  suffices all : ∀ generation : Generation,
      (∀ item ∈ items, generation.index.find? item.id = none) →
        (items.foldl add generation).items = generation.items ++ items by
    simpa [ofItems, bare] using all (bare number library) fun _ _ => rfl
  induction items with
  | nil => simp
  | cons item items ih =>
    intro generation new
    rw [List.map_cons, List.nodup_cons] at distinct
    rw [List.foldl_cons, add_of_find?_eq_none (new item List.mem_cons_self),
      ih distinct.2 _ fun other member => ?_]
    · simp
    · have other_ne : other.id ≠ item.id := fun same =>
        distinct.1 (same ▸ List.mem_map_of_mem member)
      rw [Fields.find?_insert, if_neg other_ne]
      exact new other (List.mem_cons_of_mem _ member)

theorem total_foldl_add (states : List State) (census : Census) :
    (states.foldl Census.add census).total = census.total + states.length := by
  induction states generalizing census with
  | nil => rfl
  | cons state states ih => simp [ih]; omega

theorem count_foldl_add (states : List State) (census : Census) (state : State) :
    (states.foldl Census.add census).count state = census.count state + states.count state := by
  induction states generalizing census with
  | nil => rfl
  | cons added states ih =>
    simp only [List.foldl_cons, ih, Census.count_add, List.count_cons, beq_iff_eq]
    omega

/-- The census counts every item. -/
theorem total_census (generation : Generation) :
    generation.census.total = generation.items.length := by
  simp [census, total_foldl_add, Census.empty]

/-- The census counts every item under its state. -/
theorem count_census (generation : Generation) (state : State) :
    generation.census.count state =
      (generation.items.map (·.profile.state)).count state := by
  rw [census, count_foldl_add]
  cases state <;> simp [Census.empty, Census.count]

end Generation

end TemplateCatalog
