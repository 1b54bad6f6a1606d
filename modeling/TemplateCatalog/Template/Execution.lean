import TemplateCatalog.Template.Evaluation

/-!
# Execution

What statements do. Templates that are run from other templates, blocks, routines and recursive
loops run one level deeper. A template that is based on another one is run for its blocks and
variables first, its text being lost, and then the other one is run in its place.

Main statement: `executeAll_append`, a list of statements does what its parts do in turn.
-/

namespace TemplateCatalog.Template

/-- The templates of a collection, by name. -/
abbrev Library : Type :=
  Fields Compiled

namespace Run

/-! ### Assignments -/

/-- The items that a list or a mapping is taken apart into. -/
def unpacked (count : Nat) (value : Value) : Except Fault (List Value) :=
  match value with
  | .list _ _ | .map _ _ =>
    match value.items? with
    | some items => if items.length = count then .ok items else .error .cannotUnpack
    | none => .error .cannotUnpack
  | _ => .error .cannotUnpack

/-- Set an attribute of a record. -/
def setAttribute (object : Value) (name : String) (value : Value) : Run Unit := do
  match object with
  | .reference (.record id) =>
    modify fun machine =>
      let (value, nextMark) := value.marked machine.nextMark
      { machine with nextMark, records := machine.records.modify id (·.insert name value) }
  | _ => throw .invalidOperation

mutual

/-- Assign a value to a target. -/
def assign : Target → Value → Run Unit
  | .name name, value => modify (·.assign name value)
  | .attribute root path name, value => do
    let start := (← get).lookUp root
    let object ← path.foldlM (fun object key => itemOf (.ofString key) object) start
    setAttribute object name value
  | .list targets, value => do
    assignEach targets (← liftM (unpacked targets.length (← surfaced value)))

/-- Assign values to as many targets. -/
def assignEach : List Target → List Value → Run Unit
  | target :: targets, value :: values => do
    assign target value
    assignEach targets values
  | _, _ => pure ()

end

/-! ### Loops -/

/-- Run a step for every item of a loop, counting the items. What was assigned for one item is gone
at the next one. -/
def overItems (id : Nat) (step : Value → Run Unit) : Nat → List Value → Run Unit
  | _, [] => pure ()
  | index, item :: items => do
    let item ← liftM item.sound
    modify fun machine =>
      { machine with loops := machine.loops.modify id ({ · with index }) }.onFrame fun frame =>
        { frame with assigned := [], closure := none }
    step item
    overItems id step (index + 1) items

/-- Run a step for every item of a new loop. -/
def loopOver (items : List Value) (measured : Bool) (recursion : Option Recursion)
    (step : Value → Run Unit) : Run Unit := do
  let machine ← get
  let depth :=
    match machine.innerLoop? with
    | some state => if state.recursion.isSome then state.depth + 1 else 0
    | none => 0
  let id := machine.loops.size
  let state : LoopState := { items, measured, recursion, index := 0, depth, last := none }
  set { machine with loops := machine.loops.push state }
  framed { Frame.empty with loop := some id } (overItems id step 0 items)

/-- The items that meet a condition, which sees them in a loop of its own that cannot be asked
for. -/
def filterItems (items : List Value) (condition : Value → Run Bool) : Run (List Value) := do
  checkDepth
  modify (·.pushed Frame.empty)
  let kept ← items.filterM condition
  modify fun machine => { machine with frames := machine.frames.drop 1 }
  return kept

/-! ### Other templates -/

/-- The template of a name. -/
def findTemplate (library : Library) (name : String) : Run Compiled := do
  match library.find? name with
  | some template => return template
  | none => throw .templateNotFound

/-- The blocks with one more version of each block of a template. -/
def addVersions (name : String) (template : Compiled) (blocks : Fields BlockVersions) :
    Fields BlockVersions :=
  template.blocks.foldl (fun blocks block =>
    let versions := (blocks.find? block.1).getD ⟨[], 0⟩
    blocks.insert block.1 { versions with versions := versions.versions ++ [(name, block.2)] })
    blocks

/-- Base the template that runs on another one. -/
def inherit (library : Library) (name : Value) : Run Unit := do
  let machine ← get
  if machine.parent.isSome then throw .invalidOperation
  let name ← liftM name.asText
  if machine.ancestry.contains name then throw .invalidOperation
  let template ← findTemplate library name
  set { machine with
    ancestry := name :: machine.ancestry
    blocks := addVersions name template machine.blocks
    parent := some name
    discarding := true }

/-- How much deeper an inserted template is than the place where it is inserted. -/
def insertCost : Nat :=
  10

/-- Run another template in the frame that is there. -/
def insertTemplate (deeper : Deeper) (name : String) (template : Compiled) : Run Unit := do
  let outer ← get
  let closure := outer.frames.head?.bind Frame.closure
  modify fun machine =>
    { machine.onFrame ({ · with closure := none }) with
      baseDepth := machine.baseDepth + insertCost
      escaping := Escaping.ofName name
      template := name
      blocks := addVersions name template [] }
  checkDepth
  asFault .inclusion (apart (deeper template.body))
  modify fun machine =>
    { machine.onFrame ({ · with closure }) with
      baseDepth := outer.baseDepth
      escaping := outer.escaping
      template := outer.template
      blocks := outer.blocks
      ancestry := outer.ancestry }

/-- Run the first template that there is; without names that are no templates', there need be
none. -/
def insertFirst (library : Library) (deeper : Deeper) (optional missed : Bool) :
    List Value → Run Unit
  | [] => if missed && !optional then throw .templateNotFound else pure ()
  | name :: names => do
    let name ← liftM name.asText
    match library.find? name with
    | some template => insertTemplate deeper name template
    | none => insertFirst library deeper optional true names

/-- Run the template of a name, or the first one of several names. -/
def insert (library : Library) (deeper : Deeper) (optional : Bool) (name : Value) : Run Unit :=
  insertFirst library deeper optional false <|
    match name with
    | .list _ items => items
    | .map _ entries => entries.map Prod.fst
    | name => [name]

/-- Run another template in a frame of its own, and take something from its variables. -/
def bringFrom {α : Type} (library : Library) (deeper : Deeper) (name : Run Value) (take : Run α) :
    Run (α × String) :=
  captured <| framed Frame.empty do
    insert library deeper false (← name)
    take

/-- The variables of the innermost frame. -/
def ownVariables : Run (Fields Value) := do
  return ((← get).frames.head?.map Frame.assigned).getD []

/-! ### Statements -/

/-- The way of escaping that a value asks for. -/
def escapingOf (mode : Value) : Except Fault Escaping :=
  match mode with
  | .text s _ =>
    if s = "html" then .ok .markup
    else if s = "none" then .ok .plain
    else .error .invalidOperation
  | mode => .ok (if mode.same (.bool true) then .markup else .plain)

/-- The result of filters on a text. -/
def applyFilters (deeper : Deeper) (filters : List FilterCall) (text : Value) : Run Value :=
  filters.foldlM (fun text filter => do
    applyFilter filter.name
      (← (← evaluateArguments deeper ⟨[text], 1, none⟩ filter.arguments).pack))
    text

/-- Write a value. -/
def writeValue (value : Value) : Run Unit := do
  let machine ← get
  write (machine.escaping.write (← settled value))

mutual

/-- Do what a statement says. -/
def execute (library : Library) (deeper : Deeper) : Statement → Run Unit
  | .data text => write text
  | .output value => do writeValue (← evaluate deeper value)
  | .loop target source condition recursive body otherwise => do
    let source ← surfaced (← evaluate deeper source)
    let items ← liftM source.items
    let items ←
      match condition with
      | none => pure items
      | some condition =>
        filterItems items fun item => do
          assign target item
          truth (← evaluate deeper condition)
    let measured := condition.isSome || source.hasKnownItems
    let recursion : Option Recursion :=
      if recursive then some ⟨target, body, !otherwise.isEmpty⟩ else none
    loopOver items measured recursion fun item => do
      assign target item
      executeAll library deeper body
    if items.isEmpty then executeAll library deeper otherwise
  | .branch condition yes no => do
    if ← truth (← evaluate deeper condition) then executeAll library deeper yes
    else executeAll library deeper no
  | .scope bindings body =>
    framed Frame.empty do
      for (target, value) in bindings do
        assign target (← evaluate deeper value)
      executeAll library deeper body
  | .assign target value => do assign target (← evaluate deeper value)
  | .capture target filters body => do
    let text ← capturedValue (executeAll library deeper body)
    assign target (← applyFilters deeper filters text)
  | .escaping mode body => do
    let escaping ← liftM (escapingOf (← evaluate deeper mode))
    let outer ← get
    set { outer with escaping }
    executeAll library deeper body
    modify ({ · with escaping := outer.escaping })
  | .filtered filters body => do
    let text ← capturedValue (executeAll library deeper body)
    writeValue (← applyFilters deeper filters text)
  | .block name _ => do
    let machine ← get
    if machine.parent.isNone && !machine.discarding then runBlock deeper name
  | .missing => throw .invalidOperation
  | .inherit template => do inherit library (← evaluate deeper template)
  | .insert template optional => do insert library deeper optional (← evaluate deeper template)
  | .bring template target => do
    let (brought, s) ← bringFrom library deeper (evaluate deeper template) ownVariables
    assign target (.map ⟨.shown s, none⟩
      (brought.map fun field => (.ofString field.1, field.2)))
  | .bringNames template names => do
    let (values, _) ← bringFrom library deeper (evaluate deeper template)
      (names.mapM fun pair => return (← get).lookUp pair.1)
    for (name, value) in (names.map Prod.snd).zip values do
      modify (·.assign name value)
  | .define name parameters body => do
    let routine ← makeRoutine name parameters body
    modify (·.assign name routine)
  | .callWith callee arguments parameters body => do
    let caller ← makeRoutine "caller" parameters body
    writeValue (← evaluate deeper
      (.call callee (arguments ++ [(.named "caller", .constant caller)])))
  | .perform callee arguments => discard (evaluate deeper (.call callee arguments))

/-- Do what the statements say, one after the other. -/
def executeAll (library : Library) (deeper : Deeper) : List Statement → Run Unit
  | [] => pure ()
  | statement :: statements => do
    execute library deeper statement
    executeAll library deeper statements

end

/-- A list of statements does what its parts do in turn. -/
theorem executeAll_append (library : Library) (deeper : Deeper) (before after : List Statement) :
    executeAll library deeper (before ++ after) =
      executeAll library deeper before >>= fun _ => executeAll library deeper after := by
  induction before with
  | nil => simp [executeAll]
  | cons statement before ih => simp [executeAll, ih]

/-- Run statements, and in their place what they turn out to be based on. Deeper statements run at
most so many levels deeper. -/
def run (library : Library) : Nat → Deeper
  | 0, _ => throw .invalidOperation
  | levels + 1, body => do
    let outer ← get
    set { outer with parent := none }
    executeAll library (run library levels) body
    let machine ← get
    match machine.parent with
    | some name =>
      set { machine with discarding := outer.discarding, template := name }
      run library levels (← findTemplate library name).body
    | none => pure ()
    modify ({ · with parent := outer.parent })

end Run

/-- The values of the render arguments, with marks from a number on, and the first number that is
left. -/
def markedArguments (next : Nat) : Fields Json.Value → Fields Value × Nat
  | [] => ([], next)
  | (name, value) :: fields =>
    let first := (Value.ofJson value).marked next
    let others := markedArguments first.2 fields
    ((name, first.1) :: others.1, others.2)

/-- The state in which the rendering of a template with the given arguments starts. -/
def Machine.start (library : Library) (name : String) (template : Compiled)
    (arguments : Fields Value) (nextMark : Nat) : Machine where
  output := ""
  discarding := false
  frames := [{ Frame.empty with context := .arguments arguments }]
  baseDepth := 0
  escaping := Escaping.ofName name
  templates := library.names
  template := name
  blocks := Run.addVersions name template []
  block := none
  parent := none
  ancestry := [name]
  closures := #[]
  records := #[]
  loops := #[]
  routines := #[]
  nextMark := nextMark
  leftovers := []

/-- The text of the template of a name, given the render arguments. Every level is a section of
its own or takes up a template that the rendered one is based on, so the number of levels is
bounded by the depth of sections and the number of templates. -/
def Library.render (library : Library) (name : String) (arguments : Fields Json.Value) :
    Except Fault String :=
  match library.find? name with
  | none => .error .templateNotFound
  | some template =>
    let levels := (Run.depthLimit + 2) * (library.length + 2)
    let (values, nextMark) := markedArguments 0 arguments
    let start := Machine.start library name template values nextMark
    match Run.run library levels template.body start with
    | .ok (_, machine) => .ok machine.output
    | .error fault => .error fault

end TemplateCatalog.Template
