import TemplateCatalog.Template.Outline
import TemplateCatalog.Template.Scope

/-!
# Calls

What happens when functions, routines, methods and blocks are called. The statements of a routine
or a block run one level deeper; how they run there is a parameter of the definitions here.

Main statement: `span_length`, a range with step one has as many numbers as lie between its ends.
-/

namespace TemplateCatalog.Template.Run

/-- The item of a value under a key; a value without it gives an undefined one, but an undefined
value has no items. -/
def itemOf (key value : Value) : Run Value := do
  liftM (value.found ((← get).item? key value))

/-- The result of a filter. -/
def applyFilter (name : String) (arguments : List Value) : Run Value := do
  let arguments ← arguments.mapM settled
  return (← liftM (Filter.apply (← get).escaping name arguments)).unviewed

/-- The result of a test. -/
def applyTest (name : String) (arguments : List Value) : Run Bool := do
  liftM (Test.apply name (← arguments.mapM settled))

/-! ### Functions -/

/-- The numbers from a first one on, `count` many, each `step` after the one before. -/
def progression (first step : Int) (count : Nat) : List Int :=
  (List.range count).map fun (i : Nat) => first + step * (i : Int)

/-- How many steps lead from one number to the last one before another. -/
def stepCount (first last step : Int) : Nat :=
  if 0 < step then ((last - first + step - 1) / step).toNat
  else ((first - last - step - 1) / (-step)).toNat

/-- A range with step one has as many numbers as lie between its ends. -/
theorem span_length (first last : Int) :
    (progression first 1 (stepCount first last 1)).length = (last - first).toNat := by
  simp [progression, stepCount]

/-- A range has at most this many numbers. -/
def rangeLimit : Nat :=
  100000

/-- The numbers up to a bound, or between two bounds, in steps. -/
def range : Taking Value := do
  let a ← Taking.converted Value.asInt
  let b ← Taking.optional Value.asInt
  let step := (← Taking.optional Value.asInt).getD 1
  Taking.done
  let (first, last) :=
    match b with
    | some b => (a, b)
    | none => (0, a)
  if step = 0 then throw .invalidOperation
  let count := stepCount first last step
  if rangeLimit < count then throw .invalidOperation
  return .list .derived ((progression first step count).map .integer)

/-- A mapping, with the named arguments added to it. -/
def mapping : Taking Value := do
  let named ← Taking.named
  let value? ← Taking.optional .ok
  Taking.done
  let entries ← value?.elim (pure []) (liftM <| Filter.entriesOf ·)
  return .map .stored (named.foldl (fun entries entry => Entries.insert entry.1 entry.2 entries)
    entries)

/-- The fields of a new record: what is given under names. -/
def recordFields : Taking (Fields Value) := do
  let value? ← Taking.optional .ok
  Taking.done
  match value? with
  | none => return []
  | some value =>
    let entries ← liftM (Filter.entriesOf value)
    return Fields.ofPairs (entries.filterMap fun entry => entry.1.text?.map (·, entry.2))

/-- Call a function that every template knows. -/
def callFunction (name : String) (arguments : List Value) : Run Value := do
  match name with
  | "range" => liftM (range.call (← arguments.mapM surfaced))
  | "dict" => liftM (mapping.call (← arguments.mapM surfaced))
  | "namespace" =>
    let fields ← liftM (recordFields.call (← arguments.mapM surfaced))
    let machine ← get
    set { machine with records := machine.records.push fields }
    return .reference (.record machine.records.size)
  | _ =>
    match ← arguments.mapM settled with
    | [] =>
      let machine ← get
      return .ofString ((machine.outline (machine.settle settleDepth)).text 0)
    | [value] => return .ofString (Filter.layOut 0 value)
    | values => return .ofString (Filter.layOut 0 (.ofList values))

/-! ### Routines -/

/-- What runs statements one level deeper. -/
abbrev Deeper : Type :=
  List Statement → Run Unit

/-- The number of what the routines defined in the innermost frame keep. -/
def closureId : Run Nat := do
  let machine ← get
  match machine.frames.head?.bind Frame.closure with
  | some id => return id
  | none =>
    let id := machine.closures.size
    set ({ machine with closures := machine.closures.push [] }.onFrame fun frame =>
      { frame with closure := some id })
    return id

/-- Keep the value of a name for the routines of the innermost frame. -/
def enclose (closure : Nat) (name : String) : Run Unit :=
  modify fun machine =>
    let value := machine.lookUp name
    { machine with closures := machine.closures.modify closure (·.insertNew name value) }

/-- A routine with the given parameters and body. -/
def makeRoutine (name : String) (parameters : List Parameter) (body : List Statement) :
    Run Value := do
  let free := freeNames parameters body
  let closure ← closureId
  for name in free.reverse do
    if name ≠ "caller" then enclose closure name
  let machine ← get
  let routine : Routine :=
    { name, parameters, body, closure
      callsBack := free.contains "caller"
      template := machine.template }
  set { machine with routines := machine.routines.push routine }
  return .reference (.routine machine.routines.size name)

/-- The positional and the named arguments of a call. -/
def splitArguments (arguments : List Value) : List Value × Entries :=
  match arguments.getLast? with
  | some (.map form entries) =>
    if form.kind = .arguments then (arguments.dropLast, entries) else (arguments, [])
  | _ => (arguments, [])

/-- The values of parameters: the positional arguments in order, then those that have the names of
the parameters; a parameter has at most one argument. -/
def bindParameters : List Parameter → List Value → Entries → Except Fault (List Value)
  | [], [], _ => .ok []
  | [], _ :: _, _ => .error .tooManyArguments
  | parameter :: parameters, arguments, named => do
    let byName := named.find? (.ofString parameter.name)
    match arguments, byName with
    | _ :: _, some _ => throw .tooManyArguments
    | value :: rest, none => return value :: (← bindParameters parameters rest named)
    | [], byName => return byName.getD .undefined :: (← bindParameters parameters [] named)

/-- Assign the parameters of a routine, the last one first; a default is worked out when its
parameter is reached. -/
def assignParameters (deeper : Deeper) : List (Parameter × Value) → Run Unit
  | [] => pure ()
  | (parameter, value) :: rest => do
    assignParameters deeper rest
    match value, parameter.default with
    | .undefined, some default => deeper [.assign (.name parameter.name) default]
    | value, _ => modify (·.assign parameter.name value)

/-- How much deeper a routine is than its call. -/
def routineCost : Nat :=
  4

/-- Call a routine. It sees the render arguments and what it keeps, but none of the variables
around the call. -/
def callRoutine (deeper : Deeper) (routine : Routine) (arguments : List Value) : Run Value := do
  let (positional, named) := splitArguments arguments
  if routine.parameters.length < positional.length then throw .tooManyArguments
  let values ← liftM (bindParameters routine.parameters positional named)
  let names := (if routine.callsBack then ["caller"] else []) ++
    routine.parameters.map Parameter.name
  if named.any fun entry => entry.1.text?.any (!names.contains ·) then throw .tooManyArguments
  let outer ← get
  let base : Frame :=
    { Frame.empty with context := ((outer.frames.getLast?).map Frame.context).getD .nothing }
  let caller := (named.find? (.ofString "caller")).getD .undefined
  let own : Frame :=
    { Frame.empty with
      context := .closure routine.closure
      assigned := if routine.callsBack then [("caller", caller)] else [] }
  set { outer with
    output := ""
    discarding := false
    frames := [own, base]
    baseDepth := outer.depth + routineCost
    blocks := []
    block := none
    parent := none
    ancestry := []
    template := routine.template
    leftovers := [] }
  checkDepth
  assignParameters deeper (routine.parameters.zip values)
  deeper routine.body
  let inner ← get
  set { outer with
    closures := inner.closures
    records := inner.records
    loops := inner.loops
    routines := inner.routines
    nextMark := inner.nextMark }
  return outer.escaping.finished inner.output

/-! ### Values and methods -/

/-- Call a value. -/
def callValue (deeper : Deeper) (callee : Value) (arguments : List Value) : Run Value := do
  match callee with
  | .reference (.routine id _) =>
    match (← get).routines[id]? with
    | some routine => callRoutine deeper routine arguments
    | none => throw .invalidOperation
  | .function name => callFunction name arguments
  | _ => throw .invalidOperation

/-- Call what a value has under a name. -/
def callItem (deeper : Deeper) (object : Value) (name : String) (arguments : List Value) :
    Run Value := do
  match (← get).item? (.ofString name) object with
  | some callee => callValue deeper callee arguments
  | none => throw .unknownMethod

/-- Call a method. A loop has two of its own: `cycle` gives one argument after the other, and
`changed` asks whether the arguments differ from those of the last question. -/
def callMethod (deeper : Deeper) (object : Value) (name : String) (arguments : List Value) :
    Run Value := do
  let loop? ←
    match object with
    | .reference (.loop id) => pure (((← get).loops[id]?).map (id, ·))
    | _ => pure none
  match loop?, name with
  | some (_, state), "cycle" =>
    match arguments[state.index % arguments.length]? with
    | some value => return value
    | none => throw .invalidOperation
  | some (id, state), "changed" =>
    let same := state.last.any (Value.sameItems · arguments)
    modify fun machine =>
      { machine with loops := machine.loops.modify id ({ · with last := some arguments }) }
    return .bool !same
  | _, name => callItem deeper object name arguments

/-! ### Blocks and loops -/

/-- Run the version of a block that has been chosen. -/
def runVersion (deeper : Deeper) (name : String) (versions : BlockVersions) : Run Unit := do
  match versions.versions[versions.level]? with
  | none => throw .unknownBlock
  | some (template, body) =>
    let outer ← get
    framed Frame.empty do
      modify fun machine => { machine with block := some name, template }
      apart (deeper body)
    modify fun machine => { machine with block := outer.block, template := outer.template }

/-- Run a block. -/
def runBlock (deeper : Deeper) (name : String) : Run Unit := do
  match (← get).blocks.find? name with
  | none => throw .unknownBlock
  | some versions => runVersion deeper name versions

/-- The text of the next version of the block that runs. -/
def parentBlock (deeper : Deeper) : Run Value := do
  let machine ← get
  let versions? := do
    let name ← machine.block
    return (name, ← machine.blocks.find? name)
  match versions? with
  | none => throw .invalidOperation
  | some (name, versions) =>
    let next : BlockVersions := { versions with level := versions.level + 1 }
    if next.versions.length ≤ next.level then throw .invalidOperation
    checkDepth
    modify fun machine => { machine with blocks := machine.blocks.insert name next }
    let value ← capturedValue (asFault .parentBlock (runVersion deeper name next))
    modify fun machine => { machine with blocks := machine.blocks.insert name versions }
    return value

/-- The text of a recursive loop over other items. A loop with statements for the case that there
are no items leaves behind whether that was the case. -/
def recurse (deeper : Deeper) (id : Nat) (arguments : List Value) : Run Value := do
  match arguments, ((← get).loops[id]?).bind LoopState.recursion with
  | [items], some recursion =>
    let otherwise : List Statement := if recursion.hasOtherwise then [.data ""] else []
    let text ← capturedValue
      (deeper [.loop recursion.target (.constant items) none true recursion.body otherwise])
    if recursion.hasOtherwise then
      let passed := (← surfaced items).items?.getD []
      leave (.bool passed.isEmpty)
    return text
  | _, _ => throw .invalidOperation

end TemplateCatalog.Template.Run
