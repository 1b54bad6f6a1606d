import TemplateCatalog.Template.Escaping
import TemplateCatalog.Template.Expression
import TemplateCatalog.Template.Fault
import TemplateCatalog.Template.Parts

/-!
# The state of a rendering

What a template changes while it is rendered: the text written so far, the variables in their
frames, and the loops, records and routines that values refer to by number.

Main statements:

* `captured_output`: capturing the text of a step leaves the text written before it alone.
* `unviewed_surface`: the view of a reference stands for the reference.
-/

namespace TemplateCatalog.Template

/-- What a loop does again when it is called. -/
structure Recursion where
  /-- What the items are assigned to. -/
  target : Target
  /-- The statements for every item. -/
  body : List Statement
  /-- The loop has statements for the case that there are no items. -/
  hasOtherwise : Bool

/-- A loop that runs. -/
structure LoopState where
  /-- The items of the loop. -/
  items : List Value
  /-- The number of items was known from the start. -/
  measured : Bool
  /-- What the loop does again, if it can be called. -/
  recursion : Option Recursion
  /-- How many items have been passed. -/
  index : Nat
  /-- How many recursive loops the loop stands in. -/
  depth : Nat
  /-- The values of the last question whether values have changed. -/
  last : Option (List Value)

/-- What a frame knows besides the variables assigned in it. -/
inductive FrameContext where
  /-- Nothing. -/
  | nothing
  /-- The render arguments. -/
  | arguments (fields : Fields Value)
  /-- What a routine keeps, by its number. -/
  | closure (id : Nat)

/-- The variables of a section. -/
structure Frame where
  /-- The variables that were assigned in the section. -/
  assigned : Fields Value
  /-- What else is known. -/
  context : FrameContext
  /-- The loop whose body the section is. -/
  loop : Option Nat
  /-- What the routines defined in the section keep, by its number. -/
  closure : Option Nat

/-- A frame without any variables. -/
def Frame.empty : Frame where
  assigned := []
  context := .nothing
  loop := none
  closure := none

/-- A routine that a template defines. -/
structure Routine where
  /-- The name of the routine. -/
  name : String
  /-- The parameters. -/
  parameters : List Parameter
  /-- The statements. -/
  body : List Statement
  /-- What the routine keeps, by its number. -/
  closure : Nat
  /-- The routine can call back. -/
  callsBack : Bool
  /-- The template that defines it. -/
  template : String

/-- The versions of a block, that of the template rendered first and then those of its parents. -/
structure BlockVersions where
  /-- For each version, the template it stands in and its statements. -/
  versions : List (String × List Statement)
  /-- The version that runs. -/
  level : Nat

/-- The state of a rendering. -/
structure Machine where
  /-- The text written so far. -/
  output : String
  /-- Text that is written gets lost. -/
  discarding : Bool
  /-- The frames, the innermost one first. -/
  frames : List Frame
  /-- The depth at which the frames start. -/
  baseDepth : Nat
  /-- How values are escaped. -/
  escaping : Escaping
  /-- The names of all templates. -/
  templates : List String
  /-- The name of the template that runs. -/
  template : String
  /-- The blocks. -/
  blocks : Fields BlockVersions
  /-- The block that runs. -/
  block : Option String
  /-- The template that is to run next in place of the one that runs. -/
  parent : Option String
  /-- The templates that the rendered one is based on, and itself. -/
  ancestry : List String
  /-- What routines keep. -/
  closures : Array (Fields Value)
  /-- The records. -/
  records : Array (Fields Value)
  /-- The loops. -/
  loops : Array LoopState
  /-- The routines. -/
  routines : Array Routine
  /-- The first mark that no list or mapping has. -/
  nextMark : Nat
  /-- The values that calls have left behind their results, the last one last. -/
  leftovers : List Value

/-- A step of a rendering. -/
abbrev Run (α : Type) : Type :=
  StateT Machine (Except Fault) α

namespace Machine

/-- How deeply the sections are nested. -/
def depth (machine : Machine) : Nat :=
  machine.baseDepth + machine.frames.length

/-- The state with one more frame. -/
def pushed (frame : Frame) (machine : Machine) : Machine :=
  { machine with frames := frame :: machine.frames }

/-- Change the innermost frame. -/
def onFrame (change : Frame → Frame) (machine : Machine) : Machine :=
  match machine.frames with
  | [] => machine
  | frame :: frames => { machine with frames := change frame :: frames }

/-- Assign a variable in the innermost frame; the routines defined there learn of it. Lists and
mappings get marks. -/
def assign (name : String) (value : Value) (machine : Machine) : Machine :=
  let (value, nextMark) := value.marked machine.nextMark
  let closure := machine.frames.head?.bind Frame.closure
  let machine := { machine with nextMark }.onFrame fun frame =>
    { frame with assigned := frame.assigned.insert name value }
  match closure with
  | some id => { machine with closures := machine.closures.modify id (·.insert name value) }
  | none => machine

/-- The value of a name in what a frame knows. -/
def contextValue? (machine : Machine) (name : String) : FrameContext → Option Value
  | .nothing => none
  | .arguments fields => fields.find? name
  | .closure id => machine.closures[id]?.bind (Fields.find? name)

/-- The value of a name in a frame. -/
def frameValue? (machine : Machine) (name : String) (frame : Frame) : Option Value :=
  match frame.assigned.find? name with
  | some value => some value
  | none =>
    match frame.loop with
    | some id =>
      if name = "loop" then some (.reference (.loop id))
      else machine.contextValue? name frame.context
    | none => machine.contextValue? name frame.context

/-- The functions that every template knows. -/
def functions : List String :=
  ["range", "dict", "namespace", "debug"]

/-- The value of a name, if the name is known. -/
def lookUp? (name : String) (machine : Machine) : Option Value :=
  match machine.frames.findSome? (machine.frameValue? name) with
  | some value => some value
  | none => if functions.contains name then some (.function name) else none

/-- The value of a name; an unknown name has an undefined one. -/
def lookUp (name : String) (machine : Machine) : Value :=
  (machine.lookUp? name).getD .undefined

/-- The innermost loop. -/
def innerLoop? (machine : Machine) : Option LoopState :=
  machine.frames.findSome? fun frame => frame.loop.bind (machine.loops[·]?)

/-- The names of the attributes of a loop. -/
def loopAttributes : List String :=
  ["index0", "index", "length", "revindex", "revindex0", "first", "last", "depth", "depth0",
    "previtem", "nextitem"]

/-- An attribute of a loop. -/
def loopAttribute? (state : LoopState) (name : String) : Option Value :=
  let length := state.items.length
  let counted (n : Nat) : Value := if state.measured then .nat n else .undefined
  match name with
  | "index0" => some (.nat state.index)
  | "index" => some (.nat (state.index + 1))
  | "length" => some (counted length)
  | "revindex" => some (counted (length - state.index))
  | "revindex0" => some (counted (length - state.index - 1))
  | "first" => some (.bool (state.index == 0))
  | "last" => some (.bool (state.index + 1 == length))
  | "depth" => some (.nat (state.depth + 1))
  | "depth0" => some (.nat state.depth)
  | "previtem" =>
    some (if state.index = 0 then .undefined else (state.items[state.index - 1]?).getD .undefined)
  | "nextitem" => some ((state.items[state.index + 1]?).getD .undefined)
  | _ => none

/-- The text of a loop. -/
def loopText (state : LoopState) : String :=
  let length := if state.measured then toString state.items.length else "?"
  "<loop " ++ toString state.index ++ "/" ++ length ++ ">"

/-- The attributes of a routine. -/
def routineAttributes (routine : Routine) : List (String × Value) :=
  [("name", .ofString routine.name),
    ("arguments", .ofList (routine.parameters.map fun p => .ofString p.name)),
    ("caller", .bool routine.callsBack)]

/-- The attributes of what a reference leads to. -/
def attributes (machine : Machine) : Reference → List (String × Value)
  | .routine id _ => (machine.routines[id]?).elim [] routineAttributes
  | .record id => (machine.records[id]?).getD []
  | .loop id => (machine.loops[id]?).elim [] fun state =>
    loopAttributes.map fun name => (name, (loopAttribute? state name).getD .undefined)

/-- The text that what a reference leads to shows as a whole. -/
def referenceText? (machine : Machine) : Reference → Option String
  | .routine id name => some (Reference.routine id name).text
  | .record _ => none
  | .loop id => (machine.loops[id]?).map loopText

/-- The value, or the view of what it refers to. -/
def surface (machine : Machine) : Value → Value
  | .reference source =>
    .view source (machine.referenceText? source) (machine.attributes source)
  | value => value

/-- The view of a reference stands for the reference. -/
theorem unviewed_surface (machine : Machine) (source : Reference) :
    (machine.surface (.reference source)).unviewed = .reference source :=
  Value.unviewed_view ..

/-- The value with every reference replaced by the view of its target, as far as values are nested
`steps` deep. -/
def settle (machine : Machine) : Nat → Value → Value
  | 0, value => value
  | steps + 1, value =>
    match machine.surface value with
    | .list form items => .list form (items.map (machine.settle steps))
    | .map form entries =>
      .map form (entries.map fun entry => (entry.1, machine.settle steps entry.2))
    | value => value

/-- The item of a value under a key. -/
def item? (machine : Machine) (key value : Value) : Option Value :=
  match value with
  | .reference (.loop id) =>
    machine.loops[id]?.bind fun state => key.text?.bind (loopAttribute? state)
  | value => (machine.surface value).item? key

/-- The value counts as true in a condition. -/
def isTrue (machine : Machine) (value : Value) : Bool :=
  (machine.surface value).isTrue

end Machine

namespace Run

/-- Values are settled this deep. -/
def settleDepth : Nat :=
  200

/-- The value as filters, tests and operators see it. -/
def settled (value : Value) : Run Value := do
  return (← get).settle settleDepth value

/-- The value with its own attributes, if it has some. -/
def surfaced (value : Value) : Run Value := do
  return (← get).surface value

/-- The value counts as true in a condition. -/
def truth (value : Value) : Run Bool := do
  return (← get).isTrue value

/-- Write a text. -/
def write (s : String) : Run Unit :=
  modify fun machine =>
    if machine.discarding then machine else { machine with output := machine.output ++ s }

/-- Sections are nested at most this deep. -/
def depthLimit : Nat :=
  500

/-- The sections are not nested too deeply. -/
def checkDepth : Run Unit := do
  if depthLimit < (← get).depth then throw .invalidOperation

/-- Run a step in a frame of its own. -/
def framed {α : Type} (frame : Frame) (step : Run α) : Run α := do
  checkDepth
  modify (·.pushed frame)
  let result ← step
  modify fun machine => { machine with frames := machine.frames.drop 1 }
  return result

/-- The text that a step writes. -/
def captured {α : Type} (step : Run α) : Run (α × String) := do
  let outer ← get
  set { outer with output := "", discarding := false }
  let result ← step
  let inner ← get
  set { inner with output := outer.output, discarding := outer.discarding }
  return (result, inner.output)

/-- The text that a step writes, as a value. -/
def capturedValue (step : Run Unit) : Run Value := do
  let (_, s) ← captured step
  return (← get).escaping.finished s

/-- Run a step, every fault of which counts as the given one. -/
def asFault {α : Type} (fault : Fault) (step : Run α) : Run α := fun machine =>
  match step machine with
  | .ok result => .ok result
  | .error _ => .error fault

/-- Leave a value behind the result of a call. -/
def leave (value : Value) : Run Unit :=
  modify fun machine => { machine with leftovers := machine.leftovers ++ [value] }

/-- Run a step with what it leaves behind: the values that are left, and those that were left
before are left again. -/
def withLeftovers {α : Type} (step : Run α) : Run (List Value × α) := do
  let outer := (← get).leftovers
  modify ({ · with leftovers := [] })
  let result ← step
  let left := (← get).leftovers
  modify ({ · with leftovers := outer })
  return (left, result)

/-- Run a step that leaves nothing behind. -/
def apart {α : Type} (step : Run α) : Run α := do
  return (← withLeftovers step).2

/-- Capturing the text of a step leaves the text written before it alone. -/
theorem captured_output {α : Type} {step : Run α} {machine after : Machine} {result : α × String}
    (h : captured step machine = .ok (result, after)) : after.output = machine.output := by
  change Except.bind (step { machine with output := "", discarding := false }) _ = _ at h
  cases ran : step { machine with output := "", discarding := false } with
  | error fault => rw [ran] at h; cases h
  | ok inner => rw [ran] at h; cases h; rfl

end Run

end TemplateCatalog.Template
