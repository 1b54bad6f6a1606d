import TemplateCatalog.Yaml.Token

/-!
# Events of YAML

The events of a document: its nodes in the order in which they start, with the ends of the
collections. Missing nodes appear as empty scalars, tags are written out, and anchors and
references carry numbers.

A number stands for an anchor's name as it is bound at that place: a new binding gets the number
of names bound before it.
-/

namespace TemplateCatalog.Yaml

/-- An event of a document. -/
inductive Event where
  /-- A reference to the anchor with a number. -/
  | alias (anchor : Nat)
  /-- A scalar. -/
  | scalar (anchor : Option Nat) (tag : Option String) (style : ScalarStyle) (text : String)
  /-- The start of a list. -/
  | sequenceStart (anchor : Option Nat) (tag : Option String)
  /-- The end of a list. -/
  | sequenceEnd
  /-- The start of a mapping. -/
  | mappingStart (anchor : Option Nat) (tag : Option String)
  /-- The end of a mapping. -/
  | mappingEnd
  deriving DecidableEq, Repr

/-- The anchor that an event carries. -/
def Event.anchor? : Event → Option Nat
  | .scalar anchor _ _ _ => anchor
  | .sequenceStart anchor _ => anchor
  | .mappingStart anchor _ => anchor
  | _ => none

/-- The state of reading a document. -/
structure EventReader where
  /-- The tokens that are left. -/
  tokens : List Token
  /-- The events so far, the last one first. -/
  events : List Event
  /-- The starts of tags by their handles. -/
  handles : List (String × String)
  /-- The numbers of the anchors by their names. -/
  anchors : List (String × Nat)

/-- A step of reading a document. -/
abbrev ReadEvents (α : Type) : Type :=
  StateT EventReader Option α

namespace ReadEvents

/-- The document is malformed. -/
def fail {α : Type} : ReadEvents α :=
  fun _ => none

/-- The next token. -/
def peek : ReadEvents (Option Token) := do
  return (← get).tokens.head?

/-- Pass over the next token. -/
def skip : ReadEvents Unit :=
  modify fun reader => { reader with tokens := reader.tokens.drop 1 }

/-- One more event. -/
def emit (event : Event) : ReadEvents Unit :=
  modify fun reader => { reader with events := event :: reader.events }

/-- An empty scalar in place of a missing node. -/
def emitMissing : ReadEvents Unit :=
  emit (.scalar none none .plain "")

/-- Bind the name of an anchor. -/
def bindAnchor (name : String) : ReadEvents Nat := do
  let reader ← get
  let number := reader.anchors.length
  let others := reader.anchors.filter fun bound => bound.1 ≠ name
  set { reader with anchors := (name, number) :: others }
  return number

/-- The number that the name of an anchor is bound to. -/
def findAnchor (name : String) : ReadEvents Nat := do
  match (← get).anchors.lookup name with
  | some number => return number
  | none => fail

/-- Write out a tag. -/
def expandTag (handle suffix : String) : ReadEvents String := do
  if handle = "" then return suffix
  else
    match (← get).handles.lookup handle with
    | some start => return start ++ suffix
    | none => fail

/-- The anchor and the tag in front of a node. -/
def properties : ReadEvents (Option String × Option String) := do
  match ← peek with
  | some (.anchor name) =>
    skip
    match ← peek with
    | some (.tag handle suffix) =>
      skip
      return (some name, some (← expandTag handle suffix))
    | _ => return (some name, none)
  | some (.tag handle suffix) =>
    skip
    match ← peek with
    | some (.anchor name) =>
      skip
      return (some name, some (← expandTag handle suffix))
    | _ => return (none, some (← expandTag handle suffix))
  | _ => return (none, none)

/-- The token ends an entry of a block collection without a node. -/
def endsBlockEntry : Option Token → Bool
  | some .key | some .value | some .blockEnd | none => true
  | _ => false

mutual

/-- The node that comes next. A `block` node may be laid out by indentation; an `indentless` list
may start without being indented. -/
def node : Nat → (block indentless : Bool) → ReadEvents Unit
  | 0, _, _ => fail
  | steps + 1, block, indentless => do
    match ← peek with
    | some (.alias name) =>
      emit (.alias (← findAnchor name))
      skip
    | _ =>
      let (name, tag) ← properties
      let anchor ← name.mapM bindAnchor
      match ← peek, block with
      | some .blockEntry, _ =>
        if indentless then
          emit (.sequenceStart anchor tag)
          indentlessItems steps
        else if anchor.isSome || tag.isSome then emit (.scalar anchor tag .plain "")
        else fail
      | some (.scalar style text), _ =>
        emit (.scalar anchor tag style text)
        skip
      | some .flowSequenceStart, _ =>
        emit (.sequenceStart anchor tag)
        skip
        flowItems steps true
      | some .flowMappingStart, _ =>
        emit (.mappingStart anchor tag)
        skip
        flowEntries steps true
      | some .blockSequenceStart, true =>
        emit (.sequenceStart anchor tag)
        skip
        blockItems steps
      | some .blockMappingStart, true =>
        emit (.mappingStart anchor tag)
        skip
        blockEntries steps
      | _, _ =>
        if anchor.isSome || tag.isSome then emit (.scalar anchor tag .plain "") else fail

/-- The items of a list laid out by indentation. -/
def blockItems : Nat → ReadEvents Unit
  | 0 => fail
  | steps + 1 => do
    match ← peek with
    | some .blockEntry =>
      skip
      match ← peek with
      | some .blockEntry | some .blockEnd => emitMissing
      | _ => node steps true false
      blockItems steps
    | some .blockEnd =>
      skip
      emit .sequenceEnd
    | _ => fail

/-- The items of a list that is not indented. -/
def indentlessItems : Nat → ReadEvents Unit
  | 0 => fail
  | steps + 1 => do
    match ← peek with
    | some .blockEntry =>
      skip
      match ← peek with
      | some .blockEntry => emitMissing
      | next => if endsBlockEntry next then emitMissing else node steps true false
      indentlessItems steps
    | _ => emit .sequenceEnd

/-- The entries of a mapping laid out by indentation. -/
def blockEntries : Nat → ReadEvents Unit
  | 0 => fail
  | steps + 1 => do
    match ← peek with
    | some .blockEnd =>
      skip
      emit .mappingEnd
    | some .key =>
      skip
      if endsBlockEntry (← peek) then emitMissing else node steps true true
      match ← peek with
      | some .value =>
        skip
        if endsBlockEntry (← peek) then emitMissing else node steps true true
      | _ => emitMissing
      blockEntries steps
    | _ => fail

/-- The items of a list in brackets. -/
def flowItems : Nat → (first : Bool) → ReadEvents Unit
  | 0, _ => fail
  | steps + 1, first => do
    if (← peek) = some .flowSequenceEnd then
      skip
      emit .sequenceEnd
    else
      if !first then
        if (← peek) = some .flowEntry then skip else fail
      match ← peek with
      | some .flowSequenceEnd => flowItems steps true
      | some .key =>
        emit (.mappingStart none none)
        skip
        flowPair steps
        emit .mappingEnd
        flowItems steps false
      | _ =>
        node steps false false
        flowItems steps false

/-- The key and the value of a mapping with one entry that is an item in brackets. -/
def flowPair : Nat → ReadEvents Unit
  | 0 => fail
  | steps + 1 => do
    match ← peek with
    | some .value | some .flowEntry | some .flowSequenceEnd =>
      skip
      emitMissing
    | _ => node steps false false
    match ← peek with
    | some .value =>
      skip
      match ← peek with
      | some .flowEntry | some .flowSequenceEnd => emitMissing
      | _ => node steps false false
    | _ => emitMissing

/-- The entries of a mapping in braces. -/
def flowEntries : Nat → (first : Bool) → ReadEvents Unit
  | 0, _ => fail
  | steps + 1, first => do
    if (← peek) = some .flowMappingEnd then
      skip
      emit .mappingEnd
    else
      if !first then
        if (← peek) = some .flowEntry then skip else fail
      match ← peek with
      | some .flowMappingEnd => flowEntries steps true
      | some .key =>
        skip
        match ← peek with
        | some .value | some .flowEntry | some .flowMappingEnd => emitMissing
        | _ => node steps false false
        match ← peek with
        | some .value =>
          skip
          match ← peek with
          | some .flowEntry | some .flowMappingEnd => emitMissing
          | _ => node steps false false
        | _ => emitMissing
        flowEntries steps false
      | _ =>
        node steps false false
        emitMissing
        flowEntries steps false

end

/-- The handles that every document knows. -/
def commonHandles : List (String × String) :=
  [("!", "!"), ("!!", "tag:yaml.org,2002:")]

/-- The directives in front of a document, given those that were seen already. -/
def directives : Nat → (versioned : Bool) → (handles : List (String × String)) →
    ReadEvents (Bool × List (String × String))
  | 0, _, _ => fail
  | steps + 1, versioned, handles => do
    match ← peek with
    | some (.version major minor) =>
      if versioned || major ≠ 1 || (minor ≠ 1 && minor ≠ 2) then fail
      else
        skip
        directives steps true handles
    | some (.tagHandle handle start) =>
      if (handles.lookup handle).isSome then fail
      else
        skip
        directives steps versioned ((handle, start) :: handles)
    | _ => return (versioned || !handles.isEmpty, handles)

/-- Pass over markers of the ends of documents. -/
def skipEnds : Nat → ReadEvents Unit
  | 0 => pure ()
  | steps + 1 => do
    if (← peek) = some .documentEnd then
      skip
      skipEnds steps

/-- The only document of a stream. -/
def document (steps : Nat) : ReadEvents Unit := do
  let (directed, handles) ← directives steps false []
  modify fun reader => { reader with handles := handles ++ commonHandles }
  match ← peek with
  | some .documentStart =>
    skip
    match ← peek with
    | some (.version ..) | some (.tagHandle ..) | some .documentStart | some .documentEnd | none =>
      emitMissing
    | _ => node steps true false
  | _ => if directed then fail else node steps true false
  skipEnds steps
  if (← peek).isSome then fail

end ReadEvents

/-- The events of the only document of a stream; none if the stream is empty. -/
def events? (tokens : List Token) : Option (List Event) :=
  if tokens.isEmpty then some []
  else
    let steps := 4 * tokens.length + 8
    ((ReadEvents.document steps).run ⟨tokens, [], [], []⟩).map fun result =>
      result.2.events.reverse

end TemplateCatalog.Yaml
