import TemplateCatalog.Source.Decode
import TemplateCatalog.Yaml.Event
import TemplateCatalog.Yaml.Lexer
import TemplateCatalog.Yaml.Scalar

/-!
# Reading YAML

Documents from the text of a stream, which may hold one document at most. An anchor marks the node
that starts at its event, so the node is composed anew from there.
-/

namespace TemplateCatalog.Yaml

open Source (Node)

mutual

/-- The node that starts with the first event, and the events after it. -/
def composeNode : Nat → List Event → Option (Node × List Event)
  | 0, _ => none
  | _ + 1, [] => none
  | steps + 1, event :: rest =>
    match event with
    | .alias anchor => some (.reference anchor, rest)
    | .scalar _ tag style text => some (.scalar (scalarOf tag style text), rest)
    | .sequenceStart _ tag => do
      let (items, rest) ← composeItems steps rest
      return (.sequence (ownTag? tag).isSome items, rest)
    | .mappingStart _ tag => do
      let (entries, rest) ← composeEntries steps rest
      return (.mapping (ownTag? tag).isSome entries, rest)
    | .sequenceEnd | .mappingEnd => none

/-- The items up to the end of a list, and the events after that. -/
def composeItems : Nat → List Event → Option (List Node × List Event)
  | 0, _ => none
  | _ + 1, .sequenceEnd :: rest => some ([], rest)
  | steps + 1, events => do
    let (item, rest) ← composeNode steps events
    let (items, rest) ← composeItems steps rest
    return (item :: items, rest)

/-- The entries up to the end of a mapping, and the events after that. -/
def composeEntries : Nat → List Event → Option (List (Node × Node) × List Event)
  | 0, _ => none
  | _ + 1, .mappingEnd :: rest => some ([], rest)
  | steps + 1, events => do
    let (key, rest) ← composeNode steps events
    let (value, rest) ← composeNode steps rest
    let (entries, rest) ← composeEntries steps rest
    return ((key, value) :: entries, rest)

end

/-- The nodes that anchors mark, the last one first. -/
def anchoredNodes (steps : Nat) : List Event → List (Nat × Node)
  | [] => []
  | event :: rest =>
    let later := anchoredNodes steps rest
    match event.anchor?, composeNode steps (event :: rest) with
    | some anchor, some (node, _) => later ++ [(anchor, node)]
    | _, _ => later

/-- The document of a stream of events. Each event may be revisited a hundred times on average. -/
def documentOfEvents? (events : List Event) : Option Source.Document :=
  let steps := 2 * events.length + 2
  if events.isEmpty then some ⟨.yaml, .scalar .void, [], 100⟩
  else
    (composeNode steps events).map fun (root, _) =>
      ⟨.yaml, root, anchoredNodes steps events, events.length * 100⟩

/-- The document that a text in YAML holds. -/
def document? (text : String) : Option Source.Document := do
  documentOfEvents? (← events? (← tokens? text))

end TemplateCatalog.Yaml
