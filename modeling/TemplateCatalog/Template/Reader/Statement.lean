import TemplateCatalog.Template.Reader.Expression

/-!
# Reading statements

Statements from tokens, and templates from texts. A section of statements ends before a tag with
one of the keywords that can end it, or at the end of the template, where the missing end of its
tag is noticed.

Main statement: `Compiled.read_of_plain`, a text without delimiters is a template that writes the
text.
-/

namespace TemplateCatalog.Template

namespace Reading

/-- The names that nothing can be assigned to. -/
def reservedNames : List String :=
  ["true", "True", "false", "False", "none", "None", "loop", "self"]

/-- A name that something is assigned to. -/
def assignedName : Reading String := do
  let assigned ← name
  if reservedNames.contains assigned then fail
  return assigned

/-- The attributes behind a name that something is assigned to. -/
def moreAttributes : Nat → List String → Reading (List String)
  | 0, _ => fail
  | steps + 1, before => do
    if ← skipMark "." then moreAttributes steps ((← name) :: before) else return before

/-- A variable, or an attribute of one. -/
def assignedPlace (steps : Nat) : Reading Target := do
  let root ← assignedName
  match ← moreAttributes steps [] with
  | [] => return .name root
  | key :: path => return .attribute root path.reverse key

/-- The token ends a list of targets. -/
def endsTargets (token : Option Token) : Bool :=
  token = some (.mark ")") || token = some .outputEnd || token = some .tagEnd ||
    token = some (.name "in")

mutual

/-- One or more targets, among which there may be attributes if places are allowed. -/
def targets : Nat → Bool → Reading Target
  | 0, _ => fail
  | steps + 1, places => do
    let (targets, several) ← targetsFrom steps places []
    match targets, several with
    | [target], false => return target
    | targets, _ => return .list targets

/-- The targets from some place on, given those before, the last one first, and whether a comma
stood behind any of them. -/
def targetsFrom : Nat → Bool → List Target → Reading (List Target × Bool)
  | 0, _, _ => fail
  | steps + 1, places, before => do
    if endsTargets (← peek) then return (before.reverse, !before.isEmpty)
    let target ←
      if ← skipMark "(" then
        let inner ← targets steps places
        expect (.mark ")")
        pure inner
      else if places then assignedPlace steps
      else pure (.name (← assignedName))
    if ← skipMark "," then targetsFrom steps places (target :: before)
    else return ((target :: before).reverse, !before.isEmpty)

end

/-- The marker of whether another template sees the variables around it, which has no meaning. -/
def skipContext : Reading Unit := do
  let marked ← skipName "without"
  let marked ← if marked then pure true else skipName "with"
  if marked then expect (.name "context")

/-- The filters of a section, up to the end of the tag. -/
def filterCalls : Nat → List FilterCall → Reading (List FilterCall)
  | 0, _ => fail
  | steps + 1, before => do
    if ← isNext .tagEnd then
      if before.isEmpty then fail else return before.reverse
    else
      if !before.isEmpty then expect (.mark "|")
      let filter ← name
      let arguments ← optionalArguments steps
      filterCalls steps (⟨filter, arguments⟩ :: before)

/-- The parameters of a routine up to the closing bracket, given those before, the last one
first. A parameter behind one with a default has a default. -/
def parameters : Nat → List Parameter → Reading (List Parameter)
  | 0, _ => fail
  | steps + 1, before => do
    if ← skipMark ")" then return before.reverse
    if !before.isEmpty then expect (.mark ",")
    if !before.isEmpty && (← skipMark ")") then return before.reverse
    let parameter ← assignedName
    if ← skipMark "=" then
      let default ← expression steps
      parameters steps (⟨parameter, some default⟩ :: before)
    else if before.any (·.default.isSome) then fail
    else parameters steps (⟨parameter, none⟩ :: before)

/-- The names that are taken from another template, each with the name it gets. -/
def broughtNames : Nat → List (String × String) → Reading (List (String × String))
  | 0, _ => fail
  | steps + 1, before => do
    if ← isNext .tagEnd then return before.reverse
    if !before.isEmpty then expect (.mark ",")
    if ← isNext .tagEnd then return before.reverse
    let own ← assignedName
    let given ← if ← skipName "as" then assignedName else pure own
    let context := (← isNext (.name "with")) || (← isNext (.name "without"))
    if context then
      skipContext
      if ← isNext .tagEnd then return ((own, given) :: before).reverse else fail
    else broughtNames steps ((own, given) :: before)

/-- The call that an expression is. -/
def asCall (e : Expression) : Reading (Expression × ArgumentList) := do
  match e with
  | .call callee arguments => return (callee, arguments)
  | _ => fail

/-- Read a part of a template in which blocks cannot stand. -/
def withoutBlocks {α : Type} (part : Reading α) : Reading α := do
  let outer := (← get).inRoutine
  modify fun reader => { reader with inRoutine := true }
  let result ← part
  modify fun reader => { reader with inRoutine := outer }
  return result

/-- The statement writes nothing but blank space. -/
def isBlankData : Statement → Bool
  | .data text => text.toList.all Text.isBlank
  | _ => false

/-- Claim the name of a block, which only one block can have. -/
def claimBlock (block : String) : Reading Unit := do
  let reader ← get
  if reader.inRoutine || reader.blocks.contains block then fail
  set { reader with blocks := block :: reader.blocks }

mutual

/-- The statements up to a tag with one of the given keywords. -/
def statements : Nat → List String → Reading (List Statement)
  | 0, _ => fail
  | steps + 1, ends => do
    match ← next with
    | none => return []
    | some (.data text) =>
      let rest ← statements steps ends
      return .data text :: rest
    | some .outputStart =>
      let value ← expression steps
      expect .outputEnd
      let rest ← statements steps ends
      return .output value :: rest
    | some .tagStart =>
      match ← peek with
      | none => fail
      | some token =>
        if ends.any fun keyword => token = .name keyword then return []
        else
          let statement ← nested (statement steps)
          expect .tagEnd
          let rest ← statements steps ends
          return statement :: rest
    | some _ => fail

/-- The statements of a section, up to its end, which is passed over. -/
def sectionUpTo : Nat → String → Reading (List Statement)
  | 0, _ => fail
  | steps + 1, ending => do
    expect .tagEnd
    let body ← statements steps [ending]
    discard next
    return body

/-- A statement behind the start of its tag. -/
def statement : Nat → Reading Statement
  | 0 => fail
  | steps + 1 => do
    match ← name with
    | "for" => repetition steps
    | "if" => branching steps
    | "with" => scoping steps []
    | "set" => assignment steps
    | "autoescape" =>
      let mode ← expression steps
      return .escaping mode (← sectionUpTo steps "endautoescape")
    | "filter" =>
      let filters ← filterCalls steps []
      return .filtered filters (← sectionUpTo steps "endfilter")
    | "block" => block steps
    | "extends" => return .inherit (← expression steps)
    | "include" => inclusion steps
    | "import" =>
      let template ← expression steps
      expect (.name "as")
      let target ← assignedName
      skipContext
      return .bring template (.name target)
    | "from" =>
      let template ← expression steps
      expect (.name "import")
      return .bringNames template (← broughtNames steps [])
    | "macro" =>
      let routine ← name
      expect (.mark "(")
      let parameters ← parameters steps []
      return .define routine parameters (← withoutBlocks (sectionUpTo steps "endmacro"))
    | "call" =>
      let parameters ← if ← skipMark "(" then parameters steps [] else pure []
      let (callee, arguments) ← asCall (← expression steps)
      return .callWith callee arguments parameters (← withoutBlocks (sectionUpTo steps "endcall"))
    | "do" =>
      let (callee, arguments) ← asCall (← expression steps)
      return .perform callee arguments
    | _ => fail

/-- A repetition. -/
def repetition : Nat → Reading Statement
  | 0 => fail
  | steps + 1 => do
    let target ← targets steps false
    expect (.name "in")
    let source ← either steps
    let condition ← if ← skipName "if" then some <$> expression steps else pure none
    let recursive ← skipName "recursive"
    expect .tagEnd
    let body ← statements steps ["endfor", "else"]
    let otherwise ← if ← skipName "else" then sectionUpTo steps "endfor" else do
      discard next
      pure []
    return .loop target source condition recursive body otherwise

/-- A branch. -/
def branching : Nat → Reading Statement
  | 0 => fail
  | steps + 1 => do
    let condition ← plainExpression steps
    expect .tagEnd
    let yes ← statements steps ["endif", "else", "elif"]
    match ← next with
    | some (.name "else") => return .branch condition yes (← sectionUpTo steps "endif")
    | some (.name "elif") => return .branch condition yes [← branching steps]
    | _ => return .branch condition yes []

/-- Variables of a section, given those before, the last one first, and the section. -/
def scoping : Nat → List (Target × Expression) → Reading Statement
  | 0, _ => fail
  | steps + 1, before => do
    if ← isNext .tagEnd then return .scope before.reverse (← sectionUpTo steps "endwith")
    else
      if !before.isEmpty then expect (.mark ",")
      let target ←
        if ← skipMark "(" then
          let inner ← targets steps false
          expect (.mark ")")
          pure inner
        else pure (.name (← assignedName))
      expect (.mark "=")
      let value ← expression steps
      scoping steps ((target, value) :: before)

/-- The value of an assignment: an expression, or several ones that make up a list. -/
def assignedValue : Nat → Reading Expression
  | 0 => fail
  | steps + 1 => do
    let first ← expression steps
    if ← isNext (.mark ",") then return .list (← assignedItems steps [first]) else return first

/-- The items of an assigned list up to the end of the tag, given those before, the last one
first. -/
def assignedItems : Nat → List Expression → Reading (List Expression)
  | 0, _ => fail
  | steps + 1, before => do
    if ← isNext .tagEnd then return before.reverse
    expect (.mark ",")
    if ← isNext .tagEnd then return before.reverse
    let value ← expression steps
    assignedItems steps (value :: before)

/-- An assignment of a value or of the text of a section. -/
def assignment : Nat → Reading Statement
  | 0 => fail
  | steps + 1 => do
    let grouped ← isNext (.mark "(")
    if endsTargets (← peek) then fail
    let target ← targets steps true
    let single :=
      match target with
      | .list _ => false
      | _ => !grouped
    if single && (← skipMark "|") then
      let filters ← filterCalls steps []
      return .capture target filters (← sectionUpTo steps "endset")
    else if single && (← isNext .tagEnd) then
      return .capture target [] (← sectionUpTo steps "endset")
    else
      expect (.mark "=")
      return .assign target (← assignedValue steps)

/-- A block, whose name may be repeated at its end. A required one is left blank. -/
def block : Nat → Reading Statement
  | 0 => fail
  | steps + 1 => do
    let block ← name
    claimBlock block
    discard (skipName "scoped")
    let required ← skipName "required"
    let body ← sectionUpTo steps "endblock"
    match ← peek with
    | some (.name repeated) =>
      if repeated = block then discard next else fail
    | _ => pure ()
    if required then
      if body.all isBlankData then return .block block [.missing] else fail
    else return .block block body

/-- The inclusion of a template. -/
def inclusion : Nat → Reading Statement
  | 0 => fail
  | steps + 1 => do
    let template ← expression steps
    skipContext
    let optional ← skipName "ignore"
    if optional then
      expect (.name "missing")
      skipContext
    return .insert template optional

end

end Reading

/-- The template that a text is. The reading takes a bounded number of steps for each token. -/
def Compiled.read (source : String) : Except Fault Compiled := do
  let tokens := Template.tokens source
  let steps := 32 * tokens.length + 64
  let (body, _) ← (Reading.statements steps []).run ⟨tokens, 0, [], false⟩
  return ⟨body⟩

/-- A text without delimiters is a template that writes the text. -/
theorem Compiled.read_of_plain {source : String} (plain : findOpening source.toList = none)
    (full : source ≠ "") : Compiled.read source = .ok ⟨[.data source]⟩ := by
  have tokens : Template.tokens source = [.data source] := by
    rw [tokens_of_findOpening_eq_none plain, if_neg]
    simpa using full
  simp only [Compiled.read, tokens]
  rfl

end TemplateCatalog.Template
