import TemplateCatalog.CommandLine.Help
import TemplateCatalog.CommandLine.Page
import TemplateCatalog.Settings.File

/-!
# The program

What the program does when it is called: it reads the command line and the settings, loads the
content tree once, and answers from what was published.

Main statements:

* `run_of_refusal`: a command line that makes no sense touches nothing.
-/

namespace TemplateCatalog.CommandLine

/-- What a call of the program leaves behind. -/
structure Outcome where
  /-- The exit status. -/
  status : Nat
  /-- What was printed. -/
  output : String
  /-- What was printed about errors. -/
  errors : String
  deriving DecidableEq, Repr

/-- What the program finds when it is called. -/
structure Host where
  /-- The file system. -/
  fs : FileSystem
  /-- The present moment, as it is printed. -/
  now : String

/-- Why a command fails. -/
inductive CommandFault where
  /-- The settings file that was named is not there. -/
  | missingConfig (path : Path)
  /-- The settings could not be read. -/
  | settings (error : SettingsError)
  /-- The cache of listings could not be built. -/
  | listingCache (error : CacheBuildError)
  /-- The content tree could not be loaded. -/
  | load (root : Path) (fault : CatalogFault)
  /-- There is no such item. -/
  | noItem (id : String)
  /-- A template argument has no equals sign. -/
  | malformedArgument (word : String)
  /-- A template argument is no number. -/
  | notANumber (name value : String)
  /-- A template argument is no truth value. -/
  | notABoolean (name value : String)
  /-- The item was not rendered. -/
  | render (fault : RenderFault)

namespace CommandFault

/-- The message about a failure. -/
def message : CommandFault → String
  | .missingConfig _ | .settings _ => "Failed to load configuration"
  | .listingCache _ => "Failed to build listing cache"
  | .load root _ => "Failed to load catalog from " ++ root.text
  | .noItem id => "Item '" ++ id ++ "' not found in catalog"
  | .malformedArgument word => "Argument '" ++ word ++ "' must have the form key=value"
  | .notANumber name value => "Argument '" ++ name ++ "' expects a number, got '" ++ value ++ "'"
  | .notABoolean name value =>
    "Argument '" ++ name ++ "' expects true or false, got '" ++ value ++ "'"
  | .render fault => fault.message

/-- What led to a failure, the nearest cause first. -/
def causes : CommandFault → List String
  | .missingConfig path => ["Config file not found: " ++ path.text]
  | .settings error => [error.message]
  | .listingCache error => [error.message]
  | .load _ fault => fault.message :: (fault.cause?.map IoError.message).toList
  | .render (.template _ fault) => [fault.text]
  | _ => []

/-- The lines about the causes of a failure; several causes are numbered. -/
def causeLines : List String → List String
  | [] => []
  | [cause] => ["", "Caused by:", "    " ++ cause]
  | causes =>
    ["", "Caused by:"] ++ causes.zipIdx.map fun (cause, i) => "    " ++ toString i ++ ": " ++ cause

/-- The outcome of a failure. -/
def outcome (fault : CommandFault) : Outcome where
  status := 1
  output := ""
  errors := String.join
    ((("Error: " ++ fault.message) :: causeLines fault.causes).map (· ++ "\n"))

end CommandFault

/-- The outcome of printing lines. -/
def printed (lines : List String) : Outcome where
  status := 0
  output := String.join (lines.map (· ++ "\n"))
  errors := ""

/-- The outcome of printing a tree. -/
def printedTree (tree : Json.Tree) : Outcome :=
  printed [tree.pretty 0]

/-- The name of the settings file that is read when no other one is named. -/
def defaultConfig : Path :=
  ⟨"promptcat.yaml"⟩

/-- The settings for a call. A file that is named has to be there. -/
def settingsFor (fs : FileSystem) (config : Option Path) : Except CommandFault Settings :=
  match config with
  | some path =>
    if fs.pathExists path then (Settings.load fs path).mapError .settings
    else .error (.missingConfig path)
  | none => (Settings.load fs defaultConfig).mapError .settings

/-- The content root for a call: the one that is given, or else the one of the settings, or else
the working directory. -/
def rootFor (settings : Settings) (root : Option Path) : Path :=
  root.getD ⟨settings.catalog.contentRoot.getD "."⟩

/-! ### Template arguments -/

/-- The parts of a text before and after its first equals sign. -/
def splitEquals? (word : String) : Option (String × String) :=
  match word.toList.dropWhile (· ≠ '=') with
  | [] => none
  | _ :: value => some (String.ofList (word.toList.takeWhile (· ≠ '=')), String.ofList value)

/-- The value of a given kind that a text spells. -/
def argumentValue (name value : String) : Item.ArgumentKind → Except CommandFault Json.Value
  | .string => .ok (.string value)
  | .number =>
    match Json.parse? value with
    | some (.number n) => .ok (.number n)
    | _ => .error (.notANumber name value)
  | .boolean =>
    if value = "true" then .ok (.bool true)
    else if value = "false" then .ok (.bool false)
    else .error (.notABoolean name value)

/-- A template argument: its name and its value, which is of the kind that the item declares, or
else a text. -/
def templateArgument (arguments : Item.Arguments) (word : String) :
    Except CommandFault (String × Json.Value) :=
  match splitEquals? word with
  | none => .error (.malformedArgument word)
  | some (name, value) =>
    let kind := ((Fields.find? name arguments).map Item.Argument.kind).getD .string
    (argumentValue name value kind).map (name, ·)

/-- The template arguments that words spell; of two arguments of one name the later one counts. -/
def templateArguments (arguments : Item.Arguments) (words : List String) :
    Except CommandFault (Fields Json.Value) := do
  return Fields.ofPairs (← words.mapM (templateArgument arguments))

/-! ### Commands -/

/-- The item with the given id. -/
def findItem (id : String) (generation : Generation) : Except CommandFault CatalogItem :=
  match generation.find? id with
  | some item => .ok item
  | none => .error (.noItem id)

/-- The text with a line break at its end. -/
def endLine (text : String) : String :=
  if text.toList.getLast? = some '\n' then text else text ++ "\n"

/-- Carry out a command on a loaded catalog. -/
def Command.carryOut (command : Command) (now : String) (root : Path) (report : LoadReport)
    (service : Service) : Except CommandFault Outcome := do
  let generation := service.published
  match command with
  | .list filter json =>
    let profiles := generation.list filter
    return if json then printedTree (.list (profiles.map Item.Profile.tree))
      else printed (listPage profiles)
  | .describe id json =>
    let item ← findItem id generation
    return if json then printedTree item.tree else printed (itemPage item)
  | .count json =>
    return if json then printedTree (countTree now generation.census service.listings.statistics)
      else printed (countPage generation.census)
  | .render id words =>
    let item ← findItem id generation
    let arguments ← templateArguments item.definition.arguments words
    let text ← (generation.render id arguments).mapError .render
    return { status := 0, output := endLine text, errors := "" }
  | .validate json =>
    let page :=
      if json then printedTree (.record report.fields) else printed (reportPage root report)
    return { page with status := if report.hasErrors then 1 else 0 }

/-- Carry out a command line that makes sense. -/
def Invocation.carryOut (invocation : Invocation) (host : Host) :
    Except CommandFault Outcome := do
  let settings ← settingsFor host.fs invocation.config
  let root := rootFor settings invocation.root
  let service ← (Service.ofSettings settings true).mapError .listingCache
  match service.load host.fs root with
  | (.error fault, _) => throw (.load root fault)
  | (.ok report, service) => invocation.command.carryOut host.now root report service

/-- The outcome of a command line that is not carried out. -/
def Refusal.outcome : Refusal → Outcome
  | .help about => printed (helpLines about)
  | .version => printed [versionLine]
  | .misuse reason =>
    { status := 2
      output := ""
      errors := "error: " ++ reason.message ++ "\n\nFor more information, try '--help'.\n" }

/-- Carry out a command line. -/
def run (host : Host) (words : List String) : Outcome :=
  match Invocation.ofWords words with
  | .error refusal => refusal.outcome
  | .ok invocation =>
    match invocation.carryOut host with
    | .ok outcome => outcome
    | .error fault => fault.outcome

/-- What a command line that makes no sense leads to does not depend on what the program finds. -/
theorem run_of_refusal {words : List String} {refusal : Refusal}
    (refused : Invocation.ofWords words = .error refusal) (host : Host) :
    run host words = refusal.outcome := by
  simp [run, refused]

end TemplateCatalog.CommandLine
