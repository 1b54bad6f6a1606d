import TemplateCatalog.Catalog.Filter
import TemplateCatalog.CommandLine.Option
import TemplateCatalog.Path

/-!
# Commands

The commands of the program and the reading of a command line. Some options are known everywhere,
before the name of the command and behind it; where one is given in both places, the one behind the
name counts.
-/

namespace TemplateCatalog.CommandLine

/-- What the program is asked to do. -/
inductive Command where
  /-- List the items that a filter admits. -/
  | list (filter : Filter) (json : Bool)
  /-- Show one item in detail. -/
  | describe (id : String) (json : Bool)
  /-- Count the items in every state. -/
  | count (json : Bool)
  /-- Render an item. -/
  | render (id : String) (arguments : List String)
  /-- Report every problem of the content tree. -/
  | validate (json : Bool)
  deriving DecidableEq, Repr

/-- The name of a command. -/
inductive CommandName where
  /-- The command that lists items. -/
  | list
  /-- The command that shows one item. -/
  | describe
  /-- The command that counts items. -/
  | count
  /-- The command that renders an item. -/
  | render
  /-- The command that reports problems. -/
  | validate
  deriving DecidableEq, Repr

/-- A command line that makes sense. -/
structure Invocation where
  /-- What is to be done. -/
  command : Command
  /-- The content root, if one is given. -/
  root : Option Path
  /-- The settings file, if one is given. -/
  config : Option Path
  deriving DecidableEq, Repr

/-- Why a command line is not carried out. -/
inductive Refusal where
  /-- Help was asked for, about a command or about the program. -/
  | help (about : Option CommandName)
  /-- The version was asked for. -/
  | version
  /-- Something is wrong. -/
  | misuse (misuse : Misuse)
  deriving DecidableEq, Repr

namespace CommandName

/-- The commands in the order in which help names them. -/
def all : List CommandName :=
  [.list, .describe, .count, .render, .validate]

/-- The word for the command. -/
def word : CommandName → String
  | .list => "list"
  | .describe => "show"
  | .count => "stats"
  | .render => "render"
  | .validate => "validate"

/-- The command that a word stands for. -/
def ofWord? (word : String) : Option CommandName :=
  all.find? (·.word == word)

/-- The operands that the command needs. -/
def operands : CommandName → List String
  | .describe | .render => ["<ID>"]
  | _ => []

/-- The word of a command stands for the command. -/
theorem ofWord?_word (name : CommandName) : ofWord? name.word = some name := by
  cases name <;> decide

end CommandName

/-- Values that are never empty. -/
def isPathValue (value : String) : Bool :=
  value ≠ ""

/-- The levels of logging. -/
def logLevels : List String :=
  ["error", "warn", "info", "debug", "trace"]

/-- The options that are known everywhere. -/
def globalOptions : List OptionForm := [
  ⟨"config", .single, isPathValue⟩,
  ⟨"log-level", .single, logLevels.contains⟩,
  ⟨"debug", .flag, fun _ => true⟩]

/-- The options of a command, those that are known everywhere included. -/
def CommandName.options (name : CommandName) : List OptionForm :=
  let root : OptionForm := ⟨"root", .single, isPathValue⟩
  let json : OptionForm := ⟨"json", .flag, fun _ => true⟩
  let own :=
    match name with
    | .list => [
      root,
      ⟨"status", .single, fun value => (Item.Status.ofName? value).isSome⟩,
      ⟨"group", .single, fun _ => true⟩,
      ⟨"tag", .single, fun _ => true⟩,
      ⟨"state", .single, fun value => (Item.State.ofName? value).isSome⟩,
      json]
    | .describe | .count | .validate => [root, json]
    | .render => [root, ⟨"arg", .repeated, fun _ => true⟩]
  own ++ globalOptions

/-- The command that options and operands make. -/
def CommandName.command (name : CommandName) (given : Given) : Except Misuse Command :=
  let json := given.has "json"
  match name, given.operands with
  | .list, _ =>
    .ok (.list
      { status := (given.value? "status").bind Item.Status.ofName?
        group := given.value? "group"
        tag := given.value? "tag"
        state := (given.value? "state").bind Item.State.ofName? } json)
  | .count, _ => .ok (.count json)
  | .validate, _ => .ok (.validate json)
  | .describe, [id] => .ok (.describe id json)
  | .render, [id] => .ok (.render id (given.values "arg"))
  | _, _ => .error (.missingOperand "<ID>")

/-- What the reading of words that ended early amounts to. -/
def Stop.refusal (about : Option CommandName) : Stop → Refusal
  | .help => .help about
  | .version => .version
  | .misuse reason => .misuse reason

/-- What a request for help is about. -/
def helpAbout : List String → Refusal
  | [] => .help none
  | [word] =>
    match CommandName.ofWord? word with
    | some name => .help (some name)
    | none => if word = "help" then .help none else .misuse (.unknownCommand word)
  | word :: other :: _ =>
    match CommandName.ofWord? word with
    | some _ => .misuse (.unknownCommand other)
    | none => .misuse (.unknownCommand word)

namespace Invocation

/-- Read the words behind the name of a command, given the options before it. -/
def ofCommandWords (name : CommandName) (before : Given) (words : List String) :
    Except Refusal Invocation := do
  let (given, rest) ←
    (readWords name.options false name.operands.length none .nothing words).mapError
      (·.refusal (some name))
  match rest with
  | extra :: _ => throw (.misuse (.unexpectedOperand extra))
  | [] =>
    let command ← (name.command given).mapError .misuse
    return {
      command
      root := (given.value? "root").map Path.mk
      config := (given.value? "config" <|> before.value? "config").map Path.mk }

/-- Read a command line. -/
def ofWords (words : List String) : Except Refusal Invocation := do
  let (given, rest) ←
    (readWords globalOptions true 0 none .nothing words).mapError (·.refusal none)
  match rest with
  | [] => throw (.misuse .missingCommand)
  | "help" :: words => throw (helpAbout words)
  | word :: words =>
    match CommandName.ofWord? word with
    | some name => ofCommandWords name given words
    | none => throw (.misuse (.unknownCommand word))

end Invocation

end TemplateCatalog.CommandLine
