import TemplateCatalog.CommandLine.Command

/-!
# Help

What the program says about itself and about its commands.
-/

namespace TemplateCatalog.CommandLine

/-- The name of the program. -/
def programName : String :=
  "promptcat"

/-- The version of the program. -/
def programVersion : String :=
  "0.1.0"

/-- The line about the version. -/
def versionLine : String :=
  programName ++ " " ++ programVersion

/-- What a command does. -/
def CommandName.summary : CommandName → String
  | .list => "List catalog items"
  | .describe => "Show one item in detail"
  | .count => "Show per-state counts"
  | .render => "Render an item with arguments"
  | .validate => "Load the tree and report every error and warning"

/-- Terms with their explanations, the explanations one below the other. -/
def explained (terms : List (String × String)) : List String :=
  let width := (terms.map (·.1.length)).foldl max 0
  terms.map fun (term, text) =>
    "  " ++ term ++ String.ofList (List.replicate (width - term.length + 2) ' ') ++ text

/-- The options that are known everywhere. -/
def globalTerms : List (String × String) := [
  ("    --config <CONFIG>", "Configuration file (defaults to ./promptcat.yaml when present)"),
  ("    --log-level <LOG_LEVEL>",
    "Set log level [default: info] [possible values: error, warn, info, debug, trace]"),
  ("    --debug", "Shorthand for --log-level debug"),
  ("-h, --help", "Print help")]

/-- The options of a command alone. -/
def CommandName.terms (name : CommandName) : List (String × String) :=
  let root :=
    ("    --root <ROOT>",
      "Content root (defaults to catalog.content_root from config, then \".\")")
  match name with
  | .list => [
    root,
    ("    --status <STATUS>", "Filter by declared status (draft, stable, deprecated, legacy)"),
    ("    --group <GROUP>", "Filter by registry group"),
    ("    --tag <TAG>", "Filter by tag"),
    ("    --state <STATE>",
      "Filter by runtime state (active, legacy, invalid, disabled, warning)"),
    ("    --json", "Output results as JSON")]
  | .describe => [root, ("    --json", "Output as JSON")]
  | .count => [root, ("    --json", "Output as JSON")]
  | .render => [root, ("    --arg <KEY=VALUE>", "Template argument as key=value (repeatable)")]
  | .validate => [root, ("    --json", "Output the load report as JSON")]

/-- The help about a command. -/
def CommandName.help (name : CommandName) : List String :=
  let operands := name.operands.map fun operand => " " ++ operand
  [name.summary, "",
    "Usage: " ++ programName ++ " " ++ name.word ++ " [OPTIONS]" ++ String.join operands, ""] ++
  (if name.operands.isEmpty then []
    else
      ["Arguments:"] ++ explained (name.operands.map fun operand => (operand, "Item id")) ++
        [""]) ++
  ["Options:"] ++ explained (name.terms ++ globalTerms)

/-- The help about the program. -/
def programHelp : List String :=
  ["Inspect, validate and render template catalogs", "",
    "Usage: " ++ programName ++ " [OPTIONS] <COMMAND>", "", "Commands:"] ++
  explained (CommandName.all.map (fun name => (name.word, name.summary)) ++
    [("help", "Print this message or the help of the given subcommand(s)")]) ++
  ["", "Options:"] ++ explained (globalTerms ++ [("-V, --version", "Print version")])

/-- The lines of the help that was asked for. -/
def helpLines : Option CommandName → List String
  | some name => name.help
  | none => programHelp

end TemplateCatalog.CommandLine
