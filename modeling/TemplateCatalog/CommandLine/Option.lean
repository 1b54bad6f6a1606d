/-!
# Command line options

How the words of a command line are told apart: options begin with two dashes and may carry a value,
behind an equals sign or in the next word; the other words are operands. Behind two dashes alone
there are only operands.

Main statements:

* `readWords_of_plain`: words that look like no options are operands.
-/

namespace TemplateCatalog.CommandLine

/-- How an option is given. -/
inductive OptionKind where
  /-- At most once and without a value. -/
  | flag
  /-- At most once and with a value. -/
  | single
  /-- Any number of times, each time with a value. -/
  | repeated
  deriving DecidableEq, Repr

/-- An option that a command knows. -/
structure OptionForm where
  /-- The name of the option, without the dashes. -/
  name : String
  /-- How the option is given. -/
  kind : OptionKind
  /-- The values that the option takes. -/
  admits : String → Bool

/-- What is wrong with a command line. -/
inductive Misuse where
  /-- No option has the name. -/
  | unknownOption (word : String)
  /-- The option lacks its value. -/
  | missingValue (name : String)
  /-- The option takes no value. -/
  | unwantedValue (name : String)
  /-- The option takes other values. -/
  | badValue (name value : String)
  /-- The option may be given only once. -/
  | repeatedOption (name : String)
  /-- There are too many operands. -/
  | unexpectedOperand (word : String)
  /-- An operand is missing. -/
  | missingOperand (name : String)
  /-- There is no command. -/
  | missingCommand
  /-- No command has the name. -/
  | unknownCommand (name : String)
  deriving DecidableEq, Repr

/-- What is wrong with a command line, in words. -/
def Misuse.message : Misuse → String
  | .unknownOption word => "unexpected argument '" ++ word ++ "' found"
  | .missingValue name => "a value is required for '--" ++ name ++ "' but none was supplied"
  | .unwantedValue name => "unexpected value for '--" ++ name ++ "' found; no more were expected"
  | .badValue name value => "invalid value '" ++ value ++ "' for '--" ++ name ++ "'"
  | .repeatedOption name => "the argument '--" ++ name ++ "' cannot be used multiple times"
  | .unexpectedOperand word => "unexpected argument '" ++ word ++ "' found"
  | .missingOperand name => "the following required arguments were not provided:\n  " ++ name
  | .missingCommand => "a command is required"
  | .unknownCommand name => "unrecognized subcommand '" ++ name ++ "'"

/-- Why the reading of a command line ends early. -/
inductive Stop where
  /-- Help was asked for. -/
  | help
  /-- The version was asked for. -/
  | version
  /-- Something is wrong. -/
  | misuse (misuse : Misuse)
  deriving DecidableEq, Repr

/-- Options and operands that were read. -/
structure Given where
  /-- The options with their values, in order. -/
  options : List (String × String)
  /-- The operands, in order. -/
  operands : List String
  deriving DecidableEq, Repr

namespace Given

/-- Nothing. -/
def nothing : Given :=
  ⟨[], []⟩

/-- The value of an option. -/
def value? (name : String) (given : Given) : Option String :=
  given.options.lookup name

/-- The option was given. -/
def has (name : String) (given : Given) : Bool :=
  (given.value? name).isSome

/-- All values of an option. -/
def values (name : String) (given : Given) : List String :=
  (given.options.filter (·.1 == name)).map Prod.snd

/-- Add an option with its value. -/
def addOption (form : OptionForm) (value : String) (given : Given) : Except Stop Given :=
  if form.kind ≠ .repeated ∧ given.has form.name then
    .error (.misuse (.repeatedOption form.name))
  else if !form.admits value then .error (.misuse (.badValue form.name value))
  else .ok { given with options := given.options ++ [(form.name, value)] }

end Given

/-- The word looks like an option. -/
def isDashed (word : String) : Bool :=
  match word.toList with
  | '-' :: _ :: _ => true
  | _ => false

/-- The name of a long option and the value behind an equals sign. -/
def longOption? (word : String) : Option (String × Option String) :=
  match word.toList with
  | '-' :: '-' :: cs =>
    let name := String.ofList (cs.takeWhile (· ≠ '='))
    match cs.dropWhile (· ≠ '=') with
    | [] => some (name, none)
    | _ :: value => some (name, some (String.ofList value))
  | _ => none

/-- The options that show something about the program itself: help everywhere, and the version
where it is versioned. -/
def aboutProgram? (versioned : Bool) (name : String) : Option Stop :=
  if name = "help" then some .help
  else if versioned ∧ name = "version" then some .version
  else none

/-- The option that a word names, and its value if the word holds it. -/
def optionOf (forms : List OptionForm) (versioned : Bool) (word : String) :
    Except Stop (OptionForm × Option String) :=
  match longOption? word with
  | some (name, value) =>
    match aboutProgram? versioned name, value with
    | some stop, none => .error stop
    | some _, some _ => .error (.misuse (.unwantedValue name))
    | none, value =>
      match forms.find? (·.name == name) with
      | some form => .ok (form, value)
      | none => .error (.misuse (.unknownOption word))
  | none =>
    match word.toList with
    | _ :: 'h' :: _ => .error .help
    | _ :: 'V' :: _ => .error (if versioned then .version else .misuse (.unknownOption word))
    | _ => .error (.misuse (.unknownOption word))

/-- Read words up to the first operand beyond a number of operands, and give back the words from
there on. An option that waits for its value takes the next word, unless that looks like an
option. -/
def readWords (forms : List OptionForm) (versioned : Bool) (limit : Nat) :
    Option OptionForm → Given → List String → Except Stop (Given × List String)
  | none, given, [] => .ok (given, [])
  | some form, _, [] => .error (.misuse (.missingValue form.name))
  | some form, given, word :: words =>
    if isDashed word then .error (.misuse (.missingValue form.name))
    else do readWords forms versioned limit none (← given.addOption form word) words
  | none, given, word :: words =>
    if word = "--" then
      let operands := given.operands ++ words
      match operands.drop limit with
      | [] => .ok ({ given with operands }, [])
      | extra :: _ => .error (.misuse (.unexpectedOperand extra))
    else if isDashed word then do
      let (form, value) ← optionOf forms versioned word
      match form.kind, value with
      | .flag, some _ => .error (.misuse (.unwantedValue form.name))
      | .flag, none => readWords forms versioned limit none (← given.addOption form "") words
      | _, some value => readWords forms versioned limit none (← given.addOption form value) words
      | _, none => readWords forms versioned limit (some form) given words
    else if given.operands.length < limit then
      readWords forms versioned limit none { given with operands := given.operands ++ [word] } words
    else .ok (given, word :: words)

/-- Words that look like no options are operands, as far as there is room for them. -/
theorem readWords_of_plain (forms : List OptionForm) (versioned : Bool) (limit : Nat)
    (given : Given) {words : List String}
    (plain : ∀ word ∈ words, word ≠ "--" ∧ isDashed word = false)
    (room : given.operands.length + words.length ≤ limit) :
    readWords forms versioned limit none given words =
      .ok ({ given with operands := given.operands ++ words }, []) := by
  induction words generalizing given with
  | nil => simp [readWords]
  | cons word words ih =>
    obtain ⟨notDashes, notDashed⟩ := plain word (by simp)
    have fits : given.operands.length < limit := by simp at room; omega
    rw [readWords, if_neg notDashes, notDashed, if_neg Bool.false_ne_true, if_pos fits,
      ih _ (fun other member => plain other (by simp [member])) (by simp at room ⊢; omega)]
    simp

end TemplateCatalog.CommandLine
