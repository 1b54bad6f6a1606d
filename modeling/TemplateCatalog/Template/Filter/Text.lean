import TemplateCatalog.Template.Filter.Format
import TemplateCatalog.Text.Blank
import TemplateCatalog.Text.LetterCase

/-!
# Filters on texts

Filters that make a text of their subject and change it. Most of them keep a safe text safe; what
they put into one is escaped unless it is safe itself.

Main statement: `splitOn_join`, the parts of a text joined by the separator are the text again.
-/

namespace TemplateCatalog.Template.Filter

open Text (isBlank)

/-- ASCII punctuation. -/
def isPunctuation (c : Char) : Bool :=
  33 ≤ c.toNat && c.toNat ≤ 126 && !c.isAlphanum

/-- The characters with the first letter of every word in upper case and all others in lower
case; `start` holds at the start of a word. -/
def titleChars (start : Bool) : List Char → List Char
  | [] => []
  | c :: cs =>
    if isPunctuation c || isBlank c then c :: titleChars true cs
    else (if start then Text.upperChars c else Text.lowerChars c) ++ titleChars false cs

/-- The text with its first letter in upper case and all others in lower case. -/
def capitalize (s : String) : String :=
  match s.toList with
  | [] => ""
  | c :: cs => String.ofList (Text.upperChars c) ++ Text.lower (String.ofList cs)

/-- The parts of a list between occurrences of a separator that is not empty; `part` is the part
under way, its last character first. -/
def splitFrom (separator : List Char) : Nat → List Char → List Char → List (List Char)
  | 0, part, cs => [part.reverse ++ cs]
  | _ + 1, part, [] => [part.reverse]
  | steps + 1, part, c :: cs =>
    if separator.isPrefixOf (c :: cs) then
      part.reverse :: splitFrom separator steps [] ((c :: cs).drop separator.length)
    else splitFrom separator steps (c :: part) cs

/-- The parts of a text between occurrences of a separator, at most `limit` many if there is a
limit. An empty separator stands between any two characters and at both ends. -/
def splitOn (separator s : List Char) : List (List Char) :=
  if separator.isEmpty then [] :: (s.map fun c => [c]) ++ [[]]
  else splitFrom separator (s.length + 1) [] s

/-- The first parts, with all further ones joined to one. -/
def limitParts (separator : List Char) (limit : Option Nat) (parts : List (List Char)) :
    List (List Char) :=
  match limit with
  | none => parts
  | some limit =>
    if parts.length ≤ limit then parts
    else parts.take (limit - 1) ++ [separator.intercalate (parts.drop (limit - 1))]

/-- The words between blank characters. -/
def splitBlank (cs : List Char) : List (List Char) :=
  (cs.splitBy fun a b => isBlank a == isBlank b).filter fun word => !word.all isBlank

/-- The words between blank characters, and after so many of them the rest as one. -/
def splitWords : Nat → List Char → List (List Char)
  | 0, cs =>
    let cs := cs.dropWhile isBlank
    if cs.isEmpty then [] else [cs]
  | limit + 1, cs =>
    match cs.dropWhile isBlank with
    | [] => []
    | c :: cs => (c :: cs.takeWhile (!isBlank ·)) :: splitWords limit (cs.dropWhile (!isBlank ·))

/-- The text with every occurrence of one text replaced by another one. -/
def replace (s old new : List Char) : List Char :=
  new.intercalate (splitOn old s)

/-- The characters without the given ones at either end. -/
def trimChars (p : Char → Bool) (cs : List Char) : List Char :=
  ((cs.dropWhile p).reverse.dropWhile p).reverse

/-- The lines of a text, without their ends. -/
def lines (cs : List Char) : List (List Char) :=
  let parts := splitOn ['\n'] cs
  let parts := if parts.getLast? = some [] then parts.dropLast else parts
  let ended := if cs.getLast? = some '\n' then parts.length else parts.length - 1
  parts.zipIdx.map fun (line, i) =>
    if i < ended && line.getLast? == some '\r' then line.dropLast else line

/-- The text without a line break at its end. -/
def dropLineEnd (cs : List Char) : List Char :=
  let cs := if cs.getLast? = some '\n' then cs.dropLast else cs
  if cs.getLast? = some '\r' then cs.dropLast else cs

/-- The text with its lines indented, the first one and blank ones only if asked for. -/
def indent (width : Nat) (first blank : Bool) (cs : List Char) : List Char :=
  let spaces := List.replicate width ' '
  let lines := (splitOn ['\n'] (dropLineEnd cs)).zipIdx.map fun (line, i) =>
    if i = 0 && !first || line.isEmpty && !blank then line else spaces ++ line
  dropLineEnd ((lines.map (· ++ ['\n'])).flatten)

/-- A text as a value. -/
def textOf (cs : List Char) : Value :=
  .ofString (String.ofList cs)

/-- A filter that changes a text, which stays safe if it is. -/
def onText (change : List Char → List Char) : Taking Value := do
  let (s, safe) ← Taking.markedText
  return .text (String.ofList (change s.toList)) safe

/-- The text of an argument that is put into another text. -/
def inserted (escaping : Escaping) (intoSafe : Bool) (argument : String × Bool) : String :=
  if intoSafe then escaping.write (.text argument.1 argument.2) else argument.1

/-- The subject with one text replaced by another one. -/
def replaced (escaping : Escaping) : Taking Value := do
  let (s, safe) ← Taking.markedText
  let old ← Taking.text
  let new ← Taking.markedText
  let new := inserted escaping safe new
  return .text (String.ofList (replace s.toList old.toList new.toList)) safe

/-- An option of a filter, given by its position or by its name, but not by both. -/
def either {α : Type} (positional named : Option α) : Except Fault (Option α) :=
  match positional, named with
  | some _, some _ => .error .tooManyArguments
  | some option, none => .ok (some option)
  | none, named => .ok named

/-- The width of an indentation that is not given. -/
def defaultIndent : Nat :=
  4

/-- The subject with its lines indented. -/
def indented : Taking Value := do
  let options ← Taking.named
  let (s, safe) ← Taking.markedText
  let width ← Taking.optional Value.asCount
  let first ← Taking.optional Value.asBool
  let blank ← Taking.optional Value.asBool
  Taking.done
  let width ← liftM (either width (← liftM (options.option? "width" Value.asCount)))
  let first ← liftM (either first (← liftM (options.option? "first" Value.asBool)))
  let blank ← liftM (either blank (← liftM (options.option? "blank" Value.asBool)))
  liftM (options.allow ["width", "first", "blank"])
  let change := indent (width.getD defaultIndent) (first.getD false) (blank.getD false)
  return .text (String.ofList (change s.toList)) safe

/-- The parts of the subject between occurrences of a separator or between blanks. -/
def split : Taking Value := do
  let s := (← Taking.converted Value.asText).toList
  let separator ← Taking.optional Value.asText
  let most ← Taking.optional Value.asInt
  let limit := (most.filter (0 ≤ ·)).map fun n => n.toNat + 1
  let parts :=
    match separator, limit with
    | some separator, limit => limitParts separator.toList limit (splitOn separator.toList s)
    | none, none => splitBlank s
    | none, some limit => splitWords (limit - 1) s
  return .ofList (parts.map textOf)

/-- The texts of the items of the subject, one after the other, with a text between them. If one
of them is safe, so is the result, and the others are escaped. -/
def join (escaping : Escaping) : Taking Value := do
  let subject ← Taking.value
  let (joiner, joinerSafe) := (← Taking.optional Value.markedText).getD ("", false)
  Taking.done
  let items ← liftM subject.items
  let safe := escaping ≠ .plain ∧ (joinerSafe || items.any Value.isSafe)
  let shown (value : Value) : String := if safe then escaping.write value else value.toText
  return .text (String.intercalate (shown (.text joiner joinerSafe)) (items.map shown)) safe

/-- The subject escaped for markup. -/
def escape : Taking Value := do
  let subject ← Taking.value
  match subject with
  | .text _ true => return subject
  | subject => return .text (Escaping.markup.write subject) true

/-- The filter on texts under a name. -/
def text? (escaping : Escaping) (name : String) : Option (Taking Value) :=
  match name with
  | "upper" => some (onText fun cs => (Text.upper (String.ofList cs)).toList)
  | "lower" => some (onText fun cs => (Text.lower (String.ofList cs)).toList)
  | "title" => some do return textOf (titleChars true (← Taking.text).toList)
  | "capitalize" => some (onText fun cs => (capitalize (String.ofList cs)).toList)
  | "trim" => some do
    let (s, safe) ← Taking.markedText
    let chars ← Taking.optional Value.shownText
    let p : Char → Bool :=
      match chars with
      | some chars => chars.toList.contains
      | none => isBlank
    return .text (String.ofList (trimChars p s.toList)) safe
  | "replace" => some (replaced escaping)
  | "indent" => some indented
  | "format" => some (format escaping)
  | "lines" => some do
    return .ofList ((lines (← Taking.converted Value.asText).toList).map textOf)
  | "split" => some split
  | "join" => some (join escaping)
  | "safe" => some do return .text (← Taking.text) true
  | "escape" | "e" => some escape
  | "string" => some do
    match ← Taking.value with
    | .text s safe => return .text s safe
    | value => return .ofString value.toText
  | _ => none

/-- A text has at least one part. -/
theorem splitFrom_ne_nil (separator : List Char) (steps : Nat) (part cs : List Char) :
    splitFrom separator steps part cs ≠ [] := by
  induction steps generalizing part cs with
  | zero => simp [splitFrom]
  | succ steps ih =>
    cases cs with
    | nil => simp [splitFrom]
    | cons c cs =>
      simp only [splitFrom]
      split
      · simp
      · exact ih _ _

/-- The parts of a text joined by the separator are the text again. -/
theorem splitOn_join (separator : List Char) (s : List Char) (full : separator ≠ []) :
    separator.intercalate (splitOn separator s) = s := by
  have step (steps : Nat) (part cs : List Char) :
      separator.intercalate (splitFrom separator steps part cs) = part.reverse ++ cs := by
    induction steps generalizing part cs with
    | zero => simp [splitFrom, List.intercalate]
    | succ steps ih =>
      cases cs with
      | nil => simp [splitFrom, List.intercalate]
      | cons c cs =>
        simp only [splitFrom]
        split
        · next here =>
          obtain ⟨rest, eq⟩ := List.isPrefixOf_iff_prefix.1 here
          have more := ih [] ((c :: cs).drop separator.length)
          cases parts : splitFrom separator steps [] ((c :: cs).drop separator.length) with
          | nil => exact absurd parts (splitFrom_ne_nil separator steps [] _)
          | cons first others =>
            rw [parts] at more
            rw [List.intercalate_cons_cons, more, ← eq]
            simp
        · rw [ih]
          simp
  rw [splitOn, if_neg (by simpa using full), step]
  rfl

end TemplateCatalog.Template.Filter
