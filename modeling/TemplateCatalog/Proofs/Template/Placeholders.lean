import Mathlib.Data.List.Basic
import TemplateCatalog.Template.Execution
import TemplateCatalog.Template.Reader.Statement

/-!
# Templates of texts and placeholders

A template that is nothing but texts and placeholders for arguments. It is read as one statement for
each placeholder and one for each stretch of text between them.

The module introduces:

* `Piece`: a text or a placeholder, and `sourceOf`, the template that pieces make up;
* `Piece.IsSimple`: a text opens nothing, and a placeholder has the name of a variable;
* `merged`: the pieces with neighbouring texts put together and empty ones left out;
* `Piece.filled`: what is written in the place of a piece.

Main statements:

* `tokens_sourceOf`: the tokens of such a template.
* `Reading.statements_pieces`: the statements that are read from them.
* `Compiled.read_sourceOf`: such a template can always be compiled.
* `join_merged`: merging the pieces does not change what is written.
-/

namespace TemplateCatalog.Template

/-- A part of a template. -/
inductive Piece where
  /-- A text that stands for itself. -/
  | literal (text : String)
  /-- The place of an argument. -/
  | placeholder (name : String)

/-- The name starts with a letter or an underscore, and goes on with letters, digits and
underscores. -/
def IsIdentifier (name : String) : Prop :=
  ∃ c cs, name.toList = c :: cs ∧ (c = '_' ∨ c.isAlpha = true) ∧
    ∀ d ∈ cs, d = '_' ∨ d.isAlphanum = true

instance (name : String) : Decidable (IsIdentifier name) :=
  match hchars : name.toList with
  | [] => .isFalse fun ⟨_, _, hname, _⟩ => List.cons_ne_nil _ _ (hname.symm.trans hchars)
  | c :: cs =>
    -- Only the characters of the name are tried.
    haveI : Decidable (∀ d ∈ cs, d = '_' ∨ d.isAlphanum = true) := List.decidableBAll _ cs
    decidable_of_iff
      ((c = '_' ∨ c.isAlpha = true) ∧ ∀ d ∈ cs, d = '_' ∨ d.isAlphanum = true)
      ⟨fun h => ⟨c, cs, hchars, h⟩, fun ⟨_, _, hname, h⟩ => by
        obtain ⟨rfl, rfl⟩ := List.cons.inj (hname.symm.trans hchars)
        exact h⟩

/-- The names that mean something else than a variable where an expression starts. -/
def expressionKeywords : List String :=
  ["not", "true", "True", "false", "False", "none", "None"]

namespace Piece

/-- The piece as it is written in a template. -/
def source : Piece → List Char
  | .literal text => text.toList
  | .placeholder name => '\x7b' :: '\x7b' :: ' ' :: name.toList ++ [' ', '\x7d', '\x7d']

/-- Nothing is opened in the text, and the placeholder has the name of a variable. -/
def IsSimple : Piece → Prop
  | .literal text => '\x7b' ∉ text.toList
  | .placeholder name => IsIdentifier name ∧ name ∉ expressionKeywords

instance (piece : Piece) : Decidable piece.IsSimple :=
  match piece with
  | .literal text => inferInstanceAs (Decidable ('\x7b' ∉ text.toList))
  | .placeholder name =>
    inferInstanceAs (Decidable (IsIdentifier name ∧ name ∉ expressionKeywords))

/-- The tokens of the piece. -/
def tokens : Piece → List Token
  | .literal text => [.data text]
  | .placeholder name => [.outputStart, .name name, .outputEnd]

/-- The statement that the piece is. -/
def statement : Piece → Statement
  | .literal text => .data text
  | .placeholder name => .output (.name name)

/-- What is written for the piece, given what is written for each name. -/
def filled (shown : String → String) : Piece → String
  | .literal text => text
  | .placeholder name => shown name

end Piece

/-- The characters of a template that is made up of pieces. -/
def sourceChars (pieces : List Piece) : List Char :=
  pieces.flatMap Piece.source

/-- The template that is made up of pieces. -/
def sourceOf (pieces : List Piece) : String :=
  String.ofList (sourceChars pieces)

/-- A text as a piece, unless it is empty. -/
def textPiece (lead : List Char) : List Piece :=
  if lead.isEmpty then [] else [.literal (String.ofList lead)]

/-- Pieces behind a text, with neighbouring texts put together and empty ones left out. -/
def merged (lead : List Char) : List Piece → List Piece
  | [] => textPiece lead
  | .literal text :: rest => merged (lead ++ text.toList) rest
  | .placeholder name :: rest => textPiece lead ++ .placeholder name :: merged [] rest

/-! ### Tokens -/

/-- The first delimiter does not stand in a text that opens nothing. -/
theorem findOpening_append {lead : List Char} (hlead : '\x7b' ∉ lead) (rest : List Char) :
    findOpening (lead ++ rest) =
      (findOpening rest).map fun found => (lead ++ found.1, found.2) := by
  induction lead with
  | nil => simp
  | cons c cs ih =>
    rw [List.mem_cons, not_or] at hlead
    rw [List.cons_append, findOpening, ih hlead.2, Option.map_map]
    · rfl
    all_goals exact fun _ hc => absurd hc.symm (by simpa using hlead.1)

theorem dataTokens_eq (lead : List Char) :
    dataTokens lead = (textPiece lead).flatMap Piece.tokens := by
  unfold dataTokens textPiece
  split <;> rfl

/-- A character that starts a name is none that does not. -/
theorem ne_of_startsName {c d : Char} (hc : startsName c = true) (hd : startsName d = false) :
    c ≠ d := by
  rintro rfl
  rw [hc] at hd
  cases hd

/-- A character that starts a name starts nothing else. -/
theorem scanWord_of_startsName {c : Char} (hc : startsName c = true) (rest : List Char) :
    scanWord false c rest =
      (.name (String.ofList (c :: rest.takeWhile inName)), rest.dropWhile inName) := by
  -- The tests that come before the one for names fail, one after the other.
  have hne : ∀ d, startsName d = false → c ≠ d := fun _ => ne_of_startsName hc
  have hdouble : doubleMarks.contains (String.ofList (c :: rest.take 1)) = false := by
    rw [List.contains_eq_mem, decide_eq_false_iff_not]
    intro hmark
    simp only [doubleMarks, List.mem_cons, List.not_mem_nil, or_false] at hmark
    rcases hmark with hmark | hmark | hmark | hmark | hmark | hmark <;>
    · have hchars := congrArg String.toList hmark
      rw [String.toList_ofList] at hchars
      exact hne _ (by decide) (List.cons.inj hchars).1
  have hsingle : singleMarks.contains c = false := by
    have hmarks : singleMarks.all (fun d => !startsName d) = true := by decide
    rw [List.contains_eq_mem, decide_eq_false_iff_not]
    exact fun hmark => hne c (by simpa using List.all_eq_true.mp hmarks c hmark) rfl
  have hquote : (c == '"' || c.toNat == 0x27) = false := by
    rw [Bool.or_eq_false_iff, beq_eq_false_iff_ne, beq_eq_false_iff_ne]
    refine ⟨hne _ (by decide), fun happos => hne (Char.ofNat 0x27) (by decide) ?_⟩
    rw [← happos, Char.ofNat_toNat]
  have hdigit : c.isDigit = false := by
    rw [Bool.eq_false_iff]
    intro hdigit
    have hc : (c == '_' || (decide (c.val ≥ 'A'.val ∧ c.val ≤ 'Z'.val) ||
        c.val ≥ 'a'.val && c.val ≤ 'z'.val)) = true := hc
    have hdigit : (c.val ≥ '0'.val && c.val ≤ '9'.val) = true := hdigit
    simp only [Bool.or_eq_true, Bool.and_eq_true, beq_iff_eq, decide_eq_true_eq,
      UInt32.le_iff_toNat_le, ge_iff_le] at hc hdigit
    rcases hc with rfl | hc
    · exact absurd hdigit (by decide)
    · have hupper : 'A'.val.toNat = 65 := rfl
      have hlower : 'a'.val.toNat = 97 := rfl
      have hnine : '9'.val.toNat = 57 := rfl
      omega
  simp only [scanWord, hdouble, hsingle, hquote, hdigit, hc, Bool.false_eq_true, if_false, if_true]

/-- A character that starts a name does not close anything. -/
theorem closing?_of_startsName {c : Char} (hc : startsName c = true) (rest : List Char) :
    closing? false (c :: rest) = none := by
  have hsign : dropSign (c :: rest) = c :: rest := by
    rw [dropSign]
    · exact fun _ h => ne_of_startsName hc (d := '-') (by decide) (List.cons.inj h).1
    · exact fun _ h => ne_of_startsName hc (d := '+') (by decide) (List.cons.inj h).1
  have hmark : c ≠ '\x7d' := ne_of_startsName hc (by decide)
  cases rest with
  | nil => simp [closing?, hsign]
  | cons d ds => simp [closing?, hsign, hmark]

/-- The name in a placeholder. -/
theorem tokensFrom_identifier {name : String} (hname : IsIdentifier name) (rest : List Char)
    (steps : Nat) :
    tokensFrom (steps + 1) (.inside false 0 false) (' ' :: (name.toList ++ ' ' :: rest)) =
      .name name :: tokensFrom steps (.inside false 0 false) (' ' :: rest) := by
  obtain ⟨c, cs, hchars, hfirst, hrest⟩ := hname
  have hc : startsName c = true := by
    rcases hfirst with rfl | hfirst
    · decide
    · simp [startsName, hfirst]
  have hcs : ∀ d ∈ cs, inName d = true := fun d hd => by
    rcases hrest d hd with rfl | hd
    · decide
    · simp [inName, hd]
  have hspace : isTagSpace c = false := by
    have hspaces : ∀ d, isTagSpace d = true → startsName d = false := by
      intro d hd
      simp only [isTagSpace, Bool.or_eq_true, beq_iff_eq] at hd
      rcases hd with (((rfl | rfl) | rfl) | rfl) | rfl <;> decide
    rw [Bool.eq_false_iff]
    exact fun hblank => by simp [hspaces c hblank] at hc
  -- The blank in front is dropped, and the name goes up to the blank behind it.
  have hdrop : (' ' :: (c :: cs ++ ' ' :: rest)).dropWhile isTagSpace =
      c :: (cs ++ ' ' :: rest) := by
    rw [List.dropWhile_cons_of_pos (by decide), List.cons_append,
      List.dropWhile_cons_of_neg (by simp [hspace])]
  have htake : (cs ++ ' ' :: rest).takeWhile inName = cs := by
    rw [List.takeWhile_append_of_pos hcs, List.takeWhile_cons_of_neg (by decide), List.append_nil]
  have hleft : (cs ++ ' ' :: rest).dropWhile inName = ' ' :: rest := by
    rw [List.dropWhile_append_of_pos hcs, List.dropWhile_cons_of_neg (by decide)]
  have hword : scanWord false c (cs ++ ' ' :: rest) = (.name name, ' ' :: rest) := by
    rw [scanWord_of_startsName hc, htake, hleft, ← hchars, String.ofList_toList]
  have hne : ∀ d, startsName d = false → c ≠ d := fun _ => ne_of_startsName hc
  have hbracket : bracketChange c = 0 := by
    simp [bracketChange, hne '(' (by decide), hne ')' (by decide), hne '[' (by decide),
      hne ']' (by decide), hne '\x7b' (by decide), hne '\x7d' (by decide)]
  rw [hchars, tokensFrom, hdrop]
  simp only [closing?_of_startsName hc, hword, hbracket, if_true]
  rfl

/-- The end of a placeholder. -/
theorem tokensFrom_closing (rest : List Char) (steps : Nat) :
    tokensFrom (steps + 1) (.inside false 0 false) (' ' :: '\x7d' :: '\x7d' :: rest) =
      .outputEnd :: tokensFrom steps (.outside false) rest := by
  rfl

/-- The tokens of pieces behind a text are those of the merged pieces. -/
theorem tokensFrom_pieces {pieces : List Piece} (hsimple : ∀ piece ∈ pieces, piece.IsSimple)
    {lead : List Char} (hlead : '\x7b' ∉ lead) {steps : Nat}
    (hsteps : (lead ++ sourceChars pieces).length < steps) :
    tokensFrom steps (.outside false) (lead ++ sourceChars pieces) =
      (merged lead pieces).flatMap Piece.tokens := by
  -- The text that has been passed but is not yet a token is carried along in front of the pieces.
  induction pieces generalizing lead steps with
  | nil =>
    obtain ⟨more, rfl⟩ : ∃ more, steps = more + 1 := ⟨steps - 1, by omega⟩
    have hnone : findOpening (lead ++ sourceChars []) = none := by
      rw [findOpening_append hlead]
      rfl
    rw [tokensFrom]
    simp only [Bool.false_eq_true, if_false, hnone]
    rw [show sourceChars [] = [] from rfl, List.append_nil, dataTokens_eq]
    rfl
  | cons piece rest ih =>
    rw [List.forall_mem_cons] at hsimple
    cases piece with
    | literal text =>
      have hchars : lead ++ sourceChars (.literal text :: rest) =
          (lead ++ text.toList) ++ sourceChars rest := by
        rw [List.append_assoc]
        rfl
      rw [hchars] at hsteps ⊢
      exact ih hsimple.2 (fun hmem => (List.mem_append.mp hmem).elim hlead hsimple.1) hsteps
    | placeholder name =>
      have hchars : sourceChars (.placeholder name :: rest) = '\x7b' :: '\x7b' ::
          ' ' :: (name.toList ++ ' ' :: '\x7d' :: '\x7d' :: sourceChars rest) := by
        simp [sourceChars, Piece.source]
      rw [hchars] at hsteps ⊢
      simp only [List.length_append, List.length_cons] at hsteps
      -- One step each for the opening delimiter, the name and the closing delimiter.
      obtain ⟨more, rfl⟩ : ∃ more, steps = more + 3 := ⟨steps - 3, by omega⟩
      have hopening := findOpening_append hlead
        ('\x7b' :: '\x7b' :: ' ' :: (name.toList ++ ' ' :: '\x7d' :: '\x7d' :: sourceChars rest))
      have hrest : tokensFrom more (.outside false) (sourceChars rest) =
          (merged [] rest).flatMap Piece.tokens :=
        ih hsimple.2 List.not_mem_nil (by rw [List.nil_append]; omega)
      rw [tokensFrom]
      simp only [Bool.false_eq_true, if_false, hopening, findOpening, Option.map_some,
        List.append_nil, List.head?_cons]
      rw [merged, List.flatMap_append, ← dataTokens_eq]
      refine congrArg₂ (· ++ ·) rfl (congrArg (Token.outputStart :: ·) ?_)
      show tokensFrom (more + 1 + 1) _ (' ' :: _) = _
      rw [tokensFrom_identifier hsimple.1.1, tokensFrom_closing, hrest]
      rfl

/-! ### Merged pieces -/

/-- Merging pieces moves no placeholder. -/
theorem placeholder_mem_merged {name : String} {lead : List Char} {pieces : List Piece} :
    .placeholder name ∈ merged lead pieces ↔ .placeholder name ∈ pieces := by
  have htext : ∀ lead, Piece.placeholder name ∉ textPiece lead := by
    intro lead hmem
    unfold textPiece at hmem
    split at hmem <;> simp at hmem
  fun_induction merged lead pieces with
  | case1 lead => simp [htext lead]
  | case2 lead text rest ih => simp [ih]
  | case3 lead other rest ih => simp [htext lead, ih]

/-- Merged pieces open nothing that the pieces did not open. -/
theorem isSimple_of_mem_merged {pieces : List Piece} (hsimple : ∀ piece ∈ pieces, piece.IsSimple)
    {lead : List Char} (hlead : '\x7b' ∉ lead) : ∀ piece ∈ merged lead pieces, piece.IsSimple := by
  have htext : ∀ lead : List Char, '\x7b' ∉ lead → ∀ piece ∈ textPiece lead, piece.IsSimple := by
    intro lead hlead piece hmem
    unfold textPiece at hmem
    split at hmem
    · cases hmem
    · rw [List.mem_singleton.mp hmem, Piece.IsSimple, String.toList_ofList]
      exact hlead
  fun_induction merged lead pieces with
  | case1 lead => exact htext lead hlead
  | case2 lead text rest ih =>
    rw [List.forall_mem_cons] at hsimple
    exact ih hsimple.2 fun hmem => (List.mem_append.mp hmem).elim hlead hsimple.1
  | case3 lead name rest ih =>
    rw [List.forall_mem_cons] at hsimple
    rw [List.forall_mem_append, List.forall_mem_cons]
    exact ⟨htext lead hlead, hsimple.1, ih hsimple.2 List.not_mem_nil⟩

/-- Merging pieces does not change what is written. -/
theorem join_merged (shown : String → String) (lead : List Char) (pieces : List Piece) :
    String.join ((merged lead pieces).map (Piece.filled shown)) =
      String.ofList lead ++ String.join (pieces.map (Piece.filled shown)) := by
  have htext : ∀ lead,
      String.join ((textPiece lead).map (Piece.filled shown)) = String.ofList lead := by
    intro lead
    unfold textPiece
    split
    · next hempty => rw [List.isEmpty_iff.mp hempty]; rfl
    · rw [List.map_singleton, String.join_cons]
      exact String.append_empty
  fun_induction merged lead pieces with
  | case1 lead =>
    rw [htext]
    exact String.append_empty.symm
  | case2 lead text rest ih =>
    rw [ih, String.ofList_append, String.ofList_toList, List.map_cons, String.join_cons,
      String.append_assoc]
    rfl
  | case3 lead name rest ih =>
    rw [List.map_append, String.join_append, htext, List.map_cons, String.join_cons, ih,
      List.map_cons, String.join_cons]
    rfl

/-- The tokens of a template of texts and placeholders. -/
theorem tokens_sourceOf {pieces : List Piece} (hsimple : ∀ piece ∈ pieces, piece.IsSimple) :
    tokens (sourceOf pieces) = (merged [] pieces).flatMap Piece.tokens := by
  rw [tokens, sourceOf, String.toList_ofList]
  exact tokensFrom_pieces hsimple List.not_mem_nil (Nat.lt_succ_self _)

/-! ### Expressions in front of the end of an output -/

namespace Reading

variable {α β : Type} {reader after : TokenReader} {e : Expression}

/-- What is read after a part that can be read. -/
theorem bind_of_eq_ok {part : Reading α} {result : α} (hread : part reader = .ok (result, after))
    (next : α → Reading β) : (part >>= next) reader = next result after := by
  show (part reader).bind (fun read => next read.1 read.2) = _
  rw [hread]
  rfl

/-- The reader stands before the end of an output. -/
def AtOutputEnd (reader : TokenReader) : Prop :=
  reader.tokens.head? = some .outputEnd

theorem AtOutputEnd.peek (hend : AtOutputEnd reader) :
    peek reader = .ok (some .outputEnd, reader) := by
  obtain ⟨tokens, depth, blocks, inRoutine⟩ := reader
  obtain ⟨rest, rfl⟩ := List.head?_eq_some_iff.mp hend
  rfl

theorem AtOutputEnd.skip (hend : AtOutputEnd reader) {token : Token} (hother : token ≠ .outputEnd) :
    skip token reader = .ok (false, reader) := by
  rw [Reading.skip, bind_of_eq_ok hend.peek, if_neg fun h => hother (Option.some.inj h).symm]
  rfl

theorem AtOutputEnd.skipName (hend : AtOutputEnd reader) (keyword : String) :
    skipName keyword reader = .ok (false, reader) :=
  hend.skip nofun

/-- Nothing is joined to an operand in front of the end of an output. -/
theorem chain_of_atOutputEnd {operator? : Token → Option (Expression → Expression → Expression)}
    {operand : Reading Expression} {steps : Nat} (hread : operand reader = .ok (e, after))
    (hend : AtOutputEnd after) (hnone : operator? .outputEnd = none) :
    chain operator? operand (steps + 1) reader = .ok (e, after) := by
  rw [chain, bind_of_eq_ok hread, chainFrom, bind_of_eq_ok hend.peek, Option.bind_some, hnone]
  rfl

theorem choices_of_atOutputEnd (hend : AtOutputEnd reader) (steps : Nat) (e : Expression) :
    choices (steps + 1) e reader = .ok (e, reader) := by
  rw [choices, bind_of_eq_ok (hend.skipName "if")]
  rfl

theorem comparisons_of_atOutputEnd (hend : AtOutputEnd reader) (steps : Nat) :
    comparisons (steps + 1) reader = .ok ([], reader) := by
  rw [comparisons, bind_of_eq_ok hend.peek]
  rfl

theorem filters_of_atOutputEnd (hend : AtOutputEnd reader) (steps : Nat) (e : Expression) :
    filters (steps + 1) e reader = .ok (e, reader) := by
  rw [filters, bind_of_eq_ok hend.peek]
  rfl

theorem postfixes_of_atOutputEnd (hend : AtOutputEnd reader) (steps : Nat) (e : Expression) :
    postfixes (steps + 1) e reader = .ok (e, reader) := by
  rw [postfixes, bind_of_eq_ok hend.peek]
  rfl

/-! ### Placeholders -/

variable {name : String} {rest : List Token} {depth : Nat} {blocks : List String}
  {inRoutine : Bool}

/-- Reading a nested part leaves the depth as it was. -/
theorem nested_of_eq_ok {part : Reading α} {result : α} {tokens left : List Token} {inner : Nat}
    {claimed : List String} {later : Bool} (hdepth : depth < depthLimit)
    (hread : part ⟨tokens, depth + 1, blocks, inRoutine⟩ =
      .ok (result, ⟨left, inner, claimed, later⟩)) :
    nested part ⟨tokens, depth, blocks, inRoutine⟩ =
      .ok (result, ⟨left, depth, claimed, later⟩) := by
  rw [nested, if_neg (Nat.not_le_of_lt hdepth), hread]
  rfl

/-- A name that is no keyword is no constant. -/
theorem constant?_of_notMem (hname : name ∉ expressionKeywords) : constant? name = none := by
  simp only [expressionKeywords, List.mem_cons, List.not_mem_nil, or_false, not_or] at hname
  simp [constant?, hname]

theorem primary_name (hname : name ∉ expressionKeywords) (steps : Nat) :
    primary (steps + 1) ⟨.name name :: rest, depth, blocks, inRoutine⟩ =
      .ok (.name name, ⟨rest, depth, blocks, inRoutine⟩) := by
  have hnext : next ⟨.name name :: rest, depth, blocks, inRoutine⟩ =
    .ok (some (.name name), ⟨rest, depth, blocks, inRoutine⟩) := rfl
  rw [primary, bind_of_eq_ok hnext]
  simp only [constant?_of_notMem hname]
  rfl

/-- A variable at the start of an output, in front of the end of the output. -/
theorem unary_name (hname : name ∉ expressionKeywords) (hdepth : depth < depthLimit) (steps : Nat) :
    unary (steps + 3) ⟨.name name :: .outputEnd :: rest, depth, blocks, inRoutine⟩ =
      .ok (.name name, ⟨.outputEnd :: rest, depth, blocks, inRoutine⟩) := by
  have hsign : skipMark "-" ⟨.name name :: .outputEnd :: rest, depth, blocks, inRoutine⟩ =
      .ok (false, ⟨.name name :: .outputEnd :: rest, depth, blocks, inRoutine⟩) := rfl
  have hsigned : signed (steps + 2) ⟨.name name :: .outputEnd :: rest, depth, blocks, inRoutine⟩ =
      .ok (.name name, ⟨.outputEnd :: rest, depth, blocks, inRoutine⟩) := by
    rw [signed, bind_of_eq_ok hsign]
    exact nested_of_eq_ok hdepth (primary_name hname steps)
  have hend : AtOutputEnd ⟨.outputEnd :: rest, depth, blocks, inRoutine⟩ := rfl
  rw [unary, bind_of_eq_ok hsigned, bind_of_eq_ok (postfixes_of_atOutputEnd hend (steps + 1) _)]
  exact filters_of_atOutputEnd hend (steps + 1) _

theorem either_name (hname : name ∉ expressionKeywords) (hdepth : depth < depthLimit)
    (steps : Nat) :
    either (steps + 6) ⟨.name name :: .outputEnd :: rest, depth, blocks, inRoutine⟩ =
      .ok (.name name, ⟨.outputEnd :: rest, depth, blocks, inRoutine⟩) := by
  have hend : AtOutputEnd ⟨.outputEnd :: rest, depth, blocks, inRoutine⟩ := rfl
  -- Every level of operators reads the name by the level below it, and finds no operator behind it.
  have hsum : sum (steps + 4) ⟨.name name :: .outputEnd :: rest, depth, blocks, inRoutine⟩ =
      .ok (.name name, ⟨.outputEnd :: rest, depth, blocks, inRoutine⟩) := by
    have hpower : chain powerOperator? (unary (steps + 3)) (steps + 3)
        ⟨.name name :: .outputEnd :: rest, depth, blocks, inRoutine⟩ =
        .ok (.name name, ⟨.outputEnd :: rest, depth, blocks, inRoutine⟩) :=
      chain_of_atOutputEnd (unary_name hname hdepth steps) hend rfl
    rw [sum]
    exact chain_of_atOutputEnd
      (chain_of_atOutputEnd (chain_of_atOutputEnd hpower hend rfl) hend rfl) hend rfl
  have hnot : skipName "not" ⟨.name name :: .outputEnd :: rest, depth, blocks, inRoutine⟩ =
      .ok (false, ⟨.name name :: .outputEnd :: rest, depth, blocks, inRoutine⟩) := by
    have hpeek : peek ⟨.name name :: .outputEnd :: rest, depth, blocks, inRoutine⟩ =
      .ok (some (.name name), ⟨.name name :: .outputEnd :: rest, depth, blocks, inRoutine⟩) := rfl
    -- The name would otherwise be taken for the operator.
    have hne : some (Token.name name) ≠ some (.name "not") := by
      rintro ⟨⟩
      exact hname (by decide)
    rw [skipName, Reading.skip, bind_of_eq_ok hpeek, if_neg hne]
    rfl
  have hnegation : negation (steps + 5)
      ⟨.name name :: .outputEnd :: rest, depth, blocks, inRoutine⟩ =
      .ok (.name name, ⟨.outputEnd :: rest, depth, blocks, inRoutine⟩) := by
    rw [negation, bind_of_eq_ok hnot]
    simp only [Bool.false_eq_true, if_false]
    rw [bind_of_eq_ok hsum, bind_of_eq_ok (comparisons_of_atOutputEnd hend (steps + 3))]
    rfl
  rw [either]
  exact chain_of_atOutputEnd (chain_of_atOutputEnd hnegation hend rfl) hend rfl

theorem expression_name (hname : name ∉ expressionKeywords) (hdepth : depth + 1 < depthLimit)
    (steps : Nat) :
    expression (steps + 8) ⟨.name name :: .outputEnd :: rest, depth, blocks, inRoutine⟩ =
      .ok (.name name, ⟨.outputEnd :: rest, depth, blocks, inRoutine⟩) := by
  have hend : AtOutputEnd ⟨.outputEnd :: rest, depth + 1, blocks, inRoutine⟩ := rfl
  have hconditional : conditional (steps + 7)
      ⟨.name name :: .outputEnd :: rest, depth + 1, blocks, inRoutine⟩ =
      .ok (.name name, ⟨.outputEnd :: rest, depth + 1, blocks, inRoutine⟩) := by
    rw [conditional, bind_of_eq_ok (either_name hname hdepth steps)]
    exact choices_of_atOutputEnd hend (steps + 5) _
  rw [expression]
  exact nested_of_eq_ok (Nat.lt_of_succ_lt hdepth) hconditional

/-- A text or a placeholder is read as its statement, in front of those that are read behind it. -/
theorem statements_piece {piece : Piece} (hsimple : piece.IsSimple)
    (hdepth : depth + 1 < depthLimit) {steps : Nat} {ends : List String} {body : List Statement}
    {after : TokenReader}
    (hrest : statements (steps + 8) ends ⟨rest, depth, blocks, inRoutine⟩ = .ok (body, after)) :
    statements (steps + 9) ends ⟨piece.tokens ++ rest, depth, blocks, inRoutine⟩ =
      .ok (piece.statement :: body, after) := by
  cases piece with
  | literal text =>
    have hnext : next ⟨.data text :: rest, depth, blocks, inRoutine⟩ =
      .ok (some (.data text), ⟨rest, depth, blocks, inRoutine⟩) := rfl
    show statements (steps + 9) ends ⟨.data text :: rest, depth, blocks, inRoutine⟩ = _
    rw [statements, bind_of_eq_ok hnext]
    simp only
    rw [bind_of_eq_ok hrest]
    rfl
  | placeholder name =>
    have hnext : next ⟨.outputStart :: .name name :: .outputEnd :: rest, depth, blocks, inRoutine⟩ =
      .ok (some .outputStart, ⟨.name name :: .outputEnd :: rest, depth, blocks, inRoutine⟩) := rfl
    have hend : expect .outputEnd ⟨.outputEnd :: rest, depth, blocks, inRoutine⟩ =
      .ok ((), ⟨rest, depth, blocks, inRoutine⟩) := rfl
    show statements (steps + 9) ends
      ⟨.outputStart :: .name name :: .outputEnd :: rest, depth, blocks, inRoutine⟩ = _
    rw [statements, bind_of_eq_ok hnext]
    simp only
    rw [bind_of_eq_ok (expression_name hsimple.2 hdepth steps), bind_of_eq_ok hend,
      bind_of_eq_ok hrest]
    rfl

/-- Texts and placeholders are read as their statements, one for each of them. -/
theorem statements_pieces {pieces : List Piece} (hsimple : ∀ piece ∈ pieces, piece.IsSimple)
    (hdepth : depth + 1 < depthLimit) {steps : Nat} (hsteps : pieces.length + 8 < steps) :
    statements steps [] ⟨pieces.flatMap Piece.tokens, depth, blocks, inRoutine⟩ =
      .ok (pieces.map Piece.statement, ⟨[], depth, blocks, inRoutine⟩) := by
  induction pieces generalizing steps with
  | nil =>
    obtain ⟨more, rfl⟩ : ∃ more, steps = more + 1 := ⟨steps - 1, by omega⟩
    rfl
  | cons piece rest ih =>
    rw [List.forall_mem_cons] at hsimple
    rw [List.length_cons] at hsteps
    obtain ⟨more, rfl⟩ : ∃ more, steps = more + 9 := ⟨steps - 9, by omega⟩
    exact statements_piece hsimple.1 hdepth (ih hsimple.2 (by omega))

end Reading

/-- Every piece has a token. -/
theorem length_le_length_tokens (pieces : List Piece) :
    pieces.length ≤ (pieces.flatMap Piece.tokens).length := by
  induction pieces with
  | nil => exact Nat.le_refl 0
  | cons piece rest ih =>
    have hpiece : 0 < piece.tokens.length := by cases piece <;> simp [Piece.tokens]
    rw [List.flatMap_cons, List.length_append, List.length_cons]
    omega

/-- A template of texts and placeholders can always be compiled. -/
theorem Compiled.read_sourceOf {pieces : List Piece} (hsimple : ∀ piece ∈ pieces, piece.IsSimple) :
    Compiled.read (sourceOf pieces) = .ok ⟨(merged [] pieces).map Piece.statement⟩ := by
  have hsteps := length_le_length_tokens (merged [] pieces)
  have hread : Reading.statements (32 * ((merged [] pieces).flatMap Piece.tokens).length + 64) []
      ⟨(merged [] pieces).flatMap Piece.tokens, 0, [], false⟩ =
        .ok ((merged [] pieces).map Piece.statement, ⟨[], 0, [], false⟩) :=
    Reading.statements_pieces (isSimple_of_mem_merged hsimple List.not_mem_nil) (by decide)
      (by omega)
  rw [Compiled.read, tokens_sourceOf hsimple]
  simp only [StateT.run]
  rw [hread]
  rfl

end TemplateCatalog.Template
