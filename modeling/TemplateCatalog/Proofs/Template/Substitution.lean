import TemplateCatalog.Proofs.Template.Placeholders

/-!
# Substitution

What a template of texts and placeholders writes: its texts as they are, and in the place of each
placeholder the argument of that name, escaped as the name of the template asks for.

Main statements:

* `Run.executeAll_pieces`: what the statements of texts and placeholders write.
* `Library.render_sourceOf`: what a template of texts and placeholders is rendered to.
-/

namespace TemplateCatalog.Template

/-- What is written for a text that is no markup yet. -/
def Escaping.shown (escaping : Escaping) (text : String) : String :=
  match escaping with
  | .plain => text
  | .markup => markupText text

theorem Escaping.write_ofString (escaping : Escaping) (text : String) :
    escaping.write (.ofString text) = escaping.shown text := by
  cases escaping <;> rfl

/-- The state after a text has been written. -/
def Machine.written (text : String) (machine : Machine) : Machine :=
  { machine with output := machine.output ++ text }

namespace Run

variable (library : Library) (deeper : Deeper) {machine : Machine} {texts : String → String}

/-- A text or a placeholder writes what it is filled with, and changes nothing else. -/
theorem execute_piece (hkept : machine.discarding = false) {piece : Piece}
    (hknown : ∀ name, piece = .placeholder name → machine.lookUp name = .ofString (texts name)) :
    execute library deeper piece.statement machine =
      .ok ((), machine.written (piece.filled fun name => machine.escaping.shown (texts name))) := by
  have hwrite : ∀ text, write text machine = .ok ((), machine.written text) := by
    intro text
    show Except.ok ((), if machine.discarding then machine else machine.written text) = _
    rw [if_neg (by rw [hkept]; exact Bool.false_ne_true)]
  cases piece with
  | literal text =>
    rw [Piece.statement, execute]
    exact hwrite text
  | placeholder name =>
    have hvalue : evaluate deeper (.name name) machine = .ok (machine.lookUp name, machine) := by
      rw [evaluate]
      rfl
    rw [Piece.statement, execute]
    show (evaluate deeper (.name name) machine).bind (fun found => writeValue found.1 found.2) = _
    rw [hvalue, hknown name rfl]
    show write (machine.escaping.write (.ofString (texts name))) machine = _
    rw [Escaping.write_ofString, hwrite]
    rfl

/-- Texts and placeholders write what they are filled with, one after the other. -/
theorem executeAll_pieces (hkept : machine.discarding = false) {pieces : List Piece}
    (hknown : ∀ name, .placeholder name ∈ pieces → machine.lookUp name = .ofString (texts name)) :
    executeAll library deeper (pieces.map Piece.statement) machine =
      .ok ((), machine.written (String.join (pieces.map (Piece.filled fun name =>
        machine.escaping.shown (texts name))))) := by
  induction pieces generalizing machine with
  | nil =>
    rw [List.map_nil, List.map_nil, String.join_nil, Machine.written, String.append_empty,
      executeAll]
    rfl
  | cons piece rest ih =>
    have hpiece := execute_piece library deeper hkept
      fun name heq => hknown name (heq ▸ List.mem_cons_self)
    -- What has been written changes neither the variables nor the escaping.
    have hrest := @ih
      (machine.written (piece.filled fun name => machine.escaping.shown (texts name))) hkept
      fun name hmem => hknown name (List.mem_cons_of_mem _ hmem)
    rw [List.map_cons, executeAll]
    show (execute library deeper piece.statement machine).bind
      (fun done => executeAll library deeper (rest.map Piece.statement) done.2) = _
    rw [hpiece]
    refine hrest.trans ?_
    simp only [Machine.written, List.map_cons, String.join_cons, String.append_assoc]

/-- Statements that write a text, and base the template on no other one, are run by writing it. -/
theorem run_of_written {library : Library} {levels : Nat} {body : List Statement} {text : String}
    (hparent : machine.parent = none)
    (hbody : executeAll library (run library levels) body machine =
      .ok ((), machine.written text)) :
    run library (levels + 1) body machine = .ok ((), machine.written text) := by
  obtain ⟨output, discarding, frames, baseDepth, escaping, template, blocks, block, parent,
    ancestry, closures, records, loops, routines, nextMark, leftovers⟩ := machine
  cases hparent
  rw [run]
  show (executeAll library (run library levels) body _).bind _ = _
  rw [hbody]
  rfl

end Run

/-! ### Arguments -/

/-- A text argument is the text in the template. -/
theorem find?_markedArguments {name text : String} {arguments : Fields Json.Value}
    (hfound : arguments.find? name = some (.string text)) (next : Nat) :
    Fields.find? name (markedArguments next arguments).1 = some (.ofString text) := by
  induction arguments generalizing next with
  | nil => cases hfound
  | cons field rest ih =>
    obtain ⟨key, value⟩ := field
    rw [Fields.find?_cons] at hfound
    rw [markedArguments, Fields.find?_cons]
    split
    · next hname =>
      rw [if_pos hname, Option.some.injEq] at hfound
      rw [hfound]
      rfl
    · next hname =>
      rw [if_neg hname] at hfound
      exact ih hfound _

theorem Machine.escaping_start (library : Library) (name : String) (template : Compiled)
    (arguments : Fields Value) (nextMark : Nat) :
    (Machine.start library name template arguments nextMark).escaping = Escaping.ofName name := by
  simp only [Machine.start]

/-- At the start of a rendering, an argument that is a text is known as that text. -/
theorem Machine.lookUp_start (library : Library) {name argument text : String}
    {template : Compiled} {arguments : Fields Json.Value}
    (hfound : arguments.find? argument = some (.string text)) :
    (Machine.start library name template (markedArguments 0 arguments).1
      (markedArguments 0 arguments).2).lookUp argument = .ofString text := by
  have hframe : (Machine.start library name template (markedArguments 0 arguments).1
      (markedArguments 0 arguments).2).frameValue? argument
        { Frame.empty with context := .arguments (markedArguments 0 arguments).1 } =
          some (.ofString text) := find?_markedArguments hfound 0
  rw [Machine.lookUp, Machine.lookUp?, Machine.start, List.findSome?_cons]
  rw [Machine.start] at hframe
  rw [hframe]
  rfl

/-- What is written by the statements of a template that is based on no other one is what the
template is rendered to. -/
theorem Library.render_of_written {library : Library} {name text : String} {template : Compiled}
    (htemplate : library.find? name = some template) {arguments : Fields Json.Value}
    (hbody : ∀ deeper, Run.executeAll library deeper template.body
      (Machine.start library name template (markedArguments 0 arguments).1
        (markedArguments 0 arguments).2) =
        .ok ((), (Machine.start library name template (markedArguments 0 arguments).1
          (markedArguments 0 arguments).2).written text)) :
    library.render name arguments = .ok text := by
  obtain ⟨levels, hlevels⟩ : ∃ levels,
      (Run.depthLimit + 2) * (library.length + 2) = levels + 1 :=
    ⟨_, (Nat.succ_pred_eq_of_pos (Nat.mul_pos (Nat.succ_pos _) (Nat.succ_pos _))).symm⟩
  have hrun := Run.run_of_written rfl (hbody (Run.run library levels))
  unfold Library.render
  rw [htemplate]
  simp only
  rw [hlevels, hrun]
  exact congrArg Except.ok String.empty_append

/-- A template of texts and placeholders is rendered to its texts and the arguments in their places,
which are escaped as the name of the template asks for. -/
theorem Library.render_sourceOf {library : Library} {name : String} {pieces : List Piece}
    (hsimple : ∀ piece ∈ pieces, piece.IsSimple) {template : Compiled}
    (hread : Compiled.read (sourceOf pieces) = .ok template)
    (htemplate : library.find? name = some template) {arguments : Fields Json.Value}
    {texts : String → String}
    (hknown : ∀ argument, .placeholder argument ∈ pieces →
      arguments.find? argument = some (.string (texts argument))) :
    library.render name arguments =
      .ok (String.join (pieces.map (Piece.filled fun argument =>
        (Escaping.ofName name).shown (texts argument)))) := by
  rw [Compiled.read_sourceOf hsimple, Except.ok.injEq] at hread
  subst hread
  refine Library.render_of_written htemplate fun deeper => ?_
  have hknown : ∀ argument, .placeholder argument ∈ merged [] pieces →
      (Machine.start library name ⟨(merged [] pieces).map Piece.statement⟩
        (markedArguments 0 arguments).1 (markedArguments 0 arguments).2).lookUp argument =
        .ofString (texts argument) := fun argument hmem =>
    Machine.lookUp_start library (hknown argument (placeholder_mem_merged.mp hmem))
  -- The statements are those of the merged pieces, which write the same as the pieces.
  have hwritten := Run.executeAll_pieces library deeper rfl hknown
  rw [Machine.escaping_start, join_merged, String.ofList_nil, String.empty_append] at hwritten
  exact hwritten

end TemplateCatalog.Template
