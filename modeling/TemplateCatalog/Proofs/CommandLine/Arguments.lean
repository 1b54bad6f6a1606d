import Mathlib.Data.List.Induction
import TemplateCatalog.CommandLine.Program
import TemplateCatalog.Proofs.Catalog.Rendering
import TemplateCatalog.Proofs.Json.NumberText
import TemplateCatalog.Proofs.Json.NumeralRange
import TemplateCatalog.Proofs.Text.Marked

/-!
# Arguments on the command line

The words that give the arguments of an item, read as the item declares them, are values that the
declarations accept: the same declaration says how a word is read and what kind its value must be.
So nothing can be wrong with the words that are given, only with those that are not.

The module introduces:

* `Splits`: a word is a name and a text, with the first equals sign between them;
* `Spells`: a text spells a value of a kind;
* `LastGiven`: the last word for a name gives it a value;
* `IsGiven`: one of the words gives a name a value.

Main statements:

* `exists_templateArguments_iff`: which words can be read.
* `find?_templateArguments`: what the words give.
* `Run.typed_arguments_fit`: what can be wrong with arguments that were given by words.
-/

namespace TemplateCatalog

namespace CommandLine

/-! ### Words -/

/-- The word is the name and the text, with its first equals sign between them. -/
def Splits (word name text : String) : Prop :=
  word = name ++ "=" ++ text ∧ '=' ∉ name.toList

/-- A word is split where its first equals sign is. -/
theorem splitEquals?_eq_some_iff {word name text : String} :
    splitEquals? word = some (name, text) ↔ Splits word name text := by
  constructor
  · intro hsplit
    unfold splitEquals? at hsplit
    split at hsplit
    · cases hsplit
    · next sign rest hrest =>
      obtain ⟨rfl, rfl⟩ := Prod.mk.inj (Option.some.inj hsplit)
      obtain ⟨rfl, hword⟩ := Text.eq_append_of_dropWhile hrest
      constructor
      · rw [← String.toList_inj, String.toList_append, String.toList_append, String.toList_ofList,
          String.toList_ofList, String.toList_ofList, List.append_assoc, List.singleton_append]
        exact hword
      · rw [String.toList_ofList]
        exact Text.mark_notMem_takeWhile '=' word.toList
  · rintro ⟨rfl, hname⟩
    have hchars : (name ++ "=" ++ text).toList = name.toList ++ '=' :: text.toList := by
      rw [String.toList_append, String.toList_append, List.append_assoc]
      rfl
    obtain ⟨htake, hdrop⟩ := Text.cut_append_mark hname text.toList
    rw [splitEquals?, hchars, hdrop, htake]
    simp only [String.ofList_toList]

/-- A word can be split in one way only. -/
theorem Splits.unique {word name text other rest : String} (hsplits : Splits word name text)
    (hother : Splits word other rest) : name = other ∧ text = rest := by
  have hsame := (splitEquals?_eq_some_iff.mpr hsplits).symm.trans
    (splitEquals?_eq_some_iff.mpr hother)
  exact Prod.mk.inj (Option.some.inj hsame)

/-- The text spells the value, which is of the kind. -/
inductive Spells : Item.ArgumentKind → String → Json.Value → Prop where
  /-- Any text spells itself. -/
  | text (text : String) : Spells .string text (.string text)
  /-- A numeral spells a number. -/
  | number {text : String} {number : Json.Number} (hnumber : Json.NumberText text number) :
    Spells .number text (.number number)
  /-- The word for what holds. -/
  | yes : Spells .boolean "true" (.bool true)
  /-- The word for what does not hold. -/
  | no : Spells .boolean "false" (.bool false)

/-- What is spelled is of the kind. -/
theorem Spells.holds {kind : Item.ArgumentKind} {text : String} {value : Json.Value}
    (hspells : Spells kind text value) : kind.Holds value := by
  cases hspells <;> exact ⟨_, rfl⟩

/-- A numeral spells a number if it stands for one. -/
theorem exists_spells_number_iff {numeral : Json.Numeral} {text : String}
    (hwritten : numeral.IsWritten text) :
    (∃ value, Spells .number text value) ↔ numeral.number?.isSome = true := by
  rw [Option.isSome_iff_exists]
  constructor
  · rintro ⟨_, hspells⟩
    cases hspells with
    | @number _ number hnumber =>
      rw [← Json.parse?_eq_number_iff, Json.parse?_eq_number_iff_of_isWritten hwritten] at hnumber
      exact ⟨number, hnumber⟩
  · rintro ⟨number, hnumber⟩
    exact ⟨_, .number ⟨numeral, hwritten, hnumber⟩⟩

/-- The value of an argument is the one that its text spells. -/
theorem argumentValue_eq_ok_iff {name text : String} {kind : Item.ArgumentKind}
    {value : Json.Value} : argumentValue name text kind = .ok value ↔ Spells kind text value := by
  cases kind with
  | string =>
    constructor
    · rintro ⟨⟩
      exact .text text
    · rintro ⟨⟩
      rfl
  | number =>
    simp only [argumentValue]
    constructor
    · intro hvalue
      split at hvalue
      · next n hparse =>
        cases hvalue
        exact .number (Json.parse?_eq_number_iff.mp hparse)
      · cases hvalue
    · rintro ⟨⟩
      next n hnumber => rw [Json.parse?_eq_number_iff.mpr hnumber]
  | boolean =>
    simp only [argumentValue]
    constructor
    · intro hvalue
      split at hvalue
      · next htrue =>
        cases hvalue
        exact htrue ▸ .yes
      · split at hvalue
        · next hfalse =>
          cases hvalue
          exact hfalse ▸ .no
        · cases hvalue
    · rintro (⟨⟩ | ⟨⟩) <;> rfl

/-- The kind that an argument is declared with; an argument that is not declared is a text. -/
def kindOf (arguments : Item.Arguments) (name : String) : Item.ArgumentKind :=
  ((Fields.find? name arguments).map Item.Argument.kind).getD .string

variable {arguments : Item.Arguments} {words : List String} {word name text : String}
  {value : Json.Value} {object : Fields Json.Value}

/-- A word is read as its name and the value that its text has in the kind of that name. -/
theorem templateArgument_of_splits (hsplits : Splits word name text) :
    templateArgument arguments word =
      (argumentValue name text (kindOf arguments name)).map (name, ·) := by
  rw [templateArgument, splitEquals?_eq_some_iff.mpr hsplits]
  rfl

theorem templateArgument_eq_ok_iff :
    templateArgument arguments word = .ok (name, value) ↔
      ∃ text, Splits word name text ∧ Spells (kindOf arguments name) text value := by
  constructor
  · intro hread
    cases hsplit : splitEquals? word with
    | none => simp [templateArgument, hsplit] at hread
    | some parts =>
      have hsplits := splitEquals?_eq_some_iff.mp hsplit
      rw [templateArgument_of_splits hsplits] at hread
      cases hvalue : argumentValue parts.1 parts.2 (kindOf arguments parts.1) with
      | error fault => simp [hvalue, Except.map] at hread
      | ok found =>
        simp only [hvalue, Except.map, Except.ok.injEq, Prod.mk.injEq] at hread
        obtain ⟨rfl, rfl⟩ := hread
        exact ⟨parts.2, hsplits, argumentValue_eq_ok_iff.mp hvalue⟩
  · rintro ⟨text, hsplits, hspells⟩
    rw [templateArgument_of_splits hsplits, argumentValue_eq_ok_iff.mpr hspells]
    rfl

/-- The last one of the words with the name gives it the value. -/
def LastGiven (arguments : Item.Arguments) (words : List String) (name : String)
    (value : Json.Value) : Prop :=
  ∃ before word after text, words = before ++ word :: after ∧ Splits word name text ∧
    Spells (kindOf arguments name) text value ∧ ∀ later ∈ after, ∀ rest, ¬Splits later name rest

theorem templateArguments_concat (arguments : Item.Arguments) (words : List String)
    (word : String) :
    templateArguments arguments (words ++ [word]) = do
      let object ← templateArguments arguments words
      let given ← templateArgument arguments word
      return object.insert given.1 given.2 := by
  simp only [templateArguments, List.mapM_append, bind_assoc, pure_bind, List.mapM_cons,
    List.mapM_nil, Fields.ofPairs_concat]

/-- Words are read one after the other. -/
theorem templateArguments_concat_eq_ok_iff :
    templateArguments arguments (words ++ [word]) = .ok object ↔
      ∃ before given, templateArguments arguments words = .ok before ∧
        templateArgument arguments word = .ok given ∧ object = before.insert given.1 given.2 := by
  rw [templateArguments_concat]
  cases templateArguments arguments words with
  | error fault => simp [bind, Except.bind]
  | ok before =>
    cases templateArgument arguments word with
    | error fault => simp [bind, Except.bind]
    | ok given => simp [bind, Except.bind, pure, Except.pure, eq_comm]

/-- Words can be read if each of them has an equals sign and a text behind it that spells a value of
the kind that its name is declared with. -/
theorem exists_templateArguments_iff :
    (∃ object, templateArguments arguments words = .ok object) ↔
      ∀ word ∈ words, ∃ name text value, Splits word name text ∧
        Spells (kindOf arguments name) text value := by
  induction words using List.reverseRecOn with
  | nil => exact ⟨fun _ => by simp, fun _ => ⟨_, rfl⟩⟩
  | append_singleton words word ih =>
    simp only [templateArguments_concat_eq_ok_iff, List.forall_mem_append,
      List.forall_mem_singleton, ← ih]
    constructor
    · rintro ⟨_, before, ⟨name, value⟩, hbefore, hgiven, -⟩
      obtain ⟨text, hgiven⟩ := templateArgument_eq_ok_iff.mp hgiven
      exact ⟨⟨before, hbefore⟩, name, text, value, hgiven⟩
    · rintro ⟨⟨before, hbefore⟩, name, text, value, hgiven⟩
      exact ⟨_, before, (name, value), hbefore, templateArgument_eq_ok_iff.mpr ⟨text, hgiven⟩, rfl⟩

/-- The last word for a name is the last one of the words, or else the last one before it. -/
theorem lastGiven_concat_iff :
    LastGiven arguments (words ++ [word]) name value ↔
      templateArgument arguments word = .ok (name, value) ∨
      ((∀ text, ¬Splits word name text) ∧ LastGiven arguments words name value) := by
  rw [templateArgument_eq_ok_iff]
  constructor
  · rintro ⟨before, given, after, text, hwords, hsplits, hspells, hlast⟩
    rcases List.eq_nil_or_concat after with rfl | ⟨rest, last, rfl⟩
    · obtain ⟨rfl, hword⟩ := List.append_inj' hwords rfl
      cases hword
      exact .inl ⟨text, hsplits, hspells⟩
    · rw [List.concat_eq_append, ← List.cons_append, ← List.append_assoc] at hwords
      obtain ⟨rfl, hword⟩ := List.append_inj' hwords rfl
      cases hword
      rw [List.concat_eq_append, List.forall_mem_append, List.forall_mem_singleton] at hlast
      exact .inr ⟨hlast.2, before, given, rest, text, rfl, hsplits, hspells, hlast.1⟩
  · rintro (⟨text, hsplits, hspells⟩ |
      ⟨hother, before, given, after, text, rfl, hsplits, hspells, hlast⟩)
    · exact ⟨words, word, [], text, rfl, hsplits, hspells, by simp⟩
    · refine ⟨before, given, after ++ [word], text, by simp, hsplits, hspells, ?_⟩
      rw [List.forall_mem_append, List.forall_mem_singleton]
      exact ⟨hlast, hother⟩

/-- What the words give: each name has the value that the last word for it spells. -/
theorem find?_templateArguments (hread : templateArguments arguments words = .ok object) :
    object.find? name = some value ↔ LastGiven arguments words name value := by
  -- From the last word on, which decides if it is one for the name.
  induction words using List.reverseRecOn generalizing object with
  | nil =>
    cases hread
    constructor
    · rintro ⟨⟩
    · rintro ⟨before, given, after, text, hwords, -⟩
      simp at hwords
  | append_singleton words word ih =>
    obtain ⟨before, ⟨key, last⟩, hbefore, hword, rfl⟩ :=
      templateArguments_concat_eq_ok_iff.mp hread
    obtain ⟨text, hsplits, -⟩ := templateArgument_eq_ok_iff.mp hword
    rw [lastGiven_concat_iff, Fields.find?_insert, ← ih hbefore, hword]
    by_cases hname : name = key
    · subst hname
      simp only [if_true, Option.some.injEq, Except.ok.injEq, Prod.mk.injEq, true_and]
      exact ⟨.inl, fun hgiven => hgiven.resolve_right fun h => h.1 text hsplits⟩
    · rw [if_neg hname]
      refine ⟨fun hfound => .inr ⟨fun rest hother => hname (hother.unique hsplits).1, hfound⟩, ?_⟩
      rintro (hgiven | ⟨-, hfound⟩)
      · exact absurd (Prod.mk.inj (Except.ok.inj hgiven)).1.symm hname
      · exact hfound

/-- There is one value for each name that is given. -/
theorem sorted_templateArguments (hread : templateArguments arguments words = .ok object) :
    object.Sorted := by
  unfold templateArguments at hread
  cases hpairs : words.mapM (templateArgument arguments) with
  | error fault => simp [hpairs, bind, Except.bind] at hread
  | ok pairs =>
    simp only [hpairs, bind, Except.bind, pure, Except.pure, Except.ok.injEq] at hread
    exact hread ▸ Fields.sorted_ofPairs pairs

/-- One of the words gives the name a value. -/
def IsGiven (words : List String) (name : String) : Prop :=
  ∃ word ∈ words, ∃ text, Splits word name text

/-- The words give values to the names that they have, and to no others. -/
theorem mem_names_templateArguments_iff (hread : templateArguments arguments words = .ok object) :
    name ∈ object.names ↔ IsGiven words name := by
  rw [Fields.mem_names_iff]
  constructor
  · rintro ⟨value, hfound⟩
    obtain ⟨before, word, after, text, rfl, hsplits, -⟩ := (find?_templateArguments hread).mp hfound
    exact ⟨word, by simp, text, hsplits⟩
  · rintro ⟨word, hword, text, hsplits⟩
    induction words using List.reverseRecOn generalizing object with
    | nil => cases hword
    | append_singleton words last ih =>
      obtain ⟨before, ⟨key, value⟩, hbefore, hlast, rfl⟩ :=
        templateArguments_concat_eq_ok_iff.mp hread
      rw [Fields.find?_insert]
      by_cases hname : name = key
      · exact ⟨value, if_pos hname⟩
      · rw [if_neg hname]
        rcases List.mem_append.mp hword with hword | hword
        · exact ih hbefore hword
        · obtain rfl := List.mem_singleton.mp hword
          obtain ⟨rest, hother, -⟩ := templateArgument_eq_ok_iff.mp hlast
          exact absurd (hsplits.unique hother).1 hname

/-- All that the words give is of the kind that it is declared with. -/
theorem holds_of_templateArguments (hsorted : arguments.Sorted)
    (hread : templateArguments arguments words = .ok object) {argument : Item.Argument}
    (hdeclared : (name, argument) ∈ arguments) (hfound : object.find? name = some value) :
    argument.kind.Holds value := by
  obtain ⟨-, -, -, text, -, -, hspells, -⟩ := (find?_templateArguments hread).mp hfound
  rw [kindOf, Item.Arguments.find?_of_mem hsorted hdeclared] at hspells
  exact hspells.holds

end CommandLine

/-! ### Declarations -/

namespace Item.Arguments

variable {arguments : Arguments} {supplied : Fields Json.Value} {name : String}

/-- If all that a call supplies is of its kind, then it can only go against the declarations of
arguments that it leaves out: those that it has to supply, and those whose default is not of its
kind. -/
theorem exists_violates_iff_of_holds (hsorted : arguments.Sorted)
    (hholds : ∀ name argument value, (name, argument) ∈ arguments →
      supplied.find? name = some value → argument.kind.Holds value) :
    (∃ fault, arguments.Violates supplied name fault) ↔
      ∃ argument, (name, argument) ∈ arguments ∧ supplied.find? name = none ∧
        (argument.required = true ∧ argument.default = none ∨
          ∃ value, argument.default = some value ∧ ¬argument.kind.Holds value) := by
  constructor
  · rintro ⟨fault, hviolates⟩
    cases hviolates with
    | @missing argument hdeclared hrequired hdefault hleft =>
      exact ⟨argument, hdeclared, hleft, .inl ⟨hrequired, hdefault⟩⟩
    | @wrongKind argument value hdeclared hvalue hother =>
      rw [effective?, find?_of_mem hsorted hdeclared] at hvalue
      cases hsupplied : supplied.find? name with
      | some given =>
        rw [hsupplied] at hvalue
        obtain rfl : given = value := Option.some.inj hvalue
        exact absurd (hholds name argument given hdeclared hsupplied) hother
      | none =>
        rw [hsupplied] at hvalue
        exact ⟨argument, hdeclared, rfl, .inr ⟨value, hvalue, hother⟩⟩
  · rintro ⟨argument, hdeclared, hleft, ⟨hrequired, hdefault⟩ | ⟨value, hdefault, hother⟩⟩
    · exact ⟨_, .missing hdeclared hrequired hdefault hleft⟩
    · refine ⟨_, .wrongKind hdeclared ?_ hother⟩
      rw [effective?, hleft, find?_of_mem hsorted hdeclared]
      exact hdefault

end Item.Arguments

/-! ### Published items -/

open CommandLine Json

/-- For the items of every generation that is published in the course of a run, words can be read as
arguments if each of them has an equals sign and a text behind it that spells a value of the kind
that its name is declared with. A numeral spells a number if it is below the bound of the finite
numbers, and does not if it is above it, with a tolerance for how numerals are read. The arguments
are those that the words name, each with the value that the last word for it spells. A call with
them is rejected only for arguments that are not among them: those that it has to supply, and those
with a default that is not of their kind. -/
theorem Run.typed_arguments_fit {files : FileSystem} {ttl : Nat} {options : CacheOptions}
    {hosted : Bool} {log : List Event} {system : System}
    (hrun : Run (.start files ttl options hosted) log system) (hwf : files.WellFormed)
    (hchanges : ∀ changed, .changed changed ∈ log → changed.WellFormed) {cycle : Cycle}
    (hcycle : cycle ∈ cycles log) {item : CatalogItem} (hitem : item ∈ cycle.generation.items)
    (words : List String) :
    ((∃ object, templateArguments item.definition.arguments words = .ok object) ↔
      ∀ word ∈ words, ∃ name text value, Splits word name text ∧
        Spells (kindOf item.definition.arguments name) text value) ∧
    (∀ (text : String) (numeral : Numeral), numeral.IsWritten text → numeral.IsShort →
      (numeral.size ≤ Decimal.floatBound * (1 - Numeral.tolerance) →
        ∃ value, Spells .number text value) ∧
      (Decimal.floatBound * (1 + Numeral.tolerance) ≤ numeral.size →
        ∀ value, ¬Spells .number text value)) ∧
    ∀ object, templateArguments item.definition.arguments words = .ok object →
      object.Sorted ∧
      (∀ name, name ∈ object.names ↔ IsGiven words name) ∧
      (∀ name value, object.find? name = some value ↔
        LastGiven item.definition.arguments words name value) ∧
      ((∃ id faults,
          item.render cycle.generation.library object = .error (.invalidArguments id faults)) ↔
        ∃ name argument, (name, argument) ∈ item.definition.arguments ∧ ¬IsGiven words name ∧
          (argument.required = true ∧ argument.default = none ∨
            ∃ value, argument.default = some value ∧ ¬argument.kind.Holds value)) ∧
      ∀ id faults,
        item.render cycle.generation.library object = .error (.invalidArguments id faults) →
          ∃ names, List.Forall₂ (item.definition.arguments.Violates object) names faults ∧
            ∀ name ∈ names, ¬IsGiven words name := by
  obtain ⟨fs, findings, hbuilt⟩ := hrun.generation_eq hwf hchanges hcycle
  rw [hbuilt] at hitem ⊢
  have hsorted : item.definition.arguments.Sorted := Build.sorted_arguments hitem
  have hrenders := Build.rendersAsDeclared hitem
  refine ⟨exists_templateArguments_iff, fun text numeral hwritten hshort => ⟨fun hsize => ?_,
    fun hsize value hspells => ?_⟩, fun object hread => ?_⟩
  · exact (exists_spells_number_iff hwritten).mpr
      (Numeral.isSome_number?_of_size_le hwritten.small hshort hsize)
  · have hnumber := (exists_spells_number_iff hwritten).mp ⟨value, hspells⟩
    rw [Numeral.number?_eq_none_of_le_size hwritten.small hshort hsize] at hnumber
    cases hnumber
  · -- What is given is of its kind, so only what is left out can go against a declaration.
    have hgiven : ∀ name, object.find? name = none ↔ ¬IsGiven words name := fun name => by
      rw [Fields.find?_eq_none_iff, mem_names_templateArguments_iff hread]
    have hviolates : ∀ name, (∃ fault, item.definition.arguments.Violates object name fault) ↔ _ :=
      fun name => Item.Arguments.exists_violates_iff_of_holds hsorted
        fun _ _ _ hdeclared hfound => holds_of_templateArguments hsorted hread hdeclared hfound
    refine ⟨sorted_templateArguments hread, fun name => mem_names_templateArguments_iff hread,
      fun name value => find?_templateArguments hread, ?_, fun id faults hrejected => ?_⟩
    · rw [hrenders.rejected_iff]
      simp only [hviolates, hgiven]
    · obtain ⟨-, names, -, hnames, hfaults⟩ := hrenders.details object id faults hrejected
      refine ⟨names, hfaults, fun name hname => ?_⟩
      obtain ⟨-, -, hleft, -⟩ := (hviolates name).mp ((hnames name).mp hname)
      exact (hgiven name).mp hleft

/-- A number is given twice, the second time with blank space around it. The second number counts,
and a call with it is not rejected. -/
theorem typed_arguments_fit_of_two_numbers :
    let text : String :=
      "id: x\ntemplate: hello\narguments:\n  n:\n    type: number\n    required: true\n"
    let words : List String := ["n=1", "n= 2 "]
    ∃ log system, Run (.start (singleDocument text) 1000 ⟨4, none, none⟩ false) log system ∧
      ∃ cycle ∈ cycles log, ∃ item ∈ cycle.generation.items, ∃ object,
        templateArguments item.definition.arguments words = .ok object ∧
        object.find? "n" = some (.number (.integer 2)) ∧
        ∀ id faults, item.render cycle.generation.library object ≠
          .error (.invalidArguments id faults) := by
  intro text words
  obtain ⟨log, system, hrun, hkept, cycle, hcycle, item, hitems, hdefines, -⟩ :=
    Run.exists_singleDocument text (fun definition =>
      decide (kindOf definition.arguments "n" = .number ∧ definition.arguments.names = ["n"])) (by
      rw [readItem, readText_singleDocument]
      decide +kernel)
  obtain ⟨hkind, hnames⟩ := of_decide_eq_true hdefines
  have hitem : item ∈ cycle.generation.items := hitems ▸ List.mem_singleton_self item
  obtain ⟨hread, -, hobject⟩ := hrun.typed_arguments_fit (wellFormed_singleDocument text)
    (fun changed hmem => absurd hmem (hkept changed)) hcycle hitem words
  have hone : Splits "n=1" "n" "1" := ⟨rfl, by decide⟩
  have htwo : Splits "n= 2 " "n" " 2 " := ⟨rfl, by decide⟩
  have hspells : ∀ text number, Json.parse? text = some (.number number) →
      Spells (kindOf item.definition.arguments "n") text (.number number) := fun text number h =>
    hkind ▸ .number (parse?_eq_number_iff.mp h)
  have hspellsOne := hspells "1" (.integer 1) (by rfl)
  have hspellsTwo := hspells " 2 " (.integer 2) (by rfl)
  obtain ⟨object, hread⟩ := hread.mpr (by
    simp only [words, List.forall_mem_cons, List.not_mem_nil, false_implies, implies_true, and_true]
    exact ⟨⟨_, _, _, hone, hspellsOne⟩, _, _, _, htwo, hspellsTwo⟩)
  obtain ⟨-, -, hlast, hrejected, -⟩ := hobject object hread
  have hgiven : IsGiven words "n" := ⟨_, by simp [words], _, htwo⟩
  refine ⟨log, system, hrun, cycle, hcycle, item, hitem, object, hread, (hlast _ _).mpr
    ⟨["n=1"], "n= 2 ", [], " 2 ", rfl, htwo, hspellsTwo, by simp⟩, fun id faults h => ?_⟩
  obtain ⟨name, argument, hdeclared, hleft, -⟩ := hrejected.mp ⟨id, faults, h⟩
  have hname : name ∈ item.definition.arguments.names := List.mem_map_of_mem hdeclared
  rw [hnames, List.mem_singleton] at hname
  exact hleft (hname ▸ hgiven)

/-- A number that is not beyond the largest finite one, but so close to it that scaling its digits
leads beyond, cannot be given. -/
theorem typed_arguments_refused_of_large_number :
    let text : String := "id: x\ntemplate: hello\narguments:\n  n:\n    type: number\n"
    let written : String := "1797693134862315708e290"
    ∃ log system, Run (.start (singleDocument text) 1000 ⟨4, none, none⟩ false) log system ∧
      ∃ cycle ∈ cycles log, ∃ item ∈ cycle.generation.items, item.id = "x" ∧
        kindOf item.definition.arguments "n" = .number ∧
        (∃ numeral : Numeral, numeral.IsWritten written ∧ numeral.size ≤ (2 ^ 53 - 1) * 2 ^ 971) ∧
        templateArguments item.definition.arguments ["n=" ++ written] =
          .error (.notANumber "n" written) := by
  intro text written
  obtain ⟨log, system, hrun, -, cycle, hcycle, item, hitems, hdefines, -⟩ :=
    Run.exists_singleDocument text (fun definition =>
      decide (definition.id = "x" ∧ kindOf definition.arguments "n" = .number)) (by
      rw [readItem, readText_singleDocument]
      decide +kernel)
  obtain ⟨hid, hkind⟩ := of_decide_eq_true hdefines
  let numeral : Numeral :=
    ⟨false, [1, 7, 9, 7, 6, 9, 3, 1, 3, 4, 8, 6, 2, 3, 1, 5, 7, 0, 8], [], some (false, [2, 9, 0])⟩
  have hwritten : numeral.IsWritten written := by
    have hchars : written.toList = digitChars numeral.whole ++ 'e' :: digitChars [2, 9, 0] := by
      decide
    have hwhole : IsDigits numeral.whole := ⟨by decide, by decide⟩
    have hexponent : IsDigits [2, 9, 0] := ⟨by decide, by decide⟩
    refine ⟨[], _, [], by simpa using hchars, by simp, ?_, by simp⟩
    exact @NumeralText.intro false _ _ _ _ _ hwhole (by decide) .absent
      (.present (.inl rfl) .bare hexponent)
  have hsize : numeral.size ≤ (2 ^ 53 - 1) * 2 ^ 971 := by
    -- Both sides are integers, and are compared as such.
    have hvalue : numeral.size = (1797693134862315708 * 10 ^ 290 : Nat) := by
      rw [Numeral.size, Nat.cast_mul, Nat.cast_pow]
      rfl
    have hlargest : ((2 : ℚ) ^ 53 - 1) * 2 ^ 971 = ((2 ^ 53 - 1) * 2 ^ 971 : Nat) := by
      rw [Nat.cast_mul, Nat.cast_pow]
      norm_num
    rw [hvalue, hlargest, Nat.cast_le]
    decide +kernel
  have hnone : numeral.number? = none := by
    rw [← Option.isNone_iff_eq_none]
    decide +kernel
  have hvalue : argumentValue "n" written .number = .error (.notANumber "n" written) := by
    simp only [argumentValue]
    split
    · next n hparse =>
      rw [parse?_eq_number_iff_of_isWritten hwritten, hnone] at hparse
      cases hparse
    · rfl
  have hargument : templateArgument item.definition.arguments ("n=" ++ written) =
      .error (.notANumber "n" written) := by
    have hsplits : Splits ("n=" ++ written) "n" written := ⟨rfl, by decide⟩
    rw [templateArgument_of_splits hsplits, hkind, hvalue]
    rfl
  refine ⟨log, system, hrun, cycle, hcycle, item, hitems ▸ List.mem_singleton_self item, hid, hkind,
    ⟨numeral, hwritten, hsize⟩, ?_⟩
  rw [templateArguments, List.mapM_cons, hargument]
  rfl

end TemplateCatalog
