import Mathlib.Data.List.Forall2
import TemplateCatalog.Item.Schema
import TemplateCatalog.Proofs.Fields

/-!
# Arguments that fit the declarations

The check of an argument object takes two steps that are written apart: the defaults are filled in,
and what comes out of this is evaluated by a schema, which has been built from the declarations and
never demands an argument with a default. Put together they ask of each declared argument what its
own declaration says: it must not be left out if it is required and has no default, and its value,
which is the default only if the call has nothing under its name, must be of its kind. There is one
violation of the schema for each argument that goes against its declaration, and nothing else
matters.

The module introduces:

* `Arguments.effective?`: the value that an argument has in a call;
* `Arguments.Violates`: a call goes against the declaration of an argument;
* `Arguments.Details`: the faults are one for each of these arguments.

Main statements:

* `Arguments.find?_withDefaults`: what the defaults add to a call.
* `Arguments.violations_schema`: what the schema says is what the declarations say.
* `Arguments.details_violations`: the faults of a call.
* `Arguments.violations_congr`: arguments that are not declared make no difference.
-/

namespace TemplateCatalog.Item

/-- A value of the kind is a text, a number or a truth value, as the kind says. -/
def ArgumentKind.Holds : ArgumentKind → Json.Value → Prop
  | .string, value => ∃ text, value = .string text
  | .number, value => ∃ number, value = .number number
  | .boolean, value => ∃ flag, value = .bool flag

/-- The type of a kind in schemas is the type of the values of the kind. -/
theorem ArgumentKind.isOfType_name_iff {kind : ArgumentKind} {value : Json.Value} :
    Json.Schema.isOfType value kind.name = true ↔ kind.Holds value := by
  cases kind <;> cases value <;> simp [Json.Schema.isOfType, name, Holds]

namespace Arguments

open Json.Schema

/-- The value that a name has in a call: the one that the call has under it, even if it is null, and
only otherwise its default. -/
def effective? (arguments : Arguments) (supplied : Fields Json.Value) (name : String) :
    Option Json.Value :=
  supplied.find? name <|> (arguments.find? name).bind (·.default)

/-- The call goes against the declaration of the argument with the name, and the fault says how. -/
inductive Violates (arguments : Arguments) (supplied : Fields Json.Value) :
    String → Fault → Prop where
  /-- A required argument without a default is left out. -/
  | missing {name : String} {argument : Argument} (declared : (name, argument) ∈ arguments)
      (required : argument.required = true) (undefaulted : argument.default = none)
      (left_out : supplied.find? name = none) : Violates arguments supplied name (.missing name)
  /-- The value of an argument is not of its kind. -/
  | wrongKind {name : String} {argument : Argument} {value : Json.Value}
      (declared : (name, argument) ∈ arguments)
      (effective : arguments.effective? supplied name = some value)
      (other : ¬argument.kind.Holds value) :
      Violates arguments supplied name (.wrongType value [argument.kind.name])

/-- The faults are one for each argument whose declaration the call goes against. -/
def Details (arguments : Arguments) (supplied : Fields Json.Value) (faults : List Fault) : Prop :=
  ∃ names : List String, names.Nodup ∧
    (∀ name, name ∈ names ↔ ∃ fault, arguments.Violates supplied name fault) ∧
    List.Forall₂ (arguments.Violates supplied) names faults

variable {arguments : Arguments} {supplied : Fields Json.Value} {name : String}

/-! ### Defaults -/

theorem withDefaults_cons (entry : String × Argument) (rest : Arguments)
    (supplied : Fields Json.Value) :
    withDefaults (entry :: rest) supplied =
      withDefaults rest
        (match entry.2.default with
        | some value => supplied.insertNew entry.1 value
        | none => supplied) := rfl

/-- Filling in the defaults gives every name the value that it has in the call. -/
theorem find?_withDefaults (hsorted : arguments.Sorted) (supplied : Fields Json.Value)
    (name : String) :
    (arguments.withDefaults supplied).find? name = arguments.effective? supplied name := by
  induction arguments generalizing supplied with
  | nil => simp [withDefaults, effective?]
  | cons entry rest ih =>
    obtain ⟨key, argument⟩ := entry
    obtain ⟨hnew, hrest⟩ := List.pairwise_cons.mp hsorted
    -- The first argument is not declared again, so its default stays.
    have hfirst : Fields.find? key rest = none :=
      Fields.find?_eq_none_iff.mpr fun hagain => String.lt_irrefl key (hnew key hagain)
    rw [withDefaults_cons, ih hrest]
    unfold effective?
    rw [Fields.find?_cons]
    by_cases hname : name = key
    · subst hname
      cases hdefault : argument.default with
      | none => simp [hfirst, hdefault]
      | some value =>
        rw [Fields.find?_insertNew, if_pos rfl, if_pos rfl]
        cases Fields.find? name supplied <;> simp [hfirst, hdefault]
    · cases hdefault : argument.default with
      | none => simp [hname]
      | some value => simp [Fields.find?_insertNew, hname]

/-- Filling in the defaults keeps the names ascending. -/
theorem sorted_withDefaults (arguments : Arguments) (hsupplied : supplied.Sorted) :
    (arguments.withDefaults supplied).Sorted := by
  induction arguments generalizing supplied with
  | nil => exact hsupplied
  | cons entry rest ih =>
    rw [withDefaults_cons]
    split
    · exact ih (Fields.sorted_insertNew hsupplied)
    · exact ih hsupplied

/-! ### Evaluating the schema -/

/-- The fault of an argument that is not of its kind. -/
def kindFault? (context : Fields Json.Value) (entry : String × Argument) : Option Fault :=
  match context.find? entry.1 with
  | some value =>
    if Json.Schema.isOfType value entry.2.kind.name then none
    else some (.wrongType value [entry.2.kind.name])
  | none => none

/-- The names of the arguments that are demanded and not there. -/
def missingNames (arguments : Arguments) (context : Fields Json.Value) : List String :=
  arguments.demanded.filter fun name => !context.has name

/-- The keywords of the schema of an argument, in the order of their names. -/
theorem property_eq (argument : Argument) :
    property argument =
      .object ((argument.default.map fun value => ("default", value)).toList ++
        (argument.description.map fun text => ("description", Json.Value.string text)).toList ++
        [("type", .string argument.kind.name)]) := by
  have hdefault : "default" < "description" := by decide
  have hdescription : "description" < "type" := by decide
  obtain ⟨kind, _ | description, _ | default, required⟩ := argument
  · rfl
  · exact congrArg Json.Value.object
      (Fields.insert_cons_of_lt (String.lt_trans hdefault hdescription))
  · exact congrArg Json.Value.object (Fields.insert_cons_of_lt hdescription)
  · show Json.Value.object (Fields.insert _ _ (Fields.insert _ _ [_])) = _
    rw [Fields.insert_cons_of_lt hdescription, Fields.insert_cons_of_lt hdefault]
    rfl

/-- The keywords of the schema of all arguments, in the order of their names. -/
theorem schema_eq (arguments : Arguments) :
    arguments.schema = .object [("properties", .object (Fields.mapValues property arguments)),
      ("required", .strings arguments.demanded), ("type", .string "object")] := by
  have hproperties : "properties" < "required" := by decide
  have hrequired : "required" < "type" := by decide
  show Json.Value.object (Fields.insert _ _ (Fields.insert _ _ [_])) = _
  rw [Fields.insert_cons_of_lt (String.lt_trans hproperties hrequired),
    Fields.insert_cons_of_gt hproperties, Fields.insert_cons_of_lt hrequired]

/-- Of the schema of an argument only the type can be violated; the description and the default are
annotations. -/
theorem violations_property (argument : Argument) (value : Json.Value) :
    violations (property argument) value =
      typeViolations value (.string argument.kind.name) := by
  rw [property_eq, violations_object]
  cases argument.default <;> cases argument.description <;> simp [keywordViolations]

/-- The properties of an object are judged by the kinds of the arguments. -/
theorem memberViolations_property (arguments : Arguments) (context : Fields Json.Value) :
    memberViolations (Fields.mapValues property arguments) context =
      arguments.filterMap (kindFault? context) := by
  rw [memberViolations_eq, Fields.mapValues, List.flatMap_map, List.filterMap_eq_flatMap_toList]
  apply List.flatMap_congr
  rintro ⟨name, argument⟩ -
  unfold kindFault?
  cases context.find? name with
  | none => rfl
  | some value =>
    show violations (property argument) value = (if isOfType value argument.kind.name then none
      else some (Violation.wrongType value [argument.kind.name])).toList
    rw [violations_property, typeViolations]
    cases isOfType value argument.kind.name <;> rfl

/-- An object lacks the names that are required and not there. -/
theorem requiredViolations_strings (names : List String) (context : Fields Json.Value) :
    requiredViolations (.object context) (.strings names) =
      (names.filter fun name => !context.has name).map .missing := by
  have hnames : (names.map Json.Value.string).filterMap Json.Value.string? = names := by
    rw [List.filterMap_map]
    exact List.filterMap_some
  show ((List.filterMap _ (names.map Json.Value.string)).filter _).map _ = _
  rw [hnames]

/-- The schema says of an object what the declarations say: first of the arguments that are there,
in the order of their names, whether they are of their kinds, and then which of the others are
demanded. -/
theorem violations_schema (arguments : Arguments) (context : Fields Json.Value) :
    violations arguments.schema (.object context) =
      arguments.filterMap (kindFault? context) ++
        (arguments.missingNames context).map .missing := by
  -- An object is of the type of objects, so two keywords are left.
  have hkeywords : violations arguments.schema (.object context) =
      memberViolations (Fields.mapValues property arguments) context ++
        requiredViolations (.object context) (.strings arguments.demanded) := by
    rw [schema_eq, violations_object]
    simp [keywordViolations, propertyViolations, typeViolations, isOfType]
  rw [hkeywords, memberViolations_property, requiredViolations_strings]
  rfl

theorem kindFault?_eq_some_iff {context : Fields Json.Value} {entry : String × Argument}
    {fault : Fault} :
    kindFault? context entry = some fault ↔
      ∃ value, context.find? entry.1 = some value ∧ ¬entry.2.kind.Holds value ∧
        fault = .wrongType value [entry.2.kind.name] := by
  unfold kindFault?
  cases hvalue : context.find? entry.1 with
  | none => simp
  | some value =>
    simp only [Option.some.injEq, exists_eq_left', ← ArgumentKind.isOfType_name_iff]
    cases isOfType value entry.2.kind.name <;> simp [eq_comm]

theorem mem_missingNames_iff {context : Fields Json.Value} :
    name ∈ arguments.missingNames context ↔
      ∃ argument, (name, argument) ∈ arguments ∧ argument.required = true ∧
        argument.default = none ∧ context.find? name = none := by
  simp only [missingNames, demanded, Argument.isDemanded, Fields.has, List.mem_filter,
    List.mem_map, Prod.exists, exists_and_right, exists_eq_right, Bool.and_eq_true,
    Option.isNone_iff_eq_none, Option.not_isSome, ← and_assoc]

/-- An argument has at most one declaration. -/
theorem find?_of_mem (hsorted : arguments.Sorted) {argument : Argument}
    (hdeclared : (name, argument) ∈ arguments) : arguments.find? name = some argument :=
  (Fields.find?_eq_some_iff_mem hsorted).mpr hdeclared

/-- A declaration without a default leaves the value to the call. -/
theorem effective?_of_default_eq_none (hsorted : arguments.Sorted) {argument : Argument}
    (hdeclared : (name, argument) ∈ arguments) (hdefault : argument.default = none) :
    arguments.effective? supplied name = supplied.find? name := by
  rw [effective?, find?_of_mem hsorted hdeclared, Option.bind_some, hdefault]
  cases Fields.find? name supplied <;> rfl

/-- A call goes against a declaration exactly if one of the two parts of the check says so. -/
theorem violates_iff (hsorted : arguments.Sorted) {fault : Fault} :
    arguments.Violates supplied name fault ↔
      (∃ argument, (name, argument) ∈ arguments ∧
        kindFault? (arguments.withDefaults supplied) (name, argument) = some fault) ∨
      (name ∈ arguments.missingNames (arguments.withDefaults supplied) ∧
        fault = .missing name) := by
  simp only [kindFault?_eq_some_iff, mem_missingNames_iff, find?_withDefaults hsorted]
  constructor
  · intro hviolates
    cases hviolates with
    | @missing argument hdeclared hrequired hdefault hleft =>
      have hvalue : arguments.effective? supplied name = supplied.find? name :=
        effective?_of_default_eq_none hsorted hdeclared hdefault
      exact .inr ⟨⟨argument, hdeclared, hrequired, hdefault, hvalue.trans hleft⟩, rfl⟩
    | @wrongKind argument value hdeclared hvalue hother =>
      exact .inl ⟨argument, hdeclared, value, hvalue, hother, rfl⟩
  · rintro (⟨argument, hdeclared, value, hvalue, hother, rfl⟩ |
      ⟨⟨argument, hdeclared, hrequired, hdefault, hvalue⟩, rfl⟩)
    · exact .wrongKind hdeclared hvalue hother
    · exact .missing hdeclared hrequired hdefault
        ((effective?_of_default_eq_none hsorted hdeclared hdefault).symm.trans hvalue)

/-- A call goes against a declaration in one way only. -/
theorem Violates.unique (hsorted : arguments.Sorted) {fault other : Fault}
    (hfault : arguments.Violates supplied name fault)
    (hother : arguments.Violates supplied name other) : fault = other := by
  cases hfault with
  | @missing argument hdeclared hrequired hdefault hleft =>
    cases hother with
    | missing => rfl
    | @wrongKind _ value _ hvalue _ =>
      -- What is left out and has no default has no value.
      rw [effective?_of_default_eq_none hsorted hdeclared hdefault, hleft] at hvalue
      cases hvalue
  | @wrongKind argument value hdeclared hvalue hkind =>
    cases hother with
    | @missing again hagain hrequired hdefault hleft =>
      rw [effective?_of_default_eq_none hsorted hagain hdefault, hleft] at hvalue
      cases hvalue
    | @wrongKind again found hagain hfound _ =>
      have hargument : argument = again :=
        Option.some.inj ((find?_of_mem hsorted hdeclared).symm.trans (find?_of_mem hsorted hagain))
      have hsame : value = found := Option.some.inj (hvalue.symm.trans hfound)
      rw [hargument, hsame]

/-- What is found in a list belongs to the members for which something is found. -/
theorem forall₂_filterMap {α β γ : Type} {R : β → γ → Prop} (key : α → β) (found? : α → Option γ)
    (members : List α)
    (hfound : ∀ member ∈ members, ∀ found, found? member = some found → R (key member) found) :
    List.Forall₂ R ((members.filter fun member => (found? member).isSome).map key)
      (members.filterMap found?) := by
  induction members with
  | nil => exact .nil
  | cons member members ih =>
    rw [List.forall_mem_cons] at hfound
    cases hmember : found? member with
    | none =>
      rw [List.filter_cons_of_neg (by simp [hmember]), List.filterMap_cons_none hmember]
      exact ih hfound.2
    | some found =>
      rw [List.filter_cons_of_pos (by simp [hmember]), List.filterMap_cons_some hmember]
      exact .cons (hfound.1 found hmember) (ih hfound.2)

/-- There is one fault for each argument whose declaration a call goes against. -/
theorem details_violations (hsorted : arguments.Sorted) (supplied : Fields Json.Value) :
    arguments.Details supplied
      (violations arguments.schema (.object (arguments.withDefaults supplied))) := by
  have hkinds : ∀ entry ∈ arguments, ∀ fault,
      kindFault? (arguments.withDefaults supplied) entry = some fault →
        arguments.Violates supplied entry.1 fault := fun entry hentry fault hfault =>
    (violates_iff hsorted).mpr (.inl ⟨entry.2, hentry, hfault⟩)
  have hmissing : ∀ name ∈ arguments.missingNames (arguments.withDefaults supplied),
      arguments.Violates supplied name (.missing name) := fun name hname =>
    (violates_iff hsorted).mpr (.inr ⟨hname, rfl⟩)
  refine ⟨(arguments.filter fun entry =>
      (kindFault? (arguments.withDefaults supplied) entry).isSome).map Prod.fst ++
    arguments.missingNames (arguments.withDefaults supplied), ?_, fun name => ?_, ?_⟩
  · -- No name is declared twice, and what is missing has no value of another kind.
    have hnodup : (arguments.map Prod.fst).Nodup := Fields.Sorted.nodup hsorted
    refine List.nodup_append.mpr ⟨hnodup.sublist (List.filter_sublist.map Prod.fst),
      hnodup.sublist (List.filter_sublist.trans (List.filter_sublist.map Prod.fst)), ?_⟩
    rintro name hname _ hleft rfl
    obtain ⟨entry, hentry, rfl⟩ := List.mem_map.mp hname
    obtain ⟨hentry, hsome⟩ := List.mem_filter.mp hentry
    obtain ⟨fault, hfault⟩ := Option.isSome_iff_exists.mp hsome
    have hsame := (hkinds entry hentry fault hfault).unique hsorted (hmissing entry.1 hleft)
    obtain ⟨value, -, -, rfl⟩ := kindFault?_eq_some_iff.mp hfault
    cases hsame
  · simp only [violates_iff hsorted, List.mem_append, List.mem_map, List.mem_filter,
      Option.isSome_iff_exists]
    constructor
    · rintro (⟨⟨_, argument⟩, ⟨hentry, fault, hfault⟩, rfl⟩ | hname)
      · exact ⟨fault, .inl ⟨argument, hentry, hfault⟩⟩
      · exact ⟨_, .inr ⟨hname, rfl⟩⟩
    · rintro ⟨fault, ⟨argument, hentry, hfault⟩ | ⟨hname, -⟩⟩
      · exact .inl ⟨(name, argument), ⟨hentry, fault, hfault⟩, rfl⟩
      · exact .inr hname
  · rw [violations_schema]
    refine List.rel_append (forall₂_filterMap Prod.fst _ arguments hkinds) ?_
    rw [List.forall₂_map_right_iff, List.forall₂_same]
    exact hmissing

/-- Arguments that are not declared make no difference to the faults of a call. -/
theorem violations_congr (hsorted : arguments.Sorted) {other : Fields Json.Value}
    (hsame : ∀ name ∈ arguments.names, supplied.find? name = other.find? name) :
    violations arguments.schema (.object (arguments.withDefaults supplied)) =
      violations arguments.schema (.object (arguments.withDefaults other)) := by
  have hvalues : ∀ name ∈ arguments.names, (arguments.withDefaults supplied).find? name =
      (arguments.withDefaults other).find? name := fun name hname => by
    rw [find?_withDefaults hsorted, find?_withDefaults hsorted, effective?, effective?,
      hsame name hname]
  have hkinds : arguments.filterMap (kindFault? (arguments.withDefaults supplied)) =
      arguments.filterMap (kindFault? (arguments.withDefaults other)) :=
    List.filterMap_congr fun entry hentry => by
      rw [kindFault?, kindFault?, hvalues entry.1 (List.mem_map_of_mem hentry)]
  have hmissing : arguments.missingNames (arguments.withDefaults supplied) =
      arguments.missingNames (arguments.withDefaults other) :=
    List.filter_congr fun name hname => by
      have hdeclared : name ∈ arguments.names :=
        (List.filter_sublist.map Prod.fst).subset hname
      rw [Fields.has, Fields.has, hvalues name hdeclared]
  rw [violations_schema, violations_schema, hkinds, hmissing]

end Arguments

end TemplateCatalog.Item
