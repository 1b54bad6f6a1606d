import Mathlib.Data.List.Basic
import TemplateCatalog.Item.Metadata
import TemplateCatalog.Proofs.Fields

/-!
# The classification of metadata

The judgement of an item is worked out check by check, and every check has its own part of the list
of issues. Said in terms of the block alone: a block is silent if it has neither a version nor a
status, it is about another item if it declares another id, and it is sound if each of its fields is
what it should be. The state of the item follows from these three, and a block that is not silent
has issues exactly if the item is not active.

The module introduces:

* `IsVersionText`: three runs of decimal digits, joined by single dots;
* `Declares`: a field of the block is a text that is not blank;
* `IsSilent`, `IsAboutOther` and `IsSound`: what there is to say about a whole block;
* `Judgement.IsEmbedded`: what a judgement takes from the block and what it fills in;
* `Judgement.HasOwnState`: the state that a block gets which is not silent;
* `Judgement.Classifies`: the judgement is the one that the block calls for.

Main statements:

* `isVersion_iff`: the shape of version numbers.
* `Judgement.issues_ofFields_eq_nil_iff`: no check complains about a sound block, and only about
  that.
* `judge_classifies`: every judgement is the one that its block calls for.
-/

namespace TemplateCatalog.Item

/-! ### Version numbers -/

/-- The characters are one or more decimal digits. -/
def IsDigits (cs : List Char) : Prop :=
  cs ≠ [] ∧ ∀ c ∈ cs, Text.isDecimalDigit c = true

/-- The text is three runs of decimal digits, joined by single dots, and nothing else. -/
def IsVersionText (text : String) : Prop :=
  ∃ major minor patch : List Char, IsDigits major ∧ IsDigits minor ∧ IsDigits patch ∧
    text.toList = major ++ '.' :: (minor ++ '.' :: patch)

theorem isDigitRun_iff {cs : List Char} : isDigitRun cs = true ↔ IsDigits cs := by
  simp [isDigitRun, IsDigits]

/-- A run of digits has no dot in it. -/
theorem IsDigits.dot_notMem {cs : List Char} (hdigits : IsDigits cs) : '.' ∉ cs := by
  intro hdot
  have hdigit := hdigits.2 '.' hdot
  exact absurd hdigit (by decide)

theorem dotParts_eq_singleton {part : List Char} (hdots : '.' ∉ part) :
    dotParts part = [part] := by
  induction part with
  | nil => rfl
  | cons c cs ih =>
    rw [List.mem_cons, not_or] at hdots
    rw [dotParts, if_neg (Ne.symm hdots.1), ih hdots.2]

/-- The first part ends at the first dot. -/
theorem dotParts_append_dot {part : List Char} (hdots : '.' ∉ part) (rest : List Char) :
    dotParts (part ++ '.' :: rest) = part :: dotParts rest := by
  induction part with
  | nil => simp [dotParts]
  | cons c cs ih =>
    rw [List.mem_cons, not_or] at hdots
    rw [List.cons_append, dotParts, if_neg (Ne.symm hdots.1), ih hdots.2]

/-- The shape of version numbers, without the way in which a text is taken apart. -/
theorem isVersion_iff {text : String} : isVersion text = true ↔ IsVersionText text := by
  constructor
  · intro hversion
    simp only [isVersion, Bool.and_eq_true, beq_iff_eq, List.all_eq_true] at hversion
    obtain ⟨hlength, hruns⟩ := hversion
    obtain ⟨major, minor, patch, hparts⟩ := List.length_eq_three.mp hlength
    have hdigits : ∀ part ∈ [major, minor, patch], IsDigits part := fun part hpart =>
      isDigitRun_iff.mp (hruns part (hparts ▸ hpart))
    refine ⟨major, minor, patch, hdigits _ (by simp), hdigits _ (by simp), hdigits _ (by simp), ?_⟩
    rw [← intercalate_dotParts text.toList, hparts]
    simp [List.intercalate]
  · rintro ⟨major, minor, patch, hmajor, hminor, hpatch, htext⟩
    have hparts : dotParts text.toList = [major, minor, patch] := by
      rw [htext, dotParts_append_dot hmajor.dot_notMem, dotParts_append_dot hminor.dot_notMem,
        dotParts_eq_singleton hpatch.dot_notMem]
    simp [isVersion, hparts, isDigitRun_iff.mpr hmajor, isDigitRun_iff.mpr hminor,
      isDigitRun_iff.mpr hpatch]

/-! ### Blocks -/

/-- What a block has under a name. A block that is no object has nothing. -/
def blockField? (name : String) (metadata : Option Json.Value) : Option Json.Value :=
  metadata.bind (Json.Value.field? name)

/-- The block has a text under the name, and the text is not blank. -/
def Declares (metadata : Option Json.Value) (name text : String) : Prop :=
  blockField? name metadata = some (.string text) ∧ Text.isBlankText text = false

/-- The value is absent or null, or it is a list of texts and of nothing else. -/
def IsTextList (value : Option Json.Value) : Prop :=
  value = none ∨ value = some .null ∨ ∃ texts : List String, value = some (.strings texts)

/-- The texts in a list, whatever else there is in it; a value that is no list has none. -/
def textsOf : Option Json.Value → List String
  | some (.array items) => items.filterMap Json.Value.string?
  | _ => []

/-- There is no metadata to speak of: the block is absent or null, or it is an object with neither a
version nor a status. -/
def IsSilent (metadata : Option Json.Value) : Prop :=
  metadata = none ∨ metadata = some .null ∨
    ∃ fields : Fields Json.Value, metadata = some (.object fields) ∧
      "version" ∉ fields.names ∧ "status" ∉ fields.names

/-- The names of the statuses that an item may declare. -/
def declarable : List String :=
  ["draft", "stable", "deprecated"]

/-- The block says which item it is about, and it is another one. -/
def IsAboutOther (id : String) (metadata : Option Json.Value) : Prop :=
  ∃ declared, Declares metadata "id" declared ∧ declared ≠ id

/-- The block has every field that it should have, and each of its fields is what it should be. -/
structure IsSound (id : String) (metadata : Option Json.Value) : Prop where
  id : Declares metadata "id" id
  title : ∃ title, Declares metadata "title" title
  version : ∃ version, Declares metadata "version" version ∧ IsVersionText version
  status : ∃ status ∈ declarable, Declares metadata "status" status
  tags : IsTextList (blockField? "tags" metadata)
  useCases : IsTextList (blockField? "use_cases" metadata)
  dependencies : blockField? "dependencies" metadata = none ∨
    blockField? "dependencies" metadata = some .null ∨
    ∃ fields, blockField? "dependencies" metadata = some (.object fields) ∧
      IsTextList (Fields.find? "partials" fields)

/-- The value is the text that the block declares under the name, and the other one if it declares
none. -/
def IsDeclaredOr (metadata : Option Json.Value) (name fallback value : String) : Prop :=
  Declares metadata name value ∨ (∀ text, ¬Declares metadata name text) ∧ value = fallback

/-- What a judgement takes from a block that is not silent, and what it fills in. -/
structure Judgement.IsEmbedded (id title : String) (metadata : Option Json.Value)
    (judgement : Judgement) : Prop where
  id : judgement.profile.id = id
  title : IsDeclaredOr metadata "title" title judgement.profile.title
  version : IsDeclaredOr metadata "version" "0.0.0" judgement.profile.version
  /-- A status that no item may declare counts for nothing. -/
  status : judgement.profile.status.name ∈ declarable ∧
      Declares metadata "status" judgement.profile.status.name ∨
    (∀ status ∈ declarable, ¬Declares metadata "status" status) ∧
      judgement.profile.status = .draft
  status_ne : judgement.profile.status ≠ .legacy
  tags : judgement.profile.tags = textsOf (blockField? "tags" metadata)
  useCases : judgement.profile.useCases = textsOf (blockField? "use_cases" metadata)
  partials : judgement.partials =
    textsOf (blockField? "partials" (blockField? "dependencies" metadata))
  origin : judgement.profile.origin = .embedded
  group : judgement.profile.group = none
  visibility : judgement.profile.visibility = none

/-- The state of an item whose block is not silent. -/
def Judgement.HasOwnState (id : String) (metadata : Option Json.Value) (judgement : Judgement) :
    Prop :=
  IsAboutOther id metadata ∧ judgement.profile.state = .invalid ∨
    ¬IsAboutOther id metadata ∧ IsSound id metadata ∧ judgement.profile.state = .active ∨
    ¬IsAboutOther id metadata ∧ ¬IsSound id metadata ∧ judgement.profile.state = .warning

/-- The judgement is the one that the block calls for. -/
structure Judgement.Classifies (id title : String) (metadata : Option Json.Value)
    (judgement : Judgement) : Prop where
  legacy_iff : judgement.profile.state = .legacy ↔ IsSilent metadata
  /-- All there is to a legacy item is its id and its title. -/
  legacy : IsSilent metadata → judgement =
    { profile :=
        { id, title, version := "0.0.0", status := .legacy, tags := [], useCases := [],
          state := .legacy, origin := .legacy, group := none, visibility := none }
      partials := []
      issues := [] }
  embedded : ¬IsSilent metadata → judgement.IsEmbedded id title metadata
  invalid_iff : judgement.profile.state = .invalid ↔ ¬IsSilent metadata ∧ IsAboutOther id metadata
  active_iff : judgement.profile.state = .active ↔ IsSound id metadata
  /-- Every remaining case is a warning. -/
  warning_iff : judgement.profile.state = .warning ↔
    ¬IsSilent metadata ∧ ¬IsAboutOther id metadata ∧ ¬IsSound id metadata
  issues_iff : ¬IsSilent metadata → (judgement.issues = [] ↔ judgement.profile.state = .active)

/-! ### The checks -/

variable {fields : Fields Json.Value} {name text : String} {value : Option Json.Value}

/-- A text is found exactly if the block declares it. -/
theorem textField_fst_eq_some_iff :
    (textField fields name).1 = some text ↔ Declares (some (.object fields)) name text := by
  show _ ↔ fields.find? name = some (.string text) ∧ _
  unfold textField
  cases fields.find? name with
  | none => simp
  | some value =>
    cases value with
    | string declared =>
      cases hblank : Text.isBlankText declared with
      | true =>
        suffices declared = text → Text.isBlankText text = true by simpa [hblank]
        rintro rfl
        exact hblank
      | false =>
        suffices declared = text → Text.isBlankText text = false by simpa [hblank]
        rintro rfl
        exact hblank
    | null | bool b | number n | array items | object fields => simp

/-- No check complains about a text exactly if the block declares one. -/
theorem textField_snd_eq_nil_iff :
    (textField fields name).2 = [] ∧ isAbsent fields name = false ↔
      ∃ text, Declares (some (.object fields)) name text := by
  simp only [← textField_fst_eq_some_iff]
  unfold textField isAbsent
  cases fields.find? name with
  | none => simp
  | some value =>
    cases value with
    | string text => cases hblank : Text.isBlankText text <;> simp [hblank]
    | null | bool b | number n | array items | object fields => simp

theorem textList_fst (value : Option Json.Value) (name : String) :
    (textList value name).1 = textsOf value := by
  unfold textList textsOf
  split <;> simp_all

/-- A list in which every member is a text is made from texts. -/
theorem exists_texts_iff {items : List Json.Value} :
    (∃ texts : List String, items = texts.map .string) ↔ ∀ item ∈ items, ¬item.string? = none := by
  constructor
  · rintro ⟨texts, rfl⟩ item hitem
    obtain ⟨text, -, rfl⟩ := List.mem_map.mp hitem
    exact nofun
  · intro htexts
    induction items with
    | nil => exact ⟨[], rfl⟩
    | cons item items ih =>
      rw [List.forall_mem_cons] at htexts
      obtain ⟨texts, rfl⟩ := ih htexts.2
      cases item with
      | string text => exact ⟨text :: texts, rfl⟩
      | null | bool b | number n | array members | object fields => exact (htexts.1 rfl).elim

theorem textList_snd_eq_nil_iff : (textList value name).2 = [] ↔ IsTextList value := by
  unfold IsTextList
  cases value with
  | none => simp [textList]
  | some value =>
    cases value with
    | array items => simp [textList, Json.Value.strings, exists_texts_iff]
    | null | bool b | number n | string text | object fields =>
      simp [textList, Json.Value.strings]

theorem dependencyPartials_fst (fields : Fields Json.Value) :
    (dependencyPartials fields).1 =
      textsOf (blockField? "partials" (fields.find? "dependencies")) := by
  unfold dependencyPartials
  cases fields.find? "dependencies" with
  | none => rfl
  | some value =>
    cases value with
    | object dependencies => exact textList_fst _ _
    | null | bool b | number n | string text | array items => rfl

theorem dependencyPartials_snd_eq_nil_iff :
    (dependencyPartials fields).2 = [] ↔
      fields.find? "dependencies" = none ∨ fields.find? "dependencies" = some .null ∨
        ∃ dependencies, fields.find? "dependencies" = some (.object dependencies) ∧
          IsTextList (Fields.find? "partials" dependencies) := by
  unfold dependencyPartials
  cases fields.find? "dependencies" with
  | none => simp
  | some value =>
    cases value with
    | object dependencies => simp [textList_snd_eq_nil_iff]
    | null | bool b | number n | string text | array items => simp

theorem missingFields_eq_nil_iff :
    missingFields fields = [] ↔
      isAbsent fields "id" = false ∧ isAbsent fields "title" = false ∧
        isAbsent fields "version" = false ∧ isAbsent fields "status" = false := by
  simp [missingFields]

/-- The names of the statuses that an item may declare are those that are found. -/
theorem mem_declarable_iff {raw : String} :
    raw ∈ declarable ↔ ∃ status, Status.ofDeclared? raw = some status := by
  constructor
  · intro hraw
    simp only [declarable, List.mem_cons, List.not_mem_nil, or_false] at hraw
    rcases hraw with rfl | rfl | rfl
    · exact ⟨.draft, rfl⟩
    · exact ⟨.stable, rfl⟩
    · exact ⟨.deprecated, rfl⟩
  · rintro ⟨status, hstatus⟩
    have hname : status.name = raw := by simpa using List.find?_some hstatus
    have hmem := List.mem_of_find?_eq_some hstatus
    rw [← hname]
    revert hmem
    cases status <;> decide

theorem declaredStatus_snd_eq_nil_iff {raw : Option String} :
    (declaredStatus raw).2 = [] ↔ ∀ text, raw = some text → text ∈ declarable := by
  cases raw with
  | none => simp [declaredStatus]
  | some text =>
    simp only [Option.some.injEq, forall_eq', mem_declarable_iff]
    cases hstatus : Status.ofDeclared? text <;> simp [declaredStatus, hstatus]

/-- The status is the declared one, and a draft if that is none that an item may declare. -/
theorem declaredStatus_fst (raw : Option String) :
    (∃ text ∈ raw, text ∈ declarable ∧ (declaredStatus raw).1.name = text) ∨
      (∀ text ∈ raw, text ∉ declarable) ∧ (declaredStatus raw).1 = .draft := by
  cases raw with
  | none => exact .inr ⟨nofun, rfl⟩
  | some text =>
    cases hstatus : Status.ofDeclared? text with
    | none =>
      have hnot : text ∉ declarable := by simp [mem_declarable_iff, hstatus]
      exact .inr ⟨by simpa using hnot, by simp [declaredStatus, hstatus]⟩
    | some status =>
      have hname : status.name = text := by simpa using List.find?_some hstatus
      exact .inl ⟨text, rfl, mem_declarable_iff.mpr ⟨status, hstatus⟩, by
        simp [declaredStatus, hstatus, hname]⟩

/-! ### The fields of a block -/

/-- A field has at most one text. -/
theorem Declares.unique {metadata : Option Json.Value} {other : String}
    (htext : Declares metadata name text) (hother : Declares metadata name other) :
    text = other := by
  have hsame := htext.1.symm.trans hother.1
  simpa using hsame

/-- The text that is found, or else the one that is filled in. -/
theorem isDeclaredOr_textField (fields : Fields Json.Value) (name fallback : String) :
    IsDeclaredOr (some (.object fields)) name fallback
      ((textField fields name).1.getD fallback) := by
  cases hfound : (textField fields name).1 with
  | none =>
    refine .inr ⟨fun text hdeclared => ?_, rfl⟩
    rw [textField_fst_eq_some_iff.mpr hdeclared] at hfound
    cases hfound
  | some text => exact .inl (textField_fst_eq_some_iff.mp hfound)

namespace Judgement

variable {id title : String}

theorem otherIds_eq_nil_iff {declared : Option String} :
    (declared.toList.filter fun d => d ≠ id).map (fun d => Issue.otherId d id) = [] ↔
      ∀ text, declared = some text → text = id := by
  cases declared <;> simp

theorem badVersions_eq_nil_iff {version : Option String} :
    (version.toList.filter fun v => !isVersion v).map Issue.badVersion = [] ↔
      ∀ text, version = some text → IsVersionText text := by
  cases version <;> simp [isVersion_iff]

/-- The block is about another item exactly if there is an issue with its id. -/
theorem otherIds_ne_nil_iff :
    ((textField fields "id").1.toList.filter fun d => d ≠ id).map
        (fun d => Issue.otherId d id) ≠ [] ↔
      IsAboutOther id (some (.object fields)) := by
  rw [ne_eq, otherIds_eq_nil_iff]
  simp [textField_fst_eq_some_iff, IsAboutOther]

/-- No check complains exactly if the block is sound. -/
theorem issues_ofFields_eq_nil_iff :
    (ofFields id title fields).issues = [] ↔ IsSound id (some (.object fields)) := by
  simp only [ofFields, List.append_eq_nil_iff, missingFields_eq_nil_iff, textList_snd_eq_nil_iff,
    dependencyPartials_snd_eq_nil_iff, declaredStatus_snd_eq_nil_iff, otherIds_eq_nil_iff,
    badVersions_eq_nil_iff, textField_fst_eq_some_iff]
  constructor
  · rintro ⟨⟨⟨⟨⟨⟨⟨⟨⟨⟨hid, htitle⟩, hversion⟩, hstatus⟩, htags⟩, huses⟩, hpartials⟩, hmissing⟩,
      hshape⟩, hdeclarable⟩, hsame⟩
    obtain ⟨declared, hdeclared⟩ := textField_snd_eq_nil_iff.mp ⟨hid, hmissing.1⟩
    obtain ⟨version, hfound⟩ := textField_snd_eq_nil_iff.mp ⟨hversion, hmissing.2.2.1⟩
    obtain ⟨status, hraw⟩ := textField_snd_eq_nil_iff.mp ⟨hstatus, hmissing.2.2.2⟩
    exact
      { id := hsame declared hdeclared ▸ hdeclared
        title := textField_snd_eq_nil_iff.mp ⟨htitle, hmissing.2.1⟩
        version := ⟨version, hfound, hshape version hfound⟩
        status := ⟨status, hdeclarable status hraw, hraw⟩
        tags := htags
        useCases := huses
        dependencies := hpartials }
  · intro hsound
    obtain ⟨version, hversion, hshape⟩ := hsound.version
    obtain ⟨status, hdeclarable, hstatus⟩ := hsound.status
    have hid := textField_snd_eq_nil_iff.mpr ⟨id, hsound.id⟩
    have htitle := textField_snd_eq_nil_iff.mpr hsound.title
    have hnumber := textField_snd_eq_nil_iff.mpr ⟨version, hversion⟩
    have hraw := textField_snd_eq_nil_iff.mpr ⟨status, hstatus⟩
    -- A field has one text only, so what holds of the declared text holds of the text found.
    exact ⟨⟨⟨⟨⟨⟨⟨⟨⟨⟨hid.1, htitle.1⟩, hnumber.1⟩, hraw.1⟩, hsound.tags⟩, hsound.useCases⟩,
      hsound.dependencies⟩, hid.2, htitle.2, hnumber.2, hraw.2⟩,
      fun text htext => htext.unique hversion ▸ hshape⟩,
      fun text htext => htext.unique hstatus ▸ hdeclarable⟩,
      fun text htext => htext.unique hsound.id⟩

theorem hasOwnState_ofFields (id title : String) (fields : Fields Json.Value) :
    (ofFields id title fields).HasOwnState id (some (.object fields)) := by
  unfold HasOwnState
  rw [← otherIds_ne_nil_iff, ← @issues_ofFields_eq_nil_iff fields id title]
  simp only [ofFields]
  split
  · next hother => exact .inl ⟨hother, rfl⟩
  · next hother =>
    refine .inr ?_
    split
    · next hnone => exact .inl ⟨hother, hnone, rfl⟩
    · next hsome => exact .inr ⟨hother, hsome, rfl⟩

theorem isEmbedded_ofFields (id title : String) (fields : Fields Json.Value) :
    (ofFields id title fields).IsEmbedded id title (some (.object fields)) := by
  have hstatus : (ofFields id title fields).profile.status.name ∈ declarable ∧
        Declares (some (.object fields)) "status" (ofFields id title fields).profile.status.name ∨
      (∀ status ∈ declarable, ¬Declares (some (.object fields)) "status" status) ∧
        (ofFields id title fields).profile.status = .draft := by
    show (declaredStatus (textField fields "status").1).1.name ∈ declarable ∧ _ ∨ _
    rcases declaredStatus_fst (textField fields "status").1 with
      ⟨text, hfound, hmem, hname⟩ | ⟨hnone, hdraft⟩
    · refine .inl ⟨hname ▸ hmem, ?_⟩
      exact hname ▸ textField_fst_eq_some_iff.mp hfound
    · refine .inr ⟨fun status hmem hdeclared => ?_, hdraft⟩
      exact hnone status (textField_fst_eq_some_iff.mpr hdeclared) hmem
  exact
    { id := rfl
      title := isDeclaredOr_textField fields "title" title
      version := isDeclaredOr_textField fields "version" "0.0.0"
      status := hstatus
      status_ne := by
        rcases hstatus with ⟨hmem, -⟩ | ⟨-, hdraft⟩
        · intro hlegacy
          rw [hlegacy] at hmem
          exact absurd hmem (by decide)
        · rw [hdraft]
          exact nofun
      tags := textList_fst _ _
      useCases := textList_fst _ _
      partials := dependencyPartials_fst fields
      origin := rfl
      group := rfl
      visibility := rfl }

end Judgement

/-! ### Whole blocks -/

/-- A sound block is about the item. -/
theorem IsSound.not_isAboutOther {id : String} {metadata : Option Json.Value}
    (hsound : IsSound id metadata) : ¬IsAboutOther id metadata := by
  rintro ⟨declared, hdeclared, hne⟩
  exact hne (hdeclared.unique hsound.id)

/-- An object that declares something under a name has the name. -/
theorem Declares.mem_names (hdeclared : Declares (some (.object fields)) name text) :
    name ∈ fields.names :=
  List.mem_map_of_mem (f := Prod.fst) (Fields.mem_of_find? hdeclared.1)

/-- A silent block declares no version. -/
theorem IsSilent.not_declares_version {metadata : Option Json.Value} (hsilent : IsSilent metadata) :
    ¬Declares metadata "version" text := by
  intro hdeclared
  rcases hsilent with rfl | rfl | ⟨fields, rfl, hversion, -⟩
  · cases hdeclared.1
  · cases hdeclared.1
  · exact hversion hdeclared.mem_names

theorem IsSound.not_isSilent {id : String} {metadata : Option Json.Value}
    (hsound : IsSound id metadata) : ¬IsSilent metadata := fun hsilent =>
  have ⟨_, hversion, _⟩ := hsound.version
  hsilent.not_declares_version hversion

/-- An object is silent if it has neither a version nor a status. -/
theorem isSilent_object_iff :
    IsSilent (some (.object fields)) ↔ "version" ∉ fields.names ∧ "status" ∉ fields.names := by
  simp [IsSilent]

namespace Judgement

variable {id title : String} {metadata : Option Json.Value}

/-- An item is a legacy item in all respects if its block is silent. -/
theorem classifies_legacy (hsilent : IsSilent metadata) :
    (legacy id title).Classifies id title metadata where
  legacy_iff := ⟨fun _ => hsilent, fun _ => rfl⟩
  legacy _ := rfl
  embedded hnot := absurd hsilent hnot
  invalid_iff := ⟨nofun, fun h => absurd hsilent h.1⟩
  active_iff := ⟨nofun, fun hsound => absurd hsilent hsound.not_isSilent⟩
  warning_iff := ⟨nofun, fun h => absurd hsilent h.1⟩
  issues_iff hnot := absurd hsilent hnot

/-- If a block is not silent, the state and the issues tell whether it is sound. -/
theorem Classifies.of_hasOwnState {judgement : Judgement} (hnot : ¬IsSilent metadata)
    (hembedded : judgement.IsEmbedded id title metadata)
    (hstate : judgement.HasOwnState id metadata)
    (hissues : judgement.issues = [] ↔ IsSound id metadata) :
    judgement.Classifies id title metadata := by
  have hapart : IsAboutOther id metadata → ¬IsSound id metadata :=
    fun habout hsound => hsound.not_isAboutOther habout
  rcases hstate with ⟨habout, hstate⟩ | ⟨habout, hsound, hstate⟩ | ⟨habout, hsound, hstate⟩
  · exact ⟨by simp [hstate, hnot], fun hsilent => absurd hsilent hnot, fun _ => hembedded,
      by simp [hstate, hnot, habout], by simp [hstate, hapart habout],
      by simp [hstate, habout], by simp [hstate, hissues, hapart habout]⟩
  · exact ⟨by simp [hstate, hnot], fun hsilent => absurd hsilent hnot, fun _ => hembedded,
      by simp [hstate, habout], by simp [hstate, hsound], by simp [hstate, hsound],
      by simp [hstate, hissues, hsound]⟩
  · exact ⟨by simp [hstate, hnot], fun hsilent => absurd hsilent hnot, fun _ => hembedded,
      by simp [hstate, habout], by simp [hstate, hsound], by simp [hstate, hnot, habout, hsound],
      by simp [hstate, hissues, hsound]⟩

end Judgement

/-- A block that is no object has no fields. -/
theorem blockField?_eq_none {block : Json.Value}
    (hobject : ∀ fields, block ≠ .object fields) : blockField? name (some block) = none := by
  cases block with
  | object fields => exact absurd rfl (hobject fields)
  | null | bool b | number n | string text | array items => rfl

/-- A block that is neither null nor an object has no fields to take anything from, and that is a
warning. -/
theorem classifies_of_not_object (id title : String) {block : Json.Value} (hnull : block ≠ .null)
    (hobject : ∀ fields, block ≠ .object fields) :
    (judge id title (some block)).Classifies id title (some block) := by
  have hjudge : judge id title (some block) =
      { profile :=
          { id, title, version := legacyVersion, status := .draft, tags := [], useCases := [],
            state := .warning, origin := .embedded, group := none, visibility := none }
        partials := []
        issues := [.notAMapping] } := by
    cases block with
    | null => exact absurd rfl hnull
    | object fields => exact absurd rfl (hobject fields)
    | bool b | number n | string text | array items => rfl
  -- Without fields nothing is declared, so nothing is sound and no other item is named.
  have hnone : ∀ name, blockField? name (some block) = none := fun name =>
    blockField?_eq_none hobject
  have hdeclares : ∀ name text, ¬Declares (some block) name text := fun name text hdeclared =>
    absurd ((hnone name).symm.trans hdeclared.1) nofun
  have hunsound : ¬IsSound id (some block) := fun hsound => hdeclares _ _ hsound.id
  have habout : ¬IsAboutOther id (some block) := fun ⟨text, hdeclared, _⟩ =>
    hdeclares _ _ hdeclared
  rw [hjudge]
  refine .of_hasOwnState ?_ ?_ (.inr (.inr ⟨habout, hunsound, rfl⟩)) (by simp [hunsound])
  · rintro (hsilent | hsilent | ⟨fields, hsilent, -⟩)
    · cases hsilent
    · exact hnull (Option.some.inj hsilent)
    · exact hobject fields (Option.some.inj hsilent)
  · exact
      { id := rfl
        title := .inr ⟨hdeclares _, rfl⟩
        version := .inr ⟨hdeclares _, rfl⟩
        status := .inr ⟨fun status _ => hdeclares _ status, rfl⟩
        status_ne := nofun
        tags := by rw [hnone]; rfl
        useCases := by rw [hnone]; rfl
        partials := by rw [hnone]; rfl
        origin := rfl
        group := rfl
        visibility := rfl }

/-- An object that is silent counts for nothing. -/
theorem judge_of_isSilent (id title : String) (hsilent : IsSilent (some (.object fields))) :
    judge id title (some (.object fields)) = .legacy id title := by
  obtain ⟨hversion, hstatus⟩ := isSilent_object_iff.mp hsilent
  rw [judge, Fields.has_eq_false_iff.mpr hversion, Fields.has_eq_false_iff.mpr hstatus]
  rfl

/-- An object that is not silent is judged by its fields. -/
theorem judge_of_not_isSilent (id title : String) (hnot : ¬IsSilent (some (.object fields))) :
    judge id title (some (.object fields)) = .ofFields id title fields := by
  have hnames : (Fields.has "version" fields || Fields.has "status" fields) = true := by
    rw [isSilent_object_iff, not_and_or, not_not, not_not] at hnot
    simpa [Fields.has_iff] using hnot
  rw [judge, if_pos hnames]

/-- An item is invalid if its block is about another item, unless the block is silent. -/
theorem state_judge_eq_invalid_iff (id title : String) (metadata : Option Json.Value) :
    (judge id title metadata).profile.state = .invalid ↔
      ¬IsSilent metadata ∧ IsAboutOther id metadata := by
  rcases metadata with _ | block
  · exact ⟨nofun, fun h => absurd (.inl rfl) h.1⟩
  by_cases hnull : block = .null
  · subst hnull
    exact ⟨nofun, fun h => absurd (.inr (.inl rfl)) h.1⟩
  by_cases hobject : ∀ fields, block ≠ .object fields
  · exact (classifies_of_not_object id title hnull hobject).invalid_iff
  obtain ⟨fields, hfields⟩ := not_forall.mp hobject
  obtain rfl := not_not.mp hfields
  by_cases hsilent : IsSilent (some (.object fields))
  · rw [judge_of_isSilent id title hsilent]
    exact ⟨nofun, fun h => absurd hsilent h.1⟩
  · rw [judge_of_not_isSilent id title hsilent]
    rcases Judgement.hasOwnState_ofFields id title fields with
      ⟨habout, hstate⟩ | ⟨habout, -, hstate⟩ | ⟨habout, -, hstate⟩
    · simp [hstate, habout, hsilent]
    · simp [hstate, habout]
    · simp [hstate, habout]

/-- Every judgement is the one that its block calls for. -/
theorem judge_classifies (id title : String) (metadata : Option Json.Value) :
    (judge id title metadata).Classifies id title metadata := by
  rcases metadata with _ | block
  · exact Judgement.classifies_legacy (.inl rfl)
  by_cases hnull : block = .null
  · subst hnull
    exact Judgement.classifies_legacy (.inr (.inl rfl))
  by_cases hobject : ∀ fields, block ≠ .object fields
  · exact classifies_of_not_object id title hnull hobject
  obtain ⟨fields, hfields⟩ := not_forall.mp hobject
  obtain rfl := not_not.mp hfields
  rw [judge]
  split
  · -- A version or a status is there, so the fields are checked one by one.
    next hnames =>
    have hnot : ¬IsSilent (some (.object fields)) := fun hsilent => by
      obtain ⟨hversion, hstatus⟩ := isSilent_object_iff.mp hsilent
      simp [Fields.has_eq_false_iff.mpr hversion, Fields.has_eq_false_iff.mpr hstatus] at hnames
    exact .of_hasOwnState hnot (Judgement.isEmbedded_ofFields id title fields)
      (Judgement.hasOwnState_ofFields id title fields) Judgement.issues_ofFields_eq_nil_iff
  · next hnames =>
    rw [Bool.or_eq_true, not_or, Bool.not_eq_true, Bool.not_eq_true] at hnames
    exact Judgement.classifies_legacy (isSilent_object_iff.mpr
      ⟨Fields.has_eq_false_iff.mp hnames.1, Fields.has_eq_false_iff.mp hnames.2⟩)

end TemplateCatalog.Item
