import TemplateCatalog.Item.Document
import TemplateCatalog.Proofs.Item.Classification
import TemplateCatalog.Proofs.Text.Trimmed

/-!
# Ids as they are written

A document and its metadata block may both say which item they are about. The blank space around the
id of the document is dropped before the two are compared, and the blank space around the id of the
block is not. So what makes an item invalid is a declared id that is not the trimmed id of the
document, and two ids that are written alike make an item invalid if there is blank space around
them.

The module introduces:

* `HasBlankEnd`: a text starts or ends with blank space.

Main statements:

* `Document.state_of_validate_eq_invalid_iff`: what makes the item of a document invalid.
* `Document.same_ids`: a document and a block with the same id make an invalid item only if there is
  blank space around the id.
-/

namespace TemplateCatalog.Item

/-- The text starts or ends with blank space. -/
def HasBlankEnd (text : String) : Prop :=
  ∃ c, (text.toList.head? = some c ∨ text.toList.getLast? = some c) ∧ Text.isBlank c = true

theorem not_hasBlankEnd_iff {text : String} : ¬HasBlankEnd text ↔ Text.IsTrimmed text := by
  constructor
  · intro hnone
    exact ⟨fun c hc => by simpa using fun hblank => hnone ⟨c, .inl hc, hblank⟩,
      fun c hc => by simpa using fun hblank => hnone ⟨c, .inr hc, hblank⟩⟩
  · rintro htrimmed ⟨c, hc | hc, hblank⟩
    · exact absurd (htrimmed.first c hc) (by simp [hblank])
    · exact absurd (htrimmed.last c hc) (by simp [hblank])

/-- Trimming changes a text exactly if there is blank space around it. -/
theorem trim_ne_self_iff {text : String} : text ≠ Text.trim text ↔ HasBlankEnd text := by
  rw [← not_not (a := HasBlankEnd text), not_hasBlankEnd_iff, ← Text.trim_eq_self_iff, ne_comm]

namespace Document

variable {document : Document} {written : String}

/-- An id that is not blank is the id of an item, without the blank space around it. -/
theorem itemId?_of_written (hid : document.id = some written)
    (hblank : Text.isBlankText written = false) :
    document.itemId? = some (Text.trim written) := by
  have hleft : Text.trim written ≠ "" := fun hempty => by
    rw [Text.trim_eq_empty_iff.mp hempty] at hblank
    cases hblank
  simp [itemId?, hid, hleft]

/-- The id of an item is written in its document. -/
theorem exists_written_of_itemId? {id : String} (hid : document.itemId? = some id) :
    ∃ written, document.id = some written ∧ Text.trim written = id := by
  unfold itemId? at hid
  cases hwritten : document.id with
  | none => simp [hwritten] at hid
  | some written =>
    rw [hwritten, Option.map_some] at hid
    split at hid
    · next trimmed htrim =>
      cases htrim
      split at hid
      · cases hid
      · exact ⟨written, rfl, Option.some.inj hid⟩
    · cases hid

/-- A document with an id and a template makes an item. -/
theorem exists_validate (hid : document.id = some written)
    (hblank : Text.isBlankText written = false) {template : String}
    (htemplate : document.template = some template) :
    ∃ item, document.validate = .ok item := by
  rw [validate, itemId?_of_written hid hblank, htemplate]
  exact ⟨_, rfl⟩

/-- The judgement of an item is about the trimmed id of its document. -/
theorem judgement_eq_of_validate {item : Validated} (hitem : document.validate = .ok item) :
    ∃ written title, document.id = some written ∧
      item.judgement = judge (Text.trim written) title document.metadata := by
  unfold validate at hitem
  split at hitem
  · cases hitem
  · next id hid =>
    obtain ⟨written, hwritten, rfl⟩ := exists_written_of_itemId? hid
    split at hitem
    · cases hitem
    · cases hitem
      exact ⟨written, _, hwritten, rfl⟩

/-- An item is invalid if its block is not silent and declares an id that is not the trimmed id of
the document. -/
theorem state_of_validate_eq_invalid_iff {item : Validated} (hitem : document.validate = .ok item) :
    item.judgement.profile.state = .invalid ↔
      ¬IsSilent document.metadata ∧ ∃ written declared, document.id = some written ∧
        Declares document.metadata "id" declared ∧ declared ≠ Text.trim written := by
  obtain ⟨written, title, hwritten, hjudgement⟩ := judgement_eq_of_validate hitem
  rw [hjudgement, state_judge_eq_invalid_iff]
  simp [hwritten, IsAboutOther]

/-- A document and a block with the same id make an item, which is invalid exactly if there is blank
space around the id and the block is not silent. In any document, ids that are written alike make an
item invalid for this reason only. -/
theorem same_ids (document : Document) :
    (∀ written template fields, document.id = some written → Text.isBlankText written = false →
      document.template = some template → document.metadata = some (.object fields) →
        Fields.find? "id" fields = some (.string written) →
          ∃ item, document.validate = .ok item ∧
            (item.judgement.profile.state = .invalid ↔
              ("version" ∈ Fields.names fields ∨ "status" ∈ Fields.names fields) ∧
                HasBlankEnd written)) ∧
      ∀ item, document.validate = .ok item → item.judgement.profile.state = .invalid →
        ∃ written declared, document.id = some written ∧
          Declares document.metadata "id" declared ∧
            (declared = written → HasBlankEnd written) := by
  refine ⟨fun written template fields hid hblank htemplate hmetadata hsame => ?_,
    fun item hitem hinvalid => ?_⟩
  · obtain ⟨item, hitem⟩ := exists_validate hid hblank htemplate
    have hdeclares : Declares document.metadata "id" written := ⟨hmetadata ▸ hsame, hblank⟩
    -- The id of the block is compared as it is written, with that of the document trimmed.
    have hother : (∃ other declared, document.id = some other ∧
        Declares document.metadata "id" declared ∧ declared ≠ Text.trim other) ↔
          HasBlankEnd written := by
      rw [← trim_ne_self_iff]
      constructor
      · rintro ⟨other, declared, hother, hdeclared, hne⟩
        obtain rfl : written = other := Option.some.inj (hid.symm.trans hother)
        exact hdeclared.unique hdeclares ▸ hne
      · exact fun hne => ⟨written, written, hid, hdeclares, hne⟩
    refine ⟨item, hitem, ?_⟩
    rw [state_of_validate_eq_invalid_iff hitem, hother, hmetadata, isSilent_object_iff,
      not_and_or, not_not, not_not]
  · obtain ⟨-, written, declared, hid, hdeclared, hne⟩ :=
      (state_of_validate_eq_invalid_iff hitem).mp hinvalid
    refine ⟨written, declared, hid, hdeclared, ?_⟩
    rintro rfl
    exact trim_ne_self_iff.mp hne

/-- Blank space within an id does no harm. -/
theorem same_ids_of_inner_blank :
    let document : Document :=
      { id := some "a b", title := none, description := none, arguments := [],
        template := some "hello",
        metadata := some (.object [("id", .string "a b"), ("version", .string "1.0.0")]) }
    Text.isBlankText "a b" = false ∧ ∃ item, document.validate = .ok item ∧
      item.judgement.profile.state ≠ .invalid := by
  intro document
  have hblank : Text.isBlankText "a b" = false := by decide
  obtain ⟨item, hitem, hinvalid⟩ :=
    (same_ids document).1 "a b" "hello" _ rfl hblank rfl rfl rfl
  refine ⟨hblank, item, hitem, fun hstate => ?_⟩
  have htrimmed : ¬HasBlankEnd "a b" :=
    not_hasBlankEnd_iff.mpr (Text.trim_eq_self_iff.mp (by decide))
  exact htrimmed (hinvalid.mp hstate).2

/-- The document and its block have the same id, with blank space around it, and nothing else is
wrong with either of them. -/
theorem invalid_of_same_padded_ids :
    let text := "\x7b\"id\": \" a \", \"title\": \"A\", \"template\": \"hello\", \"metadata\": " ++
      "\x7b\"id\": \" a \", \"title\": \"A\", \"version\": \"1.0.0\", \"status\": \"stable\"\x7d\x7d"
    ∃ document item, parse? .json text = some document ∧ document.id = some " a " ∧
      blockField? "id" document.metadata = some (.string " a ") ∧
      document.validate = .ok item ∧ item.judgement.profile.state = .invalid ∧
      item.judgement.issues = [.otherId " a " "a"] := by
  intro text
  have hread : (parse? .json text).map (fun document =>
      (document.id, (blockField? "id" document.metadata).bind Json.Value.string?,
        document.validate.toOption.map fun item =>
          (item.judgement.profile.state, item.judgement.issues))) =
      some (some " a ", some " a ", some (.invalid, [.otherId " a " "a"])) := by
    decide +kernel
  obtain ⟨document, hparse, hdocument⟩ := Option.map_eq_some_iff.mp hread
  simp only [Prod.mk.injEq, Option.bind_eq_some_iff, Option.map_eq_some_iff] at hdocument
  obtain ⟨hid, ⟨value, hvalue, htext⟩, item, hitem, hstate, hissues⟩ := hdocument
  have hvalidate : document.validate = .ok item := by
    cases hresult : document.validate with
    | error defect => simp [hresult, Except.toOption] at hitem
    | ok found => simpa [hresult, Except.toOption] using hitem
  have hstring : value = .string " a " := by
    cases value with
    | string written => exact congrArg Json.Value.string (Option.some.inj htext)
    | null | bool b | number n | array items | object fields => cases htext
  exact ⟨document, item, hparse, hid, hstring ▸ hvalue, hvalidate, hstate, hissues⟩

end Document

end TemplateCatalog.Item
