import TemplateCatalog.Item.Document
import TemplateCatalog.Proofs.Fields

/-!
# What decoders yield

Whatever the text of a document is, the fields that a decoder finds in it come out in ascending
order and without repetition: a name that is written twice has one value, the later one. So every
item has at most one declaration for each of its arguments.

The module introduces:

* `Decode.Yields`: a property of everything that a decoder can find.

Main statements:

* `Cursor.yields_fields`: fields that are found are in ascending order.
* `Item.Document.sorted_arguments_of_parse?`: so are the argument declarations of a document.
-/

namespace TemplateCatalog

namespace Source

namespace Decode

variable {α β : Type} {p : α → Prop} {q : β → Prop}

/-- Whatever the decoder finds in a document has the property. -/
def Yields (decode : Decode α) (p : α → Prop) : Prop :=
  ∀ document budget result left, decode document budget = some (result, left) → p result

theorem yields_pure {result : α} (hresult : p result) : Yields (pure result) p := by
  intro document budget found left hfound
  cases hfound
  exact hresult

/-- A decoder yields what the last of its steps yields. -/
theorem Yields.bind {decode : Decode α} {next : α → Decode β} (hdecode : Yields decode p)
    (hnext : ∀ result, p result → Yields (next result) q) : Yields (decode >>= next) q := by
  intro document budget found left hfound
  have hsteps : (decode document budget).bind (fun step => next step.1 document step.2) =
      some (found, left) := hfound
  obtain ⟨⟨result, rest⟩, hfirst, hlast⟩ := Option.bind_eq_some_iff.mp hsteps
  exact hnext result (hdecode document budget result rest hfirst) document rest found left hlast

/-- What comes first does not matter if the rest has the property in any case. -/
theorem yields_bind {decode : Decode α} {next : α → Decode β}
    (hnext : ∀ result, Yields (next result) q) : Yields (decode >>= next) q :=
  Yields.bind (p := fun _ => True) (fun _ _ _ _ _ => trivial) fun result _ => hnext result

end Decode

namespace Cursor

variable {α : Type} {p : α → Prop}

/-- A field of a record has a property if everything that may stand there has it, and the value that
it has when it is left out. -/
theorem yields_field {found : List (String × Cursor)} {name : String} {fallback : α}
    {decode : Cursor → Decode α} (hfallback : p fallback)
    (hdecode : ∀ cursor, (decode cursor).Yields p) :
    (Cursor.field found name fallback decode).Yields p := by
  unfold Cursor.field
  split
  · exact hdecode _
  · exact Decode.yields_pure hfallback

/-- Fields are found in ascending order of their names. -/
theorem yields_fields (decode : Cursor → Decode α) (cursor : Cursor) :
    (cursor.fields decode).Yields Fields.Sorted :=
  Decode.yields_bind fun _ => Decode.yields_bind fun _ =>
    Decode.yields_pure (Fields.sorted_ofPairs _)

end Cursor

/-- What is read from a text is something that the decoder yields. -/
theorem Decode.Yields.of_read? {α : Type} {p : α → Prop} {format : Format}
    {decode : Cursor → Decode α} {text : String} {result : α}
    (hdecode : ∀ cursor, (decode cursor).Yields p)
    (hread : read? format decode text = some result) : p result := by
  obtain ⟨document, -, hfound⟩ := Option.bind_eq_some_iff.mp hread
  obtain ⟨⟨_, left⟩, hsteps, rfl⟩ := Option.map_eq_some_iff.mp hfound
  exact hdecode _ document document.references _ left hsteps

end Source

namespace Item

open Source

/-- A document has at most one declaration for each argument, and they are in ascending order. -/
theorem Document.yields_decode (cursor : Cursor) :
    (Document.decode cursor).Yields fun document => document.arguments.Sorted := by
  have harguments : ∀ found : List (String × Cursor),
      (Cursor.field found "arguments" [] Arguments.decode).Yields Fields.Sorted := fun found =>
    Cursor.yields_field List.Pairwise.nil (Cursor.yields_fields Argument.decode)
  unfold Document.decode
  refine Decode.yields_bind fun found => ?_
  refine Decode.yields_bind fun id => Decode.yields_bind fun title => ?_
  refine Decode.yields_bind fun description => (harguments found).bind fun arguments hsorted => ?_
  refine Decode.yields_bind fun template => Decode.yields_bind fun metadata => ?_
  exact Decode.yields_pure hsorted

theorem Document.sorted_arguments_of_parse? {format : Format} {text : String} {document : Document}
    (hparse : Document.parse? format text = some document) : document.arguments.Sorted :=
  Decode.Yields.of_read? (p := fun document => document.arguments.Sorted) Document.yields_decode
    hparse

/-- The item that a document defines has the declarations of the document. -/
theorem Document.arguments_of_validate {document : Document} {item : Validated}
    (hitem : document.validate = .ok item) :
    item.definition.arguments = document.arguments := by
  unfold validate at hitem
  split at hitem
  · cases hitem
  · split at hitem
    · cases hitem
    · cases hitem
      rfl

end Item

end TemplateCatalog
