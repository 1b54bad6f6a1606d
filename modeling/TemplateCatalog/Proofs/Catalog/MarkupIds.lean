import TemplateCatalog.Proofs.Catalog.Rendering
import TemplateCatalog.Proofs.Template.Substitution
import TemplateCatalog.Proofs.Text.Marked

/-!
# Ids of markup documents

The template of an item has a name that is made from the id of the item, and how the arguments are
written depends on how that name ends. So an item with the id of a markup document writes its
arguments as markup, and every other item writes them as they are.

The module introduces:

* `IsMarkupId`: the id ends as the name of a markup document does;
* `CatalogItem.Fills`: a call of an item is accepted and has texts for placeholders.

Main statements:

* `ofName_itemTemplateName`: which ids make the arguments be written as markup.
* `CatalogItem.render_sourceOf`: what an item with a template of texts and placeholders is rendered
  to.
* `Run.substitutes_by_id`: the items of all generations that a service publishes are rendered so.
-/

namespace TemplateCatalog

open Template (Escaping Piece dropEnding? neutralExtensions markupText sourceOf)

/-- The last parts of the names of markup documents. -/
def markupEndings : List String :=
  ["html", "htm", "xml"]

/-- What may stand behind them. -/
def neutralEndings : List String :=
  ["", ".j2", ".jinja2", ".jinja"]

/-- The id ends as the name of a markup document, or as that of a template for one. -/
def IsMarkupId (id : String) : Prop :=
  ∃ stem, ∃ ending ∈ markupEndings, ∃ neutral ∈ neutralEndings,
    id = stem ++ "." ++ ending ++ neutral

/-! ### Names of templates -/

/-- The name without an ending that says nothing about escaping. -/
def bareName (name : String) : String :=
  (neutralExtensions.findSome? (dropEnding? · name)).getD name

/-- What stands behind the last point. -/
def lastPart (name : String) : String :=
  String.ofList (name.toList.reverse.takeWhile (· ≠ '.')).reverse

theorem ofName_eq_markup_iff (name : String) :
    Escaping.ofName name = .markup ↔ lastPart (bareName name) ∈ markupEndings := by
  show (if lastPart (bareName name) = "html" ∨ lastPart (bareName name) = "htm" ∨
    lastPart (bareName name) = "xml" then Escaping.markup else Escaping.plain) = .markup ↔ _
  simp only [markupEndings, List.mem_cons, List.not_mem_nil, or_false]
  split <;> simp_all

/-- An ending is dropped if and only if it is there. -/
theorem dropEnding?_eq_some_iff {ending name bare : String} :
    dropEnding? ending name = some bare ↔ name = bare ++ ending := by
  have hbare : ∀ stem : String, String.ofList ((stem ++ ending).toList.take
      ((stem ++ ending).length - ending.length)) = stem := by
    intro stem
    rw [String.length_append, Nat.add_sub_cancel, String.toList_append, ← String.length_toList,
      List.take_left, String.ofList_toList]
  unfold dropEnding?
  constructor
  · intro hdrop
    split at hdrop
    · next hsuffix =>
      obtain ⟨stem, hstem⟩ := List.isSuffixOf_iff_suffix.mp hsuffix
      obtain rfl : name = String.ofList stem ++ ending := by
        rw [← String.toList_inj, String.toList_append, String.toList_ofList, hstem]
      rw [← Option.some.inj hdrop, hbare]
    · cases hdrop
  · rintro rfl
    have hsuffix : ending.toList.isSuffixOf (bare ++ ending).toList = true :=
      List.isSuffixOf_iff_suffix.mpr ⟨bare.toList, String.toList_append.symm⟩
    rw [if_pos hsuffix, hbare]

/-- A name is the bare name and an ending that says nothing. -/
theorem exists_neutral (name : String) :
    ∃ neutral ∈ neutralEndings, name = bareName name ++ neutral := by
  unfold bareName
  cases hfound : neutralExtensions.findSome? (dropEnding? · name) with
  | none => exact ⟨"", List.mem_cons_self, String.append_empty.symm⟩
  | some bare =>
    obtain ⟨ending, hending, hdrop⟩ := List.exists_of_findSome?_eq_some hfound
    exact ⟨ending, List.mem_cons_of_mem _ hending, dropEnding?_eq_some_iff.mp hdrop⟩

/-- Behind the ending of a markup document, just the ending that says nothing is dropped. -/
theorem bareName_append {stem ending neutral : String} (hending : ending ∈ markupEndings)
    (hneutral : neutral ∈ neutralEndings) :
    bareName (stem ++ "." ++ ending ++ neutral) = stem ++ "." ++ ending := by
  -- No ending that can be dropped is the end of another one, or of that of a markup document.
  have hclash : ∀ ending ∈ markupEndings, ∀ neutral ∈ neutralEndings, ∀ other ∈ neutralExtensions,
      other ≠ neutral → ¬(other.toList <:+ ("." ++ ending ++ neutral).toList ∨
        ("." ++ ending ++ neutral).toList <:+ other.toList) := by
    decide
  have hsuffix : ∀ {other bare}, stem ++ "." ++ ending ++ neutral = bare ++ other →
      other.toList <:+ ("." ++ ending ++ neutral).toList ∨
        ("." ++ ending ++ neutral).toList <:+ other.toList := by
    intro other bare heq
    have hname : stem ++ ("." ++ ending ++ neutral) = bare ++ other := by
      rw [← heq]
      simp only [String.append_assoc]
    have hother : other.toList <:+ (stem ++ ("." ++ ending ++ neutral)).toList :=
      ⟨bare.toList, by rw [hname, String.toList_append]⟩
    have hending : ("." ++ ending ++ neutral).toList <:+
        (stem ++ ("." ++ ending ++ neutral)).toList :=
      ⟨stem.toList, String.toList_append.symm⟩
    exact List.suffix_or_suffix_of_suffix hother hending
  unfold bareName
  cases hfound : neutralExtensions.findSome? (dropEnding? · (stem ++ "." ++ ending ++ neutral)) with
  | none =>
    rw [List.findSome?_eq_none_iff] at hfound
    rcases List.mem_cons.mp hneutral with rfl | hneutral
    · exact String.append_empty
    · have hdrop := hfound neutral hneutral
      rw [dropEnding?_eq_some_iff.mpr rfl] at hdrop
      cases hdrop
  | some bare =>
    obtain ⟨other, hother, hdrop⟩ := List.exists_of_findSome?_eq_some hfound
    have heq := dropEnding?_eq_some_iff.mp hdrop
    obtain rfl : other = neutral := by
      by_contra hne
      exact hclash ending hending neutral hneutral other hother hne (hsuffix heq)
    rw [dropEnding?_eq_some_iff.mpr rfl, Option.some.injEq] at hdrop
    exact hdrop.symm

/-- The last part of a name with a point is what stands behind it. -/
theorem lastPart_append {stem last : String} (hpoint : '.' ∉ last.toList) :
    lastPart (stem ++ "." ++ last) = last := by
  have hchars : (stem ++ "." ++ last).toList.reverse =
      last.toList.reverse ++ '.' :: stem.toList.reverse := by
    rw [String.toList_append, String.toList_append, List.reverse_append, List.reverse_append]
    rfl
  have hcut := Text.cut_append_mark (mt List.mem_reverse.mp hpoint) stem.toList.reverse
  rw [lastPart, hchars, hcut.1, List.reverse_reverse, String.ofList_toList]

/-- The last part is the whole name, or stands behind a point. -/
theorem eq_lastPart_or (name : String) :
    name = lastPart name ∨ ∃ stem, name = stem ++ "." ++ lastPart name := by
  cases hrest : name.toList.reverse.dropWhile fun c => decide (c ≠ '.') with
  | nil =>
    left
    have hall := @List.takeWhile_append_dropWhile _ (fun c => decide (c ≠ '.')) name.toList.reverse
    rw [hrest, List.append_nil] at hall
    rw [lastPart, hall, List.reverse_reverse, String.ofList_toList]
  | cons point stem =>
    right
    obtain ⟨rfl, hsplit⟩ := Text.eq_append_of_dropWhile hrest
    refine ⟨String.ofList stem.reverse, ?_⟩
    -- Read backwards, the name is its last part, a point, and the rest.
    have hname : name.toList =
        stem.reverse ++
          '.' :: (name.toList.reverse.takeWhile fun c => decide (c ≠ '.')).reverse := by
      rw [← List.reverse_inj, List.reverse_append, List.reverse_cons, List.reverse_reverse,
        List.reverse_reverse, List.append_assoc, List.singleton_append]
      exact hsplit
    rw [← String.toList_inj, String.toList_append, String.toList_append, lastPart,
      String.toList_ofList, String.toList_ofList, String.toList_ofList, List.append_assoc]
    exact hname

/-- An item has the id of a markup document if and only if its template is one for markup. -/
theorem ofName_itemTemplateName (id : String) :
    Escaping.ofName (itemTemplateName id) = .markup ↔ IsMarkupId id := by
  rw [ofName_eq_markup_iff]
  constructor
  · intro hlast
    obtain ⟨neutral, hneutral, hname⟩ := exists_neutral (itemTemplateName id)
    have hslash : ∀ ending ∈ markupEndings, ∀ neutral ∈ neutralEndings,
        '/' ∉ (ending ++ neutral).toList := by
      decide
    rcases eq_lastPart_or (bareName (itemTemplateName id)) with hwhole | ⟨front, hfront⟩
    · refine absurd ?_ (hslash _ hlast _ hneutral)
      rw [← hwhole, ← hname, itemTemplateName, String.toList_append]
      exact List.mem_append_left _ (by decide)
    · -- The point of the ending stands behind the first part of the name, which has none.
      generalize lastPart (bareName (itemTemplateName id)) = ending at hlast hfront
      rw [hfront, itemTemplateName, String.append_assoc, String.append_assoc, ← String.toList_inj,
        String.toList_append, String.toList_append, List.append_eq_append_iff] at hname
      rcases hname with ⟨stem, -, hid⟩ | ⟨more, hitems, hid⟩
      · refine ⟨String.ofList stem, ending, hlast, neutral, hneutral, ?_⟩
        rw [← String.toList_inj, hid, String.append_assoc, String.append_assoc,
          String.toList_append (s := String.ofList stem), String.toList_ofList]
      · cases more with
        | nil =>
          refine ⟨"", ending, hlast, neutral, hneutral, ?_⟩
          rw [← String.toList_inj, String.append_assoc, String.append_assoc, String.empty_append,
            hid]
          rfl
        | cons point more =>
          have hpoint : point = '.' := by
            rw [String.toList_append] at hid
            exact (List.cons.inj hid).1.symm
          have hmem : '.' ∈ "items/".toList := by
            rw [hitems, hpoint]
            exact List.mem_append_right _ List.mem_cons_self
          exact absurd hmem (by decide)
  · rintro ⟨stem, ending, hending, neutral, hneutral, rfl⟩
    have hname : itemTemplateName (stem ++ "." ++ ending ++ neutral) =
        itemTemplateName stem ++ "." ++ ending ++ neutral := by
      simp only [itemTemplateName, String.append_assoc]
    have hpoint : ∀ ending ∈ markupEndings, '.' ∉ ending.toList := by decide
    rw [hname, bareName_append hending hneutral, lastPart_append (hpoint ending hending)]
    exact hending

theorem ofName_of_not_isMarkupId {id : String} (hid : ¬IsMarkupId id) :
    Escaping.ofName (itemTemplateName id) = .plain := by
  cases hescaping : Escaping.ofName (itemTemplateName id) with
  | plain => rfl
  | markup => exact absurd ((ofName_itemTemplateName id).mp hescaping) hid

/-! ### Items with placeholders -/

namespace CatalogItem

/-- The call goes against no declaration, and what it has under the names of the placeholders, or
else their default, are texts. -/
structure Fills (item : CatalogItem) (supplied : Fields Json.Value) (pieces : List Piece)
    (texts : String → String) : Prop where
  /-- The call goes against no declaration. -/
  accepted : ∀ name fault, ¬item.definition.arguments.Violates supplied name fault
  /-- There is a text for every placeholder. -/
  known : ∀ name, .placeholder name ∈ pieces →
    item.definition.arguments.effective? supplied name = some (.string (texts name))

/-- A call with texts for all placeholders, with which nothing is found to be wrong. -/
theorem Fills.of_faultsOf {library : Template.Library} {item : CatalogItem}
    (hrenders : item.RendersAsDeclared library) {supplied : Fields Json.Value}
    (hfaults : item.faultsOf supplied = []) {pieces : List Piece} {texts : String → String}
    (hsupplied : ∀ name, .placeholder name ∈ pieces →
      supplied.find? name = some (.string (texts name))) :
    item.Fills supplied pieces texts where
  accepted := by
    intro name fault hviolates
    obtain ⟨id, faults, hrejected⟩ := (hrenders.rejected_iff supplied).mpr ⟨name, fault, hviolates⟩
    obtain ⟨-, rfl, hne⟩ := render_eq_invalidArguments_iff.mp hrejected
    exact hne hfaults
  known := by
    intro name hmem
    rw [Item.Arguments.effective?, hsupplied name hmem]
    rfl

/-- An item with a template of texts and placeholders is rendered to the texts and the arguments in
their places, which are escaped as the id of the item asks for. -/
theorem render_sourceOf {library : Template.Library} {item : CatalogItem}
    (hrenders : item.RendersAsDeclared library) {pieces : List Piece}
    (hsimple : ∀ piece ∈ pieces, piece.IsSimple)
    (htemplate : item.definition.template = sourceOf pieces) {supplied : Fields Json.Value}
    {texts : String → String} (hfills : item.Fills supplied pieces texts) :
    item.render library supplied =
      .ok (String.join (pieces.map (Piece.filled fun name =>
        (Escaping.ofName (itemTemplateName item.id)).shown (texts name)))) := by
  obtain ⟨template, hread, hfound, hrendered⟩ := hrenders.rendered
  obtain ⟨context, hcontext, -, hrender⟩ := hrendered supplied hfills.accepted
  have hknown : ∀ name, .placeholder name ∈ pieces →
      context.find? name = some (.string (texts name)) := by
    intro name hmem
    rw [hcontext, ← hfills.known name hmem, Item.Arguments.effective?]
    cases supplied.find? name <;> rfl
  rw [htemplate] at hread
  rw [hrender, Template.Library.render_sourceOf hsimple hread hfound hknown]

end CatalogItem

/-- In every generation that is published in the course of a run, an item whose template consists of
texts and placeholders is rendered to the texts and the arguments in their places. The arguments are
written as they are unless the item has the id of a markup document, and then as markup. So items of
which both or neither have such ids, and which differ in nothing else, are rendered alike. -/
theorem Run.substitutes_by_id {files : FileSystem} {ttl : Nat} {options : CacheOptions}
    {hosted : Bool} {log : List Event} {system : System}
    (hrun : Run (.start files ttl options hosted) log system) (hwf : files.WellFormed)
    (hchanges : ∀ changed, .changed changed ∈ log → changed.WellFormed) {cycle : Cycle}
    (hcycle : cycle ∈ cycles log) {item : CatalogItem} (hitem : item ∈ cycle.generation.items)
    {pieces : List Piece} (hsimple : ∀ piece ∈ pieces, piece.IsSimple)
    (htemplate : item.definition.template = sourceOf pieces) {supplied : Fields Json.Value}
    {texts : String → String} (hfills : item.Fills supplied pieces texts) :
    (¬IsMarkupId item.id → item.render cycle.generation.library supplied =
      .ok (String.join (pieces.map (Piece.filled texts)))) ∧
    (IsMarkupId item.id → item.render cycle.generation.library supplied =
      .ok (String.join (pieces.map (Piece.filled fun name => markupText (texts name))))) ∧
    ∀ later ∈ cycles log, ∀ other ∈ later.generation.items,
      other.definition = { item.definition with id := other.id } →
      (IsMarkupId other.id ↔ IsMarkupId item.id) →
        other.render later.generation.library supplied =
          item.render cycle.generation.library supplied := by
  have hrenders : ∀ cycle ∈ cycles log, ∀ item ∈ cycle.generation.items,
      item.RendersAsDeclared cycle.generation.library := by
    intro cycle hcycle item hitem
    obtain ⟨fs, findings, hbuilt⟩ := hrun.generation_eq hwf hchanges hcycle
    rw [hbuilt] at hitem ⊢
    exact Build.rendersAsDeclared hitem
  have hrender := CatalogItem.render_sourceOf (hrenders cycle hcycle item hitem) hsimple htemplate
    hfills
  refine ⟨fun hid => ?_, fun hid => ?_, fun later hlater other hother hsame hids => ?_⟩
  · rw [hrender, ofName_of_not_isMarkupId hid]
    rfl
  · rw [hrender, (ofName_itemTemplateName item.id).mpr hid]
    rfl
  · have harguments : other.definition.arguments = item.definition.arguments := by rw [hsame]
    have hfillsOther : other.Fills supplied pieces texts :=
      ⟨harguments ▸ hfills.accepted, harguments ▸ hfills.known⟩
    have hrenderOther := CatalogItem.render_sourceOf (hrenders later hlater other hother) hsimple
      (by rw [hsame]; exact htemplate) hfillsOther
    -- All that an id has to do with it is whether it is that of a markup document.
    have hescaping : Escaping.ofName (itemTemplateName other.id) =
        Escaping.ofName (itemTemplateName item.id) := by
      by_cases hid : IsMarkupId item.id
      · rw [(ofName_itemTemplateName _).mpr hid, (ofName_itemTemplateName _).mpr (hids.mpr hid)]
      · rw [ofName_of_not_isMarkupId hid, ofName_of_not_isMarkupId (mt hids.mp hid)]
    rw [hrenderOther, hrender, hescaping]

/-- An item with an ordinary id writes markup in an argument, and the line break at the end of its
template, as they are. -/
theorem substitutes_by_id_of_ordinary_id :
    let text : String := "id: x\ntemplate: \"Hello \x7b\x7b name \x7d\x7d!\\n\"\n" ++
      "arguments:\n  name:\n    type: string\n"
    ∃ log system, Run (.start (singleDocument text) 1000 ⟨4, none, none⟩ false) log system ∧
      ∃ cycle ∈ cycles log, ∃ item ∈ cycle.generation.items,
        item.definition.template =
          sourceOf [.literal "Hello ", .placeholder "name", .literal "!\n"] ∧
        ¬IsMarkupId item.id ∧
        item.render cycle.generation.library [("name", .string "<b>")] = .ok "Hello <b>!\n" := by
  intro text
  obtain ⟨log, system, hrun, hkept, cycle, hcycle, item, hitems, hdefines, hrenders⟩ :=
    Run.exists_singleDocument text (fun definition =>
      decide (definition.id = "x" ∧ definition.template = "Hello \x7b\x7b name \x7d\x7d!\n" ∧
        (Json.Schema.violations definition.arguments.schema
          (.object (definition.arguments.withDefaults [("name", .string "<b>")]))).isEmpty)) (by
      rw [readItem, readText_singleDocument]
      decide +kernel)
  obtain ⟨hid, htemplate, hfaults⟩ := of_decide_eq_true hdefines
  have hitem : item ∈ cycle.generation.items := hitems ▸ List.mem_singleton_self item
  have hordinary : ¬IsMarkupId item.id := by
    rw [← ofName_itemTemplateName, CatalogItem.id, hid]
    decide +kernel
  have hfills : item.Fills [("name", .string "<b>")]
      [.literal "Hello ", .placeholder "name", .literal "!\n"] fun _ => "<b>" :=
    .of_faultsOf hrenders (List.isEmpty_iff.mp hfaults) (by simp [Fields.find?_cons])
  have htemplate : item.definition.template =
      sourceOf [.literal "Hello ", .placeholder "name", .literal "!\n"] := htemplate
  have hsimple : ∀ piece ∈ [Piece.literal "Hello ", .placeholder "name", .literal "!\n"],
      piece.IsSimple := by
    decide
  obtain ⟨hwritten, -, -⟩ := hrun.substitutes_by_id (wellFormed_singleDocument text)
    (fun changed hmem => absurd hmem (hkept changed)) hcycle hitem hsimple htemplate hfills
  exact ⟨log, system, hrun, cycle, hcycle, item, hitem, htemplate, hordinary, hwritten hordinary⟩

/-- An item with the id of a markup document does not write an argument as it is. -/
theorem substitutes_escaped_of_html_id :
    let text : String := "id: page.html\ntemplate: '\x7b\x7b name \x7d\x7d'\n" ++
      "arguments:\n  name:\n    type: string\n"
    let pieces : List Piece := [.placeholder "name"]
    ∃ log system, Run (.start (singleDocument text) 1000 ⟨4, none, none⟩ false) log system ∧
      ∃ cycle ∈ cycles log, ∃ item ∈ cycle.generation.items, item.id = "page.html" ∧
        (∀ piece ∈ pieces, piece.IsSimple) ∧ item.definition.template = sourceOf pieces ∧
        item.Fills [("name", .string "<b>")] pieces (fun _ => "<b>") ∧
        String.join (pieces.map (Piece.filled fun _ => "<b>")) = "<b>" ∧
        item.render cycle.generation.library [("name", .string "<b>")] = .ok "&lt;b&gt;" := by
  intro text pieces
  obtain ⟨log, system, hrun, -, cycle, hcycle, item, hitems, hdefines, hrenders⟩ :=
    Run.exists_singleDocument text (fun definition =>
      decide (definition.id = "page.html" ∧ definition.template = "\x7b\x7b name \x7d\x7d" ∧
        (Json.Schema.violations definition.arguments.schema
          (.object (definition.arguments.withDefaults [("name", .string "<b>")]))).isEmpty)) (by
      rw [readItem, readText_singleDocument]
      decide +kernel)
  obtain ⟨hid, htemplate, hfaults⟩ := of_decide_eq_true hdefines
  have hsimple : ∀ piece ∈ pieces, piece.IsSimple := by decide
  have hfills : item.Fills [("name", .string "<b>")] pieces fun _ => "<b>" :=
    .of_faultsOf hrenders (List.isEmpty_iff.mp hfaults) (by simp [pieces, Fields.find?_cons])
  have hmarkup : Escaping.ofName (itemTemplateName item.id) = .markup := by
    rw [CatalogItem.id, hid]
    decide +kernel
  have hwritten := CatalogItem.render_sourceOf hrenders hsimple htemplate hfills
  rw [hmarkup] at hwritten
  exact ⟨log, system, hrun, cycle, hcycle, item, hitems ▸ List.mem_singleton_self item, hid,
    hsimple, htemplate, hfills, rfl, hwritten⟩

end TemplateCatalog
