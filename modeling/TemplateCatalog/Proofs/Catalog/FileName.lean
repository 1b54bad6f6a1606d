import TemplateCatalog.Catalog.Scan
import TemplateCatalog.Proofs.Text.Marked

/-!
# Names of files

What a scan reads off the name of a file: whether the file is visible, and whether it is a document,
which takes something, a dot, and one of three extensions in whatever letter case.

The module introduces:

* `IsVisibleName`: the name does not begin with a dot;
* `IsDocumentName`: the name has an extension of documents.

Main statements:

* `isHiddenName_eq_false_iff`: what is not hidden is visible.
* `splitExtension_snd_eq_some_iff`: what the extension of a name is.
* `Location.isSome_format?_child`: a file is a document by its name.
-/

namespace TemplateCatalog

/-- The name does not begin with a dot. -/
def IsVisibleName (name : String) : Prop :=
  ∀ rest, name ≠ "." ++ rest

theorem isHiddenName_eq_false_iff {name : String} :
    isHiddenName name = false ↔ IsVisibleName name := by
  have hdot : (".").toList = ['.'] := by decide
  rw [isHiddenName, beq_eq_false_iff_ne]
  constructor
  · rintro hhead rest rfl
    simp [hdot] at hhead
  · intro hvisible hhead
    obtain ⟨rest, hname⟩ := List.head?_eq_some_iff.mp hhead
    apply hvisible (String.ofList rest)
    apply String.toList_inj.mp
    rw [hname, String.toList_append, hdot, String.toList_ofList]
    rfl

/-- The extension of a name is what comes after its last dot, if something comes before it. -/
theorem splitExtension_snd_eq_some_iff {name extension : String} (hne : name ≠ "..") :
    (splitExtension name).2 = some extension ↔
      '.' ∉ extension.toList ∧ ∃ stem, stem ≠ "" ∧ name = stem ++ "." ++ extension := by
  have hdot : (".").toList = ['.'] := by decide
  constructor
  · intro hsplit
    simp only [splitExtension, hne, false_or] at hsplit
    split at hsplit
    · cases hsplit
    · next hstem =>
      rw [Option.some.injEq] at hsplit
      -- Read backwards, the name is the extension, a dot, and the rest.
      cases hrest : name.toList.reverse.dropWhile (· ≠ '.') with
      | nil => exact absurd (by rw [hrest]; rfl) hstem
      | cons c stem =>
        obtain ⟨rfl, hname⟩ := Text.eq_append_of_dropWhile hrest
        have hback := congrArg List.reverse hname
        rw [List.reverse_append, List.reverse_reverse, List.reverse_cons] at hback
        rw [hrest, List.drop_one, List.tail_cons, List.isEmpty_iff] at hstem
        refine ⟨?_, String.ofList stem.reverse, ?_, ?_⟩
        · rw [← hsplit, String.toList_ofList, List.mem_reverse]
          exact Text.mark_notMem_takeWhile '.' name.toList.reverse
        · intro hempty
          have hnil := congrArg String.toList hempty
          rw [String.toList_ofList] at hnil
          exact hstem (by simpa using hnil)
        · apply String.toList_inj.mp
          rw [← hsplit]
          simp only [String.toList_append, String.toList_ofList, hdot]
          exact hback
  · rintro ⟨hnone, stem, hstem, rfl⟩
    have hreversed : (stem ++ "." ++ extension).toList.reverse =
        extension.toList.reverse ++ '.' :: stem.toList.reverse := by
      rw [String.toList_append, String.toList_append, hdot]
      simp
    -- The extension is all that comes before the first dot of the reversed name.
    obtain ⟨htake, hdrop⟩ :=
      Text.cut_append_mark (mt List.mem_reverse.mp hnone) stem.toList.reverse
    have hchars : stem.toList ≠ [] := by simpa using hstem
    simp only [splitExtension, hreversed, htake, hdrop, hne, false_or]
    simp [hchars]

/-- The name has one of the extensions of documents, whatever its letter case. -/
def IsDocumentName (name : String) : Prop :=
  ∃ stem extension, stem ≠ "" ∧ name = stem ++ "." ++ extension ∧
    Text.asciiLower extension ∈ ["yaml", "yml", "json"]

theorem Format.isSome_ofExtension? (extension : String) :
    (Format.ofExtension? extension).isSome = true ↔
      Text.asciiLower extension ∈ ["yaml", "yml", "json"] := by
  unfold ofExtension?
  split
  · next hlower => simp [hlower]
  · next hlower => simp [hlower]
  · next hlower => simp [hlower]
  · next hyaml hyml hjson =>
    refine ⟨nofun, fun hmem => ?_⟩
    simp only [List.mem_cons, List.not_mem_nil, or_false] at hmem
    rcases hmem with hlower | hlower | hlower
    · exact (hyaml hlower).elim
    · exact (hyml hlower).elim
    · exact (hjson hlower).elim

/-- A file is a document by its name. -/
theorem Location.isSome_format?_child (directory : Location) (file : String) :
    (directory.child file).format?.isSome = true ↔ IsDocumentName file := by
  have hname : (directory.child file).name = file := by simp [name, child]
  have hformat : (directory.child file).format?.isSome = true ↔ ∃ extension,
      (splitExtension file).2 = some extension ∧
        Text.asciiLower extension ∈ ["yaml", "yml", "json"] := by
    rw [format?, extension?, hname]
    cases (splitExtension file).2 with
    | none => simp
    | some extension => simpa using Format.isSome_ofExtension? extension
  rw [hformat]
  constructor
  · rintro ⟨extension, hsplit, hlower⟩
    have hne : file ≠ ".." := by
      rintro rfl
      simp [splitExtension] at hsplit
    obtain ⟨-, stem, hstem, hfile⟩ := (splitExtension_snd_eq_some_iff hne).mp hsplit
    exact ⟨stem, extension, hstem, hfile, hlower⟩
  · rintro ⟨stem, extension, hstem, hfile, hlower⟩
    have hnone : '.' ∉ extension.toList := by
      intro hmem
      -- A dot would still be there in lower case.
      have hdot : '.' ∈ (Text.asciiLower extension).toList := by
        rw [Text.asciiLower, String.toList_ofList]
        exact List.mem_map.mpr ⟨'.', hmem, by decide⟩
      simp only [List.mem_cons, List.not_mem_nil, or_false] at hlower
      rcases hlower with hlower | hlower | hlower
      all_goals
        rw [hlower] at hdot
        exact absurd hdot (by decide)
    have hne : file ≠ ".." := by
      rintro rfl
      -- Behind two characters, one of them the dot, nothing is left for an extension.
      have hlength := congrArg (fun text => text.toList.length) hfile
      have hdots : "..".toList.length = 2 := by decide
      have hdot : ".".toList.length = 1 := by decide
      have hpos : stem.toList.length ≠ 0 := by simpa using hstem
      simp only [String.toList_append, List.length_append, hdots, hdot] at hlength
      have hempty : extension = "" := by
        rw [← String.toList_eq_nil_iff, ← List.length_eq_zero_iff]
        omega
      rw [hempty] at hlower
      exact absurd hlower (by decide)
    exact ⟨extension, (splitExtension_snd_eq_some_iff hne).mpr ⟨hnone, stem, hstem, hfile⟩, hlower⟩

end TemplateCatalog
