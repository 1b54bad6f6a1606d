import TemplateCatalog.Proofs.Item.Classification

/-!
# Fields that are null

A field of a metadata block that is null is read like one that is not there. Every check of the
block goes by this: the texts, the lists, the dependencies and what they say about partials, and the
search for missing fields. The one exception is the question whether the block says anything at all,
which asks for the names `version` and `status` and not for what stands under them. A block in which
these two are null or absent, and not both absent, is judged by its fields; without its null fields
it is silent.

The module introduces:

* `withoutNulls`: fields without the names under which null stands;
* `withoutNullFields`: a block without its null fields and without those of its dependencies;
* `HasValue`: there is a value under a name, and it is not null.

Main statements:

* `Judgement.ofFields_withoutNullFields`: no check tells a null field from one that is not there.
* `judge_withoutNullFields_eq_iff`: the null fields of a block make a difference only if all that it
  has of a version and a status is null.
-/

namespace TemplateCatalog.Item

/-- The fields without the names under which null stands. -/
def withoutNulls (fields : Fields Json.Value) : Fields Json.Value :=
  fields.filter fun field => !(fields.find? field.1).any Json.Value.isNull

/-- The value, and if it is an object, without its null fields. -/
def inWithoutNulls : Json.Value → Json.Value
  | .object fields => .object (withoutNulls fields)
  | value => value

/-- The fields of a block without the null ones, and without those of its dependencies that are
null. -/
def withoutNullFields (fields : Fields Json.Value) : Fields Json.Value :=
  (withoutNulls fields).map fun field =>
    (field.1, if field.1 = "dependencies" then inWithoutNulls field.2 else field.2)

/-- There is a value under the name, and it is not null. -/
def HasValue (fields : Fields Json.Value) (name : String) : Prop :=
  ∃ value, fields.find? name = some value ∧ value ≠ .null

variable {fields : Fields Json.Value} {name : String}

/-! ### What is left under a name -/

/-- A name is kept with all that stands under it, or given up. -/
theorem find?_filter_names (keep : String → Bool) (name : String) (fields : Fields Json.Value) :
    Fields.find? name (fields.filter fun field => keep field.1) =
      if keep name then fields.find? name else none := by
  induction fields with
  | nil => simp
  | cons field rest ih =>
    obtain ⟨key, value⟩ := field
    rw [Fields.find?_cons]
    by_cases hname : name = key
    · subst hname
      cases hkeep : keep name with
      | true => simp [hkeep, Fields.find?_cons]
      | false => simpa [hkeep] using ih
    · cases hkeep : keep key with
      | true => simp [hkeep, Fields.find?_cons, hname, ih]
      | false => rw [List.filter_cons_of_neg (by simp [hkeep]), if_neg hname, ih]

/-- Under a name there is what was there before, unless that was null. -/
theorem find?_withoutNulls (name : String) (fields : Fields Json.Value) :
    (withoutNulls fields).find? name = (fields.find? name).filter fun value => !value.isNull := by
  rw [withoutNulls, find?_filter_names fun key => !(fields.find? key).any Json.Value.isNull]
  cases fields.find? name with
  | none => simp
  | some value => cases value <;> rfl

theorem find?_withoutNullFields (name : String) (fields : Fields Json.Value) :
    (withoutNullFields fields).find? name =
      ((fields.find? name).filter fun value => !value.isNull).map fun value =>
        if name = "dependencies" then inWithoutNulls value else value := by
  rw [← find?_withoutNulls, withoutNullFields]
  generalize withoutNulls fields = kept
  induction kept with
  | nil => rfl
  | cons field rest ih =>
    obtain ⟨key, value⟩ := field
    rw [List.map_cons, Fields.find?_cons, Fields.find?_cons, ih]
    split
    · next hname => simp [hname]
    · rfl

/-- The dependencies apart, what is left under a name is what was there, unless that was null. -/
theorem find?_withoutNullFields_of_ne (hname : name ≠ "dependencies") (fields : Fields Json.Value) :
    (withoutNullFields fields).find? name =
      (fields.find? name).filter fun value => !value.isNull := by
  simp only [find?_withoutNullFields, if_neg hname, Option.map_id']

/-- A name is left exactly if there is a value under it. -/
theorem mem_names_withoutNullFields_iff :
    name ∈ (withoutNullFields fields).names ↔ HasValue fields name := by
  rw [Fields.mem_names_iff, find?_withoutNullFields, HasValue]
  cases fields.find? name with
  | none => simp
  | some value => cases value <;> simp [Json.Value.isNull]

/-! ### The checks -/

theorem textField_withoutNullFields (hname : name ≠ "dependencies") (fields : Fields Json.Value) :
    textField (withoutNullFields fields) name = textField fields name := by
  unfold textField
  rw [find?_withoutNullFields_of_ne hname]
  cases fields.find? name with
  | none => rfl
  | some value => cases value <;> rfl

theorem isAbsent_withoutNullFields (hname : name ≠ "dependencies") (fields : Fields Json.Value) :
    isAbsent (withoutNullFields fields) name = isAbsent fields name := by
  unfold isAbsent
  rw [find?_withoutNullFields_of_ne hname]
  cases fields.find? name with
  | none => rfl
  | some value => cases value <;> rfl

/-- A list that is null is read like one that is not there. -/
theorem textList_filter (value : Option Json.Value) (name : String) :
    textList (value.filter fun value => !value.isNull) name = textList value name := by
  cases value with
  | none => rfl
  | some value => cases value <;> rfl

theorem dependencyPartials_withoutNullFields (fields : Fields Json.Value) :
    dependencyPartials (withoutNullFields fields) = dependencyPartials fields := by
  unfold dependencyPartials
  simp only [find?_withoutNullFields, if_pos]
  cases fields.find? "dependencies" with
  | none => rfl
  | some value =>
    cases value with
    | object dependencies =>
      show textList ((withoutNulls dependencies).find? "partials") _ = textList _ _
      rw [find?_withoutNulls, textList_filter]
    | null | bool b | number n | string text | array items => rfl

theorem missingFields_withoutNullFields (fields : Fields Json.Value) :
    missingFields (withoutNullFields fields) = missingFields fields := by
  unfold missingFields
  refine congrArg (List.map Issue.missing) (List.filter_congr fun name hname => ?_)
  refine isAbsent_withoutNullFields (fun hsame => ?_) fields
  subst hsame
  exact absurd hname (by decide)

/-- No check tells a null field from one that is not there. -/
theorem Judgement.ofFields_withoutNullFields (id title : String) (fields : Fields Json.Value) :
    ofFields id title (withoutNullFields fields) = ofFields id title fields := by
  -- Only the dependencies are changed within, and they have a reader of their own.
  have htext : ∀ name, name ≠ "dependencies" →
      textField (withoutNullFields fields) name = textField fields name :=
    fun name hname => textField_withoutNullFields hname fields
  have hlist : ∀ name, name ≠ "dependencies" →
      textList ((withoutNullFields fields).find? name) name = textList (fields.find? name) name :=
    fun name hname => by rw [find?_withoutNullFields_of_ne hname, textList_filter]
  unfold ofFields
  rw [htext "id" (by decide), htext "title" (by decide), htext "version" (by decide),
    htext "status" (by decide), hlist "tags" (by decide), hlist "use_cases" (by decide),
    dependencyPartials_withoutNullFields, missingFields_withoutNullFields]

/-! ### The question whether a block says anything -/

theorem isSilent_withoutNullFields_iff :
    IsSilent (some (.object (withoutNullFields fields))) ↔
      ¬HasValue fields "version" ∧ ¬HasValue fields "status" := by
  rw [isSilent_object_iff, mem_names_withoutNullFields_iff, mem_names_withoutNullFields_iff]

/-- A block that is judged by its fields never makes a legacy item. -/
theorem Judgement.state_ofFields_ne_legacy (id title : String) (fields : Fields Json.Value) :
    (ofFields id title fields).profile.state ≠ .legacy := by
  rcases hasOwnState_ofFields id title fields with ⟨-, hstate⟩ | ⟨-, -, hstate⟩ | ⟨-, -, hstate⟩ <;>
    simp [hstate]

theorem isAbsent_iff : isAbsent fields name = true ↔ ¬HasValue fields name := by
  unfold isAbsent HasValue
  cases fields.find? name with
  | none => simp
  | some value => cases value <;> simp

/-- A field that is null is missing, like one that is not there. -/
theorem Judgement.missing_mem_issues (id title : String)
    (hname : name ∈ ["id", "title", "version", "status"]) (hnone : ¬HasValue fields name) :
    .missing name ∈ (ofFields id title fields).issues := by
  have hmissing : Issue.missing name ∈ missingFields fields :=
    List.mem_map_of_mem (List.mem_filter.mpr ⟨hname, isAbsent_iff.mpr hnone⟩)
  simp only [ofFields, List.mem_append]
  exact .inl (.inl (.inl (.inr hmissing)))

/-- A field that has a value has a name. -/
theorem HasValue.mem_names (hvalue : HasValue fields name) : name ∈ fields.names :=
  let ⟨value, hfound, _⟩ := hvalue
  Fields.mem_names_iff.mpr ⟨value, hfound⟩

/-- Without its null fields a block is judged as before, unless all that it has of a version and a
status is null. In that one case the block makes an item that is no legacy item, with the issue that
it is missing what it has as null, and without its null fields it makes a legacy item. -/
theorem judge_withoutNullFields_eq_iff (id title : String) (fields : Fields Json.Value) :
    (judge id title (some (.object (withoutNullFields fields))) =
        judge id title (some (.object fields)) ↔
      ("version" ∈ fields.names ∨ "status" ∈ fields.names →
        HasValue fields "version" ∨ HasValue fields "status")) ∧
      (judge id title (some (.object (withoutNullFields fields))) ≠
          judge id title (some (.object fields)) →
        judge id title (some (.object (withoutNullFields fields))) = .legacy id title ∧
          (judge id title (some (.object fields))).profile.state ≠ .legacy ∧
          .missing "version" ∈ (judge id title (some (.object fields))).issues ∧
          .missing "status" ∈ (judge id title (some (.object fields))).issues) := by
  by_cases hsilent : IsSilent (some (.object fields))
  · -- A silent block stays one.
    obtain ⟨hversion, hstatus⟩ := isSilent_object_iff.mp hsilent
    have hstays : IsSilent (some (.object (withoutNullFields fields))) :=
      isSilent_withoutNullFields_iff.mpr
        ⟨fun hvalue => hversion hvalue.mem_names, fun hvalue => hstatus hvalue.mem_names⟩
    rw [judge_of_isSilent id title hsilent, judge_of_isSilent id title hstays]
    exact ⟨⟨fun _ hnames => (not_or.mpr ⟨hversion, hstatus⟩ hnames).elim, fun _ => rfl⟩,
      fun hne => absurd rfl hne⟩
  have hnames : "version" ∈ fields.names ∨ "status" ∈ fields.names := by
    rwa [isSilent_object_iff, not_and_or, not_not, not_not] at hsilent
  rw [judge_of_not_isSilent id title hsilent]
  by_cases hvalue : HasValue fields "version" ∨ HasValue fields "status"
  · -- One of the two is left, so that the block goes on saying something.
    have hstays : ¬IsSilent (some (.object (withoutNullFields fields))) := by
      rwa [isSilent_withoutNullFields_iff, not_and_or, not_not, not_not]
    rw [judge_of_not_isSilent id title hstays, Judgement.ofFields_withoutNullFields]
    exact ⟨⟨fun _ _ => hvalue, fun _ => rfl⟩, fun hne => absurd rfl hne⟩
  · -- Both are null or absent, and the block falls silent without its null fields.
    have hbecomes := isSilent_withoutNullFields_iff.mpr (not_or.mp hvalue)
    rw [judge_of_isSilent id title hbecomes]
    have hstate := Judgement.state_ofFields_ne_legacy id title fields
    refine ⟨⟨fun hsame => absurd rfl (hsame ▸ hstate), fun h => absurd (h hnames) hvalue⟩,
      fun _ => ⟨rfl, hstate, ?_, ?_⟩⟩
    · exact Judgement.missing_mem_issues id title (by simp) fun h => hvalue (.inl h)
    · exact Judgement.missing_mem_issues id title (by simp) fun h => hvalue (.inr h)

/-- A version that is null is missing, and yet the item is no legacy item; without the version it
is. -/
theorem judge_ne_of_null_version :
    let fields : Fields Json.Value := [("version", .null)]
    withoutNullFields fields = [] ∧
      (judge "a" "A" (some (.object fields))).profile.state = .warning ∧
      (judge "a" "A" (some (.object (withoutNullFields fields)))).profile.state = .legacy ∧
      judge "a" "A" (some (.object (withoutNullFields fields))) ≠
        judge "a" "A" (some (.object fields)) := by
  decide

end TemplateCatalog.Item
