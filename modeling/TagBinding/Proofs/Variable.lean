import TagBinding.Proofs.Answer
import TagBinding.Variable

/-! # Which values make a variable

Each field of a variable is read off a value of unchecked type, and for each field the values that are read and those
that are refused are told here.  Together they say which four values make a variable, and which one
(`Variable.ofData_eq_ok_iff`): it has the fields that the values hold, and nothing is changed on the way but for the
spelling of the scope.
-/

namespace TagBinding

theorem Scope.recognize_eq_ok_iff {value : Datum} {scope : Scope} :
    Scope.recognize value = .ok scope ↔ Scope.recognize? value = some scope := by
  rw [Scope.recognize]
  cases Scope.recognize? value <;> simp

theorem Scope.recognize_eq_error_iff {value : Datum} {defect : Defect} :
    Scope.recognize value = .error defect ↔ Scope.recognize? value = none ∧ defect = ⟨.unknownScope, value⟩ := by
  rw [Scope.recognize]
  cases Scope.recognize? value <;> simp [eq_comm]

namespace Variable

variable {name typeName declare scope value : Datum} {defect : Defect}

/-! ## The name -/

theorem isVariableName_empty : Text.isVariableName "" = false := rfl

theorem nameOf_eq_ok_iff {found : { name : String // Text.isVariableName name }} :
    nameOf value = .ok found ↔ value = .text found.val := by
  unfold nameOf
  split
  · next text =>
    rw [Datum.text.injEq]
    split
    · next empty =>
      constructor
      · intro same
        cases same
      · -- the empty text is no name of a variable
        rintro rfl
        have valid := found.property
        rw [String.isEmpty_iff.1 empty, isVariableName_empty] at valid
        cases valid
    · split
      · rw [Except.ok.injEq, Subtype.ext_iff]
      · next malformed =>
        constructor
        · intro same
          cases same
        · rintro rfl
          exact absurd found.property malformed
  · next other =>
    constructor
    · intro same
      cases same
    · exact fun same => absurd same (other _)

/-- A value is refused for a name if it is no text or an empty one, and otherwise if its text may not name a
variable. -/
theorem nameOf_eq_error_iff :
    nameOf value = .error defect ↔
      ((∀ text, value = .text text → text = "") ∧ defect = ⟨.emptyName, value⟩) ∨
        ∃ text, value = .text text ∧ text ≠ "" ∧ Text.isVariableName text = false ∧
          defect = ⟨.malformedName, .text text⟩ := by
  unfold nameOf
  split
  · next text =>
    by_cases empty : text = ""
    · simp [empty, eq_comm (a := defect)]
    · by_cases valid : Text.isVariableName text <;> simp [empty, valid, eq_comm (a := defect)]
  · next other =>
    have noText : ∀ text, value ≠ .text text := other
    simp [noText, eq_comm (a := defect)]

/-! ## The type -/

theorem typeNameOf_eq_ok_iff {found : { name : String // name.toList.all Text.isBlank = false }} :
    typeNameOf value = .ok found ↔ value = .text found.val := by
  unfold typeNameOf
  split
  · next text =>
    rw [Datum.text.injEq]
    split
    · next blank =>
      constructor
      · intro same
        cases same
      · rintro rfl
        exact absurd blank (Text.trim_ne_nil_iff.2 found.property)
    · rw [Except.ok.injEq, Subtype.ext_iff]
  · next other =>
    constructor
    · intro same
      cases same
    · exact fun same => absurd same (other _)

/-- A value is refused for the name of a type if it is no text or a blank one. -/
theorem typeNameOf_eq_error_iff :
    typeNameOf value = .error defect ↔
      (∀ text, value = .text text → text.toList.all Text.isBlank) ∧ defect = ⟨.blankTypeName, value⟩ := by
  unfold typeNameOf
  split
  · next text =>
    split
    · next blank =>
      have blankText : ∀ other, Datum.text text = .text other → other.toList.all Text.isBlank := by
        rintro _ ⟨⟩
        exact List.all_eq_true.2 ((Text.trim_eq_nil_iff _).1 blank)
      rw [and_iff_right blankText, Except.error.injEq, eq_comm]
    · next visible =>
      constructor
      · intro same
        cases same
      · rintro ⟨blank, -⟩
        exact absurd ((Text.trim_eq_nil_iff _).2 (List.all_eq_true.1 (blank text rfl))) visible
  · next other =>
    have noText : ∀ text, value = .text text → text.toList.all Text.isBlank := fun text same => absurd same (other text)
    rw [and_iff_right noText, Except.error.injEq, eq_comm]

theorem declareOf_eq_ok_iff {flag : Bool} : declareOf value = .ok flag ↔ value = .flag flag := by
  unfold declareOf
  split
  · rw [Except.ok.injEq, Datum.flag.injEq]
  · next other =>
    constructor
    · intro same
      cases same
    · exact fun same => absurd same (other flag)

theorem eq_of_declareOf_eq_error (refused : declareOf value = .error defect) : defect = ⟨.declareNotFlag, value⟩ := by
  unfold declareOf at refused
  split at refused
  · cases refused
  · cases refused
    rfl

/-! ## All fields -/

theorem ofData_eq_ok_iff {v : Variable} :
    ofData name typeName declare scope = .ok v ↔
      name = .text v.name ∧ typeName = .text v.typeName ∧ declare = .flag v.declare ∧
        Scope.recognize? scope = some v.scope := by
  simp only [ofData, bind_eq_ok_iff, nameOf_eq_ok_iff, typeNameOf_eq_ok_iff, declareOf_eq_ok_iff,
    Scope.recognize_eq_ok_iff]
  constructor
  · rintro ⟨_, named, _, typed, _, flagged, _, recognized, made⟩
    cases made
    exact ⟨named, typed, flagged, recognized⟩
  · rintro ⟨named, typed, flagged, recognized⟩
    exact ⟨⟨v.name, v.name_valid⟩, named, ⟨v.typeName, v.typeName_visible⟩, typed, v.declare, flagged, v.scope,
      recognized, rfl⟩

/-- With a flag and a scope in place, only the name and the type can be at fault, the name first. -/
theorem fault?_ofData {flag : Bool} {scope : Scope} :
    fault? (ofData name typeName (.flag flag) (.mark (.scope scope))) =
      (fault? (nameOf name)).or (fault? (typeNameOf typeName)) := by
  unfold ofData
  cases nameOf name with
  | error defect => rfl
  | ok found => cases typeNameOf typeName <;> rfl

end Variable

end TagBinding
