import TagBinding.Proofs.Text.Unbroken
import TagBinding.Proofs.Variable

/-! # Which four values make a variable, and what is said of the others

Each field of a variable accepts some values and refuses the rest (`Variable.Field.Accepts`), whatever the other fields
are given.  Four values make a variable exactly if each field accepts its own, and otherwise the first field that
refuses is the one that is reported, with its value (`Variable.ofData_by_field`).
-/

namespace TagBinding

namespace Variable

/-- A field of a variable. -/
inductive Field where
  | name | typeName | declare | scope
  deriving DecidableEq, Repr

namespace Field

/-- The fields in the order they are checked in. -/
def all : List Field := [.name, .typeName, .declare, .scope]

theorem mem_all (field : Field) : field ∈ all := by
  cases field <;> decide

/-- What a field is called where it is reported. -/
def label : Field → String
  | .name => "name"
  | .typeName => "type_name"
  | .declare => "declare"
  | .scope => "scope"

/-- The values that a field can be made of. -/
inductive Accepts : Field → Datum → Prop where
  | name (text : String) (names : Text.NamesVariable text.toList) : Accepts .name (.text text)
  | typeName (text : String) (visible : ∃ c ∈ text.toList, Text.isBlank c = false) : Accepts .typeName (.text text)
  | declare (flag : Bool) : Accepts .declare (.flag flag)
  | scope (value : Datum) (scope : Scope) (known : Scope.recognize? value = some scope) : Accepts .scope value

/-- The complaint about a value that a field refuses. A name that is no text, or an empty one, is told from one that is
malformed. -/
def complaint : Field → Datum → Complaint
  | .name, .text text => if text.isEmpty then .emptyName else .malformedName
  | .name, _ => .emptyName
  | .typeName, _ => .blankTypeName
  | .declare, _ => .declareNotFlag
  | .scope, _ => .unknownScope

theorem code_complaint (field : Field) (value : Datum) : (field.complaint value).code = .invalidDescriptor := by
  unfold complaint
  split
  · split <;> rfl
  all_goals rfl

theorem field_complaint (field : Field) (value : Datum) : (field.complaint value).field = field.label := by
  unfold complaint
  split
  · split <;> rfl
  all_goals rfl

/-- The defect that a field finds in a value. -/
def fault? (field : Field) (value : Datum) : Option Defect :=
  match field with
  | .name => TagBinding.fault? (nameOf value)
  | .typeName => TagBinding.fault? (typeNameOf value)
  | .declare => TagBinding.fault? (declareOf value)
  | .scope => TagBinding.fault? (Scope.recognize value)

variable {field : Field} {value : Datum} {defect : Defect}

/-- A field finds nothing in the values it accepts. -/
theorem fault?_eq_none_iff : field.fault? value = none ↔ field.Accepts value := by
  -- a field finds nothing exactly if its check has a result, and each check says for which values it has one
  cases field with
  | name =>
    rw [fault?, TagBinding.fault?_eq_none_iff]
    simp only [nameOf_eq_ok_iff]
    constructor
    · rintro ⟨⟨text, valid⟩, rfl⟩
      exact .name text (Text.isVariableName_iff.1 valid)
    · intro accepts
      cases accepts with
      | name text names => exact ⟨⟨text, Text.isVariableName_iff.2 names⟩, rfl⟩
  | typeName =>
    rw [fault?, TagBinding.fault?_eq_none_iff]
    simp only [typeNameOf_eq_ok_iff]
    constructor
    · rintro ⟨⟨text, visible⟩, rfl⟩
      exact .typeName text (by simpa using visible)
    · intro accepts
      cases accepts with
      | typeName text visible => exact ⟨⟨text, by simpa using visible⟩, rfl⟩
  | declare =>
    rw [fault?, TagBinding.fault?_eq_none_iff]
    simp only [declareOf_eq_ok_iff]
    constructor
    · rintro ⟨flag, rfl⟩
      exact .declare flag
    · intro accepts
      cases accepts with
      | declare flag => exact ⟨flag, rfl⟩
  | scope =>
    rw [fault?, TagBinding.fault?_eq_none_iff]
    simp only [Scope.recognize_eq_ok_iff]
    constructor
    · rintro ⟨scope, known⟩
      exact .scope value scope known
    · intro accepts
      cases accepts with
      | scope _ scope known => exact ⟨scope, known⟩

/-- What a field finds is the complaint it has about the value. -/
theorem eq_of_fault?_eq_some (found : field.fault? value = some defect) :
    defect = ⟨field.complaint value, value⟩ := by
  cases field with
  | name =>
    rcases nameOf_eq_error_iff.1 (TagBinding.fault?_eq_some_iff.1 found) with
      ⟨empty, rfl⟩ | ⟨text, rfl, something, -, rfl⟩
    · cases value with
      | text text => rw [complaint, empty text rfl]; rfl
      | _ => rfl
    · simp [complaint, something]
  | typeName => exact (typeNameOf_eq_error_iff.1 (TagBinding.fault?_eq_some_iff.1 found)).2
  | declare => exact eq_of_declareOf_eq_error (TagBinding.fault?_eq_some_iff.1 found)
  | scope => exact (Scope.recognize_eq_error_iff.1 (TagBinding.fault?_eq_some_iff.1 found)).2

theorem fault?_eq_some_iff :
    field.fault? value = some defect ↔ ¬ field.Accepts value ∧ defect = ⟨field.complaint value, value⟩ := by
  rw [← fault?_eq_none_iff]
  constructor
  · intro found
    exact ⟨by simp [found], eq_of_fault?_eq_some found⟩
  · rintro ⟨refuses, rfl⟩
    obtain ⟨other, found⟩ := Option.ne_none_iff_exists'.1 refuses
    rw [found, eq_of_fault?_eq_some found]

end Field

/-! ## All fields -/

/-- The value that a field is given. -/
def offered (name typeName declare scope : Datum) : Field → Datum
  | .name => name
  | .typeName => typeName
  | .declare => declare
  | .scope => scope

variable {name typeName declare scope : Datum} {defect : Defect}

/-- The check reports the first of the defects that the fields find. -/
theorem fault?_ofData_offered :
    fault? (ofData name typeName declare scope) =
      Field.all.findSome? fun field => field.fault? (offered name typeName declare scope field) := by
  simp only [Field.all, List.findSome?, Field.fault?, offered, ofData]
  -- each check runs only if the ones before it pass, so the cases are nested in the order of the fields
  cases nameOf name with
  | error defect => rfl
  | ok name =>
    cases typeNameOf typeName with
    | error defect => rfl
    | ok typeName =>
      cases declareOf declare with
      | error defect => rfl
      | ok flag => cases Scope.recognize scope <;> rfl

theorem ofData_eq_error_iff :
    ofData name typeName declare scope = .error defect ↔
      ∃ before field after, Field.all = before ++ field :: after ∧
        (∀ earlier ∈ before, earlier.Accepts (offered name typeName declare scope earlier)) ∧
        ¬ field.Accepts (offered name typeName declare scope field) ∧
        defect = ⟨field.complaint (offered name typeName declare scope field),
          offered name typeName declare scope field⟩ := by
  rw [← fault?_eq_some_iff, fault?_ofData_offered, List.findSome?_eq_some_iff]
  simp only [Field.fault?_eq_none_iff, Field.fault?_eq_some_iff]
  constructor
  · rintro ⟨before, field, after, split, refuses, first⟩
    exact ⟨before, field, after, split, first, refuses⟩
  · rintro ⟨before, field, after, split, first, refuses⟩
    exact ⟨before, field, after, split, refuses, first⟩

theorem exists_ofData_iff :
    (∃ v, ofData name typeName declare scope = .ok v) ↔
      ∀ field : Field, field.Accepts (offered name typeName declare scope field) := by
  rw [← fault?_eq_none_iff, fault?_ofData_offered, List.findSome?_eq_none_iff]
  simp only [Field.fault?_eq_none_iff]
  exact ⟨fun accepts field => accepts field field.mem_all, fun accepts field _ => accepts field⟩

/-- Four values make a variable exactly if each field accepts its own.  The variable holds them unchanged but for the
spelling of its scope, and its own fields make it again.  If a field refuses, the first one that does is reported, with
its value and under the code for descriptors. -/
theorem ofData_by_field (name typeName declare scope : Datum) :
    ((∃ v, ofData name typeName declare scope = .ok v) ↔
      ∀ field : Field, field.Accepts (offered name typeName declare scope field)) ∧
    (∀ v, ofData name typeName declare scope = .ok v ↔
      name = .text v.name ∧ typeName = .text v.typeName ∧ declare = .flag v.declare ∧
        Scope.recognize? scope = some v.scope) ∧
    (∀ v : Variable, ofData (.text v.name) (.text v.typeName) (.flag v.declare) (.mark (.scope v.scope)) = .ok v) ∧
    (∀ defect, ofData name typeName declare scope = .error defect ↔
      ∃ before field after, Field.all = before ++ field :: after ∧
        (∀ earlier ∈ before, earlier.Accepts (offered name typeName declare scope earlier)) ∧
        ¬ field.Accepts (offered name typeName declare scope field) ∧
        defect = ⟨field.complaint (offered name typeName declare scope field),
          offered name typeName declare scope field⟩) ∧
    ∀ (field : Field) (value : Datum),
      (field.complaint value).code = .invalidDescriptor ∧ (field.complaint value).field = field.label :=
  ⟨exists_ofData_iff,
    fun _ => ofData_eq_ok_iff,
    fun _ => ofData_eq_ok_iff.2 ⟨rfl, rfl, rfl, rfl⟩,
    fun _ => ofData_eq_error_iff,
    fun field value => ⟨field.code_complaint value, field.field_complaint value⟩⟩

end Variable

end TagBinding
