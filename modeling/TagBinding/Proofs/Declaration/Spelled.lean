import TagBinding.Proofs.Declaration.Faults
import TagBinding.Proofs.Recognition

/-! # Every spelling of a variable is read back

A variable can be written as a declaration in many ways: its name by itself or in an attribute, its mark as a flag, a
number or a word, its scope as itself, a number or a word, and whatever is usual left out.  `Spells` collects them, and
`Declaration.toVariable_of_spells` says that a declaration yields the variable that it spells.  Words may be in any mix
of cases with blanks around them, and the entries of an element may hold more than is asked for.
-/

namespace TagBinding

namespace Declaration

/-! ## Spellings of the parts -/

/-- A name is spelled by itself, or by an attribute that is set to it. -/
inductive SpellsName (entries : List (String × Datum)) (attributes : Attributes) (name : String) : Prop where
  | given (given : Datum.lookup entries "name-given" = .text name)
      (alone : Datum.lookup entries "name-from-attribute" = .null)
  | taken (key : String) (ungiven : Datum.lookup entries "name-given" = .null)
      (source : Datum.lookup entries "name-from-attribute" = .text key)
      (set : attributes.value key = .text name)

/-- The name of a type is spelled by itself, or left out if it is the usual one. -/
inductive SpellsType (value : Datum) (name : String) : Prop where
  | given (same : value = .text name)
  | leftOut (null : value = .null) (usual : name = defaultClass)

/-- A mark for a fresh declaration is spelled by a flag, a number or a word for it, or left out if it is set. -/
inductive SpellsFlag (value : Datum) (flag : Bool) : Prop where
  | flag (same : value = .flag flag)
  | number (same : value = .whole flag.toNat)
  | word (word text : String) (known : word ∈ flagWords flag) (spelled : Text.Spelled word text)
      (same : value = .text text)
  | leftOut (null : value = .null) (usual : flag = true)

/-- A scope is spelled by itself, its number or its name, or left out if it is the body. -/
inductive SpellsScope (value : Datum) (scope : Scope) : Prop where
  | mark (same : value = .mark (.scope scope))
  | number (same : value = .whole scope.number)
  | word (text : String) (spelled : Text.Spelled scope.name text) (same : value = .text text)
  | leftOut (null : value = .null) (usual : scope = .nested)

/-- The entries of an element spell a variable where the attributes of the invocation are as given. -/
structure Spells (entries : List (String × Datum)) (attributes : Attributes) (v : Variable) : Prop where
  name : SpellsName entries attributes v.name
  typeName : SpellsType (Datum.lookup entries "variable-class") v.typeName
  declare : SpellsFlag (Datum.lookup entries "declare") v.declare
  scope : SpellsScope (Datum.lookup entries "scope") v.scope

variable {entries : List (String × Datum)} {attributes : Attributes} {value : Datum} {name : String}

/-! ## Reading them back -/

theorem SpellsName.names (spells : SpellsName entries attributes name) :
    (ofEntries entries).Names attributes (.text name) := by
  cases spells with
  | given given alone => exact .given given alone (by simp)
  | taken key ungiven source set => exact .taken key ungiven source set (by simp)

theorem SpellsType.says (spells : SpellsType value name) (visible : name.toList.all Text.isBlank = false) :
    SaysType value name := by
  cases spells with
  | given same =>
    have full : value.isEmpty = false := by
      -- a text that shows something is not taken for a type that is left out
      rw [same, Datum.isEmpty, ← Bool.not_eq_true, String.isEmpty_iff]
      rintro rfl
      cases visible
    exact .given full same
  | leftOut null usual => exact .nothing (by rw [null]; rfl) usual

theorem SpellsFlag.says {flag : Bool} (spells : SpellsFlag value flag) : SaysFlag value flag := by
  cases spells with
  | flag same => exact .flag same
  | number same =>
    -- a number is read by its digit, which is a word for a flag
    rw [same, saysFlag_iff_wordFlag? (by simp)]
    cases flag <;> rfl
  | word word text known spelled same => exact .word word known (by rwa [same])
  | leftOut null usual => exact .nothing null usual

theorem SpellsScope.says {scope : Scope} (spells : SpellsScope value scope) : SaysScope value scope := by
  cases spells with
  | mark same => exact .known (by rw [same]; rfl)
  | number same => exact .known (same ▸ Scope.recognize?_number scope)
  | word text spelled same => exact .known (same ▸ Scope.recognize?_text_eq_some_iff.2 spelled.recognizable)
  | leftOut null usual => exact .nothing null usual

/-- Every spelling of a variable yields that variable. -/
theorem toVariable_of_spells (v : Variable) (entries : List (String × Datum)) (attributes : Attributes)
    (spells : Spells entries attributes v) : (ofEntries entries).toVariable attributes = .ok v :=
  toVariable_eq_ok_iff.2
    { name := spells.name.names
      typeName := spells.typeName.says v.typeName_visible
      declare := spells.declare.says
      scope := spells.scope.says }

/-- A name in an attribute, padded words in mixed cases, no type, and an entry that is not asked for. -/
theorem toVariable_of_spells_row :
    let v : Variable :=
      { name := "row", typeName := "java.lang.String", declare := false, scope := .atBegin, name_valid := rfl,
        typeName_visible := rfl }
    let entries : List (String × Datum) :=
      [("description", .whole 3), ("name-from-attribute", .text "var"), ("declare", .text "\tNo "),
        ("scope", .text " aT_bEgIn\n")]
    let attributes : Attributes := some [("id", .text "table"), ("var", .text "row")]
    Spells entries attributes v ∧ (ofEntries entries).toVariable attributes = .ok v := by
  intro v entries attributes
  have no : Text.Spelled "no" "\tNo " := (Text.spelled_iff_trim rfl).2 rfl
  have atBegin : Text.Spelled "AT_BEGIN" " aT_bEgIn\n" := (Text.spelled_iff_trim rfl).2 rfl
  have spells : Spells entries attributes v :=
    { name := .taken "var" rfl rfl rfl
      typeName := .leftOut rfl rfl
      declare := .word "no" "\tNo " (by decide) no rfl
      scope := .word " aT_bEgIn\n" atBegin rfl }
  exact ⟨spells, toVariable_of_spells v entries attributes spells⟩

end Declaration

end TagBinding
