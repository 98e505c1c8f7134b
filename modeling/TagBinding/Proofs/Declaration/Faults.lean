import TagBinding.Proofs.Declaration

/-! # What declarations come to

A declaration comes to the variable that it describes, or to its first failure among the checks.  A list of them comes
to the variables, or to the fault of the first declaration that has one.  Every fault is a defect, whatever the parts
hold, but for one case: a declaration takes its name from an attribute and gives a list or a record for the attribute
(`Declaration.LooksUpCompound`).  Such a value cannot be looked up, and the fault of the lookup is what comes out, ahead
of every other check of that declaration.

* `Declaration.toVariable_eq_ok_iff`, `Declaration.toVariable_eq_error_iff` - one declaration is read by the rules.
* `Declaration.reports_first_fault` - a list of them comes to its first fault.
* `Declaration.toVariables_ok_or_defect_iff` - a list of them yields variables or comes to a defect, exactly if it does
  not meet a declaration that cannot look its attribute up.
-/

namespace TagBinding

namespace Declaration

variable {declaration : Declaration} {attributes : Attributes}

/-! ## All checks -/

theorem toVariable_eq_ok_iff {v : Variable} :
    declaration.toVariable attributes = .ok v ↔ declaration.Yields attributes v := by
  simp only [toVariable, bind_eq_ok_iff, mapError_eq_ok_iff, name_eq_ok_iff, introduces_eq_ok_iff, window_eq_ok_iff,
    Variable.ofData_eq_ok_iff]
  constructor
  · rintro ⟨_, names, flag, flagged, scope, windowed, rfl, typed, same, recognized⟩
    cases same
    cases recognized
    exact ⟨names, typeName_eq_text_iff.1 typed, flagged, windowed⟩
  · rintro ⟨names, typed, flagged, windowed⟩
    exact ⟨_, names, v.declare, flagged, v.scope, windowed, rfl, typeName_eq_text_iff.2 typed, rfl, rfl⟩

/-- The fault that is found at a check. -/
def faultAt? (declaration : Declaration) (attributes : Attributes) : Stage → Option DeclarationFault
  | .nameSource => fault? (declaration.name attributes)
  | .declare => (fault? declaration.introduces).map .defect
  | .scope => (fault? declaration.window).map .defect
  | .name =>
    match declaration.name attributes with
    | .ok value => (fault? (Variable.nameOf value)).map .defect
    | .error _ => none
  | .typeName => (fault? (Variable.typeNameOf declaration.typeName)).map .defect

/-- The code reports the first of the faults that the checks find. -/
theorem fault?_toVariable :
    fault? (declaration.toVariable attributes) = Stage.all.findSome? (declaration.faultAt? attributes) := by
  simp only [Stage.all, List.findSome?, faultAt?, toVariable]
  -- each check runs only if the ones before it pass, so the cases are nested in the order of `Stage.all`
  cases declaration.name attributes with
  | error fault => rfl
  | ok value =>
    cases declaration.introduces with
    | error defect => rfl
    | ok flag =>
      cases declaration.window with
      | error defect => rfl
      | ok scope =>
        -- the mark and the scope are as they should be by now, which leaves the name and the type
        change fault? (Except.mapError _ (Variable.ofData value _ (.flag flag) (.mark (.scope scope)))) = _
        rw [fault?_mapError, Variable.fault?_ofData]
        simp only [fault?, Option.map_none]
        cases Variable.nameOf value with
        | error defect => rfl
        | ok name => cases Variable.typeNameOf declaration.typeName <;> rfl

theorem map_fault?_eq_some_iff {α : Type} {answer : Except Defect α} {fault : DeclarationFault} {defect : Defect}
    (only : ∀ other, answer = .error other → other = defect) :
    (fault? answer).map .defect = some fault ↔ (∀ result, answer ≠ .ok result) ∧ fault = .defect defect := by
  cases answer with
  | ok result => simp [fault?]
  | error other => simp [fault?, only other rfl, eq_comm (a := fault)]

theorem faultAt?_name_eq_some_iff {fault : DeclarationFault} :
    declaration.faultAt? attributes .name = some fault ↔ declaration.Fails attributes .name fault := by
  constructor
  · intro found
    simp only [faultAt?] at found
    split at found
    · next value told =>
      obtain ⟨defect, failed, rfl⟩ := Option.map_eq_some_iff.1 found
      have names : declaration.Names attributes value := name_eq_ok_iff.1 told
      rcases Variable.nameOf_eq_error_iff.1 (fault?_eq_some_iff.1 failed) with
        ⟨empty, rfl⟩ | ⟨text, rfl, something, malformed, rfl⟩
      · exact .emptyName value names empty
      · exact .malformedName text names something malformed
    · cases found
  · intro fails
    cases fails with
    | emptyName value names empty =>
      simp only [faultAt?, name_eq_ok_iff.2 names]
      rw [fault?_eq_some_iff.2 (Variable.nameOf_eq_error_iff.2 (Or.inl ⟨empty, rfl⟩))]
      rfl
    | malformedName text names something malformed =>
      simp only [faultAt?, name_eq_ok_iff.2 names]
      rw [fault?_eq_some_iff.2 (Variable.nameOf_eq_error_iff.2 (Or.inr ⟨text, rfl, something, malformed, rfl⟩))]
      rfl

theorem faultAt?_typeName_eq_some_iff {fault : DeclarationFault} :
    declaration.faultAt? attributes .typeName = some fault ↔ declaration.Fails attributes .typeName fault := by
  have found : declaration.faultAt? attributes .typeName = some fault ↔
      ∃ defect, Variable.typeNameOf declaration.typeName = .error defect ∧ .defect defect = fault := by
    simp only [faultAt?, Option.map_eq_some_iff, fault?_eq_some_iff]
  rw [found]
  unfold typeName
  split
  · next empty =>
    -- the usual type stands in for an empty one, and is not blank
    constructor
    · rintro ⟨_, failed, -⟩
      cases failed
    · intro fails
      cases fails with
      | blankTypeName given _ =>
        rw [empty] at given
        cases given
  · next full =>
    constructor
    · rintro ⟨_, failed, rfl⟩
      obtain ⟨blank, rfl⟩ := Variable.typeNameOf_eq_error_iff.1 failed
      exact .blankTypeName (by simpa using full) blank
    · intro fails
      cases fails with
      | blankTypeName _ blank => exact ⟨_, Variable.typeNameOf_eq_error_iff.2 ⟨blank, rfl⟩, rfl⟩

theorem faultAt?_eq_some_iff {stage : Stage} {fault : DeclarationFault} :
    declaration.faultAt? attributes stage = some fault ↔ declaration.Fails attributes stage fault := by
  cases stage with
  | nameSource => exact fault?_eq_some_iff.trans name_eq_error_iff
  | declare =>
    rw [faultAt?, map_fault?_eq_some_iff fun _ => eq_of_introduces_eq_error]
    simp only [ne_eq, introduces_eq_ok_iff]
    constructor
    · rintro ⟨unclear, rfl⟩
      exact .unclear unclear
    · intro fails
      cases fails with
      | unclear unclear => exact ⟨unclear, rfl⟩
  | scope =>
    rw [faultAt?, map_fault?_eq_some_iff fun _ => eq_of_window_eq_error]
    simp only [ne_eq, window_eq_ok_iff]
    constructor
    · rintro ⟨unknown, rfl⟩
      exact .unknownScope unknown
    · intro fails
      cases fails with
      | unknownScope unknown => exact ⟨unknown, rfl⟩
  | name => exact faultAt?_name_eq_some_iff
  | typeName => exact faultAt?_typeName_eq_some_iff

theorem toVariable_eq_error_iff {fault : DeclarationFault} :
    declaration.toVariable attributes = .error fault ↔ ∃ stage, declaration.FailsFirst attributes stage fault := by
  have passes : ∀ stage, declaration.faultAt? attributes stage = none ↔
      ∀ other, ¬ declaration.Fails attributes stage other := by
    intro stage
    simp only [Option.eq_none_iff_forall_ne_some, ne_eq, faultAt?_eq_some_iff]
  rw [← fault?_eq_some_iff, fault?_toVariable, List.findSome?_eq_some_iff]
  simp only [passes, faultAt?_eq_some_iff]
  constructor
  · rintro ⟨before, stage, after, split, fails, first⟩
    exact ⟨stage, before, after, split, fails, first⟩
  · rintro ⟨stage, before, after, split, fails, first⟩
    exact ⟨before, stage, after, split, fails, first⟩

/-- A declaration yields a variable if and only if it fails no check. -/
theorem exists_toVariable_iff :
    (∃ v, declaration.toVariable attributes = .ok v) ↔ ∀ stage fault, ¬ declaration.Fails attributes stage fault := by
  constructor
  · rintro ⟨v, yields⟩ stage fault fails
    have found : Stage.all.findSome? (declaration.faultAt? attributes) = none := by
      rw [← fault?_toVariable, yields]
      rfl
    have passed := List.findSome?_eq_none_iff.1 found stage (by cases stage <;> decide)
    rw [faultAt?_eq_some_iff.2 fails] at passed
    cases passed
  · intro passes
    cases made : declaration.toVariable attributes with
    | ok v => exact ⟨v, rfl⟩
    | error fault =>
      obtain ⟨stage, _, _, _, fails, _⟩ := toVariable_eq_error_iff.1 made
      exact absurd fails (passes stage fault)

/-! ## What is reported -/

/-- The code that faults at a check are reported with. -/
def Stage.code : Stage → ErrorCode
  | .nameSource | .declare => .invalidDeclaration
  | .scope | .name | .typeName => .invalidDescriptor

/-- The fields that faults at a check are reported for. -/
def Stage.fields : Stage → List String
  | .nameSource => ["name", "name-from-attribute"]
  | .declare => ["declare"]
  | .scope => ["scope"]
  | .name => ["name"]
  | .typeName => ["type_name"]

/-- An attribute to take the name from is given by a text, if at all. -/
def LooksUpText (declaration : Declaration) : Prop :=
  declaration.nameFromAttribute = .null ∨ ∃ key, declaration.nameFromAttribute = .text key

theorem Fails.reported {stage : Stage} {fault : DeclarationFault} (fails : declaration.Fails attributes stage fault)
    (lookable : declaration.LooksUpText) :
    ∃ defect, fault = .defect defect ∧ defect.complaint.code = stage.code ∧ defect.complaint.field ∈ stage.fields := by
  cases fails with
  | compound _ compound =>
    rcases lookable with untaken | ⟨key, source⟩
    · rw [untaken] at compound
      cases compound
    · rw [source] at compound
      cases compound
  | _ => exact ⟨_, rfl, rfl, by simp [Complaint.field, Stage.fields]⟩

/-- A list of declarations yields the variable of each one in order, or else comes to the fault of the first declaration
that has one, which is the one at the first check it fails.  If names are taken from attributes that texts name, then
each fault is a defect, and it tells the check by its code and its field. -/
theorem reports_first_fault (declarations : List Declaration) (attributes : Attributes)
    (lookable : ∀ declaration ∈ declarations, declaration.LooksUpText) :
    (∀ yielded, toVariables declarations attributes = .ok yielded ↔
      List.Forall₂ (fun declaration v => declaration.Yields attributes v) declarations yielded) ∧
    (∀ fault, toVariables declarations attributes = .error fault ↔
      ∃ before declaration after stage, declarations = before ++ declaration :: after ∧
        (∀ earlier ∈ before, ∀ stage other, ¬ earlier.Fails attributes stage other) ∧
        declaration.FailsFirst attributes stage fault) ∧
    (∀ declaration ∈ declarations, ∀ stage fault, declaration.Fails attributes stage fault →
      ∃ defect, fault = .defect defect ∧ defect.complaint.code = stage.code ∧
        defect.complaint.field ∈ stage.fields) ∧
    ((∃ yielded, toVariables declarations attributes = .ok yielded) ↔
      ∀ declaration ∈ declarations, ∀ stage fault, ¬ declaration.Fails attributes stage fault) := by
  -- each part reads the list by `mapM`, and one declaration by the rules for it
  have yields : ∀ yielded, toVariables declarations attributes = .ok yielded ↔
      List.Forall₂ (fun declaration v => declaration.Yields attributes v) declarations yielded := by
    intro yielded
    simp only [toVariables, mapM_eq_ok_iff, toVariable_eq_ok_iff]
  have faults : ∀ fault, toVariables declarations attributes = .error fault ↔
      ∃ before declaration after stage, declarations = before ++ declaration :: after ∧
        (∀ earlier ∈ before, ∀ stage other, ¬ earlier.Fails attributes stage other) ∧
        declaration.FailsFirst attributes stage fault := by
    intro fault
    rw [toVariables, mapM_eq_error_iff]
    simp only [exists_toVariable_iff, toVariable_eq_error_iff]
    constructor
    · rintro ⟨before, declaration, after, split, passed, stage, fails⟩
      exact ⟨before, declaration, after, stage, split, passed, fails⟩
    · rintro ⟨before, declaration, after, stage, split, passed, fails⟩
      exact ⟨before, declaration, after, split, passed, stage, fails⟩
  have succeeds : (∃ yielded, toVariables declarations attributes = .ok yielded) ↔
      ∀ declaration ∈ declarations, ∀ stage fault, ¬ declaration.Fails attributes stage fault := by
    simp only [toVariables, exists_mapM_eq_ok_iff, exists_toVariable_iff]
  exact ⟨yields, faults, fun declaration member _ _ fails => fails.reported (lookable declaration member), succeeds⟩

/-- The second of these declarations is read as far as its mark, and what is wrong with its scope and with the third
declaration is not told. -/
theorem reports_first_fault_rows :
    let rows := [ofEntries [("name-given", .text "row")],
      ofEntries [("name-from-attribute", .text "var"), ("declare", .text "maybe"), ("scope", .text "elsewhere")],
      ofEntries []]
    let attributes : Attributes := some [("var", .text "count")]
    (∀ declaration ∈ rows, declaration.LooksUpText) ∧
      ∃ before declaration after stage, rows = before ++ declaration :: after ∧
        (∀ earlier ∈ before, ∀ stage other, ¬ earlier.Fails attributes stage other) ∧
        declaration.FailsFirst attributes stage (.defect ⟨.unclearDeclare, .text "maybe"⟩) := by
  intro rows attributes
  have lookable : ∀ declaration ∈ rows, declaration.LooksUpText := by
    simp [rows, LooksUpText, ofEntries, Datum.lookup]
  exact ⟨lookable, ((reports_first_fault rows attributes lookable).2.1 _).1 rfl⟩

/-! ## Attributes that cannot be looked up -/

/-- A declaration takes its name from an attribute, but gives a list or a record for the attribute. -/
structure LooksUpCompound (declaration : Declaration) : Prop where
  ungiven : declaration.nameGiven = .null
  compound : declaration.nameFromAttribute.isCompound

/-- Reading a list of declarations in order comes to one that cannot look its attribute up: each declaration before it
yields a variable. -/
def MeetsCompound (declarations : List Declaration) (attributes : Attributes) (source : Datum) : Prop :=
  ∃ before declaration after, declarations = before ++ declaration :: after ∧
    (∀ earlier ∈ before, ∃ v, earlier.Yields attributes v) ∧
    declaration.LooksUpCompound ∧ source = declaration.nameFromAttribute

theorem toVariable_eq_compoundAttribute_iff {source : Datum} :
    declaration.toVariable attributes = .error (.compoundAttribute source) ↔
      declaration.LooksUpCompound ∧ source = declaration.nameFromAttribute := by
  rw [toVariable_eq_error_iff]
  constructor
  · rintro ⟨stage, before, after, split, fails, first⟩
    cases fails with
    | compound ungiven compound => exact ⟨⟨ungiven, compound⟩, rfl⟩
  · rintro ⟨⟨ungiven, compound⟩, rfl⟩
    -- the name source is the first check of all, so nothing can fail before it
    exact ⟨.nameSource, [], [.declare, .scope, .name, .typeName], rfl, .compound ungiven compound, by simp⟩

theorem toVariables_eq_compoundAttribute_iff {declarations : List Declaration} {source : Datum} :
    toVariables declarations attributes = .error (.compoundAttribute source) ↔
      MeetsCompound declarations attributes source := by
  rw [toVariables, mapM_eq_error_iff]
  simp only [toVariable_eq_ok_iff, toVariable_eq_compoundAttribute_iff, MeetsCompound]

theorem compoundMessage_eq {value : Datum} (compound : value.isCompound) :
    value.compoundMessage = "unhashable type: 'list'" ∨ value.compoundMessage = "unhashable type: 'dict'" := by
  have shown : "unhashable type: " ++ Text.quoted "list" = "unhashable type: 'list'" ∧
      "unhashable type: " ++ Text.quoted "dict" = "unhashable type: 'dict'" := by decide
  cases value with
  | list items => exact .inl shown.1
  | record entries => exact .inr shown.2
  | _ => cases compound

/-- Whatever the parts of some declarations and the attributes of an invocation hold, the declarations yield their
variables or come to a defect, unless they come to one that cannot look its attribute up.  Then they come to neither:
the fault is that of the lookup, and it says so. -/
theorem toVariables_ok_or_defect_iff (declarations : List Declaration) (attributes : Attributes) :
    (((∃ yielded, toVariables declarations attributes = .ok yielded) ∨
        ∃ defect, toVariables declarations attributes = .error (.defect defect)) ↔
      ¬ ∃ source, MeetsCompound declarations attributes source) ∧
    ∀ source, MeetsCompound declarations attributes source →
      ∃ fault, toVariables declarations attributes = .error fault ∧
        (fault.message = "unhashable type: 'list'" ∨ fault.message = "unhashable type: 'dict'") := by
  simp only [← toVariables_eq_compoundAttribute_iff]
  refine ⟨?_, fun source meets => ⟨_, meets, ?_⟩⟩
  · cases toVariables declarations attributes with
    | ok yielded => simp
    | error fault => cases fault <;> simp
  · obtain ⟨_, declaration, _, _, _, looksUp, rfl⟩ := toVariables_eq_compoundAttribute_iff.1 meets
    exact compoundMessage_eq looksUp.compound

/-- A name taken from an attribute that a list stands for: no variable comes of it, and no defect. -/
theorem listed_attribute_no_defect :
    let declarations := [ofEntries [("name-from-attribute", .list [.text "var"])]]
    let attributes : Attributes := some [("var", .text "row")]
    ¬ ((∃ yielded, toVariables declarations attributes = .ok yielded) ∨
      ∃ defect, toVariables declarations attributes = .error (.defect defect)) := by
  intro declarations attributes
  have fault : toVariables declarations attributes = .error (.compoundAttribute (.list [.text "var"])) := rfl
  rw [fault]
  rintro (⟨_, same⟩ | ⟨_, same⟩)
  · cases same
  · cases same

end Declaration

end TagBinding
