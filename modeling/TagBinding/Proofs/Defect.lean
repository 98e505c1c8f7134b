import TagBinding.Proofs.Declaration.Faults
import TagBinding.Proofs.Text.Unbroken
import TagBinding.Proofs.Variable.Field

/-! # What defects say stays on one line

A defect shows the value it complains about, and that value may be anything that a tag library holds.  However deep it
nests, and whatever the texts in it hold, it is shown as an unbroken text (`Datum.WellWritten.unbroken_literal`): texts
are quoted, and everything around them is words and signs of one line.  Numbers with a fraction or an exponent are kept
as they are written, so they are taken to be written with the signs of numerals (`Datum.WellWritten`).

The words around the value are fixed, so the message of every defect that the checks find is unbroken:
`Scope.unbroken_of_refused`, `Variable.unbroken_of_refused` and `Declaration.unbroken_of_refused` for the three checks.
-/

namespace TagBinding

open Text (Unbroken unbroken_quoted unbroken_natural unbroken_integer unbroken_intercalate)

/-! ## Marks -/

theorem unbroken_wordLiteral {vocabulary name meaning : String} (front : Unbroken vocabulary) (named : Unbroken name)
    (meant : Unbroken meaning) : Unbroken (wordLiteral vocabulary name meaning) := by
  have opening : Unbroken ("<" ++ vocabulary ++ "." ++ name) :=
    ((Unbroken.append (by decide) front).append (by decide)).append named
  exact ((opening.append (by decide)).append meant).append (by decide)

theorem Callback.unbroken_literal (callback : Callback) : Unbroken callback.literal :=
  unbroken_wordLiteral (by decide) (Mark.callback callback).unbroken_name (unbroken_quoted callback.method)

theorem ControlFlow.unbroken_literal (flow : ControlFlow) : Unbroken flow.literal :=
  unbroken_wordLiteral (by decide) (Mark.flow flow).unbroken_name (unbroken_quoted flow.word)

theorem unbroken_bracketed {items : List String} (each : ∀ item ∈ items, Unbroken item) :
    Unbroken (bracketed items) := by
  unfold bracketed
  split
  · next only =>
    exact (Unbroken.append (by decide) (each only List.mem_cons_self)).append (by decide)
  · exact (Unbroken.append (by decide) (unbroken_intercalate (by decide) each)).append (by decide)

theorem Handler.unbroken_literal (kind : Handler) : Unbroken kind.literal := by
  have callbacks : Unbroken (bracketed (kind.callbacks.map Callback.literal)) := by
    refine unbroken_bracketed fun item member => ?_
    obtain ⟨callback, -, rfl⟩ := List.mem_map.1 member
    exact callback.unbroken_literal
  have opening : Unbroken ("(" ++ bracketed (kind.callbacks.map Callback.literal) ++ ", ") :=
    (Unbroken.append (by decide) callbacks).append (by decide)
  exact unbroken_wordLiteral (by decide) (Mark.kind kind).unbroken_name
    ((opening.append kind.flow.unbroken_literal).append (by decide))

theorem Mark.unbroken_literal (mark : Mark) : Unbroken mark.literal := by
  have named := mark.unbroken_name
  cases mark with
  | scope value => exact unbroken_wordLiteral (by decide) named (unbroken_natural value.number)
  | kind value => exact value.unbroken_literal
  | callback value => exact value.unbroken_literal
  | flow value => exact value.unbroken_literal
  | decision value => exact unbroken_wordLiteral (by decide) named (unbroken_quoted value.word)
  | code value => exact unbroken_wordLiteral (by decide) named (unbroken_quoted value.text)

/-! ## Values -/

namespace Datum

/-- The signs that a number with a fraction or an exponent is written with, or one that is infinite or none at all. -/
def numeralSigns : List Char := "+-.0123456789aefin".toList

/-- Whether every number with a fraction or an exponent, at any depth, is written as one. -/
inductive WellWritten : Datum → Prop where
  | null : WellWritten .null
  | flag (value : Bool) : WellWritten (.flag value)
  | whole (value : Int) : WellWritten (.whole value)
  | decimal (written : String) (numeral : written.toList ⊆ numeralSigns) : WellWritten (.decimal written)
  | text (value : String) : WellWritten (.text value)
  | list (items : List Datum) (each : ∀ item ∈ items, WellWritten item) : WellWritten (.list items)
  | record (entries : List (String × Datum)) (each : ∀ entry ∈ entries, WellWritten entry.2) :
      WellWritten (.record entries)
  | mark (value : Mark) : WellWritten (.mark value)

theorem literals_eq_map (items : List Datum) : literals items = items.map literal := by
  induction items with
  | nil => rfl
  | cons item rest ih => rw [literals, ih, List.map_cons]

theorem entryLiterals_eq_map (entries : List (String × Datum)) :
    entryLiterals entries = entries.map fun entry => Text.quoted entry.1 ++ ": " ++ entry.2.literal := by
  induction entries with
  | nil => rfl
  | cons entry rest ih => rw [entryLiterals, ih, List.map_cons]

theorem unbroken_numeral {written : String} (numeral : written.toList ⊆ numeralSigns) : Unbroken written := by
  have signs : numeralSigns.all fun c => !Text.breaks c := by decide
  intro c member
  simpa using List.all_eq_true.1 signs c (numeral member)

/-- A value is shown on one line, whatever the texts in it hold. -/
theorem WellWritten.unbroken_literal {value : Datum} (written : value.WellWritten) : Unbroken value.literal := by
  -- by induction on how the value nests; brackets and commas are all that stands around the parts
  induction written with
  | null => decide
  | flag value => cases value <;> decide
  | whole value => exact unbroken_integer value
  | decimal written numeral => exact unbroken_numeral numeral
  | text value => exact unbroken_quoted value
  | list items _ ih =>
    rw [literal, literals_eq_map]
    have each : ∀ shown ∈ items.map literal, Unbroken shown := by
      intro shown member
      obtain ⟨item, among, rfl⟩ := List.mem_map.1 member
      exact ih item among
    exact (Unbroken.append (by decide) (unbroken_intercalate (by decide) each)).append (by decide)
  | record entries _ ih =>
    rw [literal, entryLiterals_eq_map]
    have each : ∀ shown ∈ entries.map fun entry => Text.quoted entry.1 ++ ": " ++ entry.2.literal, Unbroken shown := by
      intro shown member
      obtain ⟨entry, among, rfl⟩ := List.mem_map.1 member
      exact ((unbroken_quoted entry.1).append (by decide)).append (ih entry among)
    exact (Unbroken.append (by decide) (unbroken_intercalate (by decide) each)).append (by decide)
  | mark value => exact value.unbroken_literal

end Datum

/-! ## Complaints -/

/-- A complaint of the checks themselves, in their own words. -/
def Complaint.Own (complaint : Complaint) : Prop := ∀ field reason code, complaint ≠ .stated field reason code

theorem Complaint.Own.unbroken {complaint : Complaint} (own : complaint.Own) :
    Unbroken complaint.field ∧ Unbroken complaint.reason := by
  cases complaint with
  | stated field reason code => exact absurd rfl (own field reason code)
  | _ => decide

theorem Defect.unbroken_message {defect : Defect} (own : defect.complaint.Own) (written : defect.value.WellWritten) :
    Unbroken defect.message := by
  have label : Unbroken ("Invalid " ++ defect.complaint.field ++ " ") :=
    (Unbroken.append (by decide) own.unbroken.1).append (by decide)
  exact ((label.append written.unbroken_literal).append (by decide)).append own.unbroken.2

/-! ## Scopes and variables -/

theorem Variable.Field.own_complaint (field : Variable.Field) (value : Datum) : (field.complaint value).Own := by
  intro name reason code
  unfold complaint
  split
  · split <;> simp
  all_goals simp

theorem Scope.unbroken_of_refused {value : Datum} {defect : Defect} (written : value.WellWritten)
    (refused : Scope.recognize value = .error defect) : Unbroken defect.message := by
  have found : Variable.Field.scope.fault? value = some defect := fault?_eq_some_iff.2 refused
  rw [Variable.Field.eq_of_fault?_eq_some found]
  exact Defect.unbroken_message (Variable.Field.scope.own_complaint value) written

theorem Variable.unbroken_of_refused {name typeName declare scope : Datum} {defect : Defect}
    (written : ∀ field, (offered name typeName declare scope field).WellWritten)
    (refused : ofData name typeName declare scope = .error defect) : Unbroken defect.message := by
  obtain ⟨_, field, _, _, _, _, rfl⟩ := ofData_eq_error_iff.1 refused
  exact Defect.unbroken_message (field.own_complaint _) (written field)

/-! ## Declarations -/

theorem Datum.WellWritten.lookup {entries : List (String × Datum)} (written : (Datum.record entries).WellWritten)
    (key : String) : (Datum.lookup entries key).WellWritten := by
  cases written with
  | record _ each =>
    induction entries with
    | nil => exact .null
    | cons entry rest ih =>
      obtain ⟨here, there⟩ := List.forall_mem_cons.1 each
      rw [Datum.lookup]
      split
      · exact here
      · exact ih there

namespace Declaration

variable {entries : List (String × Datum)} {attributes : Attributes} {value : Datum} {defect : Defect}

theorem Names.wellWritten (names : (ofEntries entries).Names attributes value)
    (written : (Datum.record entries).WellWritten) (writtenAttributes : ∀ key, (attributes.value key).WellWritten) :
    value.WellWritten := by
  cases names with
  | given given _ _ => exact given ▸ written.lookup "name-given"
  | taken key _ _ set _ => exact set ▸ writtenAttributes key

theorem Fails.own {declaration : Declaration} {stage : Stage}
    (fails : declaration.Fails attributes stage (.defect defect)) : defect.complaint.Own := by
  cases fails <;> simp [Complaint.Own]

theorem Fails.wellWritten {stage : Stage} (fails : (ofEntries entries).Fails attributes stage (.defect defect))
    (written : (Datum.record entries).WellWritten) (writtenAttributes : ∀ key, (attributes.value key).WellWritten) :
    defect.value.WellWritten := by
  cases fails with
  | twoSources _ _ => exact written.lookup "name-given"
  | noSource _ _ => exact .null
  | unset _ _ _ _ => exact written.lookup "name-from-attribute"
  | unclear _ => exact written.lookup "declare"
  | unknownScope _ => exact written.lookup "scope"
  | emptyName value names _ => exact names.wellWritten written writtenAttributes
  | malformedName text _ _ _ => exact .text text
  | blankTypeName _ _ => exact written.lookup "variable-class"

theorem unbroken_of_refused (written : (Datum.record entries).WellWritten)
    (writtenAttributes : ∀ key, (attributes.value key).WellWritten)
    (refused : (ofEntries entries).toVariable attributes = .error (.defect defect)) : Unbroken defect.message := by
  obtain ⟨_, _, _, _, fails, _⟩ := toVariable_eq_error_iff.1 refused
  exact Defect.unbroken_message fails.own (fails.wellWritten written writtenAttributes)

end Declaration

end TagBinding
