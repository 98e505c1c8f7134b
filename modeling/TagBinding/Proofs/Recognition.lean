import TagBinding.Proofs.Text.Spelling
import TagBinding.Proofs.Variable

/-! # What is recognised as a scope or a kind

A scope is given as itself, as its number or in a text that reads as its name, a kind of handler as itself or in such a
text (`Scope.Denotes`, `Handler.Denotes`).  `recognize_iff_denotes` says that these are all: a value is taken for the
scope or the kind that it denotes, and any other value, of whatever type, is refused.

A text may read as a name without being it in some mix of cases (`Scope.recognize_long_s`): what counts is the text in
capitals, and there are characters beyond ASCII that are ASCII letters then.
-/

namespace TagBinding

/-! ## Names -/

namespace Text

theorem eq_of_spells {text left right : String} (first : spells text left) (second : spells text right) :
    left = right := by
  rw [spells, beq_iff_eq] at first second
  exact String.toList_inj.1 (first.symm.trans second)

/-- What is found by its name in a complete list is what has the name, if no two have the same. -/
theorem find?_spells_eq_some_iff {α : Type} {all : List α} {name : α → String} (complete : ∀ a, a ∈ all)
    (injective : ∀ {left right}, name left = name right → left = right) {text : String} {a : α} :
    all.find? (fun candidate => spells text (name candidate)) = some a ↔ spells text (name a) := by
  constructor
  · intro found
    exact List.find?_some (p := fun candidate => spells text (name candidate)) found
  · intro spelled
    cases found : all.find? fun candidate => spells text (name candidate) with
    | none => exact absurd spelled (List.find?_eq_none.1 found a (complete a))
    | some other =>
      have said := List.find?_some found
      rw [injective (eq_of_spells said spelled)]

end Text

/-! ## Scopes -/

namespace Scope

/-- A value is a scope, its number, or a text that reads as its name. -/
inductive Denotes : Datum → Scope → Prop where
  | itself (scope : Scope) : Denotes (.mark (.scope scope)) scope
  | number (scope : Scope) : Denotes (.whole scope.number) scope
  | name {text : String} {scope : Scope} (reads : Text.Recognizable scope.name text) : Denotes (.text text) scope

theorem name_injective {left right : Scope} (same : left.name = right.name) : left = right := by
  cases left <;> cases right <;> simp_all [name]

theorem ofNumber?_eq_some_iff {n : Int} {scope : Scope} : ofNumber? n = some scope ↔ n = scope.number := by
  constructor
  · intro found
    have same := List.find?_some found
    exact (beq_iff_eq.1 same).symm
  · rintro rfl
    cases scope <;> rfl

theorem recognize?_number (scope : Scope) : recognize? (.whole scope.number) = some scope :=
  ofNumber?_eq_some_iff.2 rfl

theorem recognize?_text_eq_some_iff {text : String} {scope : Scope} :
    recognize? (.text text) = some scope ↔ Text.Recognizable scope.name text := by
  rw [recognize?, Text.find?_spells_eq_some_iff mem_all name_injective,
    Text.spells_iff_recognizable (by cases scope <;> decide) (by cases scope <;> decide)]

theorem recognize?_eq_some_iff {value : Datum} {scope : Scope} :
    recognize? value = some scope ↔ Denotes value scope := by
  constructor
  · intro known
    cases value with
    | mark mark =>
      cases mark with
      | scope scope =>
        cases known
        exact .itself scope
      | _ => cases known
    | whole n =>
      obtain rfl := ofNumber?_eq_some_iff.1 known
      exact .number scope
    | text text => exact .name (recognize?_text_eq_some_iff.1 known)
    | null | flag | decimal | list | record => cases known
  · intro denotes
    cases denotes with
    | itself => rfl
    | number => exact recognize?_number scope
    | name reads => exact recognize?_text_eq_some_iff.2 reads

end Scope

/-! ## Kinds of handlers -/

namespace Handler

/-- A value is a kind of handler, or a text that reads as its name. -/
inductive Denotes : Datum → Handler → Prop where
  | itself (kind : Handler) : Denotes (.mark (.kind kind)) kind
  | name {text : String} {kind : Handler} (reads : Text.Recognizable kind.name text) : Denotes (.text text) kind

theorem name_injective {left right : Handler} (same : left.name = right.name) : left = right := by
  cases left <;> cases right <;> simp_all [name]

theorem recognize?_text_eq_some_iff {text : String} {kind : Handler} :
    recognize? (.text text) = some kind ↔ Text.Recognizable kind.name text := by
  rw [recognize?, Text.find?_spells_eq_some_iff mem_all name_injective,
    Text.spells_iff_recognizable (by cases kind <;> decide) (by cases kind <;> decide)]

theorem recognize?_eq_some_iff {value : Datum} {kind : Handler} :
    recognize? value = some kind ↔ Denotes value kind := by
  constructor
  · intro known
    cases value with
    | mark mark =>
      cases mark with
      | kind kind =>
        cases known
        exact .itself kind
      | _ => cases known
    | text text => exact .name (recognize?_text_eq_some_iff.1 known)
    | null | flag | whole | decimal | list | record => cases known
  · intro denotes
    cases denotes with
    | itself => rfl
    | name reads => exact recognize?_text_eq_some_iff.2 reads

end Handler

/-! ## Both -/

/-- A value of whatever type is recognised as the scope, or the kind of handler, that it denotes.  If it denotes none,
it is reported as the value of the field for the scope, or as an unknown kind. -/
theorem recognize_iff_denotes (value : Datum) :
    ((∀ scope, Scope.recognize value = .ok scope ↔ Scope.Denotes value scope) ∧
      ∀ defect, Scope.recognize value = .error defect ↔
        (∀ scope, ¬ Scope.Denotes value scope) ∧ defect = ⟨.unknownScope, value⟩ ∧ defect.complaint.field = "scope") ∧
    (∀ kind, Handler.recognize value = .ok kind ↔ Handler.Denotes value kind) ∧
      ∀ fault, Handler.recognize value = .error fault ↔
        (∀ kind, ¬ Handler.Denotes value kind) ∧ fault = ⟨value⟩ := by
  have named (defect : Defect) : defect = ⟨.unknownScope, value⟩ ∧ defect.complaint.field = "scope" ↔
      defect = ⟨.unknownScope, value⟩ :=
    ⟨And.left, fun same => ⟨same, same ▸ rfl⟩⟩
  simp only [Scope.recognize_eq_ok_iff, Scope.recognize_eq_error_iff, Handler.recognize_eq_ok_iff,
    Handler.recognize_eq_error_iff, Option.eq_none_iff_forall_ne_some, ne_eq, Scope.recognize?_eq_some_iff,
    Handler.recognize?_eq_some_iff, named, implies_true, and_self]

/-- The long `s` is an `S` in capitals, so a text with it is taken for a name, which it is in no mix of cases. -/
theorem Scope.recognize_long_s :
    ¬ (Scope.recognize (.text "neſted") = .ok .nested ↔
      Datum.text "neſted" = .mark (.scope .nested) ∨ Datum.text "neſted" = .whole Scope.nested.number ∨
        ∃ text, Datum.text "neſted" = .text text ∧ Text.Spelled Scope.nested.name text) := by
  have taken : Scope.recognize (.text "neſted") = .ok .nested := Scope.recognize_eq_ok_iff.2 (by decide)
  rw [taken]
  rintro ⟨claimed, -⟩
  obtain same | same | ⟨text, same, spelled⟩ := claimed rfl
  · cases same
  · cases same
  · cases same
    exact absurd ((Text.spelled_iff_trim (by decide)).1 spelled) (by unfold Text.SameLetters; decide)

end TagBinding
