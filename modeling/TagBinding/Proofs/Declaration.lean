import TagBinding.Declaration
import TagBinding.Proofs.Text.Spelling
import TagBinding.Proofs.Variable

/-! # What is read off a declaration

A declaration goes through five checks on its way to a variable (`Declaration.Stage`), and what it yields is told by
its first failure among them.  The rules for both are stated here part by part, without the order of the code that
reads them: `Declaration.Yields` says which variable a declaration describes, `Declaration.Fails` what can be wrong with
it at a stage.  Then each part is read by its rule:

* `Declaration.name_eq_ok_iff`, `Declaration.name_eq_error_iff` - the name, by itself or from an attribute.
* `Declaration.introduces_eq_ok_iff`, `Declaration.window_eq_ok_iff`, `Declaration.typeName_eq_text_iff` - the mark, the
  scope and the type.
-/

namespace TagBinding

namespace Declaration

/-! ## What the parts say -/

/-- The value that a declaration gives for the name, by itself or by an attribute. -/
inductive Names (declaration : Declaration) (attributes : Attributes) (value : Datum) : Prop where
  | given (given : declaration.nameGiven = value) (alone : declaration.nameFromAttribute = .null)
      (something : value ≠ .null)
  | taken (key : String) (ungiven : declaration.nameGiven = .null)
      (source : declaration.nameFromAttribute = .text key)
      (set : attributes.value key = value) (something : value ≠ .null)

/-- The type that a value names: the usual one if the value is empty. -/
inductive SaysType (value : Datum) (name : String) : Prop where
  | nothing (empty : value.isEmpty) (usual : name = defaultClass)
  | given (full : value.isEmpty = false) (text : value = .text name)

def flagWords : Bool → List String
  | true => trueWords
  | false => falseWords

/-- What a value says about a fresh declaration: that there is one if it says nothing, else by a flag or a word. -/
inductive SaysFlag (value : Datum) (flag : Bool) : Prop where
  | nothing (null : value = .null) (usual : flag = true)
  | flag (flag : value = .flag flag)
  | word (word : String) (known : word ∈ flagWords flag) (spelled : Text.Spelled word value.display)

/-- The scope that a value tells: the body if it tells none. -/
inductive SaysScope (value : Datum) (scope : Scope) : Prop where
  | nothing (null : value = .null) (usual : scope = .nested)
  | known (recognized : Scope.recognize? value = some scope)

/-- The variable is the one that a declaration describes. -/
structure Yields (declaration : Declaration) (attributes : Attributes) (v : Variable) : Prop where
  name : declaration.Names attributes (.text v.name)
  typeName : SaysType declaration.variableClass v.typeName
  declare : SaysFlag declaration.declare v.declare
  scope : SaysScope declaration.scope v.scope

/-! ## What can be wrong -/

/-- The checks that a declaration goes through. -/
inductive Stage where
  | nameSource | declare | scope | name | typeName
  deriving DecidableEq, Repr

/-- The checks in order. -/
def Stage.all : List Stage := [.nameSource, .declare, .scope, .name, .typeName]

/-- A fault of a declaration at a check, the other checks aside. -/
inductive Fails (declaration : Declaration) (attributes : Attributes) : Stage → DeclarationFault → Prop where
  | twoSources (given : declaration.nameGiven ≠ .null) (taken : declaration.nameFromAttribute ≠ .null) :
      Fails declaration attributes .nameSource (.defect ⟨.twoNameSources, declaration.nameGiven⟩)
  | noSource (ungiven : declaration.nameGiven = .null) (untaken : declaration.nameFromAttribute = .null) :
      Fails declaration attributes .nameSource (.defect ⟨.noNameSource, .null⟩)
  | unset (ungiven : declaration.nameGiven = .null) (taken : declaration.nameFromAttribute ≠ .null)
      (simple : declaration.nameFromAttribute.isCompound = false)
      (unset : ∀ key, declaration.nameFromAttribute = .text key → attributes.value key = .null) :
      Fails declaration attributes .nameSource (.defect ⟨.unsetAttribute, declaration.nameFromAttribute⟩)
  | compound (ungiven : declaration.nameGiven = .null) (compound : declaration.nameFromAttribute.isCompound) :
      Fails declaration attributes .nameSource (.compoundAttribute declaration.nameFromAttribute)
  | unclear (unclear : ∀ flag, ¬ SaysFlag declaration.declare flag) :
      Fails declaration attributes .declare (.defect ⟨.unclearDeclare, declaration.declare⟩)
  | unknownScope (unknown : ∀ scope, ¬ SaysScope declaration.scope scope) :
      Fails declaration attributes .scope (.defect ⟨.unknownScope, declaration.scope⟩)
  | emptyName (value : Datum) (names : declaration.Names attributes value)
      (empty : ∀ text, value = .text text → text = "") :
      Fails declaration attributes .name (.defect ⟨.emptyName, value⟩)
  | malformedName (text : String) (names : declaration.Names attributes (.text text)) (something : text ≠ "")
      (malformed : Text.isVariableName text = false) :
      Fails declaration attributes .name (.defect ⟨.malformedName, .text text⟩)
  | blankTypeName (given : declaration.variableClass.isEmpty = false)
      (blank : ∀ text, declaration.variableClass = .text text → text.toList.all Text.isBlank) :
      Fails declaration attributes .typeName (.defect ⟨.blankTypeName, declaration.variableClass⟩)

/-- The fault of a declaration at the first check that it fails. -/
def FailsFirst (declaration : Declaration) (attributes : Attributes) (stage : Stage)
    (fault : DeclarationFault) : Prop :=
  ∃ before after, Stage.all = before ++ stage :: after ∧ declaration.Fails attributes stage fault ∧
    ∀ earlier ∈ before, ∀ other, ¬ declaration.Fails attributes earlier other

variable {declaration : Declaration} {attributes : Attributes}

/-! ## Check by check -/

theorem attributeValue_eq_ok_iff {source value : Datum} :
    attributeValue attributes source = .ok value ↔
      ∃ key, source = .text key ∧ attributes.value key = value ∧ value ≠ .null := by
  unfold attributeValue
  split
  · next key =>
    split
    · next unset =>
      constructor
      · intro same
        cases same
      · rintro ⟨_, same, set, something⟩
        cases same
        exact absurd (set.symm.trans unset) something
    · next found something =>
      constructor
      · intro same
        cases same
        exact ⟨key, rfl, rfl, something⟩
      · rintro ⟨_, same, set, _⟩
        cases same
        rw [set]
  · next other =>
    constructor
    · intro same
      split at same <;> cases same
    · rintro ⟨key, same, _⟩
      exact absurd same (other key)

theorem attributeValue_eq_error_iff {source : Datum} {fault : DeclarationFault} :
    attributeValue attributes source = .error fault ↔
      (source.isCompound ∧ fault = .compoundAttribute source) ∨
        (source.isCompound = false ∧ (∀ key, source = .text key → attributes.value key = .null) ∧
          fault = .defect ⟨.unsetAttribute, source⟩) := by
  unfold attributeValue
  split
  · next key =>
    split
    · next unset => simp [Datum.isCompound, unset, eq_comm]
    · next found something =>
      simp only [Datum.isCompound, Bool.false_eq_true, false_and, false_or, true_and, reduceCtorEq, false_iff]
      exact fun told => something (told.1 key rfl)
  · next other =>
    split
    · next compound => simp [compound, eq_comm]
    · next simple =>
      have unset : ∀ key, source = .text key → attributes.value key = .null :=
        fun key same => absurd same (other key)
      rw [and_iff_right unset]
      simp [simple, eq_comm]

theorem name_eq_ok_iff {value : Datum} :
    declaration.name attributes = .ok value ↔ declaration.Names attributes value := by
  constructor
  · intro told
    unfold name at told
    split at told
    · cases told
    · next ungiven _ =>
      obtain ⟨key, source, set, something⟩ := attributeValue_eq_ok_iff.1 told
      exact .taken key ungiven source set something
    · next alone something =>
      cases told
      exact .given rfl alone something
    · cases told
  · intro names
    unfold name
    cases names with
    | given given alone something => split <;> simp_all
    | taken key ungiven source set something =>
      rw [ungiven, source]
      exact attributeValue_eq_ok_iff.2 ⟨key, rfl, set, something⟩

theorem name_eq_error_iff {fault : DeclarationFault} :
    declaration.name attributes = .error fault ↔ declaration.Fails attributes .nameSource fault := by
  constructor
  · intro told
    unfold name at told
    split at told
    · next ungiven untaken =>
      cases told
      exact .noSource ungiven untaken
    · next ungiven taken =>
      rcases attributeValue_eq_error_iff.1 told with ⟨compound, rfl⟩ | ⟨simple, unset, rfl⟩
      · exact .compound ungiven compound
      · exact .unset ungiven taken simple unset
    · cases told
    · next given taken _ =>
      cases told
      exact .twoSources given taken
  · -- each failure decides which of the four cases of the two sources is at hand
    intro fails
    unfold name
    cases fails with
    | twoSources given taken => split <;> simp_all
    | noSource ungiven untaken => rw [ungiven, untaken]
    | unset ungiven taken simple unset =>
      split
      · next untaken => exact absurd untaken taken
      · exact attributeValue_eq_error_iff.2 (Or.inr ⟨simple, unset, rfl⟩)
      · next given => exact absurd ungiven given
      · next given _ _ => exact absurd ungiven given
    | compound ungiven compound =>
      split
      · next untaken =>
        rw [untaken] at compound
        cases compound
      · exact attributeValue_eq_error_iff.2 (Or.inl ⟨compound, rfl⟩)
      · next given => exact absurd ungiven given
      · next given _ _ => exact absurd ungiven given

theorem exists_spelled_iff {text : String} {flag : Bool} :
    (∃ word ∈ flagWords flag, Text.Spelled word text) ↔
      String.ofList (Text.smallLetters (Text.trim text.toList)) ∈ flagWords flag := by
  have visible : ∀ flag, ∀ word ∈ flagWords flag, word.toList.any Text.isBlank = false := by decide
  have small : ∀ flag, ∀ word ∈ flagWords flag, Text.smallLetters word.toList = word.toList := by decide
  constructor
  · rintro ⟨word, known, spelled⟩
    rwa [(Text.spelled_iff_smallLetters (visible flag word known) (small flag word known)).1 spelled]
  · intro known
    exact ⟨_, known, (Text.spelled_iff_smallLetters (visible flag _ known) (small flag _ known)).2 rfl⟩

theorem wordFlag?_eq_some_iff {text : String} {flag : Bool} :
    wordFlag? text = some flag ↔ ∃ word ∈ flagWords flag, Text.Spelled word text := by
  have apart : ∀ word ∈ falseWords, word ∉ trueWords := by decide
  rw [exists_spelled_iff, wordFlag?]
  cases flag with
  | true => simp [flagWords]
  | false =>
    simp only [flagWords]
    constructor
    · intro said
      split at said
      · cases said
      · split at said
        · assumption
        · cases said
    · intro known
      rw [if_neg (apart _ known), if_pos known]

/-- A flag is shown by a word for it. -/
theorem wordFlag?_display_flag (flag : Bool) : wordFlag? (Datum.display (.flag flag)) = some flag := by
  cases flag <;> rfl

theorem saysFlag_iff_wordFlag? {value : Datum} {flag : Bool} (something : value ≠ .null) :
    SaysFlag value flag ↔ wordFlag? value.display = some flag := by
  constructor
  · rintro (⟨null, _⟩ | rfl | ⟨word, known, spelled⟩)
    · exact absurd null something
    · exact wordFlag?_display_flag flag
    · exact wordFlag?_eq_some_iff.2 ⟨word, known, spelled⟩
  · intro found
    obtain ⟨word, known, spelled⟩ := wordFlag?_eq_some_iff.1 found
    exact .word word known spelled

theorem saysFlag_null_iff {flag : Bool} : SaysFlag .null flag ↔ flag = true := by
  constructor
  · rintro (⟨_, usual⟩ | same | ⟨word, known, spelled⟩)
    · exact usual
    · cases same
    · -- what shows that there is no value is no word for a flag
      have found : wordFlag? "None" = some flag := wordFlag?_eq_some_iff.2 ⟨word, known, spelled⟩
      have none : wordFlag? "None" = none := rfl
      rw [none] at found
      cases found
  · exact fun usual => .nothing rfl usual

theorem introduces_eq_ok_iff {flag : Bool} :
    declaration.introduces = .ok flag ↔ SaysFlag declaration.declare flag := by
  unfold introduces
  split
  · next null => rw [null, saysFlag_null_iff, Except.ok.injEq, eq_comm]
  · next value given =>
    rw [given, saysFlag_iff_wordFlag? (by simp), wordFlag?_display_flag, Except.ok.injEq, Option.some.injEq]
  · next something _ =>
    rw [saysFlag_iff_wordFlag? something]
    split <;> simp_all

theorem eq_of_introduces_eq_error {defect : Defect} (refused : declaration.introduces = .error defect) :
    defect = ⟨.unclearDeclare, declaration.declare⟩ := by
  unfold introduces at refused
  split at refused
  · cases refused
  · cases refused
  · split at refused
    · cases refused
    · cases refused
      rfl

theorem window_eq_ok_iff {scope : Scope} :
    declaration.window = .ok scope ↔ SaysScope declaration.scope scope := by
  unfold window
  split
  · next null =>
    rw [null, Except.ok.injEq, eq_comm]
    constructor
    · exact fun usual => .nothing rfl usual
    · rintro (⟨_, usual⟩ | recognized)
      · exact usual
      · cases recognized
  · next something =>
    rw [Scope.recognize]
    constructor
    · intro said
      split at said
      · next found =>
        cases said
        exact .known found
      · cases said
    · rintro (⟨null, _⟩ | recognized)
      · exact absurd null something
      · rw [recognized]

theorem eq_of_window_eq_error {defect : Defect} (refused : declaration.window = .error defect) :
    defect = ⟨.unknownScope, declaration.scope⟩ := by
  unfold window at refused
  split at refused
  · cases refused
  · exact (Scope.recognize_eq_error_iff.1 refused).2

theorem typeName_eq_text_iff {name : String} :
    declaration.typeName = .text name ↔ SaysType declaration.variableClass name := by
  unfold typeName
  split
  · next empty =>
    constructor
    · intro same
      cases same
      exact .nothing empty rfl
    · rintro (⟨_, rfl⟩ | ⟨full, _⟩)
      · rfl
      · rw [empty] at full
        cases full
  · next full =>
    constructor
    · exact fun text => .given (by simpa using full) text
    · rintro (⟨empty, _⟩ | ⟨_, text⟩)
      · exact absurd empty full
      · exact text

end Declaration

end TagBinding
