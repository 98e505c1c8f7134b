import TagBinding.Mark
import TagBinding.Text.Identifier

/-! # Names, quoted texts, and texts that stay on one line

Whether a text may name a variable is found out by reading its dollar signs as low lines and asking for an identifier.
`Text.NamesVariable` says what comes of that, one character at a time: the first one opens an identifier or is a dollar
sign, and each other one continues an identifier or is a dollar sign (`Text.isVariableName_iff`).

A text is `Text.Unbroken` if it holds no control character and no separator of lines or paragraphs, so that nothing in
it can end a line of a log or a terminal, or start an escape sequence.  A quoted text is unbroken whatever it quotes
(`Text.unbroken_quoted`), and so is the name of a variable without any quoting (`Text.unbroken_of_isVariableName`), and
every word of the vocabularies (`Mark.unbroken_name`).
-/

namespace TagBinding.Text

/-! ## Names of variables -/

/-- The property `XID_Start`. -/
def HasStart (c : Char) : Prop := ∃ range ∈ identifierStarts, range.1 ≤ c.toNat ∧ c.toNat ≤ range.2

/-- The property `XID_Continue`: that of the first characters, the low line, and what may only follow. -/
def HasContinue (c : Char) : Prop :=
  HasStart c ∨ c = '_' ∨ ∃ range ∈ identifierRests, range.1 ≤ c.toNat ∧ c.toNat ≤ range.2

theorem opensIdentifier_iff {c : Char} : opensIdentifier c ↔ HasStart c ∨ c = '_' := by
  rw [opensIdentifier, Bool.or_eq_true, beq_iff_eq, Ranges.holds_iff identifierStarts_ascend]
  exact or_comm

theorem continuesIdentifier_iff {c : Char} : continuesIdentifier c ↔ HasContinue c := by
  rw [continuesIdentifier, Bool.or_eq_true, opensIdentifier_iff, Ranges.holds_iff identifierRests_ascend, or_assoc]
  rfl

/-- A text that may name a variable. -/
inductive NamesVariable : List Char → Prop where
  | intro {first : Char} {rest : List Char} (opens : HasStart first ∨ first = '_' ∨ first = '$')
      (continues : ∀ c ∈ rest, HasContinue c ∨ c = '$') : NamesVariable (first :: rest)

theorem namesVariable_cons_iff {first : Char} {rest : List Char} :
    NamesVariable (first :: rest) ↔
      (HasStart first ∨ first = '_' ∨ first = '$') ∧ ∀ c ∈ rest, HasContinue c ∨ c = '$' := by
  constructor
  · rintro ⟨opens, continues⟩
    exact ⟨opens, continues⟩
  · rintro ⟨opens, continues⟩
    exact .intro opens continues

theorem isVariableName_iff {name : String} : isVariableName name ↔ NamesVariable name.toList := by
  rw [isVariableName]
  cases name.toList with
  | nil =>
    constructor
    · intro valid
      cases valid
    · intro names
      cases names
  | cons first rest =>
    simp only [isIdentifier_dollarsLowered_cons, Bool.and_eq_true, List.all_eq_true, Bool.or_eq_true, beq_iff_eq,
      opensIdentifier_iff, continuesIdentifier_iff, namesVariable_cons_iff]
    have front : (first = '$' ∨ HasStart first ∨ first = '_') ↔ (HasStart first ∨ first = '_' ∨ first = '$') := by
      rw [or_comm, or_assoc]
    simp only [front, or_comm (a := _ = '$')]

/-- Every character of a name may continue an identifier, but for dollar signs. -/
theorem NamesVariable.forall_mem {name : List Char} (names : NamesVariable name) :
    ∀ c ∈ name, HasContinue c ∨ c = '$' := by
  obtain ⟨opens, continues⟩ := names
  refine List.forall_mem_cons.2 ⟨?_, continues⟩
  rcases opens with start | lowLine | dollar
  · exact .inl (.inl start)
  · exact .inl (.inr (.inl lowLine))
  · exact .inr dollar

/-! ## Classes side by side -/

namespace Ranges

/-- Whether no code point is in two classes. -/
def apartFrom (left right : Ranges) : Bool :=
  left.all fun range => right.all fun other => decide (range.2 < other.1) || decide (other.2 < range.1)

/-- Whether each range of a class is in one of another. -/
def within (left right : Ranges) : Bool :=
  left.all fun range => right.any fun other => decide (other.1 ≤ range.1) && decide (range.2 ≤ other.2)

variable {left right : Ranges} {n : Nat}

theorem not_holds_of_apartFrom (ascending : right.ascendFrom 0) (apart : left.apartFrom right)
    (inLeft : ∃ range ∈ left, range.1 ≤ n ∧ n ≤ range.2) : holds right n = false := by
  rw [← Bool.not_eq_true, holds_iff ascending]
  rintro ⟨other, among, above, below⟩
  obtain ⟨range, member, low, high⟩ := inLeft
  simp only [apartFrom, List.all_eq_true, Bool.or_eq_true, decide_eq_true_eq] at apart
  have := apart range member other among
  omega

theorem holds_of_within (ascending : left.ascendFrom 0) (ascendingRight : right.ascendFrom 0)
    (inside : left.within right) (inLeft : holds left n) : holds right n := by
  obtain ⟨range, member, low, high⟩ := (holds_iff ascending n).1 inLeft
  simp only [within, List.all_eq_true, List.any_eq_true, Bool.and_eq_true, decide_eq_true_eq] at inside
  obtain ⟨other, among, below, above⟩ := inside range member
  exact (holds_iff ascendingRight n).2 ⟨other, among, by omega, by omega⟩

end Ranges

/-! ## Characters that break a line -/

/-- The control characters, and the separators of lines and of paragraphs. -/
def breaking : Ranges := [(0x00, 0x1F), (0x7F, 0x9F), (0x2028, 0x2029)]

theorem breaking_ascend : breaking.ascendFrom 0 := by decide

def breaks (c : Char) : Bool := breaking.holds c.toNat

/-- Every character that breaks a line has no printed form. -/
theorem breaks_of_isPrintable {c : Char} (printable : isPrintable c) : breaks c = false := by
  rw [← Bool.not_eq_true]
  intro broken
  have hidden : hiddenCharacters.holds c.toNat :=
    Ranges.holds_of_within breaking_ascend hiddenCharacters_ascend (by decide +kernel) broken
  rw [isPrintable, hidden] at printable
  cases printable

theorem breaks_of_hasContinue {c : Char} (continues : HasContinue c) : breaks c = false := by
  rcases continues with start | rfl | rest
  · exact Ranges.not_holds_of_apartFrom breaking_ascend (by decide +kernel) start
  · decide
  · exact Ranges.not_holds_of_apartFrom breaking_ascend (by decide +kernel) rest

/-! ## Unbroken texts -/

/-- Whether no character of a text breaks its line. -/
def Unbroken (text : String) : Prop := ∀ c ∈ text.toList, breaks c = false

instance (text : String) : Decidable (Unbroken text) :=
  List.decidableBAll (fun c => breaks c = false) text.toList

variable {text more : String}

theorem unbroken_ofList {chars : List Char} (each : ∀ c ∈ chars, breaks c = false) :
    Unbroken (String.ofList chars) := by
  rwa [Unbroken, String.toList_ofList]

theorem Unbroken.append (front : Unbroken text) (back : Unbroken more) : Unbroken (text ++ more) := by
  intro c member
  rw [String.toList_append] at member
  rcases List.mem_append.1 member with before | after
  · exact front c before
  · exact back c after

theorem unbroken_intercalate {separator : String} {parts : List String} (between : Unbroken separator)
    (each : ∀ part ∈ parts, Unbroken part) : Unbroken (separator.intercalate parts) := by
  induction parts with
  | nil => rw [String.intercalate_nil]; decide
  | cons part rest ih =>
    obtain ⟨here, there⟩ := List.forall_mem_cons.1 each
    cases rest with
    | nil => rwa [String.intercalate_singleton]
    | cons next rest =>
      rw [String.intercalate_cons_cons]
      exact (here.append between).append (ih there)

/-! ## Quoted texts -/

theorem breaks_digitChar (n : Nat) : breaks (Nat.digitChar (n % 16)) = false := by
  have table : ∀ digit < 16, breaks (Nat.digitChar digit) = false := by decide
  exact table (n % 16) (Nat.mod_lt n (by decide))

theorem breaks_of_mem_hexDigits {width n : Nat} {c : Char} (member : c ∈ hexDigits width n) : breaks c = false := by
  induction width generalizing n with
  | zero => cases member
  | succ width ih =>
    rw [hexDigits] at member
    rcases List.mem_append.1 member with earlier | last
    · exact ih earlier
    · rw [List.mem_singleton.1 last]
      exact breaks_digitChar n

theorem breaks_of_mem_backslash_cons {letter c : Char} {rest : List Char} (letter_steady : breaks letter = false)
    (rest_steady : ∀ c ∈ rest, breaks c = false) (member : c ∈ backslash :: letter :: rest) : breaks c = false := by
  rcases List.mem_cons.1 member with rfl | later
  · decide
  · rcases List.mem_cons.1 later with rfl | last
    · exact letter_steady
    · exact rest_steady c last

theorem breaks_of_mem_escapedCode {n : Nat} {c : Char} (member : c ∈ escapedCode n) : breaks c = false := by
  have digits : ∀ width, ∀ c ∈ hexDigits width n, breaks c = false := fun _ _ => breaks_of_mem_hexDigits
  unfold escapedCode at member
  split at member
  · exact breaks_of_mem_backslash_cons (by decide) (digits 2) member
  · split at member
    · exact breaks_of_mem_backslash_cons (by decide) (digits 4) member
    · exact breaks_of_mem_backslash_cons (by decide) (digits 8) member

/-- Whatever a character is shown as breaks no line, if the mark in use breaks none. -/
theorem breaks_of_mem_escaped {mark original c : Char} (steady : breaks mark = false)
    (member : c ∈ escaped mark original) : breaks c = false := by
  have nothing : ∀ c ∈ ([] : List Char), breaks c = false := by simp
  unfold escaped at member
  split at member
  · next same =>
    -- the character is shown behind a backslash, and is the mark or a backslash itself
    have original_steady : breaks original = false := by
      rcases same with rfl | rfl
      · exact steady
      · decide
    exact breaks_of_mem_backslash_cons original_steady nothing member
  · split at member
    · exact breaks_of_mem_backslash_cons (by decide) nothing member
    · split at member
      · exact breaks_of_mem_backslash_cons (by decide) nothing member
      · split at member
        · exact breaks_of_mem_backslash_cons (by decide) nothing member
        · split at member
          · next printable =>
            rw [List.mem_singleton.1 member]
            exact breaks_of_isPrintable printable
          · exact breaks_of_mem_escapedCode member

theorem breaks_markFor (text : List Char) : breaks (markFor text) = false := by
  unfold markFor
  split <;> decide

/-- A quoted text is unbroken, whatever it quotes. -/
theorem unbroken_quoted (text : String) : Unbroken (quoted text) := by
  refine unbroken_ofList fun c member => ?_
  have steady := breaks_markFor text.toList
  rw [quotedChars] at member
  rcases List.mem_append.1 member with front | closing
  · rcases List.mem_cons.1 front with rfl | inside
    · exact steady
    · obtain ⟨original, -, shown⟩ := List.mem_flatMap.1 inside
      exact breaks_of_mem_escaped steady shown
  · rw [List.mem_singleton.1 closing]
    exact steady

/-! ## Names and numbers on one line -/

/-- A name of a variable is unbroken as it stands. -/
theorem unbroken_of_isVariableName (valid : isVariableName text) : Unbroken text := by
  intro c member
  rcases (isVariableName_iff.1 valid).forall_mem c member with continues | rfl
  · exact breaks_of_hasContinue continues
  · decide

theorem breaks_of_isDigit {c : Char} (digit : c.isDigit) : breaks c = false := by
  have inRange : 48 ≤ c.toNat ∧ c.toNat ≤ 57 := by
    simpa [Char.isDigit, UInt32.le_iff_toNat_le, ← Char.toNat_val] using digit
  rw [← Bool.not_eq_true, breaks, Ranges.holds_iff breaking_ascend]
  simp only [breaking, List.mem_cons, List.not_mem_nil, or_false, exists_eq_or_imp, exists_eq_left]
  omega

theorem unbroken_natural (n : Nat) : Unbroken n.repr := by
  rw [Nat.repr_eq_ofList_toDigits]
  exact unbroken_ofList fun c member => breaks_of_isDigit (Nat.isDigit_of_mem_toDigits (by decide) (by decide) member)

theorem unbroken_integer (n : Int) : Unbroken (toString n) := by
  cases n with
  | ofNat n => exact unbroken_natural n
  | negSucc n => exact Unbroken.append (by decide) (unbroken_natural n.succ)

end TagBinding.Text

namespace TagBinding

open Text (Unbroken)

/-! ## Words of the vocabularies -/

theorem Mark.unbroken_name (mark : Mark) : Unbroken mark.name := by
  have table : ∀ mark ∈ all, Unbroken mark.name := by decide
  exact table mark (mem_all mark)

theorem ErrorCode.unbroken_text (code : ErrorCode) : Unbroken code.text := by
  cases code <;> decide

theorem ErrorCode.unbroken_docsUrl (code : ErrorCode) : Unbroken code.docsUrl := by
  cases code <;> decide +kernel

end TagBinding
