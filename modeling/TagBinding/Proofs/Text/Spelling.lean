import Mathlib
import TagBinding.Text.Characters

/-! # Spellings of a word

Tag libraries may write a word in any mix of capital and small letters and put blanks around it
(`Text.Spelled`).  A reader who trims a text and then looks at it in small letters reads off the word
(`Text.spelled_iff_smallLetters`); here only ASCII letters have a case.

The names of scopes and kinds are read in capitals, and there a few characters beyond ASCII turn into ASCII letters.  So
a name may also be written with these (`Text.Recognizable`), and with nothing else (`Text.spells_iff_recognizable`).
-/

namespace TagBinding.Text

/-! ## Trimming -/

theorem trim_eq_rdropWhile (text : List Char) : trim text = (text.dropWhile isBlank).rdropWhile isBlank := rfl

/-- A text is what is left of it when it is trimmed, with blanks around. -/
theorem exists_padding (text : List Char) :
    ∃ before after, text = before ++ trim text ++ after ∧ (∀ c ∈ before, isBlank c) ∧ ∀ c ∈ after, isBlank c := by
  refine ⟨text.takeWhile isBlank, (text.dropWhile isBlank).rtakeWhile isBlank, ?_,
    fun _ => List.mem_takeWhile_imp, fun _ => List.mem_rtakeWhile_imp⟩
  rw [trim_eq_rdropWhile, List.append_assoc, List.rdropWhile_append_rtakeWhile, List.takeWhile_append_dropWhile]

theorem trim_padded {before inside after : List Char} (opening : ∀ c ∈ before, isBlank c)
    (visible : ∀ c ∈ inside, isBlank c = false) (closing : ∀ c ∈ after, isBlank c) :
    trim (before ++ inside ++ after) = inside := by
  -- the blanks at the end go up to the last character that is seen
  have trailing : (inside ++ after).rdropWhile isBlank = inside := by
    rw [List.rdropWhile, List.reverse_append, List.dropWhile_append_of_pos fun c member =>
      closing c (List.mem_reverse.1 member)]
    cases reversed : inside.reverse with
    | nil => rw [List.reverse_eq_nil_iff.1 reversed]; rfl
    | cons last rest =>
      have seen : isBlank last = false :=
        visible last (List.mem_reverse.1 (reversed ▸ List.mem_cons_self))
      rw [List.dropWhile_cons_of_neg (by simp [seen]), ← reversed, List.reverse_reverse]
  rw [trim_eq_rdropWhile, List.append_assoc, List.dropWhile_append_of_pos opening]
  cases inside with
  | nil =>
    rw [List.nil_append, List.dropWhile_eq_nil_iff.2 closing]
    rfl
  | cons first rest =>
    rw [List.cons_append, List.dropWhile_cons_of_neg (by simp [visible first List.mem_cons_self]),
      ← List.cons_append]
    exact trailing

/-! ## Letters of either case -/

/-- The same characters, ASCII letters in any mix of cases. -/
def SameLetters (left right : List Char) : Prop := left.map Char.toLower = right.map Char.toLower

theorem isBlank_of_isAlpha {c : Char} (letter : c.isAlpha) : isBlank c = false := by
  have inRange : 65 ≤ c.toNat ∧ c.toNat ≤ 90 ∨ 97 ≤ c.toNat ∧ c.toNat ≤ 122 := by
    simpa [Char.isAlpha, Char.isUpper, Char.isLower, UInt32.le_iff_toNat_le, ← Char.toNat_val] using letter
  rw [← Bool.not_eq_true, isBlank, Ranges.holds_iff blanks_ascend]
  simp only [blanks, List.mem_cons, List.not_mem_nil, or_false, exists_eq_or_imp, exists_eq_left]
  omega

theorem isBlank_toLower (c : Char) : isBlank c.toLower = isBlank c := by
  by_cases letter : c.isAlpha
  · rw [isBlank_of_isAlpha letter, isBlank_of_isAlpha (by rwa [Char.isAlpha_toLower_eq_isAlpha])]
  · rw [Char.toLower_eq_of_not_isUpper fun capital => letter (by simp [Char.isAlpha, capital])]

theorem SameLetters.visible {left right : List Char} (same : SameLetters left right)
    (visible : ∀ c ∈ right, isBlank c = false) : ∀ c ∈ left, isBlank c = false := by
  intro c member
  have lowered : c.toLower ∈ right.map Char.toLower := same ▸ List.mem_map_of_mem member
  obtain ⟨d, inside, equal⟩ := List.mem_map.1 lowered
  rw [← isBlank_toLower, ← equal, isBlank_toLower]
  exact visible d inside

/-! ## Spellings -/

/-- A text is a word in any mix of cases, with any blanks around it. -/
def Spelled (word text : String) : Prop :=
  ∃ before inside after, text.toList = before ++ inside ++ after ∧ (∀ c ∈ before, isBlank c) ∧
    (∀ c ∈ after, isBlank c) ∧ SameLetters inside word.toList

variable {word text : String}

theorem spelled_iff_trim (visible : word.toList.any isBlank = false) :
    Spelled word text ↔ SameLetters (trim text.toList) word.toList := by
  constructor
  · rintro ⟨before, inside, after, split, opening, closing, same⟩
    have seen : ∀ c ∈ inside, isBlank c = false := same.visible (by simpa using visible)
    rw [split, trim_padded opening seen closing]
    exact same
  · intro same
    obtain ⟨before, after, split, opening, closing⟩ := exists_padding text.toList
    exact ⟨before, trim text.toList, after, split, opening, closing, same⟩

theorem spelled_iff_smallLetters (visible : word.toList.any isBlank = false)
    (small : smallLetters word.toList = word.toList) :
    Spelled word text ↔ String.ofList (smallLetters (trim text.toList)) = word := by
  rw [smallLetters] at small
  rw [spelled_iff_trim visible, SameLetters, ← String.toList_inj, String.toList_ofList, small, smallLetters]

/-! ## Spellings that turn into a word in capitals -/

/-- The characters beyond ASCII that are ASCII letters in capitals, each with these letters. -/
def foreignLetters : List (Char × List Char) :=
  [('ß', ['S', 'S']), ('ı', ['I']), ('ſ', ['S']), ('ﬀ', ['F', 'F']), ('ﬁ', ['F', 'I']), ('ﬂ', ['F', 'L']),
   ('ﬃ', ['F', 'F', 'I']), ('ﬄ', ['F', 'F', 'L']), ('ﬅ', ['S', 'T']), ('ﬆ', ['S', 'T'])]

/-- A text read as a word: a character stands for itself, an ASCII letter in either case, or for the letters that it is
in capitals. -/
inductive ReadsAs : List Char → List Char → Prop where
  | nil : ReadsAs [] []
  | letter {c d : Char} {text word : List Char} (same : c.toLower = d.toLower) (rest : ReadsAs text word) :
      ReadsAs (c :: text) (d :: word)
  | foreign {c : Char} {letters text word : List Char} (known : (c, letters) ∈ foreignLetters)
      (rest : ReadsAs text word) : ReadsAs (c :: text) (letters ++ word)

/-- A text reads as a word, with any blanks around it. -/
def Recognizable (word text : String) : Prop :=
  ∃ before inside after, text.toList = before ++ inside ++ after ∧ (∀ c ∈ before, isBlank c) ∧
    (∀ c ∈ after, isBlank c) ∧ ReadsAs inside word.toList

theorem SameLetters.readsAs {left right : List Char} (same : SameLetters left right) : ReadsAs left right := by
  induction left generalizing right with
  | nil =>
    obtain rfl := List.map_eq_nil_iff.1 same.symm
    exact .nil
  | cons c left ih =>
    obtain ⟨d, right, rfl, lowered, rest⟩ := List.map_eq_cons_iff.1 same.symm
    exact .letter lowered.symm (ih rest.symm)

theorem Spelled.recognizable (spelled : Spelled word text) : Recognizable word text := by
  obtain ⟨before, inside, after, split, opening, closing, same⟩ := spelled
  exact ⟨before, inside, after, split, opening, closing, same.readsAs⟩

theorem capital_of_foreign {c : Char} {letters : List Char} (known : (c, letters) ∈ foreignLetters) :
    capital c = letters := by
  have table : ∀ entry ∈ foreignLetters, capital entry.1 = entry.2 := by decide
  exact table _ known

/-- A character is either one of the foreign letters or has a capital form of its own. -/
theorem foreign_or_capital (c : Char) : (c, capital c) ∈ foreignLetters ∨ capital c = [c.toUpper] := by
  unfold capital
  split
  case h_11 => exact .inr rfl
  all_goals exact .inl (by decide)

theorem capital_of_lt {c : Char} (ascii : c.toUpper.toNat < 128) : capital c = [c.toUpper] := by
  have table : ∀ entry ∈ foreignLetters, ¬ entry.1.toUpper.toNat < 128 := by decide
  exact (foreign_or_capital c).resolve_left fun known => table _ known ascii

theorem readsAs_capitals (text : List Char) : ReadsAs text (capitals text) := by
  induction text with
  | nil => exact .nil
  | cons c text ih =>
    rw [capitals, List.flatMap_cons]
    obtain known | single := foreign_or_capital c
    · exact .foreign known ih
    · rw [single]
      exact .letter (Char.toLower_toUpper_eq_toLower c).symm ih

theorem ReadsAs.capitals_eq {text word : List Char} (reads : ReadsAs text word)
    (large : ∀ c ∈ word, c.toUpper = c ∧ c.toNat < 128) : capitals text = word := by
  induction reads with
  | nil => rfl
  | @letter c d text word same _ ih =>
    obtain ⟨⟨raised, ascii⟩, large⟩ := List.forall_mem_cons.1 large
    have turned : c.toUpper = d := by
      rw [← Char.toUpper_toLower_eq_toUpper, same, Char.toUpper_toLower_eq_toUpper, raised]
    rw [capitals, List.flatMap_cons, capital_of_lt (turned ▸ ascii), turned, ← capitals, ih large,
      List.singleton_append]
  | foreign known _ ih =>
    rw [capitals, List.flatMap_cons, capital_of_foreign known, ← capitals, ih (List.forall_mem_append.1 large).2]

theorem ReadsAs.visible {text word : List Char} (reads : ReadsAs text word)
    (visible : ∀ c ∈ word, isBlank c = false) : ∀ c ∈ text, isBlank c = false := by
  induction reads with
  | nil => simp
  | @letter c d text word same _ ih =>
    obtain ⟨first, rest⟩ := List.forall_mem_cons.1 visible
    have seen : isBlank c = false := by rw [← isBlank_toLower, same, isBlank_toLower, first]
    exact List.forall_mem_cons.2 ⟨seen, ih rest⟩
  | foreign known _ ih =>
    have table : ∀ entry ∈ foreignLetters, isBlank entry.1 = false := by decide
    exact List.forall_mem_cons.2 ⟨table _ known, ih (List.forall_mem_append.1 visible).2⟩

/-- A word in ASCII capitals is recognised in what can be read as it, and in nothing else. -/
theorem spells_iff_recognizable (visible : word.toList.any isBlank = false)
    (large : word.toList.all fun c => c.toUpper == c && c.toNat < 128) :
    spells text word ↔ Recognizable word text := by
  simp only [List.all_eq_true, Bool.and_eq_true, beq_iff_eq, decide_eq_true_eq] at large
  rw [spells, beq_iff_eq]
  constructor
  · intro same
    obtain ⟨before, after, split, opening, closing⟩ := exists_padding text.toList
    exact ⟨before, trim text.toList, after, split, opening, closing, same ▸ readsAs_capitals _⟩
  · rintro ⟨before, inside, after, split, opening, closing, reads⟩
    rw [split, trim_padded opening (reads.visible (by simpa using visible)) closing]
    exact reads.capitals_eq large

end TagBinding.Text
