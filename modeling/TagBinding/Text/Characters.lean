/-!
# Characters

What is told of characters one by one: classes of them, given by ranges of code points, the blanks, and the
letters that one has in capitals or in small. Names and flags in tag libraries are compared after the blanks
around them are taken away, and in any mix of cases.
-/

namespace TagBinding.Text

/-! ## Classes given by ranges

A class of characters is written as the ascending list of its closed ranges of code points. Membership
reads the list from the front and stops at the first range that begins above the character, so a question
about an ASCII character touches only the first few ranges of a long table.
-/

/-- Closed ranges of code points, ascending and apart from each other. -/
abbrev Ranges := List (Nat × Nat)

namespace Ranges

def holds : Ranges → Nat → Bool
  | [], _ => false
  | (low, high) :: rest, n => if n < low then false else n ≤ high || holds rest n

/-- Whether each range begins above the end of the one before it; `above` bounds the first from below. -/
def ascendFrom (above : Nat) : Ranges → Bool
  | [] => true
  | (low, high) :: rest => above ≤ low && low ≤ high && ascendFrom (high + 1) rest

theorem lt_of_mem_of_ascendFrom {ranges : Ranges} {above : Nat} (ascending : ascendFrom above ranges)
    {range : Nat × Nat} (member : range ∈ ranges) : above ≤ range.1 := by
  induction ranges generalizing above with
  | nil => cases member
  | cons head rest ih =>
      obtain ⟨low, high⟩ := head
      simp only [ascendFrom, Bool.and_eq_true, decide_eq_true_eq] at ascending
      cases member with
      | head => exact ascending.1.1
      | tail _ later =>
          have := ih ascending.2 later
          omega

/-- The early stop loses nothing: in an ascending list a code point is held exactly when some range
contains it. -/
theorem holds_iff {ranges : Ranges} {above : Nat} (ascending : ascendFrom above ranges) (n : Nat) :
    holds ranges n ↔ ∃ range ∈ ranges, range.1 ≤ n ∧ n ≤ range.2 := by
  induction ranges generalizing above with
  | nil => simp [holds]
  | cons head rest ih =>
      obtain ⟨low, high⟩ := head
      simp only [ascendFrom, Bool.and_eq_true, decide_eq_true_eq] at ascending
      by_cases below : n < low
      · simp only [holds, below, if_true, Bool.false_eq_true, false_iff]
        rintro ⟨range, member, above_n, _⟩
        cases member with
        | head => omega
        | tail _ later =>
            have := lt_of_mem_of_ascendFrom ascending.2 later
            omega
      · simp only [holds, below, if_false, Bool.or_eq_true, decide_eq_true_eq, List.mem_cons,
          exists_eq_or_imp, ih ascending.2, Nat.not_lt.1 below, true_and]

end Ranges

/-! ## Blanks

What counts as white space when the text of a tag library is read: the Unicode spaces, the line and
paragraph separators, and the ASCII controls that separate lines and records.
-/

def blanks : Ranges :=
  [(0x09, 0x0D), (0x1C, 0x20), (0x85, 0x85), (0xA0, 0xA0), (0x1680, 0x1680), (0x2000, 0x200A),
   (0x2028, 0x2029), (0x202F, 0x202F), (0x205F, 0x205F), (0x3000, 0x3000)]

theorem blanks_ascend : blanks.ascendFrom 0 := by decide

def isBlank (c : Char) : Bool := blanks.holds c.toNat

def trimStart (text : List Char) : List Char := text.dropWhile isBlank

def trimEnd (text : List Char) : List Char := (text.reverse.dropWhile isBlank).reverse

def trim (text : List Char) : List Char := trimEnd (trimStart text)

theorem trim_eq_nil_iff (text : List Char) : trim text = [] ↔ ∀ c ∈ text, isBlank c := by
  induction text with
  | nil => simp [trim, trimEnd, trimStart]
  | cons c rest ih =>
      by_cases blank : isBlank c
      · have step : trim (c :: rest) = trim rest := by simp [trim, trimStart, blank]
        rw [step, ih]
        simp [blank]
      · -- the first character stays, so neither side holds
        have kept : (c :: rest).reverse.dropWhile isBlank ≠ [] := by
          rw [List.reverse_cons, List.dropWhile_append]
          split <;> simp [blank]
        have step : trim (c :: rest) = ((c :: rest).reverse.dropWhile isBlank).reverse := by
          rw [trim, trimEnd, trimStart, List.dropWhile_cons_of_neg blank]
        rw [step, List.reverse_eq_nil_iff]
        exact ⟨fun empty => absurd empty kept, fun all => absurd (all c List.mem_cons_self) blank⟩

/-- Trimming leaves something of a text exactly if it has a character that is not blank. -/
theorem trim_ne_nil_iff {text : List Char} : trim text ≠ [] ↔ text.all isBlank = false := by
  rw [ne_eq, trim_eq_nil_iff, ← List.all_eq_true, Bool.not_eq_true]

/-! ## Letter case

A text spells a name if its capital form, blanks at the ends aside, is the name. Capital letters follow the
full Unicode mapping as far as an ASCII name can tell. Beyond the ASCII letters, ten characters have a capital
form made of ASCII letters alone, some of them of several; the capital form of any other character holds a
character beyond ASCII and so is never part of a name, and here such a character stands for itself.
-/

def capital (c : Char) : List Char :=
  match c with
  | 'ß' => ['S', 'S']
  | 'ı' => ['I']
  | 'ſ' => ['S']
  | 'ﬀ' => ['F', 'F']
  | 'ﬁ' => ['F', 'I']
  | 'ﬂ' => ['F', 'L']
  | 'ﬃ' => ['F', 'F', 'I']
  | 'ﬄ' => ['F', 'F', 'L']
  | 'ﬅ' => ['S', 'T']
  | 'ﬆ' => ['S', 'T']
  | c => [c.toUpper]

def capitals (text : List Char) : List Char := text.flatMap capital

/-- The small form of a text, for comparison with words that hold no letter `k`: the only character beyond
ASCII whose small form is ASCII is the sign of the unit kelvin. -/
def smallLetters (text : List Char) : List Char := text.map Char.toLower

/-- Whether a text, trimmed and in capitals, is the given name. -/
def spells (text name : String) : Bool := capitals (trim text.toList) == name.toList

end TagBinding.Text
