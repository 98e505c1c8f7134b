import TagBinding.Datum

/-!
# Comparing values of unchecked type

Values are equal if they are equal numbers or the same text, mark or lack of a value. A flag counts as zero or
one, and a scope as its number. Numbers come before one another by size and texts by character; any other two
values cannot be put into an order.
-/

namespace TagBinding

/-! ## Quantities

The number that a numeral stands for. Whole numbers are exact. A numeral with a fraction or an exponent stands
for a number that is held in binary with 53 digits, and it is the shortest one that does; so below 2^53 it is
the number it spells, as far as comparisons with whole numbers go, and above it is the nearest of the numbers
that 53 binary digits can hold.
-/

inductive Quantity where
  | undefined
  | lowest
  | exact (value : Rat)
  | highest
  deriving DecidableEq

namespace Quantity

def ofDigits (digits : List Char) : Nat :=
  digits.foldl (fun n digit => 10 * n + (digit.toNat - '0'.toNat)) 0

/-- The number of a sequence of digits with a sign in front, or without. -/
def ofSigned : List Char → Int
  | '-' :: digits => -(ofDigits digits : Int)
  | '+' :: digits => ofDigits digits
  | digits => ofDigits digits

def shifted (n : Nat) (places : Int) : Rat :=
  if 0 ≤ places then (n * Nat.pow 10 places.toNat : Nat) else mkRat n (Nat.pow 10 (-places).toNat)

/-- The number that digits with a fraction and an exponent spell. -/
def spelled (numeral : List Char) : Rat :=
  let digits := numeral.takeWhile (· != 'e')
  let exponent := ofSigned ((numeral.dropWhile (· != 'e')).drop 1)
  let fraction := (digits.dropWhile (· != '.')).drop 1
  shifted (ofDigits (digits.filter (· != '.'))) (exponent - fraction.length)

/-- The nearest whole number with at most 53 binary digits before its zeros; of two, the even one. -/
def held (n : Nat) : Nat :=
  let unit := Nat.pow 2 (n.log2 - 52)
  let steps := n / unit
  let rest := n % unit
  if unit < 2 * rest ∨ (unit = 2 * rest ∧ steps % 2 = 1) then (steps + 1) * unit else steps * unit

/-- The size of the number that a numeral without a sign stands for. -/
def size (numeral : List Char) : Rat :=
  let value := spelled numeral
  if value.den = 1 then (held value.num.toNat : Nat) else value

/-- What a numeral with a fraction or an exponent stands for. -/
def ofNumeral (written : String) : Quantity :=
  match written.toList with
  | ['n', 'a', 'n'] => .undefined
  | ['i', 'n', 'f'] => .highest
  | ['-', 'i', 'n', 'f'] => .lowest
  | '-' :: numeral => .exact (-(size numeral))
  | numeral => .exact (size numeral)

/-- Whether two quantities are equal numbers. What is no number equals nothing. -/
def same (left right : Quantity) : Bool := left != .undefined && decide (left = right)

/-- Whether a quantity is below another. What is no number is below nothing and above nothing. -/
def less : Quantity → Quantity → Bool
  | .lowest, .exact _ | .lowest, .highest | .exact _, .highest => true
  | .exact left, .exact right => decide (left < right)
  | _, _ => false

end Quantity

/-! ## Values -/

structure Incomparable where
  left : Datum
  right : Datum

def Incomparable.message (fault : Incomparable) : String :=
  "'<' not supported between instances of " ++ Text.quoted fault.left.noun ++ " and " ++
    Text.quoted fault.right.noun

namespace Datum

/-- The number that a value counts as, if it counts as one. -/
def quantity? : Datum → Option Quantity
  | .flag value => some (.exact (if value then 1 else 0))
  | .whole value => some (.exact value)
  | .decimal written => some (.ofNumeral written)
  | .mark (.scope value) => some (.exact value.number)
  | _ => none

/-- Whether two simple values are equal. -/
def same (left right : Datum) : Bool :=
  match left.quantity?, right.quantity? with
  | some n, some m => n.same m
  | none, none =>
      match left, right with
      | .null, .null => true
      | .text s, .text t => s == t
      | .mark m, .mark n => m == n
      | _, _ => false
  | _, _ => false

def precedes (left right : Datum) : Except Incomparable Bool :=
  match left.quantity?, right.quantity? with
  | some n, some m => .ok (n.less m)
  | none, none =>
      match left, right with
      | .text s, .text t => .ok (decide (s < t))
      | _, _ => .error ⟨left, right⟩
  | _, _ => .error ⟨left, right⟩

@[simp] theorem same_mark (left right : Mark) :
    (Datum.mark left).same (.mark right) = decide (left = right) := by
  cases left with
  | scope s =>
      cases right with
      | scope s' => cases s <;> cases s' <;> rfl
      | _ => rfl
  | _ => cases right <;> rfl

end Datum

end TagBinding
