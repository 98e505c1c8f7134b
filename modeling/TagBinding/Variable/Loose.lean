import TagBinding.Datum.Comparison
import TagBinding.Variable

/-!
# Variables with anything for a scope

Once a variable is checked, its scope can still be overwritten by a value of any type. This module tells how
far such a variable is of use: it is as good as checked if the value is a scope, it can be shown if the value is
a mark, sets can hold it if the value is simple, and it can be compared with another one as far as its scope is
not asked.
-/

namespace TagBinding

inductive ScopeQuestion where
  | overlap | reachesBody | reachesBeyond | name
  deriving DecidableEq, Repr

def ScopeQuestion.word : ScopeQuestion → String
  | .overlap => "overlaps"
  | .reachesBody => "visible_in_body"
  | .reachesBeyond => "visible_after_end"
  | .name => "name"

/-- Why a variable is of no use with what it has for a scope. -/
inductive ScopeFault where
  /-- What it has was asked for something that it cannot tell. -/
  | unanswered (value : Datum) (question : ScopeQuestion)
  /-- What it has is compound, so no set can hold the variable. -/
  | compound (value : Datum)
  /-- What it has cannot be put into an order with what a variable like it has. -/
  | incomparable (fault : Incomparable)

def ScopeFault.message : ScopeFault → String
  | .unanswered value question =>
      Text.quoted value.noun ++ " object has no attribute " ++ Text.quoted question.word
  | .compound value => value.compoundMessage
  | .incomparable fault => fault.message

namespace Variable

variable {σ : Type}

/-- A variable, taken as one whose scope may be anything. -/
def loose [Marked σ] (v : Variable σ) : Variable Datum := v.withScope (.mark (Marked.mark v.scope))

/-- The variable with a scope that another one is, if what it has is a scope. -/
def scoped? (v : Variable Datum) : Option Variable :=
  match v.scope with
  | .mark (.scope scope) => some (v.withScope scope)
  | _ => none

/-- The variable with a mark that another one is, so that it can be shown. -/
def marked (v : Variable Datum) : Except ScopeFault (Variable Mark) :=
  match v.scope with
  | .mark mark => .ok (v.withScope mark)
  | value => .error (.unanswered value .name)

def fitsSet (v : Variable Datum) : Except ScopeFault Unit :=
  if v.scope.isCompound then .error (.compound v.scope) else .ok ()

def same (left right : Variable Datum) : Bool :=
  left.name == right.name && left.typeName == right.typeName && left.declare == right.declare &&
    left.scope.same right.scope

/-- Whether a variable comes before another that is not equal to it. The scopes count only if all else is
equal. -/
def precedes (left right : Variable Datum) : Except ScopeFault Bool :=
  match compareLex (compareOn name) (compareLex (compareOn typeName) (compareOn declare)) left right with
  | .lt => .ok true
  | .gt => .ok false
  | .eq => (left.scope.precedes right.scope).mapError .incomparable

theorem isSome_scoped?_iff (v : Variable Datum) :
    v.scoped?.isSome ↔ ∃ scope, v.scope = .mark (.scope scope) := by
  unfold scoped?
  split
  case h_1 scope same => exact ⟨fun _ => ⟨scope, same⟩, fun _ => rfl⟩
  case h_2 other =>
      refine ⟨fun found => absurd found (by simp), fun found => ?_⟩
      obtain ⟨scope, same⟩ := found
      exact absurd same (other scope)

end Variable

/-! ## Comparing two of them

Two variables are compared in two ways: whether they bind one name in windows that share a region, and whether
they are equal. Variables of different names never are in each other's way, so there no scope is asked; variables
of one name are compared by their windows, and what is no scope has no window.
-/

structure Pairing where
  /-- Whether the first is in the way of the second. -/
  overlaps : Bool
  /-- Whether the second is in the way of the first. -/
  reverse : Bool
  equal : Bool
  deriving DecidableEq, Repr

def Pairing.size (pairing : Pairing) : Nat := if pairing.equal then 1 else 2

/-- Whether the windows of two values for scopes share a region. The first is asked for the second, and a
scope asks the other for the first region that it reaches itself. -/
def windowsOverlap : Datum → Datum → Except ScopeFault Bool
  | .mark (.scope left), .mark (.scope right) => .ok (left.overlaps right)
  | .mark (.scope left), right =>
      .error (.unanswered right (if left.reachesBody then .reachesBody else .reachesBeyond))
  | left, _ => .error (.unanswered left .overlap)

namespace Variable

def collides (left right : Variable Datum) : Except ScopeFault Bool :=
  if left.name = right.name then windowsOverlap left.scope right.scope else .ok false

def pairing (left right : Variable Datum) : Except ScopeFault Pairing := do
  let overlaps ← left.collides right
  let reverse ← right.collides left
  left.fitsSet
  right.fitsSet
  return ⟨overlaps, reverse, left.same right⟩

theorem same_loose (v w : Variable) : v.loose.same w.loose = decide (v = w) := by
  rw [Bool.eq_iff_iff]
  simp only [same, loose, withScope, mark_scope, Datum.same_mark, Bool.and_eq_true, beq_iff_eq,
    decide_eq_true_eq, Mark.scope.injEq]
  constructor
  · intro fields
    exact eq_of_fields fields.1.1.1 fields.1.1.2 fields.1.2 fields.2
  · intro equal
    subst equal
    exact ⟨⟨⟨rfl, rfl⟩, rfl⟩, rfl⟩

@[simp] theorem pairing_loose (v w : Variable) :
    v.loose.pairing w.loose = .ok ⟨v.overlaps w, w.overlaps v, decide (v = w)⟩ := by
  have left : v.loose.collides w.loose = .ok (v.overlaps w) := by
    by_cases name : v.name = w.name <;>
      simp [collides, loose, withScope, windowsOverlap, overlaps, name]
  have right : w.loose.collides v.loose = .ok (w.overlaps v) := by
    by_cases name : w.name = v.name <;>
      simp [collides, loose, withScope, windowsOverlap, overlaps, name]
  rw [pairing, left, right, same_loose]
  rfl

end Variable

end TagBinding
