import TagBinding.Handler

/-!
# Scopes and the schedule of refreshes

The window of a template in which a variable that a tag introduces can be read, and the callbacks after which
it is read again. A tag cuts the enclosing block into its body, between the start and the end marker, and the
rest of the block after the end marker; a scope is one of the three windows made of these two regions. Tag
libraries also write a scope as a number.
-/

namespace TagBinding

/-! ## Scopes -/

/-- The window of visibility of a variable. -/
inductive Scope where
  /-- The body of the tag. -/
  | nested
  /-- The body and what follows the end marker. -/
  | atBegin
  /-- What follows the end marker. -/
  | atEnd
  deriving DecidableEq, Repr

namespace Scope

def all : List Scope := [.nested, .atBegin, .atEnd]

theorem mem_all (scope : Scope) : scope ∈ all := by
  cases scope <;> decide

def name : Scope → String
  | .nested => "NESTED"
  | .atBegin => "AT_BEGIN"
  | .atEnd => "AT_END"

/-- The number of a scope in the metadata of tag libraries. -/
def number : Scope → Nat
  | .nested => 0
  | .atBegin => 1
  | .atEnd => 2

def ofNumber? (n : Int) : Option Scope := all.find? fun scope => (scope.number : Int) == n

def reachesBody : Scope → Bool
  | .atEnd => false
  | _ => true

def reachesBeyond : Scope → Bool
  | .nested => false
  | _ => true

def overlaps (left right : Scope) : Bool :=
  (left.reachesBody && right.reachesBody) || (left.reachesBeyond && right.reachesBeyond)

theorem overlaps_comm (left right : Scope) : left.overlaps right = right.overlaps left := by
  cases left <;> cases right <;> rfl

@[simp] theorem overlaps_self (scope : Scope) : scope.overlaps scope := by
  cases scope <;> rfl

end Scope

/-! ## Refreshes

A handler may change its variables in any callback, so generated code reads them again after each. Which
variables it reads is fixed by a table: for each kind of handler and each of its callbacks, the scopes whose
variables are refreshed once the callback has returned.

Around the body these are the variables that the body can read, and after the last callback those that the
rest of the block can read. A callback that a kind does not have refreshes nothing.
-/

/-- The scopes refreshed before and between passes over the body. -/
def aroundBody : List Scope := [.nested, .atBegin]

/-- The scopes refreshed after the last callback. -/
def afterLast : List Scope := [.atBegin, .atEnd]

namespace Handler

/-- The scopes whose variables are refreshed once a callback has returned, by number. -/
def refreshed : Handler → Callback → List Scope
  | .simple, .tag => afterLast
  | .classic, .start => aroundBody
  | .classic, .finish => afterLast
  | .iterating, .start => aroundBody
  | .iterating, .bodyReiterate => aroundBody
  | .iterating, .finish => afterLast
  | .bodyBuffering, .start => aroundBody
  | .bodyBuffering, .bodyInit => aroundBody
  | .bodyBuffering, .bodyReiterate => aroundBody
  | .bodyBuffering, .finish => afterLast
  | _, _ => []

theorem refreshed_ne_nil_iff (kind : Handler) (callback : Callback) :
    kind.refreshed callback ≠ [] ↔ callback ∈ kind.callbacks := by
  cases kind <;> cases callback <;> decide

/-- The callbacks of a kind, in order, that refresh the variables of a scope. -/
def refreshPoints (kind : Handler) (scope : Scope) : List Callback :=
  kind.callbacks.filter fun callback => (kind.refreshed callback).contains scope

def firstRefreshPoint? (kind : Handler) (scope : Scope) : Option Callback :=
  (kind.refreshPoints scope).head?

end Handler

/-- The whole table, kind by kind and callback by callback. -/
def schedule : List (Handler × Callback × List Scope) :=
  Handler.all.flatMap fun kind =>
    Callback.all.map fun callback => (kind, callback, kind.refreshed callback)

end TagBinding
