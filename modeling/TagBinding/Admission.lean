import TagBinding.SortedSet
import TagBinding.Variable.Loose

/-!
# Elements and their admission

What a caller hands over as the variables of an invocation. It ought to be well-formed variables, but a
scope may have been overwritten after the checks, and something else may be in the list altogether. An
element counts as a variable exactly if its scope is one.

Before a plan is computed, the elements handed over must all be variables, and no two of them may bind one
name in windows that share a region. Some names are reserved: generated code binds them already, so a variable of
such a name collides on its own. Both checks go through the list from the front and report the first fault.
-/

namespace TagBinding

/-! ## Elements -/

inductive Element where
  /-- A variable, with whatever it has for a scope by now. -/
  | described (v : Variable Datum)
  /-- A value that never was a variable. -/
  | stray (value : Datum)

namespace Element

def ofVariable (v : Variable) : Element := .described v.loose

/-- The variable that an element counts as, if it has a scope. -/
def toVariable? : Element → Option Variable
  | .described v => v.scoped?
  | .stray _ => none

def name : Element → Datum
  | .described v => .text v.name
  | .stray (.mark value) => .text value.name
  | .stray _ => .null

def scope : Element → Datum
  | .described v => v.scope
  | .stray _ => .null

theorem isSome_toVariable?_iff (element : Element) :
    element.toVariable?.isSome ↔ ∃ scope, element.scope = .mark (.scope scope) := by
  cases element with
  | described v => exact v.isSome_scoped?_iff
  | stray value => simp [toVariable?, scope]

end Element

/-! ## Admission -/

namespace Element

/-- The variables that the elements of a list count as, or the first element that counts as none. -/
def toVariables : List Element → Except Element (List Variable)
  | [] => .ok []
  | element :: rest =>
      match element.toVariable? with
      | none => .error element
      | some v => (toVariables rest).map (v :: ·)

end Element

/-- Why a variable cannot be admitted after those before it. -/
inductive Collision where
  | reserved (v : Variable)
  /-- An earlier variable binds its name where it does. -/
  | overlap (earlier later : Variable)
  deriving DecidableEq

/-- The first collision in a list of variables, after some that were admitted. Of several earlier variables
that one collides with, the earliest is told. -/
def firstCollisionAfter (reserved : SortedSet String) (admitted : List Variable) :
    List Variable → Option Collision
  | [] => none
  | v :: rest =>
      if v.name ∈ reserved then some (.reserved v)
      else
        match admitted.find? (·.overlaps v) with
        | some earlier => some (.overlap earlier v)
        | none => firstCollisionAfter reserved (admitted ++ [v]) rest

def firstCollision (reserved : SortedSet String) (vars : List Variable) : Option Collision :=
  firstCollisionAfter reserved [] vars

end TagBinding
