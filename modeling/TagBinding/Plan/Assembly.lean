import TagBinding.Plan
import TagBinding.Variable.Loose

/-!
# Plans put together by hand

A caller may give a plan checkpoint by checkpoint, with descriptions of the variables. The variables of a
checkpoint make sets, so what they have for a scope must be simple, and of several that are equal the first is
kept. To be shown in order each must come before or after the others, and to be shown at all each must have a
mark for a scope.

All variables are read before any is shown.
-/

namespace TagBinding

/-! ## Descriptions of variables

A variable as a caller describes it. What is left out is usual: a variable is introduced by its tag, and its
scope is the body. A description can also ask for the scope to be overwritten once the variable is checked;
that is not checked any more.
-/

structure Description where
  name : Datum
  typeName : Datum
  declare : Option Datum
  scope : Option Datum
  /-- What the scope is overwritten by. -/
  overwriting : Option Datum

namespace Description

/-- The variable described, before its scope is overwritten. -/
def checked (description : Description) : Except Defect Variable :=
  Variable.ofData description.name description.typeName (description.declare.getD (.flag true))
    (description.scope.getD (.mark (.scope .nested)))

def toVariable (description : Description) : Except Defect (Variable Datum) := do
  let v ← description.checked
  match description.overwriting with
  | none => return v.loose
  | some value => return v.withScope value

end Description

/-! ## Sets of variables -/

namespace Variable

/-- The variables kept, and those of a list that equal none kept before them. -/
def keep (kept : List (Variable Datum)) : List (Variable Datum) → List (Variable Datum)
  | [] => kept
  | v :: rest => keep (if kept.any (·.same v) then kept else kept ++ [v]) rest

/-- The variables of a list, without those that equal an earlier one. -/
def distinct (vars : List (Variable Datum)) : List (Variable Datum) := keep [] vars

/-- Puts a variable before the first that it precedes, in a list in order. -/
def place (v : Variable Datum) : List (Variable Datum) → Except ScopeFault (List (Variable Datum))
  | [] => .ok [v]
  | w :: rest => do
      if ← v.precedes w then
        return v :: w :: rest
      else
        let placed ← v.place rest
        return w :: placed

def inOrder (vars : List (Variable Datum)) : Except ScopeFault (List (Variable Datum)) :=
  vars.foldlM (fun placed v => v.place placed) []

/-- The set of the variables of a list, if it can be shown. -/
def shownSet (vars : List (Variable Datum)) : Except ScopeFault (SortedSet (Variable Mark)) := do
  let ordered ← inOrder (distinct vars)
  let shown ← ordered.mapM marked
  return .ofList shown

end Variable

/-! ## Drafts -/

/-- A checkpoint as a caller gives it, of variables in some form. -/
structure Draft (α : Type) where
  callback : Callback
  declarations : List α
  updates : List α

inductive AssemblyFault where
  | defect (defect : Defect)
  /-- A variable is of no use with what it has for a scope. -/
  | scope (fault : ScopeFault)

/-- The variable described, if a set can hold it. -/
def Description.toMember (description : Description) : Except AssemblyFault (Variable Datum) := do
  let v ← description.toVariable.mapError .defect
  v.fitsSet.mapError .scope
  return v

namespace Draft

def read (draft : Draft Description) : Except AssemblyFault (Draft (Variable Datum)) := do
  let declarations ← draft.declarations.mapM Description.toMember
  let updates ← draft.updates.mapM Description.toMember
  return ⟨draft.callback, declarations, updates⟩

/-- The checkpoint of a draft, if it can be shown. -/
def toCheckpoint (draft : Draft (Variable Datum)) : Except ScopeFault (Checkpoint Mark) := do
  let declarations ← Variable.shownSet draft.declarations
  let updates ← Variable.shownSet draft.updates
  return ⟨draft.callback, declarations, updates⟩

end Draft

def Plan.assemble (kind : Handler) (drafts : List (Draft Description)) :
    Except AssemblyFault (Plan Mark) := do
  let read ← drafts.mapM Draft.read
  let checkpoints ← (read.mapM Draft.toCheckpoint).mapError .scope
  return ⟨kind, checkpoints⟩

end TagBinding
