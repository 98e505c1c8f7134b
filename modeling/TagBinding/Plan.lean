import TagBinding.Schedule
import TagBinding.SortedSet
import TagBinding.Variable

/-!
# Plans

A plan tells the generator of code what to do about the variables of one invocation: after each callback of
the handler, which variables to declare and which to assign to again. What is to be done after one callback
is a checkpoint.

A plan may be the result of a computation (`Plan.ofVariables`) or be put together by hand, so nothing is assumed
of plans about which callbacks they have a checkpoint for, or how many. Their variables may have any `σ` for a
scope that is marked; where nothing is said, they have scopes.
-/

namespace TagBinding

/-- What is to be done once a callback has returned. -/
structure Checkpoint (σ : Type := Scope) [Marked σ] where
  callback : Callback
  declarations : SortedSet (Variable σ)
  /-- The variables that are only assigned to here. -/
  updates : SortedSet (Variable σ)
  deriving DecidableEq

namespace Checkpoint

variable {σ : Type} [Marked σ]

def touched (checkpoint : Checkpoint σ) : SortedSet (Variable σ) :=
  checkpoint.declarations.union checkpoint.updates

@[simp] theorem mem_touched {v : Variable σ} {checkpoint : Checkpoint σ} :
    v ∈ checkpoint.touched ↔ v ∈ checkpoint.declarations ∨ v ∈ checkpoint.updates :=
  SortedSet.mem_union

def isEmpty (checkpoint : Checkpoint σ) : Bool :=
  checkpoint.declarations.isEmpty && checkpoint.updates.isEmpty

/-- The names of the variables that are touched, in order; two variables of one name are both named. -/
def names (checkpoint : Checkpoint σ) : List String := checkpoint.touched.toList.map Variable.name

end Checkpoint

/-- The checkpoints of an invocation, in the order of the handler's life. -/
structure Plan (σ : Type := Scope) [Marked σ] where
  kind : Handler
  checkpoints : List (Checkpoint σ)
  deriving DecidableEq

structure MissingCheckpoint where
  callback : Callback
  deriving DecidableEq, Repr

def MissingCheckpoint.message (fault : MissingCheckpoint) : String := fault.callback.literal

namespace Plan

variable {σ : Type} [Marked σ]

def first? (plan : Plan σ) (callback : Callback) : Option (Checkpoint σ) :=
  plan.checkpoints.find? fun checkpoint => checkpoint.callback == callback

def last? (plan : Plan σ) (callback : Callback) : Option (Checkpoint σ) :=
  plan.checkpoints.reverse.find? fun checkpoint => checkpoint.callback == callback

/-- The checkpoint of a callback, the first if there are several. -/
def checkpointFor (plan : Plan σ) (callback : Callback) : Except MissingCheckpoint (Checkpoint σ) :=
  match plan.first? callback with
  | some checkpoint => .ok checkpoint
  | none => .error ⟨callback⟩

def declaredNames (plan : Plan σ) : SortedSet String :=
  .ofList (plan.checkpoints.flatMap fun checkpoint => checkpoint.declarations.toList.map Variable.name)

end Plan

/-! ## Computing a plan

The callbacks of the handler are gone through in order. After each, the schedule tells the scopes to
refresh; a variable of such a scope is declared if the tag introduces it and no earlier callback declared
it, and is assigned to otherwise.
-/

/-- The checkpoint being filled, and what has been declared up to now. -/
structure Filling where
  /-- The variables declared so far, at this checkpoint or an earlier one. -/
  declared : SortedSet Variable
  declarations : SortedSet Variable
  updates : SortedSet Variable

namespace Filling

def fresh (declared : SortedSet Variable) : Filling := ⟨declared, .empty, .empty⟩

def bind (filling : Filling) (v : Variable) : Filling :=
  if v.declare ∧ v ∉ filling.declared then
    { filling with
      declared := filling.declared.insert v
      declarations := filling.declarations.insert v }
  else
    { filling with updates := filling.updates.insert v }

end Filling

namespace Plan

def due (kind : Handler) (callback : Callback) (vars : List Variable) : List Variable :=
  vars.filter fun v => (kind.refreshed callback).contains v.scope

/-- What is done about the variables after one callback, if some are declared already. -/
def filled (kind : Handler) (vars : List Variable) (declared : SortedSet Variable)
    (callback : Callback) : Filling :=
  (due kind callback vars).foldl Filling.bind (.fresh declared)

/-- The checkpoints of some callbacks in order, if some variables are declared already. -/
def checkpointsFrom (kind : Handler) (vars : List Variable) (declared : SortedSet Variable) :
    List Callback → List Checkpoint
  | [] => []
  | callback :: later =>
      let filling := filled kind vars declared callback
      ⟨callback, filling.declarations, filling.updates⟩ ::
        checkpointsFrom kind vars filling.declared later

/-- The plan for the variables of an invocation. -/
def ofVariables (kind : Handler) (vars : List Variable) : Plan :=
  ⟨kind, checkpointsFrom kind vars .empty kind.callbacks⟩

theorem map_callback_checkpointsFrom (kind : Handler) (vars : List Variable)
    (declared : SortedSet Variable) (callbacks : List Callback) :
    (checkpointsFrom kind vars declared callbacks).map Checkpoint.callback = callbacks := by
  induction callbacks generalizing declared with
  | nil => rfl
  | cons callback later ih => simp [checkpointsFrom, ih]

@[simp] theorem map_callback_ofVariables (kind : Handler) (vars : List Variable) :
    (ofVariables kind vars).checkpoints.map Checkpoint.callback = kind.callbacks :=
  map_callback_checkpointsFrom kind vars .empty kind.callbacks

end Plan

end TagBinding
