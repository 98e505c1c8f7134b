import TagBinding.Plan

/-!
# Replaying a plan

The checkpoints that one run of a handler comes by, in order. Every callback that the run reaches has its
checkpoint, whether the body was run or not.

A run through the announcement of a buffered body changes two of them. The body then has not begun when the
first callback returns, so variables of the body are declared one callback later than the plan says.
-/

namespace TagBinding

/-- Why a replay ends before its trace does. -/
inductive ReplayFault where
  /-- A buffered body calls for a checkpoint that the plan does not have. -/
  | missing (fault : MissingCheckpoint)
  /-- The trace reaches a callback that the plan has no checkpoint for. -/
  | foreign (fault : ForeignCallback)
  deriving DecidableEq, Repr

def ReplayFault.message : ReplayFault → String
  | .missing fault => fault.message
  | .foreign fault => fault.message

/-- The checkpoints that a run comes by, and why it ends early if it does. -/
structure Replay (σ : Type := Scope) [Marked σ] where
  reached : List (Checkpoint σ)
  fault : Option ReplayFault
  deriving DecidableEq

def Variable.isNested {σ : Type} [Marked σ] (v : Variable σ) : Bool := Marked.mark v.scope == .scope .nested

theorem Variable.isNested_iff {v : Variable} : v.isNested ↔ v.scope = .nested := by
  simp [Variable.isNested]

namespace Checkpoint

variable {σ : Type} [DecidableEq σ] [Marked σ]

def nestedDeclarations (checkpoint : Checkpoint σ) : SortedSet (Variable σ) :=
  checkpoint.declarations.filter Variable.isNested

def withoutNested (checkpoint : Checkpoint σ) : Checkpoint σ where
  callback := checkpoint.callback
  declarations := checkpoint.declarations.filter fun v => !v.isNested
  updates := checkpoint.updates.filter fun v => !v.isNested

/-- A checkpoint that also declares variables put off until here, instead of assigning to them. -/
def declaring (checkpoint : Checkpoint σ) (putOff : SortedSet (Variable σ)) : Checkpoint σ where
  callback := checkpoint.callback
  declarations := checkpoint.declarations.union putOff
  updates := checkpoint.updates.diff putOff

end Checkpoint

namespace Plan

variable {σ : Type} [DecidableEq σ] [Marked σ]

/-- The checkpoint of each callback in a run through a buffered body, where the checkpoints at the start
marker and before the body are these. -/
def bufferedLookup (plan : Plan σ) (start init : Checkpoint σ) : Callback → Option (Checkpoint σ)
  | .start => some start.withoutNested
  | .bodyInit => some (init.declaring start.nestedDeclarations)
  | callback => plan.last? callback

/-- The checkpoint of each callback in a run with the given trace. Where a plan has several checkpoints for
one callback the last one counts, but the two that a buffered body changes are made of the first ones. -/
def lookup (plan : Plan σ) (trace : List Callback) :
    Except MissingCheckpoint (Callback → Option (Checkpoint σ)) :=
  match plan.first? .bodyInit with
  | none => .ok plan.last?
  | some init =>
      if .bodyInit ∈ trace then do
        let start ← plan.checkpointFor .start
        return plan.bufferedLookup start init
      else
        .ok plan.last?

def walk (kind : Handler) (checkpointOf : Callback → Option (Checkpoint σ)) : List Callback → Replay σ
  | [] => ⟨[], none⟩
  | callback :: later =>
      match checkpointOf callback with
      | none => ⟨[], some (.foreign ⟨kind, callback⟩)⟩
      | some checkpoint =>
          let rest := walk kind checkpointOf later
          ⟨checkpoint :: rest.reached, rest.fault⟩

def replay (plan : Plan σ) (trace : List Callback) : Replay σ :=
  match plan.lookup trace with
  | .error fault => ⟨[], some (.missing fault)⟩
  | .ok checkpointOf => walk plan.kind checkpointOf trace

end Plan

end TagBinding
