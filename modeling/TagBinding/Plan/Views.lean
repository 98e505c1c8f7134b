import TagBinding.Plan
import TagBinding.Terminal.Color
import TagBinding.Trace

/-!
# Views of a plan

A plan can be looked at as a sequence of checkpoints, by position, or be printed as a table.
-/

namespace TagBinding

open Terminal (Markup)

/-! ## Selecting checkpoints by position

A position counts from the front or, if it is negative, from the end; a range of positions is given by where it
starts, where it stops and by what step, each of which may be left out. Bounds of a range outside the sequence
are drawn in to its ends.
-/

inductive SelectionFault where
  | outOfRange
  /-- The position is beyond what any sequence could have. -/
  | unindexable
  | zeroStep
  deriving DecidableEq, Repr

def SelectionFault.message : SelectionFault → String
  | .outOfRange => "tuple index out of range"
  | .unindexable => Extent.message
  | .zeroStep => "slice step cannot be zero"

/-- A range of positions, as far as it is given. -/
structure PositionRange where
  start : Option Int
  stop : Option Int
  step : Option Int
  deriving DecidableEq, Repr

namespace PositionRange

/-- A bound of a range, drawn in between the ends of a sequence. -/
def drawnIn (bottom top length : Int) (bound : Int) : Int :=
  if bound < 0 then max bottom (bound + length) else min top bound

/-- The positions in a range, for a sequence of the given length. -/
def positions (range : PositionRange) (length : Nat) : Except SelectionFault (List Nat) :=
  let step := range.step.getD 1
  if step = 0 then
    .error .zeroStep
  else if 0 < step then
    -- forwards, from the front to behind the last
    let start := (range.start.map (drawnIn 0 length length)).getD 0
    let stop := (range.stop.map (drawnIn 0 length length)).getD length
    let count := ((stop - start + (step - 1)) / step).toNat
    .ok ((List.range count).map fun (k : Nat) => (start + step * (k : Int)).toNat)
  else
    -- backwards, from the last to before the front
    let start := (range.start.map (drawnIn (-1) (length - 1) length)).getD (length - 1)
    let stop := (range.stop.map (drawnIn (-1) (length - 1) length)).getD (-1)
    let count := ((start - stop + (-step - 1)) / (-step)).toNat
    .ok ((List.range count).map fun (k : Nat) => (start + step * (k : Int)).toNat)

end PositionRange

namespace Plan

variable {σ : Type} [Marked σ]

def checkpointAt (plan : Plan σ) (position : Int) : Except SelectionFault (Checkpoint σ) :=
  if !Extent.holds position then .error .unindexable
  else
    let index := if position < 0 then position + plan.checkpoints.length else position
    if index < 0 then .error .outOfRange
    else
      match plan.checkpoints[index.toNat]? with
      | some checkpoint => .ok checkpoint
      | none => .error .outOfRange

def checkpointsIn (plan : Plan σ) (range : PositionRange) : Except SelectionFault (List (Checkpoint σ)) := do
  let positions ← range.positions plan.checkpoints.length
  return positions.filterMap fun position => plan.checkpoints[position]?

end Plan

/-! ## Tables

The table of a plan has a title, then one row for each checkpoint, with the method it follows and what is done
about each variable. The labels of the rows are padded to one width.
-/

def padded (width : Nat) (text : String) : String :=
  String.ofList (text.toList ++ List.replicate (width - text.length) ' ')

namespace Checkpoint

variable {σ : Type} [Marked σ]

def declarationCell (v : Variable σ) : Markup :=
  [.plain "declare ", .styled .variable v.name, .plain (": " ++ v.typeName ++ " ["),
    .styled .scope (Marked.mark v.scope).name, .plain "]"]

def updateCell (v : Variable σ) : Markup := [.plain "sync ", .styled .variable v.name]

/-- The cells of a checkpoint: what is declared by name, then what is assigned to by name. -/
def cells (checkpoint : Checkpoint σ) : List Markup :=
  checkpoint.declarations.toList.map declarationCell ++ checkpoint.updates.toList.map updateCell

/-- The content of a row; a checkpoint with nothing to do has a dash. -/
def content (checkpoint : Checkpoint σ) : Markup :=
  if checkpoint.cells.isEmpty then [.styled .dimText "-"] else Markup.joined ", " checkpoint.cells

def label (checkpoint : Checkpoint σ) : String := "after " ++ checkpoint.callback.method ++ "()"

/-- A row, its label padded to a width. -/
def row (width : Nat) (checkpoint : Checkpoint σ) : Markup :=
  .plain ("  " ++ padded width checkpoint.label ++ " ") :: checkpoint.content

end Checkpoint

namespace Plan

variable {σ : Type} [Marked σ]

def labelWidth (plan : Plan σ) : Nat :=
  plan.checkpoints.foldr (fun checkpoint width => max checkpoint.label.length width) 0

def title (plan : Plan σ) : Markup := [.styled .dimText (plan.kind.name ++ " synchronization plan:")]

def table (plan : Plan σ) : Markup :=
  Markup.joined "\n" (plan.title :: plan.checkpoints.map (Checkpoint.row plan.labelWidth))

def format (plan : Plan σ) (colored : Bool) : String := plan.table.render colored

end Plan

end TagBinding
