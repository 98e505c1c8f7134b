import TagBinding.Handler

/-!
# Traces

The callbacks that a handler actually reaches in one run of its tag. A run is settled by the kind of the
handler, by what its first callback decides about the body, and by the number of passes over the body.

The passes matter only to a handler that repeats its body: its trace is as long as they are many, so there
are numbers of passes that no trace has room for. How much room there is, is up to the machine.
-/

namespace TagBinding

/-! ## Extents of sequences

Positions in sequences and their lengths are signed numbers of 64 bits, so a number outside that range is
refused before it is looked at more closely. A sequence can be built only as far as there is room for it.
-/

namespace Extent

/-- The first number that is too great for a position or a length. -/
def limit : Int := 9223372036854775808

/-- Whether a number can be a position, from the front or from the end. -/
def holds (n : Int) : Bool := -limit ≤ n && n < limit

def message : String := "cannot fit 'int' into an index-sized integer"

/-- The greatest length that there is room for, unless a machine is said to have more or less. -/
def room : Int := 1073741824

end Extent

/-! ## Decisions about the body -/

inductive BodyDecision where
  | skip
  | inPlace
  | buffered
  deriving DecidableEq, Repr

namespace BodyDecision

def all : List BodyDecision := [.skip, .inPlace, .buffered]

theorem mem_all (decision : BodyDecision) : decision ∈ all := by
  cases decision <;> decide

def name : BodyDecision → String
  | .skip => "SKIP_BODY"
  | .inPlace => "EVAL_BODY_INCLUDE"
  | .buffered => "EVAL_BODY_BUFFERED"

def word : BodyDecision → String
  | .skip => "skip_body"
  | .inPlace => "eval_body_include"
  | .buffered => "eval_body_buffered"

def runsBody : BodyDecision → Bool
  | .skip => false
  | _ => true

end BodyDecision

/-- Why there is no run of a kind with the given decision and number of passes. -/
inductive TraceFault where
  /-- Only one kind can buffer its body. -/
  | cannotBuffer (kind : Handler)
  /-- A body that runs, runs at least once. -/
  | noPass (passes : Int)
  /-- No sequence could have a length such as this number of passes. -/
  | uncountable (passes : Int)
  /-- There is no room for a trace with this number of passes. -/
  | noRoom (passes : Int)
  deriving DecidableEq, Repr

def TraceFault.message : TraceFault → String
  | .cannotBuffer kind => kind.name ++ " handlers cannot buffer their body"
  | .noPass passes => "An evaluated body runs at least once (got " ++ toString passes ++ ")"
  | .uncountable _ => Extent.message
  | .noRoom _ => ""

namespace Handler

def isLooping : Handler → Bool
  | .simple | .classic => false
  | .iterating | .bodyBuffering => true

/-- Whether a run calls the handler after each pass over the body. -/
def countsPasses (kind : Handler) (decision : BodyDecision) : Bool :=
  kind.isLooping && decision.runsBody

/-- The callbacks reached by a handler with body callbacks, whatever can go wrong aside: a body that is
repeated ends each pass in a callback, and a buffered one is announced by a callback of its own. -/
def reached (kind : Handler) (decision : BodyDecision) (passes : Int) : List Callback :=
  if kind.countsPasses decision then
    .start :: (if decision = .buffered then [.bodyInit] else []) ++
      List.replicate passes.toNat .bodyReiterate ++ [.finish]
  else
    [.start, .finish]

/-- The trace of one run, on a machine with room for so many passes. A handler without body callbacks has
one trace, whatever is decided. -/
def trace (kind : Handler) (decision : BodyDecision) (passes : Int) (room : Int := Extent.room) :
    Except TraceFault (List Callback) :=
  if kind = .simple then
    .ok [.tag]
  else if decision = .buffered ∧ kind ≠ .bodyBuffering then
    .error (.cannotBuffer kind)
  else if decision.runsBody ∧ passes < 1 then
    .error (.noPass passes)
  else if kind.countsPasses decision ∧ Extent.limit ≤ passes then
    .error (.uncountable passes)
  else if kind.countsPasses decision ∧ room < passes then
    .error (.noRoom passes)
  else
    .ok (kind.reached decision passes)

end Handler

end TagBinding
