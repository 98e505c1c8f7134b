/-!
# Handlers and their callbacks

At run time a tag is carried out by a handler, an object whose callbacks are called in a fixed order. The
order depends only on the kind of the handler, and there are four kinds: one runs a tag in a single call, one
includes its body or not, one repeats it, and one repeats it into a buffer.
-/

namespace TagBinding

/-! ## Callbacks -/

/-- A place in the life of a handler at which the generated code calls it. -/
inductive Callback where
  | start
  /-- Before the first pass over a buffered body. -/
  | bodyInit
  /-- After each pass over the body. -/
  | bodyReiterate
  | finish
  /-- The one call of a handler that owns its body. -/
  | tag
  deriving DecidableEq, Repr

namespace Callback

def all : List Callback := [.start, .bodyInit, .bodyReiterate, .finish, .tag]

theorem mem_all (callback : Callback) : callback ∈ all := by
  cases callback <;> decide

def name : Callback → String
  | .start => "START"
  | .bodyInit => "BODY_INIT"
  | .bodyReiterate => "BODY_REITERATE"
  | .finish => "END"
  | .tag => "TAG"

def method : Callback → String
  | .start => "doStartTag"
  | .bodyInit => "doInitBody"
  | .bodyReiterate => "doAfterBody"
  | .finish => "doEndTag"
  | .tag => "doTag"

end Callback

/-! ## Kinds of handlers -/

inductive ControlFlow where
  | singlePass | conditionalBody | loopUntilDone | bufferedLoop
  deriving DecidableEq, Repr

namespace ControlFlow

def all : List ControlFlow := [.singlePass, .conditionalBody, .loopUntilDone, .bufferedLoop]

theorem mem_all (flow : ControlFlow) : flow ∈ all := by
  cases flow <;> decide

def name : ControlFlow → String
  | .singlePass => "SINGLE_PASS"
  | .conditionalBody => "CONDITIONAL_BODY"
  | .loopUntilDone => "LOOP_UNTIL_DONE"
  | .bufferedLoop => "BUFFERED_LOOP"

def word : ControlFlow → String
  | .singlePass => "single_pass"
  | .conditionalBody => "conditional_body"
  | .loopUntilDone => "loop_until_done"
  | .bufferedLoop => "buffered_loop"

end ControlFlow

/-- What a handler does with the body of its tag. -/
inductive Handler where
  /-- One call, in which the handler runs the body itself. -/
  | simple
  /-- The body is included or skipped. -/
  | classic
  /-- The body is repeated until the handler is done. -/
  | iterating
  /-- The body is repeated, and what it writes may be buffered. -/
  | bodyBuffering
  deriving DecidableEq, Repr

namespace Handler

def all : List Handler := [.simple, .classic, .iterating, .bodyBuffering]

theorem mem_all (kind : Handler) : kind ∈ all := by
  cases kind <;> decide

def name : Handler → String
  | .simple => "SIMPLE"
  | .classic => "CLASSIC"
  | .iterating => "ITERATING"
  | .bodyBuffering => "BODY_BUFFERING"

/-- The callbacks of a kind, in the order of a handler's life. -/
def callbacks : Handler → List Callback
  | .simple => [.tag]
  | .classic => [.start, .finish]
  | .iterating => [.start, .bodyReiterate, .finish]
  | .bodyBuffering => [.start, .bodyInit, .bodyReiterate, .finish]

theorem callbacks_nodup (kind : Handler) : kind.callbacks.Nodup := by
  cases kind <;> decide

def flow : Handler → ControlFlow
  | .simple => .singlePass
  | .classic => .conditionalBody
  | .iterating => .loopUntilDone
  | .bodyBuffering => .bufferedLoop

def terminal : Handler → Callback
  | .simple => .tag
  | _ => .finish

theorem getLast?_callbacks (kind : Handler) : kind.callbacks.getLast? = some kind.terminal := by
  cases kind <;> rfl

/-- Whether the generated code runs the body between callbacks, rather than inside the only one. -/
def drivesBody (kind : Handler) : Bool := kind != .simple

/-- Whether a callback of the kind opens or follows a pass over the body. -/
def bordersBody (kind : Handler) (callback : Callback) : Bool :=
  kind.drivesBody && kind.callbacks.contains callback && callback != kind.terminal

end Handler

/-! ## Facts about callbacks -/

structure CallbackFacts where
  callback : Callback
  /-- Whether reaching the callback means that the body has run at least once. -/
  afterBody : Bool
  terminal : Bool
  deriving DecidableEq, Repr

structure ForeignCallback where
  kind : Handler
  callback : Callback
  deriving DecidableEq, Repr

def ForeignCallback.message (fault : ForeignCallback) : String :=
  fault.kind.name ++ " handlers have no " ++ fault.callback.method ++ "() callback"

namespace Handler

def factsOf (kind : Handler) (callback : Callback) : CallbackFacts where
  callback := callback
  afterBody := callback == .bodyReiterate
  terminal := callback == kind.terminal

def facts (kind : Handler) : List CallbackFacts := kind.callbacks.map kind.factsOf

def factsFor (kind : Handler) (callback : Callback) : Except ForeignCallback CallbackFacts :=
  if callback ∈ kind.callbacks then .ok (kind.factsOf callback) else .error ⟨kind, callback⟩

end Handler

end TagBinding
