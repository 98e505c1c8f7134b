import TagBinding.Text.Quoted

/-!
# The release

What the library tells about itself to a program that loads it: its name and number, the names it offers, an
introduction, and what it asks of its host.
-/

namespace TagBinding

/-- Something the library tells about itself. -/
inductive Fact where
  | name
  | version
  | exports
  | introduction
  /-- Which lock the library asks its host to hold around it. -/
  | hostLock
  deriving DecidableEq, Repr

/-- What a fact is: a text, a number, or a list of texts. -/
inductive FactValue where
  | text (value : String)
  | number (value : Nat)
  | texts (values : List String)
  deriving DecidableEq, Repr

def releaseName : String := "tagscope"

/-- The names that the library offers, in alphabetical order. -/
def releaseExports : List String :=
  ["BodyAction", "Checkpoint", "ControlFlow", "DEFAULT_CONFIG", "DuplicateVariableNameError",
   "ErrorCode", "HandlerKind", "InvalidDescriptorError", "LifecycleCallback", "LifecycleStep",
   "ResolverConfig", "SYNCHRONIZATION_TABLE", "ScopeResolver", "SynchronizationPlan",
   "TagInvocation", "TagScopeError", "UnscopedVariableError", "VariableDescriptor",
   "VariableScope", "__version__", "compute_plan", "descriptor_from_declaration",
   "descriptors_from_declarations", "first_sync_point", "lifecycle_trace", "scopes_to_sync",
   "sync_points"]

def introductionLines : List String :=
  ["tagscope — scripting-variable scope and synchronization for custom tags.",
    "",
    "When a template invokes a custom tag, the tag may introduce named variables",
    "into the generated code. Each variable is visible over a window relative to",
    "the tag's start and end markers, and because the tag runs as a sequence of",
    "lifecycle callbacks on a handler, the compiler must know after which callback",
    "each variable has to be declared or re-bound. Getting this wrong compiles",
    "fine and reads stale values at runtime.",
    "",
    "Quickstart:",
    "    >>> from tagscope import HandlerKind, VariableDescriptor, VariableScope, compute_plan",
    "    >>> plan = compute_plan(",
    "    ...     [",
    "    ...         VariableDescriptor(\"a\", \"java.lang.String\", scope=VariableScope.AT_BEGIN),",
    "    ...         VariableDescriptor(\"b\", \"java.lang.String\", scope=VariableScope.AT_END),",
    "    ...     ],",
    "    ...     HandlerKind.CLASSIC,",
    "    ... )",
    "    >>> [(cp.callback.method_name, cp.names) for cp in plan]",
    "    [('doStartTag', ('a',)), ('doEndTag', ('a', 'b'))]",
    "",
    "Architecture:",
    "Tag metadata → VariableDescriptor[] ─┐",
    "                                     ├→ ScopeResolver → SynchronizationPlan → code emission",
    "Handler kind → SYNCHRONIZATION_TABLE ┘",
    "",
    "Thread-Safety:",
    "Every value is immutable and every operation is pure. The synchronization",
    "table is a process-wide read-only mapping; plans may be computed",
    "concurrently without coordination.",
    "",
    ""]

/-- The facts of this release. Every operation is pure, so no lock is asked for. -/
def Fact.value : Fact → FactValue
  | .name => .text releaseName
  | .version => .text "0.1.0"
  | .exports => .texts releaseExports
  | .introduction => .text ("\n".intercalate introductionLines)
  | .hostLock => .number 0

/-- The library was asked for something that it does not tell. -/
structure UnknownFact where
  name : String
  deriving DecidableEq, Repr

def UnknownFact.message (fault : UnknownFact) : String :=
  "module " ++ Text.quoted releaseName ++ " has no attribute " ++ Text.quoted fault.name

end TagBinding
