import TagBinding.Diagnostic
import TagBinding.Plan

/-!
# The resolver

A resolver answers with a plan for the variables of an invocation and the kind of its handler, or refuses.
It remembers plans, so a question may be answered without the checks and the computation it took the first
time. What it did is told by a log of events.

One question goes through these stages: the kind is recognised, every element must have a scope, a
remembered plan is taken if there is one, the variables must not collide, and the plan is computed and
remembered. The invocation takes part in none of them; it only goes into the diagnostic of a refusal.
-/

namespace TagBinding

/-! ## Settings

How many plans a resolver may remember, and which names it must keep free for generated code.
-/

structure Settings where
  /-- The number of plans that may be remembered; none are if it is zero. -/
  capacity : Nat
  /-- The names that generated code binds itself. -/
  reserved : SortedSet String
  deriving DecidableEq

/-- A number of plans that is below zero. -/
structure NegativeCapacity where
  given : Int
  deriving DecidableEq, Repr

def NegativeCapacity.message (fault : NegativeCapacity) : String :=
  "cache_size must be >= 0, got " ++ toString fault.given

namespace Settings

/-- The number of plans that are remembered if nothing is said. -/
def usualCapacity : Int := 256

/-- The settings with a number of plans and a list of reserved names. -/
def make (capacity : Int) (reserved : List String) : Except NegativeCapacity Settings :=
  if capacity < 0 then .error ⟨capacity⟩ else .ok ⟨capacity.toNat, .ofList reserved⟩

/-- The settings if nothing is said: no name is reserved. -/
def usual : Settings := ⟨usualCapacity.toNat, .empty⟩

end Settings

/-! ## The memory for plans

A resolver remembers the plans it computed, each under the variables and the kind it was computed for. When
the memory is full, the plan that has been in it for longest makes room for the next. Looking a plan up
changes nothing.

Each plan carries the number of plans computed before it, so that two answers can be told to be the same
computation and not only equal.
-/

/-- A computed plan, numbered by the computations before it. -/
structure Issue where
  plan : Plan
  serial : Nat
  deriving DecidableEq

/-- What a plan is computed for: the variables in the order given, and the kind of the handler. -/
abbrev PlanKey := List Variable × Handler

/-- The plans remembered, the oldest first. -/
structure Memo where
  entries : List (PlanKey × Issue)
  deriving DecidableEq

namespace Memo

def empty : Memo := ⟨[]⟩

def size (memo : Memo) : Nat := memo.entries.length

/-- What the plans remembered were computed for, the oldest first. -/
def keys (memo : Memo) : List PlanKey := memo.entries.map Prod.fst

def find? (memo : Memo) (key : PlanKey) : Option Issue :=
  (memo.entries.find? fun entry => decide (entry.1 = key)).map Prod.snd

def withRoom (memo : Memo) (capacity : Nat) : Memo :=
  if capacity ≤ memo.size then ⟨memo.entries.tail⟩ else memo

/-- Remembers a plan, if plans are remembered at all. -/
def store (memo : Memo) (capacity : Nat) (key : PlanKey) (issue : Issue) : Memo :=
  if capacity = 0 then memo else ⟨(memo.withRoom capacity).entries ++ [(key, issue)]⟩

end Memo

/-! ## Refusals -/

inductive Refusal where
  | unknownKind (fault : UnknownKind)
  | diagnosed (diagnostic : Diagnostic)

def Refusal.message : Refusal → String
  | .unknownKind fault => fault.message
  | .diagnosed diagnostic => diagnostic.message

/-- The diagnostic for a collision: the scopes it involves, and for a reserved name a hint of its own. -/
def Collision.diagnostic (invocation : Option Invocation) : Collision → Diagnostic
  | .reserved v =>
      { cause := .duplicate v.name [.mark (.scope v.scope)]
        invocation
        hint := some ("'" ++ v.name ++ "' is already bound by generated code") }
  | .overlap earlier later =>
      .ofCause (.duplicate later.name [.mark (.scope earlier.scope), .mark (.scope later.scope)]) invocation

/-! ## Events -/

inductive Event where
  | recalled (kind : Handler) (count : Nat)
  | computed (kind : Handler) (count : Nat)
  | shadowing (name : String)
  | colliding (name : String) (earlier later : Scope)
  deriving DecidableEq, Repr

def Event.message : Event → String
  | .recalled kind count =>
      "Plan cache hit for " ++ kind.name ++ " (" ++ toString count ++ " variables)"
  | .computed kind count =>
      "Computed " ++ kind.name ++ " plan for " ++ toString count ++ " variables"
  | .shadowing name => "Variable " ++ Text.quoted name ++ " shadows a reserved name"
  | .colliding name earlier later =>
      "Variable " ++ Text.quoted name ++ " declared as " ++ earlier.name ++ " and " ++ later.name

def Event.isRecalled : Event → Bool
  | .recalled _ _ => true
  | _ => false

def Collision.event : Collision → Event
  | .reserved v => .shadowing v.name
  | .overlap earlier later => .colliding later.name earlier.scope later.scope

/-! ## Answering -/

/-- A question: the elements that should be the variables of an invocation, what should be the kind of its
handler, and where it is. -/
structure Question where
  elements : List Element
  kind : Datum
  invocation : Option Invocation

structure Resolver where
  settings : Settings
  memo : Memo
  computed : Nat
  deriving DecidableEq

structure Answer where
  outcome : Except Refusal Issue
  log : List Event

namespace Resolver

/-- A resolver that has not been asked yet. -/
def fresh (settings : Settings) : Resolver := ⟨settings, .empty, 0⟩

/-- Computes a plan for variables that no plan is remembered for, if they do not collide. -/
def resolve (resolver : Resolver) (vars : List Variable) (kind : Handler)
    (invocation : Option Invocation) : Resolver × Answer :=
  match firstCollision resolver.settings.reserved vars with
  | some collision =>
      (resolver, ⟨.error (.diagnosed (collision.diagnostic invocation)), [collision.event]⟩)
  | none =>
      let issue : Issue := ⟨Plan.ofVariables kind vars, resolver.computed⟩
      ({ resolver with
          memo := resolver.memo.store resolver.settings.capacity (vars, kind) issue
          computed := resolver.computed + 1 },
        ⟨.ok issue, [.computed kind vars.length]⟩)

/-- Answers a question whose kind is recognised and whose elements all are variables. -/
def answer (resolver : Resolver) (vars : List Variable) (kind : Handler)
    (invocation : Option Invocation) : Resolver × Answer :=
  match resolver.memo.find? (vars, kind) with
  | some issue => (resolver, ⟨.ok issue, [.recalled kind vars.length]⟩)
  | none => resolver.resolve vars kind invocation

def ask (resolver : Resolver) (question : Question) : Resolver × Answer :=
  match Handler.recognize question.kind with
  | .error fault => (resolver, ⟨.error (.unknownKind fault), []⟩)
  | .ok kind =>
      match Element.toVariables question.elements with
      | .error element =>
          (resolver, ⟨.error (.diagnosed (.ofCause (.unscoped element) question.invocation)), []⟩)
      | .ok vars => resolver.answer vars kind question.invocation

def clear (resolver : Resolver) : Resolver := { resolver with memo := .empty }

end Resolver

/-- The plan that answers a question, from a resolver that has not been asked yet. -/
def planFor (question : Question) : Except Refusal Plan :=
  ((Resolver.fresh .usual).ask question).2.outcome.map Issue.plan

end TagBinding
