import TagBinding.Declaration
import TagBinding.Resolver

/-!
# Sessions

A resolver in use: questions to it, and what a caller may do and ask about it in between. A session keeps
the outcomes of the questions, so that two of them can be held against each other.

Questions come with their elements as they were read. If a description among them is faulty, the question
fails before the resolver hears of it.
-/

namespace TagBinding

/-! ## Steps and reports -/

/-- A question with its elements as they were read. -/
structure Request where
  elements : Except DeclarationFault (List Element)
  kind : Datum
  invocation : Option Invocation

inductive Step where
  | ask (request : Request)
  /-- Asks one question after the other, as long as none fails; the outcomes are not kept. -/
  | askInTurn (requests : List Request)
  | clear
  | inspect
  /-- Wants to know what the remembered plans were computed for. -/
  | listKeys
  /-- Compares the outcomes of two questions, counted from zero. -/
  | compare (left right : Nat)

/-- Why a question has no plan for an answer. -/
inductive Failure where
  /-- An element could not be made of its description. -/
  | unreadable (fault : DeclarationFault)
  | refused (refusal : Refusal)

structure Reply where
  outcome : Except Failure Issue
  log : List Event

structure Comparison where
  equal : Bool
  /-- Whether they come from one computation. -/
  same : Bool
  deriving DecidableEq, Repr

/-- What a session reports of a step. Sizes are the number of plans remembered after it. -/
inductive Report where
  | reply (reply : Reply) (size : Nat)
  /-- All questions were answered, so many of them from the memory. -/
  | inTurn (recalled size : Nat)
  /-- A question failed, and those after it were not asked. -/
  | brokenOff (failure : Failure)
  | cleared (size capacity : Nat)
  | state (size : Nat) (settings : Settings)
  | keys (keys : List PlanKey)
  | comparison (comparison : Comparison)

/-- Asks a resolver, unless an element of the request is faulty. -/
def Resolver.request (resolver : Resolver) (request : Request) : Resolver × Reply :=
  match request.elements with
  | .error fault => (resolver, ⟨.error (.unreadable fault), []⟩)
  | .ok elements =>
      let (next, answer) := resolver.ask ⟨elements, request.kind, request.invocation⟩
      (next, ⟨answer.outcome.mapError .refused, answer.log⟩)

/-- Asks a resolver one question after the other, as long as none fails, and counts the answers that
came from the memory on top of those counted before. -/
def Resolver.requestInTurn (resolver : Resolver) (recalled : Nat) : List Request → Resolver × Report
  | [] => (resolver, .inTurn recalled resolver.memo.size)
  | request :: later =>
      let (next, reply) := resolver.request request
      match reply.outcome with
      | .error failure => (next, .brokenOff failure)
      | .ok _ =>
          let count := if reply.log.any Event.isRecalled then recalled + 1 else recalled
          next.requestInTurn count later

/-! ## Running a session -/

/-- A resolver and the outcomes it gave, the first first; a question that failed has none. -/
structure Session where
  resolver : Resolver
  outcomes : List (Option Issue)

namespace Session

def fresh (settings : Settings) : Session := ⟨.fresh settings, []⟩

/-- Compares two outcomes: two failures are the same, and a failure is like no plan. -/
def compareIssues : Option Issue → Option Issue → Comparison
  | none, none => ⟨true, true⟩
  | some left, some right => ⟨decide (left.plan = right.plan), left.serial == right.serial⟩
  | _, _ => ⟨false, false⟩

def step (session : Session) : Step → Session × Report
  | .ask request =>
      let (next, reply) := session.resolver.request request
      (⟨next, session.outcomes ++ [reply.outcome.toOption]⟩, .reply reply next.memo.size)
  | .askInTurn requests =>
      let (next, report) := session.resolver.requestInTurn 0 requests
      ({ session with resolver := next }, report)
  | .clear =>
      let next := session.resolver.clear
      ({ session with resolver := next }, .cleared next.memo.size next.settings.capacity)
  | .inspect => (session, .state session.resolver.memo.size session.resolver.settings)
  | .listKeys => (session, .keys session.resolver.memo.keys)
  | .compare left right =>
      (session, .comparison (compareIssues session.outcomes[left]?.join session.outcomes[right]?.join))

/-- Takes steps in order: the reports, and the session after the last. -/
def run (session : Session) : List Step → List Report × Session
  | [] => ([], session)
  | step :: later =>
      let (next, report) := session.step step
      let (reports, last) := next.run later
      (report :: reports, last)

@[simp] theorem run_nil (session : Session) : session.run [] = ([], session) := rfl

theorem run_cons (session : Session) (step : Step) (later : List Step) :
    session.run (step :: later) =
      ((session.step step).2 :: ((session.step step).1.run later).1, ((session.step step).1.run later).2) :=
  rfl

end Session

def runSession (settings : Settings) (steps : List Step) : List Report :=
  ((Session.fresh settings).run steps).1

end TagBinding
