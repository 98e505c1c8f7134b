import TagBinding.Proofs.Arrangement

/-! # Kinds that share callbacks

Some kinds have all the callbacks of another one and more: a body that is repeated can also be included once, and a
buffered one can also be repeated in place.  What is done after a callback does not depend on the further callbacks
that a kind has, although the plans of two kinds are computed apart from each other: no scope is first bound at one of
these (`Handler.opening?_iff_of_shared`).  So a trace that two kinds can both take replays alike from their plans
(`Plan.replay_eq_of_shared`).
-/

namespace TagBinding

/-! ## Shared callbacks -/

namespace Handler

variable {kind kind' : Handler} {callback : Callback}

theorem refreshed_eq_of_shared (known : callback ∈ kind.callbacks) (known' : callback ∈ kind'.callbacks) :
    kind.refreshed callback = kind'.refreshed callback := by
  revert known known'
  cases kind <;> cases kind' <;> cases callback <;> decide

theorem opening?_iff_of_shared (known : callback ∈ kind.callbacks) (known' : callback ∈ kind'.callbacks)
    (scope : Scope) :
    kind.opening? false scope = some callback ↔ kind'.opening? false scope = some callback := by
  have table : ∀ kind ∈ all, ∀ kind' ∈ all, ∀ callback ∈ kind.callbacks, callback ∈ kind'.callbacks →
      ∀ scope ∈ Scope.all,
        (kind.opening? false scope = some callback ↔ kind'.opening? false scope = some callback) := by
    decide
  exact table kind (mem_all kind) kind' (mem_all kind') callback known known' scope (Scope.mem_all scope)

end Handler

theorem Checkpoint.settled_eq_of_shared {kind kind' : Handler} {vars : List Variable} {callback : Callback}
    (known : callback ∈ kind.callbacks) (known' : callback ∈ kind'.callbacks) :
    settled kind false vars callback = settled kind' false vars callback := by
  refine eq_of_mem_iff rfl (fun v => ?_) (fun v => ?_)
  · rw [mem_declarations_settled, mem_declarations_settled, Handler.opening?_iff_of_shared known known']
  · rw [mem_updates_settled, mem_updates_settled, Handler.opening?_iff_of_shared known known',
      Handler.bound_false, Handler.bound_false, Handler.refreshed_eq_of_shared known known']

theorem Plan.replay_eq_of_shared {kind kind' : Handler} {vars : List Variable} (distinct : vars.Nodup)
    {trace : List Callback}
    (shared : ∀ callback ∈ trace, callback ∈ kind.callbacks ∧ callback ∈ kind'.callbacks) :
    (ofVariables kind vars).replay trace = (ofVariables kind' vars).replay trace := by
  by_cases announced : .bodyInit ∈ trace
  · -- only one kind can announce its body, and then there are not two kinds
    obtain ⟨announces, announces'⟩ := shared .bodyInit announced
    rw [Handler.eq_bodyBuffering_of_bodyInit announces, Handler.eq_bodyBuffering_of_bodyInit announces']
  · rw [replay_of_known distinct fun callback member => (shared callback member).1,
      replay_of_known distinct fun callback member => (shared callback member).2, decide_eq_false announced]
    congr 1
    exact List.map_congr_left fun callback member =>
      Checkpoint.settled_eq_of_shared (shared callback member).1 (shared callback member).2

/-! ## Plans that a resolver gives -/

section Answered

variable {settings : Settings} {calls calls' : List Call} {question question' : Question}
  {vars : List Variable} {kind kind' : Handler} {issue : Issue} {trace : List Callback}

theorem History.answered_of_free (reads : question.Reads vars kind)
    (free : firstCollision settings.reserved vars = none) :
    ∃ issue, ((after settings calls).resolver.ask question).2.outcome = .ok issue ∧
      issue.plan = Plan.ofVariables kind vars := by
  have planned := outcome_eq_without_memory settings calls question
  rw [Resolver.outcomeWithoutMemory_of_free reads free] at planned
  cases outcome : ((after settings calls).resolver.ask question).2.outcome with
  | error refusal =>
    rw [outcome] at planned
    cases planned
  | ok issue =>
    rw [outcome] at planned
    exact ⟨issue, rfl, Except.ok.inj planned⟩

/-- A list that gets a plan for one kind gets one for each other kind, and on callbacks that two kinds share, in
whatever order and however often, the two plans replay alike: to the end, and with a checkpoint for each callback.  The
three kinds with markers share these two, and the two that repeat the body share the callback after a pass as well. -/
theorem History.shared_replay (reads : question.Reads vars kind) (reads' : question'.Reads vars kind')
    (answered : ((after settings calls).resolver.ask question).2.outcome = .ok issue)
    (shared : ∀ callback ∈ trace, callback ∈ kind.callbacks ∧ callback ∈ kind'.callbacks) :
    ∃ issue', ((after settings calls').resolver.ask question').2.outcome = .ok issue' ∧
      issue.plan.kind = kind ∧ issue'.plan.kind = kind' ∧
      issue.plan.replay trace = issue'.plan.replay trace ∧
      (issue.plan.replay trace).fault = none ∧
      (issue.plan.replay trace).reached.map Checkpoint.callback = trace := by
  obtain ⟨vars', kind'', read, free, plan⟩ := plan_of_answered answered
  cases (Question.key?_eq_some_iff.2 reads).symm.trans read
  obtain ⟨issue', answered', plan'⟩ := @answered_of_free settings calls' question' vars kind' reads' free
  have distinct := nodup_of_firstCollision_eq_none free
  refine ⟨issue', answered', ?_⟩
  rw [plan, plan']
  refine ⟨rfl, rfl, Plan.replay_eq_of_shared distinct shared, ?_⟩
  rw [Plan.replay_of_known distinct fun callback member => (shared callback member).1]
  refine ⟨rfl, ?_⟩
  rw [List.map_map]
  exact List.map_id' trace

end Answered

namespace Rows

/-- The rows, for a handler that includes its body or not. -/
def included : Question := ⟨question.elements, .text "Classic", none⟩

/-- No run comes by the markers in this order. -/
def markers : List Callback := [.finish, .start, .start, .finish]

end Rows

theorem History.shared_replay_rows :
    Rows.question.Reads Rows.vars .bodyBuffering ∧ Rows.included.Reads Rows.vars .classic ∧
      ((after .usual []).resolver.ask Rows.question).2.outcome = .ok ⟨Rows.plan, 0⟩ ∧
      ∃ issue, ((after .usual [.ask Rows.question]).resolver.ask Rows.included).2.outcome = .ok issue ∧
        issue.plan.kind = .classic ∧ Rows.plan.replay Rows.markers = issue.plan.replay Rows.markers ∧
        (Rows.plan.replay Rows.markers).fault = none := by
  have reads : Rows.question.Reads Rows.vars .bodyBuffering := ⟨by rfl, by rfl⟩
  have reads' : Rows.included.Reads Rows.vars .classic := ⟨by rfl, by rfl⟩
  have answered : ((after .usual []).resolver.ask Rows.question).2.outcome = .ok ⟨Rows.plan, 0⟩ := by rfl
  have shared : ∀ callback ∈ Rows.markers,
      callback ∈ Handler.bodyBuffering.callbacks ∧ callback ∈ Handler.classic.callbacks := by decide
  obtain ⟨issue, answered', _, kind, alike, ends, _⟩ :=
    @shared_replay .usual [] [.ask Rows.question] _ _ _ _ _ _ _ reads reads' answered shared
  exact ⟨reads, reads', answered, issue, answered', kind, alike, ends⟩

end TagBinding
