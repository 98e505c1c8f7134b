import TagBinding.Plan.Replay
import TagBinding.Proofs.Admission
import TagBinding.Proofs.Plan.Settled
import TagBinding.Proofs.Trace
import TagBinding.Proofs.Transparency

/-! # What a replay comes by

A replay of a computed plan over callbacks of its kind comes by one checkpoint for each of them, the settled one,
and it never ends early (`Plan.replay_of_known`); runs are made of such callbacks (`Plan.replay_ofVariables`).
Where the body is buffered this says that the rewriting of two checkpoints does what it is for: putting off the
variables of the body gives the very checkpoints that the plan would have if the start marker did not bind them
(`Plan.bufferedLookup_settled`).

All of this needs variables without repetition.  A resolver makes sure of that, so it holds of every plan that
one answers with (`History.replay_of_answered`).
-/

namespace TagBinding

namespace Checkpoint

variable {vars : List Variable}

theorem withoutNested_settled :
    (settled .bodyBuffering false vars .start).withoutNested = settled .bodyBuffering true vars .start := by
  refine eq_of_mem_iff rfl (fun v => ?_) (fun v => ?_)
  · rw [withoutNested, SortedSet.mem_filter, mem_declarations_settled, mem_declarations_settled,
      Variable.isNested, mark_scope]
    cases v.scope <;> simp
  · rw [withoutNested, SortedSet.mem_filter, mem_updates_settled, mem_updates_settled,
      Variable.isNested, mark_scope]
    cases v.scope <;> simp [aroundBody]

theorem declaring_settled :
    (settled .bodyBuffering false vars .bodyInit).declaring
        (settled .bodyBuffering false vars .start).nestedDeclarations =
      settled .bodyBuffering true vars .bodyInit := by
  -- what was put off stood among the updates here, and the difference takes it out
  refine eq_of_mem_iff rfl (fun v => ?_) (fun v => ?_)
  · rw [declaring, SortedSet.mem_union, nestedDeclarations, SortedSet.mem_filter,
      mem_declarations_settled, mem_declarations_settled, mem_declarations_settled,
      Variable.isNested, mark_scope]
    cases v.scope <;> simp
  · rw [declaring, SortedSet.mem_diff, nestedDeclarations, SortedSet.mem_filter,
      mem_declarations_settled, mem_updates_settled, mem_updates_settled, Variable.isNested, mark_scope]
    cases v.scope <;> simp +contextual [aroundBody]

theorem settled_true_eq_false {callback : Callback}
    (behind : callback = .bodyReiterate ∨ callback = .finish) :
    settled .bodyBuffering true vars callback = settled .bodyBuffering false vars callback := by
  refine eq_of_mem_iff rfl (fun v => ?_) (fun v => ?_)
  · rw [mem_declarations_settled, mem_declarations_settled]
    rcases behind with rfl | rfl <;> cases v.scope <;> simp
  · rw [mem_updates_settled, mem_updates_settled]
    rcases behind with rfl | rfl <;> cases v.scope <;> simp

end Checkpoint

/-! ## Looking checkpoints up -/

namespace Plan

variable {kind : Handler} {vars : List Variable}

theorem find?_callback {callbacks : List Callback} {callback : Callback} (known : callback ∈ callbacks) :
    callbacks.find? (· == callback) = some callback := by
  cases found : callbacks.find? (· == callback) with
  | none => simpa using List.find?_eq_none.1 found callback known
  | some other =>
    have same : other = callback := by simpa using List.find?_some found
    rw [same]

theorem first?_ofVariables (distinct : vars.Nodup) {callback : Callback}
    (known : callback ∈ kind.callbacks) :
    (ofVariables kind vars).first? callback = some (.settled kind false vars callback) := by
  rw [first?, checkpoints_ofVariables distinct, List.find?_map]
  exact congrArg (Option.map (Checkpoint.settled kind false vars)) (find?_callback known)

theorem last?_ofVariables (distinct : vars.Nodup) {callback : Callback}
    (known : callback ∈ kind.callbacks) :
    (ofVariables kind vars).last? callback = some (.settled kind false vars callback) := by
  -- a checkpoint is settled by its callback, so the first and the last of a callback agree
  rw [last?, checkpoints_ofVariables distinct, ← List.map_reverse, List.find?_map]
  exact congrArg (Option.map (Checkpoint.settled kind false vars))
    (find?_callback (List.mem_reverse.2 known))

theorem bufferedLookup_settled (distinct : vars.Nodup) {callback : Callback}
    (known : callback ∈ Handler.bodyBuffering.callbacks) :
    (ofVariables .bodyBuffering vars).bufferedLookup (.settled .bodyBuffering false vars .start)
        (.settled .bodyBuffering false vars .bodyInit) callback =
      some (.settled .bodyBuffering true vars callback) := by
  cases callback with
  | start => rw [bufferedLookup, Checkpoint.withoutNested_settled]
  | bodyInit => rw [bufferedLookup, Checkpoint.declaring_settled]
  | bodyReiterate =>
    -- behind the announcement nothing is changed
    rw [Checkpoint.settled_true_eq_false (Or.inl rfl)]
    exact last?_ofVariables distinct known
  | finish =>
    rw [Checkpoint.settled_true_eq_false (Or.inr rfl)]
    exact last?_ofVariables distinct known
  | tag => exact absurd known (by decide)

theorem walk_eq_map {checkpointOf : Callback → Option Checkpoint} {reached : Callback → Checkpoint}
    {trace : List Callback} (found : ∀ callback ∈ trace, checkpointOf callback = some (reached callback)) :
    walk kind checkpointOf trace = ⟨trace.map reached, none⟩ := by
  induction trace with
  | nil => rfl
  | cons callback later ih =>
    obtain ⟨here, there⟩ := List.forall_mem_cons.1 found
    simp only [walk, here, ih there, List.map_cons]

/-- A replay over any callbacks of the kind comes by a settled checkpoint for each, to the end.  The body counts as
buffered if the callbacks announce it. -/
theorem replay_of_known (distinct : vars.Nodup) {trace : List Callback}
    (known : ∀ callback ∈ trace, callback ∈ kind.callbacks) :
    (ofVariables kind vars).replay trace =
      ⟨trace.map (.settled kind (decide (.bodyInit ∈ trace)) vars), none⟩ := by
  by_cases announced : .bodyInit ∈ trace
  · -- the two checkpoints that are changed are those of a plan that has each callback once
    have buffers := Handler.eq_bodyBuffering_of_bodyInit (known .bodyInit announced)
    subst buffers
    have changed : (ofVariables .bodyBuffering vars).lookup trace =
        .ok ((ofVariables .bodyBuffering vars).bufferedLookup (.settled .bodyBuffering false vars .start)
          (.settled .bodyBuffering false vars .bodyInit)) := by
      rw [lookup, first?_ofVariables distinct (by decide)]
      simp only [announced, if_true, checkpointFor]
      rw [first?_ofVariables distinct (by decide)]
      rfl
    rw [replay, changed, decide_eq_true announced]
    exact walk_eq_map fun callback member => bufferedLookup_settled distinct (known callback member)
  · have plain : (ofVariables kind vars).lookup trace = .ok (ofVariables kind vars).last? := by
      unfold lookup
      split
      · rfl
      · rw [if_neg announced]
    rw [replay, plain, decide_eq_false announced]
    exact walk_eq_map fun callback member => last?_ofVariables distinct (known callback member)

/-- A replay over a run comes by the settled checkpoint of each callback, to the end. -/
theorem replay_ofVariables (distinct : vars.Nodup) {buffered : Bool} {trace : List Callback}
    (run : kind.Run buffered trace) :
    (ofVariables kind vars).replay trace = ⟨trace.map (.settled kind buffered vars), none⟩ := by
  have announced : decide (.bodyInit ∈ trace) = buffered := by
    simp only [run.mem_bodyInit_iff, Bool.decide_eq_true]
  rw [replay_of_known distinct fun callback => run.mem_callbacks, announced]

end Plan

theorem History.replay_of_answered {settings : Settings} {calls : List Call} {question : Question}
    {vars : List Variable} {kind : Handler} {issue : Issue} {decision : BodyDecision} {passes room : Int}
    {trace : List Callback} (read : question.key? = some (vars, kind))
    (answered : ((History.after settings calls).resolver.ask question).2.outcome = .ok issue)
    (ran : kind.trace decision passes room = .ok trace) :
    firstCollision settings.reserved vars = none ∧ issue.plan = Plan.ofVariables kind vars ∧
      ∃ buffered, kind.Run buffered trace ∧
        issue.plan.replay trace = ⟨trace.map (.settled kind buffered vars), none⟩ := by
  obtain ⟨vars', kind', read', free, plan⟩ := plan_of_answered answered
  cases read.symm.trans read'
  obtain ⟨buffered, run⟩ := Handler.run_of_trace ran
  refine ⟨free, plan, buffered, run, ?_⟩
  rw [plan]
  exact Plan.replay_ofVariables (nodup_of_firstCollision_eq_none free) run

/-! ## Rows of a table

A tag that repeats its body for each row, into a buffer.  The row at hand can be read in the body and the last
row beyond it, under one name; a sum over the rows is only assigned to.
-/

namespace Rows

def inBody : Variable := ⟨"row", "Row", true, .nested, by decide, by decide⟩

def beyond : Variable := ⟨"row", "Row", true, .atEnd, by decide, by decide⟩

def total : Variable := ⟨"total", "Sum", false, .atBegin, by decide, by decide⟩

def vars : List Variable := [inBody, beyond, total]

def question : Question := ⟨vars.map .ofVariable, .mark (.kind .bodyBuffering), none⟩

def plan : Plan := .ofVariables .bodyBuffering vars

def path : List Callback := [.start, .bodyInit, .bodyReiterate, .bodyReiterate, .finish]

end Rows

end TagBinding
