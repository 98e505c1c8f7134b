import TagBinding.Proofs.Plan.Replay

/-! # A plan, variable by variable

What a computed plan does about a variable can be read off the schedule: a variable to declare is declared at the
first point that refreshes its scope and assigned to at the others, and one that is only assigned to is so at all
of them.  This holds of every variable of a list although the plan is filled callback by callback; the reason is
that its checkpoints are settled (`Plan.checkpoints_ofVariables`).
-/

namespace TagBinding

/-! ## Points of the schedule -/

namespace Handler

variable {kind : Handler} {scope : Scope} {callback : Callback}

theorem mem_refreshPoints :
    callback ∈ kind.refreshPoints scope ↔ callback ∈ kind.callbacks ∧ scope ∈ kind.refreshed callback := by
  simp [refreshPoints]

theorem head?_refreshPoints (kind : Handler) (scope : Scope) :
    (kind.refreshPoints scope).head? = kind.opening? false scope :=
  List.head?_filter

/-- The later points are the ones that are not the first. -/
theorem mem_tail_refreshPoints :
    callback ∈ (kind.refreshPoints scope).tail ↔
      callback ∈ kind.refreshPoints scope ∧ kind.opening? false scope ≠ some callback := by
  rw [← head?_refreshPoints]
  have distinct : (kind.refreshPoints scope).Nodup := kind.callbacks_nodup.filter _
  cases points : kind.refreshPoints scope with
  | nil => simp
  | cons first later =>
    rw [points, List.nodup_cons] at distinct
    rw [List.tail_cons, List.head?_cons, List.mem_cons, ne_eq, Option.some.injEq]
    constructor
    · intro member
      refine ⟨Or.inr member, ?_⟩
      rintro rfl
      exact distinct.1 member
    · rintro ⟨rfl | member, other⟩
      · exact absurd rfl other
      · exact member

end Handler

/-! ## Settled checkpoints and the schedule -/

namespace Checkpoint

variable {kind : Handler} {vars : List Variable} {callback : Callback} {v : Variable}

theorem notMem_updates_settled {buffered : Bool}
    (declared : v ∈ (settled kind buffered vars callback).declarations) :
    v ∉ (settled kind buffered vars callback).updates := by
  rw [mem_declarations_settled] at declared
  rw [mem_updates_settled]
  rintro ⟨_, _, undeclared⟩
  exact undeclared declared.2

theorem mem_declarations_settled_iff_head? (listed : v ∈ vars) (declare : v.declare = true) :
    v ∈ (settled kind false vars callback).declarations ↔
      (kind.refreshPoints v.scope).head? = some callback := by
  rw [mem_declarations_settled, Handler.head?_refreshPoints]
  simp [listed, declare]

theorem mem_updates_settled_iff_tail (listed : v ∈ vars) (declare : v.declare = true)
    (known : callback ∈ kind.callbacks) :
    v ∈ (settled kind false vars callback).updates ↔ callback ∈ (kind.refreshPoints v.scope).tail := by
  rw [mem_updates_settled, Handler.mem_tail_refreshPoints, Handler.mem_refreshPoints, Handler.bound_false]
  simp [listed, declare, known]

theorem mem_updates_settled_iff_of_spared (listed : v ∈ vars) (spared : v.declare = false)
    (known : callback ∈ kind.callbacks) :
    v ∈ (settled kind false vars callback).updates ↔ callback ∈ kind.refreshPoints v.scope := by
  rw [mem_updates_settled, Handler.mem_refreshPoints, Handler.bound_false]
  simp [listed, spared, known]

end Checkpoint

/-! ## Plans that a resolver gives -/

section Answered

variable {settings : Settings} {calls : List Call} {question : Question} {vars : List Variable}
  {kind : Handler} {issue : Issue}

/-- A plan has one checkpoint for each callback of its kind, in order.  Each binds the variables of the scopes
that the schedule refreshes there, every one of them either by a declaration or by an assignment: a variable to
declare by a declaration at the first point of its scope, and by an assignment everywhere else. -/
theorem History.checkpoints_exact (read : question.key? = some (vars, kind))
    (answered : ((History.after settings calls).resolver.ask question).2.outcome = .ok issue) :
    issue.plan.kind = kind ∧ issue.plan.checkpoints.map Checkpoint.callback = kind.callbacks ∧
      ∀ checkpoint ∈ issue.plan.checkpoints,
        (∀ v ∈ checkpoint.declarations, v ∉ checkpoint.updates) ∧
        (∀ v, v ∈ checkpoint.touched ↔ v ∈ vars ∧ v.scope ∈ kind.refreshed checkpoint.callback) ∧
        ∀ v ∈ vars,
          (v.declare = true →
            (v ∈ checkpoint.declarations ↔
              (kind.refreshPoints v.scope).head? = some checkpoint.callback) ∧
            (v ∈ checkpoint.updates ↔ checkpoint.callback ∈ (kind.refreshPoints v.scope).tail)) ∧
          (v.declare = false →
            v ∉ checkpoint.declarations ∧
            (v ∈ checkpoint.updates ↔ checkpoint.callback ∈ kind.refreshPoints v.scope)) := by
  obtain ⟨vars', kind', read', free, plan⟩ := plan_of_answered answered
  cases read.symm.trans read'
  rw [plan]
  refine ⟨rfl, Plan.map_callback_ofVariables kind vars, ?_⟩
  -- variables without collisions are distinct, and for these the loop fills in the settled checkpoints
  rw [Plan.checkpoints_ofVariables (nodup_of_firstCollision_eq_none free)]
  intro checkpoint inside
  obtain ⟨callback, known, rfl⟩ := List.mem_map.1 inside
  refine ⟨fun v => Checkpoint.notMem_updates_settled, fun v => Checkpoint.mem_touched_settled, ?_⟩
  intro v listed
  constructor
  · intro declare
    exact ⟨Checkpoint.mem_declarations_settled_iff_head? listed declare,
      Checkpoint.mem_updates_settled_iff_tail listed declare known⟩
  · intro spared
    refine ⟨?_, Checkpoint.mem_updates_settled_iff_of_spared listed spared known⟩
    simp [spared]

/-- The two rows have one name and differ in their scope alone. -/
theorem History.checkpoints_exact_rows :
    Rows.question.key? = some (Rows.vars, .bodyBuffering) ∧
      ((History.after .usual []).resolver.ask Rows.question).2.outcome = .ok ⟨Rows.plan, 0⟩ ∧
      Rows.inBody.name = Rows.beyond.name ∧
      ∀ checkpoint ∈ Rows.plan.checkpoints,
        (Rows.inBody ∈ checkpoint.declarations ↔ some .start = some checkpoint.callback) ∧
        (Rows.inBody ∈ checkpoint.updates ↔ checkpoint.callback ∈ [.bodyInit, .bodyReiterate]) ∧
        (Rows.beyond ∈ checkpoint.declarations ↔ some .finish = some checkpoint.callback) ∧
        Rows.total ∉ checkpoint.declarations := by
  have read : Rows.question.key? = some (Rows.vars, .bodyBuffering) := by rfl
  have answered : ((History.after .usual []).resolver.ask Rows.question).2.outcome =
      .ok ⟨Rows.plan, 0⟩ := by rfl
  refine ⟨read, answered, rfl, fun checkpoint inside => ?_⟩
  obtain ⟨_, _, each⟩ := checkpoints_exact read answered
  obtain ⟨_, _, points⟩ := each checkpoint inside
  obtain ⟨declared, assigned⟩ := (points Rows.inBody (by decide)).1 rfl
  exact ⟨declared, assigned, ((points Rows.beyond (by decide)).1 rfl).1,
    ((points Rows.total (by decide)).2 rfl).1⟩

end Answered

end TagBinding
