import TagBinding.Proofs.Plan.Replay

/-! # Every variable is declared first

Code that is generated along any run declares a variable where it first touches it and only assigns to it from
then on, whatever the run does with the body.  The reason is in the settled checkpoints: the callback that
declares a scope is the first of the run to bind it (`Handler.Run.opening?_eq_some_iff`).

* `Variable.DeclaredFirst` — the law for one variable and the checkpoints of one run.
* `declaredIn` — the variables that some checkpoints declare, the same for every run of a plan.
-/

namespace TagBinding

/-- The first checkpoint that touches the variable declares it, and every later one assigns to it. -/
def Variable.DeclaredFirst (v : Variable) (checkpoints : List Checkpoint) : Prop :=
  ∀ earlier checkpoint later, checkpoints = earlier ++ checkpoint :: later → v ∈ checkpoint.touched →
    ((∀ before ∈ earlier, v ∉ before.touched) →
      v ∈ checkpoint.declarations ∧ v ∉ checkpoint.updates) ∧
    ((∃ before ∈ earlier, v ∈ before.touched) →
      v ∈ checkpoint.updates ∧ v ∉ checkpoint.declarations)

/-- The variables that some checkpoints declare. -/
def declaredIn (checkpoints : List Checkpoint) : SortedSet Variable :=
  .ofList (checkpoints.flatMap fun checkpoint => checkpoint.declarations.toList)

theorem mem_declaredIn {v : Variable} {checkpoints : List Checkpoint} :
    v ∈ declaredIn checkpoints ↔ ∃ checkpoint ∈ checkpoints, v ∈ checkpoint.declarations := by
  rw [declaredIn, SortedSet.mem_ofList, List.mem_flatMap]
  rfl

section Settled

variable {kind : Handler} {buffered : Bool} {vars : List Variable} {callbacks path : List Callback}
  {v : Variable}

theorem mem_declaredIn_settled :
    v ∈ declaredIn (callbacks.map (.settled kind buffered vars)) ↔
      v ∈ vars ∧ v.declare ∧ ∃ callback ∈ callbacks, kind.opening? buffered v.scope = some callback := by
  rw [mem_declaredIn]
  constructor
  · rintro ⟨checkpoint, inside, declared⟩
    obtain ⟨callback, member, rfl⟩ := List.mem_map.1 inside
    obtain ⟨listed, declare, opens⟩ := Checkpoint.mem_declarations_settled.1 declared
    exact ⟨listed, declare, callback, member, opens⟩
  · rintro ⟨listed, declare, callback, member, opens⟩
    exact ⟨.settled kind buffered vars callback, List.mem_map_of_mem member,
      Checkpoint.mem_declarations_settled.2 ⟨listed, declare, opens⟩⟩

/-- A run declares what its plan does, wherever it does so. -/
theorem declaredIn_run (run : kind.Run buffered path) :
    declaredIn (path.map (.settled kind buffered vars)) =
      declaredIn (kind.callbacks.map (.settled kind false vars)) := by
  refine SortedSet.ext fun v => ?_
  rw [mem_declaredIn_settled, mem_declaredIn_settled, run.exists_opening?, Handler.exists_opening?_iff]

theorem declaredFirst_run (run : kind.Run buffered path) (declare : v.declare) :
    v.DeclaredFirst (path.map (.settled kind buffered vars)) := by
  intro earlier checkpoint later split touched
  obtain ⟨before, rest, shape, rfl, tail⟩ := List.map_eq_append_iff.1 split
  obtain ⟨callback, after, rfl, rfl, rfl⟩ := List.map_eq_cons_iff.1 tail
  obtain ⟨listed, binds⟩ := Checkpoint.mem_touched_settled.1 touched
  -- both sides come down to whether this callback is the first to bind the scope
  have opens : kind.opening? buffered v.scope = some callback ↔
      ∀ cp ∈ before.map (Checkpoint.settled kind buffered vars), v ∉ cp.touched := by
    rw [run.opening?_eq_some_iff shape binds, List.forall_mem_map]
    refine forall₂_congr fun other _ => ?_
    rw [Checkpoint.mem_touched_settled, not_and]
    exact ⟨fun absent _ => absent, fun absent => absent listed⟩
  rw [Checkpoint.mem_declarations_settled, Checkpoint.mem_updates_settled]
  constructor
  · intro untouched
    have first := opens.2 untouched
    exact ⟨⟨listed, declare, first⟩, fun assigned => assigned.2.2 ⟨declare, first⟩⟩
  · rintro ⟨other, inside, earlier⟩
    have later : kind.opening? buffered v.scope ≠ some callback := fun first =>
      opens.1 first other inside earlier
    exact ⟨⟨listed, binds, fun declared => later declared.2⟩, fun declared => later declared.2.2⟩

/-! ### In a buffered body -/

theorem scope_ne_nested_of_mem_touched_start
    (touched : v ∈ (Checkpoint.settled .bodyBuffering true vars .start).touched) : v.scope ≠ .nested := by
  intro nested
  have binds := (Checkpoint.mem_touched_settled.1 touched).2
  simp [nested] at binds

theorem mem_declarations_bodyInit (listed : v ∈ vars) (nested : v.scope = .nested) (declare : v.declare) :
    v ∈ (Checkpoint.settled .bodyBuffering true vars .bodyInit).declarations := by
  rw [Checkpoint.mem_declarations_settled, nested]
  exact ⟨listed, declare, rfl⟩

end Settled

/-! ## Plans that a resolver gives -/

section Answered

variable {settings : Settings} {calls : List Call} {question : Question} {vars : List Variable}
  {kind : Handler} {issue : Issue} {decision : BodyDecision} {passes room : Int} {path : List Callback}

/-- A replay over any run comes by one checkpoint for each callback, and on the way every variable that is to
be declared is declared where it is first touched and nowhere else.  Which variables are declared does not
depend on the run: all that are to be declared, but for those of a body that no callback of the kind borders.
Where the body is buffered, its variables wait for its announcement. -/
theorem History.declares_first (read : question.key? = some (vars, kind))
    (answered : ((History.after settings calls).resolver.ask question).2.outcome = .ok issue)
    (ran : kind.trace decision passes room = .ok path) :
    let replay := issue.plan.replay path
    replay.fault = none ∧ replay.reached.map Checkpoint.callback = path ∧
      (∀ v ∈ vars, v.declare = true → v.DeclaredFirst replay.reached) ∧
      (∀ v ∈ vars, v.declare = false → v ∉ declaredIn replay.reached) ∧
      declaredIn replay.reached = declaredIn issue.plan.checkpoints ∧
      (∀ v, v ∈ declaredIn issue.plan.checkpoints ↔
        v ∈ vars ∧ v.declare ∧ ¬ (kind = .simple ∧ v.scope = .nested)) ∧
      (.bodyInit ∈ path → ∀ checkpoint ∈ replay.reached,
        (checkpoint.callback = .start → ∀ v ∈ checkpoint.touched, v.scope ≠ .nested) ∧
        (checkpoint.callback = .bodyInit → ∀ v ∈ vars, v.scope = .nested → v.declare →
          v ∈ checkpoint.declarations)) := by
  obtain ⟨free, plan, buffered, run, replay⟩ := replay_of_answered read answered ran
  have distinct := nodup_of_firstCollision_eq_none free
  have static : declaredIn issue.plan.checkpoints =
      declaredIn (kind.callbacks.map (.settled kind false vars)) := by
    rw [plan, Plan.checkpoints_ofVariables distinct]
  -- both the replayed and the static checkpoints are settled ones, so every part is a fact about these
  rw [replay, static]
  refine ⟨rfl, ?_, ?_, ?_, declaredIn_run run, ?_, ?_⟩
  · rw [List.map_map]
    exact List.map_id' path
  · intro v _ declare
    exact declaredFirst_run run declare
  · intro v _ spared declared
    have declare := (mem_declaredIn_settled.1 declared).2.1
    rw [spared] at declare
    cases declare
  · intro v
    rw [mem_declaredIn_settled, Handler.exists_opening?_iff]
  · -- only a run into a buffer comes by the announcement, and only one kind of handler has such runs
    intro announced checkpoint inside
    have buffers := run.mem_bodyInit_iff.1 announced
    subst buffers
    have drives := run.eq_bodyBuffering
    subst drives
    obtain ⟨callback, _, rfl⟩ := List.mem_map.1 inside
    constructor
    · intro starts v touched
      cases starts
      exact scope_ne_nested_of_mem_touched_start touched
    · intro announces v listed nested declare
      cases announces
      exact mem_declarations_bodyInit listed nested declare

theorem History.declares_first_rows :
    Rows.question.key? = some (Rows.vars, .bodyBuffering) ∧
      ((History.after .usual [.ask Rows.question]).resolver.ask Rows.question).2.outcome =
        .ok ⟨Rows.plan, 0⟩ ∧
      Handler.trace .bodyBuffering .buffered 2 = .ok Rows.path ∧
      Rows.inBody.DeclaredFirst (Rows.plan.replay Rows.path).reached ∧
      Rows.total ∉ declaredIn (Rows.plan.replay Rows.path).reached ∧
      declaredIn (Rows.plan.replay Rows.path).reached = declaredIn Rows.plan.checkpoints := by
  have read : Rows.question.key? = some (Rows.vars, .bodyBuffering) := by rfl
  have answered : ((History.after .usual [.ask Rows.question]).resolver.ask Rows.question).2.outcome =
      .ok ⟨Rows.plan, 0⟩ := by rfl
  have ran : Handler.trace .bodyBuffering .buffered 2 = .ok Rows.path := by rfl
  obtain ⟨_, _, first, spared, same, _⟩ := declares_first read answered ran
  exact ⟨read, answered, ran, first Rows.inBody (by decide) rfl, spared Rows.total (by decide) rfl, same⟩

end Answered

end TagBinding
