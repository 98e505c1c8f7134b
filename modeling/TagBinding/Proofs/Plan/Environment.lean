import TagBinding.Proofs.Plan.Replay

/-! # What generated code reads

Generated code reads variables by name, from an environment that is brought up to date at each checkpoint of a
replay.  In between, the handler may store new values under any name.

* `Checkpoint.execute` — a checkpoint binds the variables that it touches to what is stored then.
* `Replay.environment` — the environment after so many checkpoints.
* `History.reads_current` — whatever can be read at a position has the value that is stored there.
-/

namespace TagBinding

/-! ## Environments -/

/-- The value under each name, where there is one. -/
abbrev Environment (Value : Type) := String → Option Value

namespace Environment

variable {Value : Type} {env : Environment Value} {storage : String → Value} {vars : List Variable}
  {name : String}

def empty : Environment Value := fun _ => none

def bind (env : Environment Value) (name : String) (value : Value) : Environment Value :=
  fun other => if other = name then some value else env other

/-- Binds the names of some variables to what is stored under them. -/
def refresh (env : Environment Value) (storage : String → Value) (vars : List Variable) :
    Environment Value :=
  vars.foldl (fun env v => env.bind v.name (storage v.name)) env

theorem refresh_of_notMem (absent : name ∉ vars.map Variable.name) :
    env.refresh storage vars name = env name := by
  induction vars generalizing env with
  | nil => rfl
  | cons v rest ih =>
    rw [List.map_cons, List.mem_cons, not_or] at absent
    obtain ⟨here, there⟩ := absent
    have kept : env.bind v.name (storage v.name) name = env name := if_neg here
    exact (ih there).trans kept

theorem refresh_of_mem (member : name ∈ vars.map Variable.name) :
    env.refresh storage vars name = some (storage name) := by
  induction vars generalizing env with
  | nil => cases member
  | cons v rest ih =>
    by_cases again : name ∈ rest.map Variable.name
    · -- a later variable of the name binds it once more, to the same value
      exact ih again
    · rw [List.map_cons, List.mem_cons] at member
      have here : name = v.name := member.resolve_right again
      have bound : env.bind v.name (storage v.name) name = some (storage name) := by
        rw [bind, if_pos here, here]
      exact (refresh_of_notMem again).trans bound

end Environment

/-! ## Checkpoints -/

namespace Checkpoint

variable {Value : Type}

def execute (checkpoint : Checkpoint) (storage : String → Value) (env : Environment Value) :
    Environment Value :=
  (env.refresh storage checkpoint.declarations.toList).refresh storage checkpoint.updates.toList

variable {checkpoint : Checkpoint} {storage : String → Value} {env : Environment Value}

theorem execute_of_mem_touched {v : Variable} (touched : v ∈ checkpoint.touched) :
    checkpoint.execute storage env v.name = some (storage v.name) := by
  rw [mem_touched, SortedSet.mem_def, SortedSet.mem_def] at touched
  -- the updates come last, so they decide if one of them has the name
  by_cases assigned : v.name ∈ checkpoint.updates.toList.map Variable.name
  · exact Environment.refresh_of_mem assigned
  · have declared : v ∈ checkpoint.declarations.toList :=
      touched.resolve_right fun member => assigned (List.mem_map_of_mem member)
    exact (Environment.refresh_of_notMem assigned).trans
      (Environment.refresh_of_mem (List.mem_map_of_mem declared))

theorem execute_of_untouched {name : String} (untouched : ∀ v ∈ checkpoint.touched, v.name ≠ name) :
    checkpoint.execute storage env name = env name := by
  have declared : name ∉ checkpoint.declarations.toList.map Variable.name := by
    intro member
    obtain ⟨v, inside, same⟩ := List.mem_map.1 member
    exact untouched v (mem_touched.2 (Or.inl inside)) same
  have assigned : name ∉ checkpoint.updates.toList.map Variable.name := by
    intro member
    obtain ⟨v, inside, same⟩ := List.mem_map.1 member
    exact untouched v (mem_touched.2 (Or.inr inside)) same
  rw [execute, Environment.refresh_of_notMem assigned, Environment.refresh_of_notMem declared]

end Checkpoint

/-! ## Replays -/

/-- The environment after so many checkpoints of a replay, where `storage` tells for each position what is
stored under each name when its checkpoint is reached. -/
def Replay.environment {Value : Type} (replay : Replay) (storage : Nat → String → Value) :
    Nat → Environment Value
  | 0 => .empty
  | position + 1 =>
      match replay.reached[position]? with
      | some checkpoint => checkpoint.execute (storage position) (replay.environment storage position)
      | none => replay.environment storage position

namespace Replay

variable {Value : Type} {storage : Nat → String → Value} {kind : Handler} {buffered : Bool}
  {vars : List Variable} {path : List Callback} {position : Nat} {callback : Callback}

theorem environment_settled (here : path[position]? = some callback) :
    Replay.environment ⟨path.map (.settled kind buffered vars), none⟩ storage (position + 1) =
      (Checkpoint.settled kind buffered vars callback).execute (storage position)
        (Replay.environment ⟨path.map (.settled kind buffered vars), none⟩ storage position) := by
  have checkpoint : (path.map (Checkpoint.settled kind buffered vars))[position]? =
      some (.settled kind buffered vars callback) := by
    rw [List.getElem?_map, here, Option.map_some]
  rw [Replay.environment, checkpoint]

theorem environment_of_mem_bound (here : path[position]? = some callback) {v : Variable}
    (member : v ∈ vars) (binds : v.scope ∈ kind.bound buffered callback) :
    Replay.environment ⟨path.map (.settled kind buffered vars), none⟩ storage (position + 1) v.name =
      some (storage position v.name) := by
  rw [environment_settled here]
  exact Checkpoint.execute_of_mem_touched (Checkpoint.mem_touched_settled.2 ⟨member, binds⟩)

/-- A variable of a buffered body has no value yet when the start marker is behind. -/
theorem environment_of_deferred {reserved : SortedSet String}
    (free : firstCollision reserved vars = none) (run : kind.Run true path)
    (here : path[position]? = some .start) {v : Variable} (member : v ∈ vars)
    (nested : v.scope = .nested) :
    Replay.environment ⟨path.map (.settled kind true vars), none⟩ storage (position + 1) v.name =
      none := by
  have first := run.eq_zero_of_start here
  have buffers := run.eq_bodyBuffering
  subst first buffers
  rw [environment_settled here, Checkpoint.execute_of_untouched]
  · rfl
  · -- a variable that is bound there and shares the name would collide in the body
    intro w touched same
    obtain ⟨listed, binds⟩ := Checkpoint.mem_touched_settled.1 touched
    have begins : w.scope = .atBegin := by simpa using binds
    have clash : w.overlaps v = true := by
      rw [Variable.overlaps, same, begins, nested]
      simp [Scope.overlaps, Scope.reachesBody]
    have one : w = v := eq_of_overlaps free listed member clash
    rw [one, nested] at begins
    cases begins

end Replay

/-! ## Plans that a resolver gives -/

section Answered

variable {Value : Type} {settings : Settings} {calls : List Call} {question : Question}
  {vars : List Variable} {kind : Handler} {issue : Issue} {decision : BodyDecision} {passes room : Int}
  {path : List Callback}

/-- In any run of its kind, a plan binds whatever can be read at a position to what is stored there, whatever
that is.  Only the variables of a buffered body are not bound at the start marker, nor is any other of their names. -/
theorem History.reads_current (read : question.key? = some (vars, kind))
    (answered : ((History.after settings calls).resolver.ask question).2.outcome = .ok issue)
    (ran : kind.trace decision passes room = .ok path) (storage : Nat → String → Value) :
    (issue.plan.replay path).fault = none ∧ (issue.plan.replay path).reached.length = path.length ∧
      ∀ position callback, path[position]? = some callback → ∀ v ∈ vars,
        if .bodyInit ∈ path ∧ callback = .start ∧ v.scope = .nested then
          (issue.plan.replay path).environment storage (position + 1) v.name = none
        else kind.visible callback v.scope →
          (issue.plan.replay path).environment storage (position + 1) v.name =
            some (storage position v.name) := by
  obtain ⟨free, _, buffered, run, replay⟩ := replay_of_answered read answered ran
  rw [replay]
  refine ⟨rfl, List.length_map _, ?_⟩
  intro position callback here v member
  split
  · next deferred =>
    obtain ⟨announced, starts, nested⟩ := deferred
    have buffers := run.mem_bodyInit_iff.1 announced
    subst buffers starts
    exact Replay.environment_of_deferred free run here member nested
  · next ordinary =>
    -- what can be read is refreshed, and nothing is put off here
    intro visible
    rw [run.mem_bodyInit_iff] at ordinary
    have known := run.mem_callbacks (List.mem_of_getElem? here)
    exact Replay.environment_of_mem_bound here member ((Handler.mem_bound_iff known).2 ⟨visible, ordinary⟩)

/-- Before the body begins the row has no value; from then on it is the one that is stored. -/
theorem History.reads_current_rows :
    Rows.question.key? = some (Rows.vars, .bodyBuffering) ∧
      ((History.after .usual [.ask Rows.question]).resolver.ask Rows.question).2.outcome =
        .ok ⟨Rows.plan, 0⟩ ∧
      Handler.trace .bodyBuffering .buffered 2 = .ok Rows.path ∧
      ∀ storage : Nat → String → Nat,
        let env := (Rows.plan.replay Rows.path).environment storage
        env 1 "row" = none ∧ env 1 "total" = some (storage 0 "total") ∧
          env 4 "row" = some (storage 3 "row") ∧ env 5 "row" = some (storage 4 "row") := by
  have read : Rows.question.key? = some (Rows.vars, .bodyBuffering) := by rfl
  have answered : ((History.after .usual [.ask Rows.question]).resolver.ask Rows.question).2.outcome =
      .ok ⟨Rows.plan, 0⟩ := by rfl
  have ran : Handler.trace .bodyBuffering .buffered 2 = .ok Rows.path := by rfl
  refine ⟨read, answered, ran, fun storage => ?_⟩
  have current := (reads_current read answered ran storage).2.2
  refine ⟨?_, ?_, ?_, ?_⟩
  · exact current 0 .start rfl Rows.inBody (by decide)
  · exact current 0 .start rfl Rows.total (by decide) rfl
  · exact current 3 .bodyReiterate rfl Rows.inBody (by decide) rfl
  · exact current 4 .finish rfl Rows.beyond (by decide) rfl

end Answered

end TagBinding
