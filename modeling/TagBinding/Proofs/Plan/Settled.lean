import TagBinding.Plan
import TagBinding.Proofs.Schedule

/-! # What a checkpoint holds

A plan is computed callback by callback, with the variables declared so far at hand.  But what a checkpoint
holds does not depend on that history: it is settled by the callbacks that bind a scope, the first of which
declares and the others of which assign.

* `Checkpoint.settled` — the checkpoint that a callback has on these grounds alone.
* `Plan.checkpoints_ofVariables` — a plan for variables without repetition has the settled checkpoints.  The
  invariant is on the declared variables: after some callbacks these are the ones to declare that one of the
  callbacks binds.
-/

namespace TagBinding

/-! ## Settled checkpoints -/

namespace Checkpoint

theorem eq_of_mem_iff {left right : Checkpoint} (callback : left.callback = right.callback)
    (declarations : ∀ v, v ∈ left.declarations ↔ v ∈ right.declarations)
    (updates : ∀ v, v ∈ left.updates ↔ v ∈ right.updates) : left = right := by
  cases left
  cases right
  cases callback
  cases SortedSet.ext declarations
  cases SortedSet.ext updates
  rfl

/-- The checkpoint of a callback, for variables without repetition. -/
def settled (kind : Handler) (buffered : Bool) (vars : List Variable) (callback : Callback) :
    Checkpoint where
  callback := callback
  declarations := .ofList (vars.filter fun v =>
    v.declare && kind.opening? buffered v.scope == some callback)
  updates := .ofList (vars.filter fun v =>
    (kind.bound buffered callback).contains v.scope &&
      !(v.declare && kind.opening? buffered v.scope == some callback))

variable {kind : Handler} {buffered : Bool} {vars : List Variable} {callback : Callback} {v : Variable}

@[simp] theorem mem_declarations_settled :
    v ∈ (settled kind buffered vars callback).declarations ↔
      v ∈ vars ∧ v.declare ∧ kind.opening? buffered v.scope = some callback := by
  simp [settled]

@[simp] theorem mem_updates_settled :
    v ∈ (settled kind buffered vars callback).updates ↔
      v ∈ vars ∧ v.scope ∈ kind.bound buffered callback ∧
        ¬ (v.declare ∧ kind.opening? buffered v.scope = some callback) := by
  rw [settled, SortedSet.mem_ofList, List.mem_filter, Bool.and_eq_true, Bool.not_eq_true',
    ← Bool.not_eq_true, Bool.and_eq_true, beq_iff_eq, List.contains_iff_mem]

theorem mem_touched_settled :
    v ∈ (settled kind buffered vars callback).touched ↔
      v ∈ vars ∧ v.scope ∈ kind.bound buffered callback := by
  rw [mem_touched, mem_declarations_settled, mem_updates_settled]
  constructor
  · rintro (⟨member, _, opens⟩ | ⟨member, binds, _⟩)
    · exact ⟨member, Handler.mem_bound_of_opening? opens⟩
    · exact ⟨member, binds⟩
  · rintro ⟨member, binds⟩
    by_cases declared : v.declare ∧ kind.opening? buffered v.scope = some callback
    · exact Or.inl ⟨member, declared⟩
    · exact Or.inr ⟨member, binds, declared⟩

end Checkpoint

/-! ## Filling one checkpoint -/

namespace Filling

variable {filling : Filling} {v w : Variable}

theorem mem_declared_bind :
    v ∈ (filling.bind w).declared ↔ v ∈ filling.declared ∨ v = w ∧ w.declare := by
  unfold bind
  split
  · next new => simp [new.1, or_comm]
  · next old => grind

theorem mem_declarations_bind :
    v ∈ (filling.bind w).declarations ↔
      v ∈ filling.declarations ∨ v = w ∧ w.declare ∧ w ∉ filling.declared := by
  unfold bind
  split
  · next new => simp [new.1, new.2, or_comm]
  · next old => grind

theorem mem_updates_bind :
    v ∈ (filling.bind w).updates ↔
      v ∈ filling.updates ∨ v = w ∧ ¬ (w.declare ∧ w ∉ filling.declared) := by
  unfold bind
  split
  · next new => simp [new]
  · next old => simp only [SortedSet.mem_insert, or_comm, old, not_false_eq_true, and_true]

variable {vars : List Variable}

theorem mem_declared_foldl (filling : Filling) :
    v ∈ (vars.foldl bind filling).declared ↔ v ∈ filling.declared ∨ v ∈ vars ∧ v.declare := by
  induction vars generalizing filling with
  | nil => simp
  | cons w rest ih =>
    rw [List.foldl_cons, ih, mem_declared_bind, List.mem_cons]
    grind

theorem mem_declarations_foldl (filling : Filling) :
    v ∈ (vars.foldl bind filling).declarations ↔
      v ∈ filling.declarations ∨ v ∈ vars ∧ v.declare ∧ v ∉ filling.declared := by
  induction vars generalizing filling with
  | nil => simp
  | cons w rest ih =>
    rw [List.foldl_cons, ih, mem_declarations_bind, mem_declared_bind, List.mem_cons]
    grind

theorem mem_updates_foldl (distinct : vars.Nodup) (filling : Filling) :
    v ∈ (vars.foldl bind filling).updates ↔
      v ∈ filling.updates ∨ v ∈ vars ∧ ¬ (v.declare ∧ v ∉ filling.declared) := by
  induction vars generalizing filling with
  | nil => simp
  | cons w rest ih =>
    -- a second `w` would find the first one declared, so repetitions are excluded
    obtain ⟨once, distinct⟩ := List.nodup_cons.1 distinct
    rw [List.foldl_cons, ih distinct, mem_updates_bind, mem_declared_bind, List.mem_cons]
    grind

end Filling

/-! ## The checkpoints of a plan -/

namespace Plan

variable {kind : Handler} {vars : List Variable} {v : Variable}

theorem mem_due {callback : Callback} :
    v ∈ due kind callback vars ↔ v ∈ vars ∧ v.scope ∈ kind.refreshed callback := by
  simp [due]

/-- The variables declared once some callbacks have returned. -/
def DeclaredBy (kind : Handler) (vars : List Variable) (earlier : List Callback)
    (declared : SortedSet Variable) : Prop :=
  ∀ v, v ∈ declared ↔ v ∈ vars ∧ v.declare ∧ ∃ callback ∈ earlier, v.scope ∈ kind.refreshed callback

theorem declaredBy_filled {earlier : List Callback} {declared : SortedSet Variable}
    (sofar : DeclaredBy kind vars earlier declared) (callback : Callback) :
    DeclaredBy kind vars (earlier ++ [callback]) (filled kind vars declared callback).declared := by
  intro v
  rw [filled, Filling.mem_declared_foldl, Filling.fresh, sofar, mem_due]
  grind

/-- A checkpoint is settled, whatever was declared at the callbacks before it. -/
theorem checkpoint_filled (distinct : vars.Nodup) {earlier later : List Callback} {callback : Callback}
    (split : kind.callbacks = earlier ++ callback :: later) {declared : SortedSet Variable}
    (sofar : DeclaredBy kind vars earlier declared) :
    ⟨callback, (filled kind vars declared callback).declarations,
      (filled kind vars declared callback).updates⟩ = Checkpoint.settled kind false vars callback := by
  -- the first to bind a scope is the one that finds its variables undeclared
  have opens : ∀ v ∈ due kind callback vars,
      (v.declare ∧ v ∉ declared ↔ v.declare ∧ kind.opening? false v.scope = some callback) := by
    intro v member
    obtain ⟨listed, binds⟩ := mem_due.1 member
    rw [Handler.opening?_eq_some_iff split binds, sofar]
    grind [Handler.bound_false]
  refine Checkpoint.eq_of_mem_iff rfl (fun v => ?_) (fun v => ?_)
  · rw [filled, Filling.mem_declarations_foldl, Filling.fresh, Checkpoint.mem_declarations_settled]
    constructor
    · rintro (none | ⟨member, new⟩)
      · simp at none
      · exact ⟨(mem_due.1 member).1, (opens v member).1 new⟩
    · rintro ⟨listed, declare, opening⟩
      have member := mem_due.2 ⟨listed, Handler.mem_bound_of_opening? opening⟩
      exact Or.inr ⟨member, (opens v member).2 ⟨declare, opening⟩⟩
  · have distinct_due : (due kind callback vars).Nodup := distinct.filter _
    rw [filled, Filling.mem_updates_foldl distinct_due, Filling.fresh, Checkpoint.mem_updates_settled]
    constructor
    · rintro (none | ⟨member, old⟩)
      · simp at none
      · rw [opens v member] at old
        exact ⟨(mem_due.1 member).1, (mem_due.1 member).2, old⟩
    · rintro ⟨listed, binds, old⟩
      have member := mem_due.2 ⟨listed, binds⟩
      rw [← opens v member] at old
      exact Or.inr ⟨member, old⟩

theorem checkpointsFrom_eq_map (distinct : vars.Nodup) {earlier later : List Callback}
    (split : kind.callbacks = earlier ++ later) {declared : SortedSet Variable}
    (sofar : DeclaredBy kind vars earlier declared) :
    checkpointsFrom kind vars declared later = later.map (Checkpoint.settled kind false vars) := by
  induction later generalizing earlier declared with
  | nil => rfl
  | cons callback later ih =>
    rw [checkpointsFrom, List.map_cons]
    congr 1
    · exact checkpoint_filled distinct split sofar
    · exact ih (by rw [split, List.append_assoc, List.singleton_append]) (declaredBy_filled sofar callback)

theorem checkpoints_ofVariables (distinct : vars.Nodup) :
    (ofVariables kind vars).checkpoints = kind.callbacks.map (Checkpoint.settled kind false vars) := by
  refine checkpointsFrom_eq_map distinct (List.nil_append _).symm ?_
  intro v
  simp

end Plan

end TagBinding
