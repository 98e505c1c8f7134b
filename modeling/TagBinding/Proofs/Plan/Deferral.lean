import TagBinding.Proofs.Plan.Reach
import TagBinding.Proofs.Plan.Replay

/-! # What is put off when a body is buffered

A run through a buffered body takes the variables of the body away from the start marker.  What was to be declared there
is declared when the body is announced.  What was only to be assigned to there is not taken along: it is bound at the
announcement if the plan binds it there anyway, and otherwise at neither place (`Plan.deferral_exact`).  So a plan that
is put together by hand can lose a variable (`Plan.deferral_drops_update`); a computed one binds at the announcement
whatever it binds in the body, and loses none (`Checkpoint.mem_updates_bodyInit_of_reassigns`).
-/

namespace TagBinding

variable {σ : Type} [Marked σ]

namespace Checkpoint

/-- The checkpoint assigns to a variable of the body without declaring it. -/
structure Reassigns (checkpoint : Checkpoint σ) (v : Variable σ) : Prop where
  assigned : v ∈ checkpoint.updates
  nested : v.isNested
  undeclared : v ∉ checkpoint.declarations

variable {start init : Checkpoint σ} {v : Variable σ}

theorem mem_declarations_withoutNested :
    v ∈ start.withoutNested.declarations ↔ v ∈ start.declarations ∧ v.isNested = false := by
  simp [withoutNested]

theorem mem_updates_withoutNested :
    v ∈ start.withoutNested.updates ↔ v ∈ start.updates ∧ v.isNested = false := by
  simp [withoutNested]

variable [DecidableEq σ]

theorem mem_declarations_declaring :
    v ∈ (init.declaring start.nestedDeclarations).declarations ↔
      v ∈ init.declarations ∨ v ∈ start.declarations ∧ v.isNested := by
  simp [declaring, nestedDeclarations]

theorem mem_updates_declaring :
    v ∈ (init.declaring start.nestedDeclarations).updates ↔
      v ∈ init.updates ∧ ¬ (v ∈ start.declarations ∧ v.isNested) := by
  simp [declaring, nestedDeclarations]

theorem Reassigns.mem_updates_declaring_iff (reassigns : start.Reassigns v) :
    v ∈ (init.declaring start.nestedDeclarations).updates ↔ v ∈ init.updates := by
  rw [mem_updates_declaring]
  exact and_iff_left fun declared => reassigns.undeclared declared.1

/-- Of what the two checkpoints touch, putting off loses what the first one reassigns and the second does not touch. -/
theorem mem_touched_deferred_iff :
    v ∈ start.withoutNested.touched ∨ v ∈ (init.declaring start.nestedDeclarations).touched ↔
      (v ∈ start.touched ∨ v ∈ init.touched) ∧ (start.Reassigns v → v ∈ init.touched) := by
  have reassigns : start.Reassigns v ↔ v ∈ start.updates ∧ v.isNested ∧ v ∉ start.declarations :=
    ⟨fun found => ⟨found.assigned, found.nested, found.undeclared⟩, fun ⟨assigned, nested, undeclared⟩ =>
      ⟨assigned, nested, undeclared⟩⟩
  simp only [mem_touched, mem_declarations_withoutNested, mem_updates_withoutNested, mem_declarations_declaring,
    mem_updates_declaring, reassigns]
  -- variables beyond the body stay where they are, and only the others can be lost
  cases v.isNested with
  | false => simp [or_assoc]
  | true => grind

end Checkpoint

namespace Plan

variable {plan : Plan σ} {start init checkpoint : Checkpoint σ} {trace : List Callback}

/-- A checkpoint of the plan, the only one for its callback. -/
def IsOnly (plan : Plan σ) (checkpoint : Checkpoint σ) : Prop :=
  ∃ before after, plan.checkpoints = before ++ checkpoint :: after ∧
    ∀ other ∈ before ++ after, other.callback ≠ checkpoint.callback

theorem IsOnly.first? (only : plan.IsOnly checkpoint) : plan.first? checkpoint.callback = some checkpoint := by
  obtain ⟨before, after, split, others⟩ := only
  rw [Plan.first?, List.find?_eq_some_iff_append, beq_iff_eq]
  refine ⟨rfl, before, after, split, fun other inside => ?_⟩
  simpa using others other (List.mem_append_left after inside)

variable [DecidableEq σ]

theorem bufferedLookup_of_reached (announced : .bodyInit ∈ trace) (starts : plan.first? .start = some start)
    (announces : plan.first? .bodyInit = some init) (reached : checkpoint ∈ (plan.replay trace).reached) :
    plan.bufferedLookup start init checkpoint.callback = some checkpoint := by
  rw [replay_of_buffered announced starts announces] at reached
  exact (finds_bufferedLookup starts announces).of_mem_reached reached

theorem eq_withoutNested_of_reached (announced : .bodyInit ∈ trace) (starts : plan.first? .start = some start)
    (announces : plan.first? .bodyInit = some init) (reached : checkpoint ∈ (plan.replay trace).reached)
    (here : checkpoint.callback = .start) : checkpoint = start.withoutNested := by
  have found := bufferedLookup_of_reached announced starts announces reached
  rw [here] at found
  exact (Option.some.inj found).symm

theorem eq_declaring_of_reached (announced : .bodyInit ∈ trace) (starts : plan.first? .start = some start)
    (announces : plan.first? .bodyInit = some init) (reached : checkpoint ∈ (plan.replay trace).reached)
    (here : checkpoint.callback = .bodyInit) : checkpoint = init.declaring start.nestedDeclarations := by
  have found := bufferedLookup_of_reached announced starts announces reached
  rw [here] at found
  exact (Option.some.inj found).symm

/-- What a run through a buffered body makes of the only checkpoint at the start marker and the only one at the
announcement of the body.  The first keeps its variables beyond the body, and the second also declares what the first
declared in the body.  What the first reassigns, the second assigns to if it did so before; hence the two touch what
they touched before, except for what the first reassigns and the second did not touch. -/
theorem deferral_exact (starts : start.callback = .start) (announces : init.callback = .bodyInit)
    (onlyStart : plan.IsOnly start) (onlyInit : plan.IsOnly init) (announced : .bodyInit ∈ trace) :
    let reached := (plan.replay trace).reached
    (∀ start' ∈ reached, start'.callback = .start → ∀ v,
        (v ∈ start'.declarations ↔ v ∈ start.declarations ∧ v.isNested = false) ∧
          (v ∈ start'.updates ↔ v ∈ start.updates ∧ v.isNested = false)) ∧
      (∀ init' ∈ reached, init'.callback = .bodyInit → ∀ v,
        (v ∈ init'.declarations ↔ v ∈ init.declarations ∨ v ∈ start.declarations ∧ v.isNested) ∧
          (start.Reassigns v → (v ∈ init'.updates ↔ v ∈ init.updates))) ∧
      ∀ start' ∈ reached, start'.callback = .start → ∀ init' ∈ reached, init'.callback = .bodyInit → ∀ v,
        v ∈ start'.touched ∨ v ∈ init'.touched ↔
          (v ∈ start.touched ∨ v ∈ init.touched) ∧ (start.Reassigns v → v ∈ init.touched) := by
  have first : plan.first? .start = some start := starts ▸ onlyStart.first?
  have first' : plan.first? .bodyInit = some init := announces ▸ onlyInit.first?
  refine ⟨fun start' reached here v => ?_, fun init' reached here v => ?_,
    fun start' reached here init' reached' here' v => ?_⟩
  · rw [eq_withoutNested_of_reached announced first first' reached here]
    exact ⟨Checkpoint.mem_declarations_withoutNested, Checkpoint.mem_updates_withoutNested⟩
  · rw [eq_declaring_of_reached announced first first' reached here]
    exact ⟨Checkpoint.mem_declarations_declaring, Checkpoint.Reassigns.mem_updates_declaring_iff⟩
  · rw [eq_withoutNested_of_reached announced first first' reached here,
      eq_declaring_of_reached announced first first' reached' here']
    exact Checkpoint.mem_touched_deferred_iff

end Plan

/-! ## A plan that loses a variable -/

namespace Rows

/-- A count from outside the tag that is read in the body. -/
def count : Variable := ⟨"count", "Integer", false, .nested, by decide, by decide⟩

def atStart : Checkpoint := ⟨.start, .ofList [inBody], .ofList [count, total]⟩

def atInit : Checkpoint := ⟨.bodyInit, .empty, .ofList [inBody, total]⟩

def behindInit : List Checkpoint :=
  [⟨.bodyReiterate, .empty, .ofList [inBody, count, total]⟩, ⟨.finish, .ofList [beyond], .ofList [total]⟩]

/-- A plan by hand that leaves the count out at the announcement of the body. -/
def sparse : Plan := ⟨.bodyBuffering, atStart :: atInit :: behindInit⟩

theorem isOnly_atStart : sparse.IsOnly atStart := ⟨[], atInit :: behindInit, rfl, by decide⟩

theorem isOnly_atInit : sparse.IsOnly atInit := ⟨[atStart], behindInit, rfl, by decide⟩

end Rows

theorem Plan.deferral_exact_rows :
    Rows.sparse.IsOnly Rows.atStart ∧ Rows.sparse.IsOnly Rows.atInit ∧ .bodyInit ∈ Rows.path ∧
      ∃ start' ∈ (Rows.sparse.replay Rows.path).reached, start'.callback = .start ∧
        ∃ init' ∈ (Rows.sparse.replay Rows.path).reached, init'.callback = .bodyInit ∧
          Rows.inBody ∉ start'.declarations ∧ Rows.inBody ∈ init'.declarations ∧
          Rows.total ∈ start'.updates ∧ (Rows.inBody ∈ start'.touched ∨ Rows.inBody ∈ init'.touched) := by
  have announced : .bodyInit ∈ Rows.path := by decide
  obtain ⟨kept, moved, touched⟩ := deferral_exact rfl rfl Rows.isOnly_atStart Rows.isOnly_atInit announced
  have reached : Rows.atStart.withoutNested ∈ (Rows.sparse.replay Rows.path).reached := by decide
  have reached' : Rows.atInit.declaring Rows.atStart.nestedDeclarations ∈
      (Rows.sparse.replay Rows.path).reached := by decide
  refine ⟨Rows.isOnly_atStart, Rows.isOnly_atInit, announced, _, reached, rfl, _, reached', rfl, ?_, ?_, ?_, ?_⟩
  · rw [(kept _ reached rfl Rows.inBody).1]
    decide
  · rw [(moved _ reached' rfl Rows.inBody).1]
    decide
  · rw [(kept _ reached rfl Rows.total).2]
    decide
  · rw [touched _ reached rfl _ reached' rfl Rows.inBody]
    exact ⟨by decide, fun reassigns => absurd reassigns.assigned (by decide)⟩

/-- The count is assigned to at the start marker, but a run through a buffered body assigns to it neither there nor at
the announcement, so that the first pass over the body reads an old one. -/
theorem Plan.deferral_drops_update :
    Rows.sparse.IsOnly Rows.atStart ∧ Rows.sparse.IsOnly Rows.atInit ∧ .bodyInit ∈ Rows.path ∧
      Rows.atStart.Reassigns Rows.count ∧
      ∀ checkpoint ∈ (Rows.sparse.replay Rows.path).reached,
        checkpoint.callback = .start ∨ checkpoint.callback = .bodyInit → Rows.count ∉ checkpoint.touched :=
  ⟨Rows.isOnly_atStart, Rows.isOnly_atInit, by decide, ⟨by decide, by decide, by decide⟩, by decide⟩

/-! ## Computed plans lose none -/

/-- What a computed plan reassigns at the start marker, it assigns to at the announcement as well. -/
theorem Checkpoint.mem_updates_bodyInit_of_reassigns {vars : List Variable} {v : Variable}
    (reassigns : (settled .bodyBuffering false vars .start).Reassigns v) :
    v ∈ (settled .bodyBuffering false vars .bodyInit).updates := by
  obtain ⟨listed, -, -⟩ := mem_updates_settled.1 reassigns.assigned
  have nested : v.scope = .nested := Variable.isNested_iff.1 reassigns.nested
  rw [mem_updates_settled, nested]
  exact ⟨listed, by decide, fun opens => absurd opens.2 (by decide)⟩

end TagBinding
