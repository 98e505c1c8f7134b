import TagBinding.Proofs.Plan.Names
import TagBinding.Proofs.Ruling

/-! # The order of the variables

The elements of a question come in a list, and both the check for collisions and the computation of a plan go
through it from the front.  But neither the answer nor any text made of it depends on how the list is arranged:
two lists with the same elements have the same plan, or refusals of one class.

A refusal itself may differ, since the first fault is the one that is told; `Refusal.faultClass` is what stays.
-/

namespace TagBinding

/-! ## Classes of refusals -/

/-- The classes that callers tell faults apart by. -/
inductive FaultClass where
  | unknownKind | general | invalidDescriptor | duplicateName | unscopedVariable
  deriving DecidableEq, Repr

def Cause.faultClass : Cause → FaultClass
  | .general _ => .general
  | .invalid _ => .invalidDescriptor
  | .duplicate _ _ => .duplicateName
  | .unscoped _ => .unscopedVariable

def Refusal.faultClass : Refusal → FaultClass
  | .unknownKind _ => .unknownKind
  | .diagnosed diagnostic => diagnostic.cause.faultClass

theorem faultClass_collision (collision : Collision) (invocation : Option Invocation) :
    (Refusal.diagnosed (collision.diagnostic invocation)).faultClass = .duplicateName := by
  cases collision <;> rfl

/-! ## Lists with the same members -/

section Arranged

variable {reserved : SortedSet String} {vars vars' : List Variable}

theorem Element.exists_perm_of_toVariables {elements elements' : List Element}
    (arranged : elements.Perm elements') (read : toVariables elements = .ok vars) :
    ∃ vars', toVariables elements' = .ok vars' ∧ vars.Perm vars' := by
  rw [toVariables_eq_ok_iff] at read
  -- an arrangement of the elements is one of the variables that they count as
  have images : (elements'.map toVariable?).Perm (vars.map some) := by
    rw [← read]
    exact arranged.symm.map _
  refine ⟨elements'.filterMap toVariable?, ?_, ?_⟩
  · rw [toVariables_eq_ok_iff, List.map_filterMap_some_eq_filter_map_isSome]
    refine (List.filter_eq_self.2 fun image member => ?_).symm
    obtain ⟨v, _, rfl⟩ := List.mem_map.1 (images.mem_iff.1 member)
    rfl
  · have members := images.filterMap id
    rw [List.filterMap_map, List.filterMap_map] at members
    simpa using members.symm

theorem firstCollision_eq_none_of_perm (arranged : vars.Perm vars')
    (free : firstCollision reserved vars = none) : firstCollision reserved vars' = none := by
  rw [firstCollision_eq_none_iff] at free ⊢
  refine ⟨fun v member => free.1 v (arranged.mem_iff.2 member), ?_⟩
  exact (arranged.pairwise_iff fun apart => by rw [Variable.overlaps_comm, apart]).1 free.2

theorem Checkpoint.settled_eq_of_perm (arranged : vars.Perm vars') (kind : Handler) (buffered : Bool)
    (callback : Callback) : settled kind buffered vars callback = settled kind buffered vars' callback := by
  refine eq_of_mem_iff rfl (fun v => ?_) (fun v => ?_)
  · rw [mem_declarations_settled, mem_declarations_settled, arranged.mem_iff]
  · rw [mem_updates_settled, mem_updates_settled, arranged.mem_iff]

theorem Plan.ofVariables_eq_of_perm (arranged : vars.Perm vars') (distinct : vars.Nodup) (kind : Handler) :
    ofVariables kind vars = ofVariables kind vars' := by
  have checkpoints : (ofVariables kind vars).checkpoints = (ofVariables kind vars').checkpoints := by
    rw [checkpoints_ofVariables distinct, checkpoints_ofVariables (arranged.nodup_iff.1 distinct)]
    exact List.map_congr_left fun callback _ => Checkpoint.settled_eq_of_perm arranged kind false callback
  exact congrArg (Plan.mk kind) checkpoints

end Arranged

/-! ## Answers to arranged questions -/

namespace Resolver

variable {reserved : SortedSet String} {question question' : Question} {vars vars' : List Variable}
  {kind : Handler}

theorem outcomeWithoutMemory_of_free (reads : question.Reads vars kind)
    (free : firstCollision reserved vars = none) :
    outcomeWithoutMemory reserved question = .ok (.ofVariables kind vars) := by
  have new := recalls_fresh ⟨0, reserved⟩ question
  exact outcome_of_free new reads free

theorem outcomeWithoutMemory_of_collision {collision : Collision} (reads : question.Reads vars kind)
    (collides : firstCollision reserved vars = some collision) :
    outcomeWithoutMemory reserved question =
      .error (.diagnosed (collision.diagnostic question.invocation)) := by
  have new := recalls_fresh ⟨0, reserved⟩ question
  exact outcome_of_collision new reads collides

theorem outcomeWithoutMemory_of_reads (reads : question.Reads vars kind) (reads' : question'.Reads vars' kind)
    (arranged : vars.Perm vars') :
    (outcomeWithoutMemory reserved question).mapError Refusal.faultClass =
      (outcomeWithoutMemory reserved question').mapError Refusal.faultClass := by
  cases collides : firstCollision reserved vars with
  | none =>
    have free := firstCollision_eq_none_of_perm arranged collides
    rw [outcomeWithoutMemory_of_free reads collides, outcomeWithoutMemory_of_free reads' free,
      Plan.ofVariables_eq_of_perm arranged (nodup_of_firstCollision_eq_none collides)]
  | some collision =>
    cases collides' : firstCollision reserved vars' with
    | none =>
      rw [firstCollision_eq_none_of_perm arranged.symm collides'] at collides
      cases collides
    | some collision' =>
      rw [outcomeWithoutMemory_of_collision reads collides, outcomeWithoutMemory_of_collision reads' collides']
      simp only [Except.mapError, faultClass_collision]

/-- Without a memory, questions with the same elements have one plan or refusals of one class. -/
theorem outcomeWithoutMemory_of_perm (arranged : question.elements.Perm question'.elements)
    (same : question.kind = question'.kind) :
    (outcomeWithoutMemory reserved question).mapError Refusal.faultClass =
      (outcomeWithoutMemory reserved question').mapError Refusal.faultClass := by
  cases recognized : Handler.recognize question.kind with
  | error fault =>
    rw [outcomeWithoutMemory, outcomeWithoutMemory, ask_of_recognize_eq_error recognized,
      ask_of_recognize_eq_error (same ▸ recognized)]
  | ok kind =>
    have recognized' : Handler.recognize question'.kind = .ok kind := same ▸ recognized
    cases listed : Element.toVariables question.elements with
    | ok vars =>
      obtain ⟨vars', listed', arranged'⟩ := Element.exists_perm_of_toVariables arranged listed
      exact outcomeWithoutMemory_of_reads (.of_toVariables recognized listed)
        (.of_toVariables recognized' listed') arranged'
    | error element =>
      -- which element is told depends on the order, but not that there is one
      cases listed' : Element.toVariables question'.elements with
      | ok vars' =>
        obtain ⟨vars, read, _⟩ := Element.exists_perm_of_toVariables arranged.symm listed'
        rw [listed] at read
        cases read
      | error element' =>
        rw [outcomeWithoutMemory, outcomeWithoutMemory, ask_of_toVariables_eq_error recognized listed,
          ask_of_toVariables_eq_error recognized' listed']
        rfl

end Resolver

theorem answered_iff_of_class_eq {outcome outcome' : Except Refusal Issue}
    (agree : (outcome.map Issue.plan).mapError Refusal.faultClass =
      (outcome'.map Issue.plan).mapError Refusal.faultClass) :
    (∃ issue, outcome = .ok issue) ↔ ∃ issue', outcome' = .ok issue' := by
  cases outcome with
  | ok issue =>
    cases outcome' with
    | ok issue' => exact ⟨fun _ => ⟨issue', rfl⟩, fun _ => ⟨issue, rfl⟩⟩
    | error refusal' => cases agree
  | error refusal =>
    cases outcome' with
    | ok issue' => cases agree
    | error refusal' => simp

namespace History

variable {settings : Settings} {calls calls' : List Call} {question question' : Question}

theorem class_of_perm (arranged : question.elements.Perm question'.elements)
    (same : question.kind = question'.kind) :
    (((after settings calls).resolver.ask question).2.outcome.map Issue.plan).mapError Refusal.faultClass =
      (((after settings calls').resolver.ask question').2.outcome.map Issue.plan).mapError
        Refusal.faultClass := by
  rw [outcome_eq_without_memory, outcome_eq_without_memory]
  exact Resolver.outcomeWithoutMemory_of_perm arranged same

/-- Two questions with one kind and the same elements, to resolvers with the same settings, either both get a
plan or both are refused for reasons of one class.  The plan is the same, and with it all that is told of it: the
names at its checkpoints, the names declared and its table.  No choice is left in this text: the sets of a
checkpoint, listed by name in whatever way, have these cells and these names. -/
theorem arrangement_immaterial (arranged : question.elements.Perm question'.elements)
    (same : question.kind = question'.kind) :
    let outcome := ((after settings calls).resolver.ask question).2.outcome
    let outcome' := ((after settings calls').resolver.ask question').2.outcome
    ((∃ issue, outcome = .ok issue) ↔ ∃ issue, outcome' = .ok issue) ∧
      (∀ refusal refusal', outcome = .error refusal → outcome' = .error refusal' →
        refusal.faultClass = refusal'.faultClass) ∧
      ∀ issue issue', outcome = .ok issue → outcome' = .ok issue' →
        issue.plan = issue'.plan ∧
        issue.plan.checkpoints.map Checkpoint.names = issue'.plan.checkpoints.map Checkpoint.names ∧
        issue.plan.declaredNames = issue'.plan.declaredNames ∧
        (∀ colored, issue.plan.format colored = issue'.plan.format colored) ∧
        ∀ checkpoint ∈ issue.plan.checkpoints, checkpoint.ToldByName := by
  intro outcome outcome'
  -- the plan, or the class of the refusal, does not depend on the order; all the rest is read off these
  have agree : (outcome.map Issue.plan).mapError Refusal.faultClass =
      (outcome'.map Issue.plan).mapError Refusal.faultClass := class_of_perm arranged same
  refine ⟨answered_iff_of_class_eq agree, ?_, ?_⟩
  · intro refusal refusal' refused refused'
    rw [refused, refused'] at agree
    exact Except.error.inj agree
  · intro issue issue' answered answered'
    rw [answered, answered'] at agree
    have plans : issue.plan = issue'.plan := Except.ok.inj agree
    refine ⟨plans, ?_, ?_, ?_, ?_⟩
    · rw [plans]
    · rw [plans]
    · intro colored
      rw [plans]
    · obtain ⟨vars, kind, _, free, plan⟩ := plan_of_answered answered
      rw [plan, Plan.checkpoints_ofVariables (nodup_of_firstCollision_eq_none free)]
      intro checkpoint inside
      obtain ⟨callback, _, rfl⟩ := List.mem_map.1 inside
      exact Checkpoint.toldByName_settled free callback

end History

/-- The rows backwards, for a tag somewhere else. -/
def Rows.backwards : Question :=
  ⟨question.elements.reverse, question.kind, some ⟨"t:rows", none, some 7, none⟩⟩

/-- A resolver that has answered for the rows answers for the rows backwards as a new one does for the rows. -/
theorem History.arrangement_immaterial_rows :
    Rows.question.elements.Perm Rows.backwards.elements ∧ Rows.question.kind = Rows.backwards.kind ∧
      ((after .usual []).resolver.ask Rows.question).2.outcome = .ok ⟨Rows.plan, 0⟩ ∧
      ∃ issue, ((after .usual [.ask Rows.question]).resolver.ask Rows.backwards).2.outcome = .ok issue ∧
        Rows.plan = issue.plan ∧ ∀ colored, Rows.plan.format colored = issue.plan.format colored := by
  have arranged : Rows.question.elements.Perm Rows.backwards.elements := (List.reverse_perm _).symm
  have answered : ((after .usual []).resolver.ask Rows.question).2.outcome = .ok ⟨Rows.plan, 0⟩ := by rfl
  obtain ⟨accepted, _, agree⟩ :=
    @arrangement_immaterial .usual [] [.ask Rows.question] Rows.question Rows.backwards arranged rfl
  obtain ⟨issue, answered'⟩ := accepted.1 ⟨_, answered⟩
  obtain ⟨plans, _, _, formats, _⟩ := agree _ _ answered answered'
  exact ⟨arranged, rfl, answered, issue, answered', plans, formats⟩

end TagBinding
