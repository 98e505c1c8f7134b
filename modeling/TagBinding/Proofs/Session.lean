import TagBinding.Proofs.History
import TagBinding.Proofs.Plan.Replay
import TagBinding.Session

/-! # Steps that leave no trace

A question that fails, or that is answered from the memory, leaves the resolver as it was
(`Resolver.request_of_isTraceless`).  So any of these questions can be struck from a session, and the reports of
the steps that remain do not tell.

* `remaining` — what is left of a list when the members at some positions are struck out.
* `Session.run_remaining` — the run lemma: two sessions with one resolver keep agreeing although one of them
  skips steps that leave no trace in the other.
-/

namespace TagBinding

/-! ## Striking out -/

/-- The members of a list at the positions that are kept. -/
def remaining {α : Type} (keep : Nat → Bool) : List α → List α
  | [] => []
  | a :: rest =>
      let later := remaining (fun position => keep (position + 1)) rest
      if keep 0 then a :: later else later

section Remaining

variable {α : Type} {keep : Nat → Bool}

theorem remaining_cons_of_kept (kept : keep 0 = true) (a : α) (rest : List α) :
    remaining keep (a :: rest) = a :: remaining (fun position => keep (position + 1)) rest := by
  simp [remaining, kept]

theorem remaining_cons_of_struck (struck : keep 0 = false) (a : α) (rest : List α) :
    remaining keep (a :: rest) = remaining (fun position => keep (position + 1)) rest := by
  simp [remaining, struck]

end Remaining

/-! ## Reports and steps -/

/-- Whether a report is of a question that failed or was answered from the memory. -/
def Report.isTraceless : Report → Bool
  | .reply answer _ => answer.outcome.toOption.isNone || answer.log.any Event.isRecalled
  | _ => false

/-- What a session keeps of a step to compare it with others: the outcome, if the step was a question. -/
def Report.outcome? : Report → Option (Option Issue)
  | .reply answer _ => some answer.outcome.toOption
  | _ => none

/-- Whether a step refers to others by their position. -/
def Step.refersBack : Step → Bool
  | .compare _ _ => true
  | _ => false

namespace Resolver

variable {resolver : Resolver}

theorem ask_of_isTraceless {question : Question}
    (traceless : (resolver.ask question).2.outcome.toOption = none ∨
      (resolver.ask question).2.log.any Event.isRecalled) :
    (resolver.ask question).1 = resolver := by
  cases resolver.asked question with
  | unread refusal unread answered => rw [answered]
  | recalled vars kind issue read found answered => rw [answered]
  | collided vars kind collision read absent collides answered => rw [answered]
  | computed vars kind read absent free answered =>
    -- a plan that is computed is neither a failure nor from the memory
    simp [answered, Except.toOption, Event.isRecalled] at traceless

theorem request_of_isTraceless {request : Request}
    (traceless : (resolver.request request).2.outcome.toOption = none ∨
      (resolver.request request).2.log.any Event.isRecalled) :
    (resolver.request request).1 = resolver := by
  unfold Resolver.request at traceless ⊢
  cases read : request.elements with
  | error fault => rfl
  | ok elements =>
    simp only [read] at traceless ⊢
    refine ask_of_isTraceless ?_
    cases outcome : (resolver.ask ⟨elements, request.kind, request.invocation⟩).2.outcome with
    | error refusal => exact Or.inl rfl
    | ok issue => simpa [outcome, Except.mapError, Except.toOption] using traceless

/-- Questions that are asked in turn have one report together. -/
theorem requestInTurn_ne_reply (resolver : Resolver) (recalled : Nat) (requests : List Request)
    (reply : Reply) (size : Nat) : (resolver.requestInTurn recalled requests).2 ≠ .reply reply size := by
  induction requests generalizing resolver recalled with
  | nil => simp [requestInTurn]
  | cons request later ih =>
    unfold requestInTurn
    cases outcome : (resolver.request request).2.outcome with
    | error failure => simp [outcome]
    | ok issue =>
      simp only [outcome]
      exact ih _ _

end Resolver

namespace Session

variable {session session' : Session} {steps : List Step}

theorem resolver_step_of_isTraceless {step : Step} (traceless : (session.step step).2.isTraceless) :
    (session.step step).1.resolver = session.resolver := by
  cases step with
  | ask request =>
    refine Resolver.request_of_isTraceless ?_
    simpa [step, Report.isTraceless] using traceless
  | askInTurn requests =>
    simp only [step] at traceless
    cases report : (session.resolver.requestInTurn 0 requests).2 with
    | reply reply size => exact absurd report (Resolver.requestInTurn_ne_reply _ _ _ _ _)
    | _ => simp [report, Report.isTraceless] at traceless
  | clear => simp [step, Report.isTraceless] at traceless
  | inspect => rfl
  | listKeys => rfl
  | compare left right => rfl

/-- What is reported of a step, and what becomes of the resolver, depends on the resolver alone, unless the step
refers to others. -/
theorem step_congr (same : session'.resolver = session.resolver) {step : Step}
    (plain : step.refersBack = false) :
    (session'.step step).2 = (session.step step).2 ∧
      (session'.step step).1.resolver = (session.step step).1.resolver := by
  cases step with
  | compare left right => cases plain
  | ask request => simp only [step, same, and_self]
  | askInTurn requests => simp only [step, same, and_self]
  | clear => simp only [step, same, and_self]
  | inspect => simp only [step, same, and_self]
  | listKeys => simp only [step, same, and_self]

theorem outcomes_step (session : Session) (step : Step) :
    (session.step step).1.outcomes = session.outcomes ++ (session.step step).2.outcome?.toList := by
  cases step with
  | ask request => rfl
  | askInTurn requests =>
    simp only [step]
    cases report : (session.resolver.requestInTurn 0 requests).2 with
    | reply reply size => exact absurd report (Resolver.requestInTurn_ne_reply _ _ _ _ _)
    | _ => simp [Report.outcome?]
  | clear => simp [step, Report.outcome?]
  | inspect => simp [step, Report.outcome?]
  | listKeys => simp [step, Report.outcome?]
  | compare left right => simp [step, Report.outcome?]

theorem outcomes_run (session : Session) (steps : List Step) :
    (session.run steps).2.outcomes = session.outcomes ++ (session.run steps).1.filterMap Report.outcome? := by
  induction steps generalizing session with
  | nil => simp
  | cons step later ih =>
    rw [run_cons, ih, outcomes_step, List.append_assoc, List.filterMap_cons]
    cases (session.step step).2.outcome? <;> rfl

/-- The reports of the steps that remain are the reports that remain. -/
theorem run_remaining {keep : Nat → Bool} (same : session'.resolver = session.resolver)
    (plain : ∀ step ∈ steps, step.refersBack = false)
    (traceless : ∀ position, keep position = false →
      ∀ report ∈ (session.run steps).1[position]?, report.isTraceless) :
    (session'.run (remaining keep steps)).1 = remaining keep (session.run steps).1 := by
  -- by induction on the steps, with the resolvers the same at every one of them
  induction steps generalizing keep session session' with
  | nil => rfl
  | cons step later ih =>
    obtain ⟨here, there⟩ := List.forall_mem_cons.1 plain
    have rest : ∀ position, keep (position + 1) = false →
        ∀ report ∈ ((session.step step).1.run later).1[position]?, report.isTraceless := by
      intro position struck report found
      exact traceless (position + 1) struck report found
    rw [run_cons]
    cases kept : keep 0 with
    | true =>
      obtain ⟨report, next⟩ := step_congr same here
      rw [remaining_cons_of_kept kept, remaining_cons_of_kept kept, run_cons, report]
      exact congrArg _ (ih next there rest)
    | false =>
      have unmoved : session'.resolver = (session.step step).1.resolver := by
        rw [resolver_step_of_isTraceless (traceless 0 kept _ rfl), same]
      rw [remaining_cons_of_struck kept, remaining_cons_of_struck kept]
      exact ih unmoved there rest

end Session

/-! ## Leaving steps out of a session -/

/-- Any questions that failed or were answered from the memory can be left out of a session: each other step has
the same report, with the same plan by its number, the same log, and the same state of the memory.  Two of the
remaining questions compare as they do in the whole session. -/
theorem runSession_remaining {settings : Settings} {steps : List Step} {keep : Nat → Bool}
    (plain : ∀ step ∈ steps, step.refersBack = false)
    (traceless : ∀ position, keep position = false →
      ∀ report ∈ (runSession settings steps)[position]?, report.isTraceless) :
    runSession settings (remaining keep steps) = remaining keep (runSession settings steps) ∧
      ∀ left right,
        let outcomes := (remaining keep (runSession settings steps)).filterMap Report.outcome?
        (((Session.fresh settings).run (remaining keep steps)).2.step (.compare left right)).2 =
          .comparison (Session.compareIssues outcomes[left]?.join outcomes[right]?.join) := by
  have same : runSession settings (remaining keep steps) = remaining keep (runSession settings steps) :=
    Session.run_remaining rfl plain traceless
  refine ⟨same, ?_⟩
  intro left right outcomes
  have kept : ((Session.fresh settings).run (remaining keep steps)).2.outcomes = outcomes := by
    rw [Session.outcomes_run]
    exact congrArg (List.filterMap Report.outcome?) same
  rw [Session.step, kept]

namespace Rows

/-- The step that asks for the plan of some variables of the tag. -/
def asking (vars : List Variable) : Step :=
  .ask ⟨.ok (vars.map .ofVariable), .mark (.kind .bodyBuffering), none⟩

/-- The rows, and the rows again from the memory; a list that is refused; the sum alone, which drives the rows
out where there is room for one plan; and the rows once more. -/
def steps : List Step :=
  [asking vars, asking vars, asking (inBody :: vars), .listKeys, asking [total], asking vars, .listKeys]

def settings : Settings := ⟨1, .empty⟩

def keep (position : Nat) : Bool := position != 1 && position != 2

end Rows

theorem runSession_remaining_rows :
    (∀ step ∈ Rows.steps, step.refersBack = false) ∧
      (∀ position, Rows.keep position = false →
        ∀ report ∈ (runSession Rows.settings Rows.steps)[position]?, report.isTraceless) ∧
      runSession Rows.settings (remaining Rows.keep Rows.steps) =
        remaining Rows.keep (runSession Rows.settings Rows.steps) := by
  have plain : ∀ step ∈ Rows.steps, step.refersBack = false := by
    simp [Rows.steps, Rows.asking, Step.refersBack]
  have traceless : ∀ position, Rows.keep position = false →
      ∀ report ∈ (runSession Rows.settings Rows.steps)[position]?, report.isTraceless := by
    intro position struck report found
    rw [Rows.keep, Bool.and_eq_false_iff, bne_eq_false_iff_eq, bne_eq_false_iff_eq] at struck
    rcases struck with rfl | rfl
    · -- the rows from the memory
      cases found
      rfl
    · -- the list that is refused
      cases found
      rfl
  exact ⟨plain, traceless, (runSession_remaining plain traceless).1⟩

end TagBinding
