import Mathlib.Data.List.Destutter
import TagBinding.Proofs.Trace

/-! # Traces follow the life of a handler

A run that is not refused (`Handler.Refuses`) has a trace that follows the callbacks of its kind in their order
(`Handler.Follows`): from the first to the last, with as many calls after a pass as there are passes, and with the call
before a buffered body only where there is one.  A refusal depends on the kind, the decision and the number of passes
alone, and a handler that does not repeat its body never asks how many passes there are.

A handler that repeats its body has no trace, though, for a number of passes that no sequence can be as long as, or that
the machine has no room for (`Handler.no_trace_beyond_limit`).  `Handler.trace_by_lifecycle` tells all the cases.
-/

namespace TagBinding

/-- Whether a fault refuses what is asked for, rather than telling that the answer would be too long. -/
def TraceFault.IsRefusal : TraceFault → Prop
  | .cannotBuffer _ | .noPass _ => True
  | .uncountable _ | .noRoom _ => False

/-- Merging a run of equal members leaves one of them before the rest. -/
theorem destutter'_replicate_append {α : Type} [DecidableEq α] (a : α) (n : Nat) (rest : List α) :
    (List.replicate n a ++ rest).destutter' (· ≠ ·) a = rest.destutter' (· ≠ ·) a := by
  induction n with
  | zero => rfl
  | succ n ih => rw [List.replicate_succ, List.cons_append, List.destutter'_cons_neg _ (by simp), ih]

namespace Handler

variable {kind : Handler} {buffered : Bool} {trace : List Callback} {decision : BodyDecision} {passes room : Int}

/-- The body is run in a buffer that the kind does not have, or it is run less than once. -/
def Refuses (kind : Handler) (decision : BodyDecision) (passes : Int) : Prop :=
  kind ≠ .simple ∧ (decision = .buffered ∧ kind ≠ .bodyBuffering ∨ decision ≠ .skip ∧ passes < 1)

/-- The body is run, by a handler that can repeat it. -/
def Repeats (kind : Handler) (decision : BodyDecision) : Prop :=
  (kind = .iterating ∨ kind = .bodyBuffering) ∧ decision ≠ .skip

instance : Decidable (kind.Repeats decision) := inferInstanceAs (Decidable (_ ∧ _))

/-- The callbacks that are reached follow the life of a handler of the kind. -/
structure Follows (kind : Handler) (decision : BodyDecision) (passes : Int) (trace : List Callback) : Prop where
  known : ∀ callback ∈ trace, callback ∈ kind.callbacks
  starts : trace.head? = kind.callbacks.head?
  ends : trace.getLast? = kind.callbacks.getLast?
  first_once : ∀ callback ∈ kind.callbacks.head?, trace.count callback = 1
  last_once : ∀ callback ∈ kind.callbacks.getLast?, trace.count callback = 1
  /-- Without repetitions, the callbacks are some of those of the kind, in their order. -/
  ordered : (trace.destutter (· ≠ ·)).Sublist kind.callbacks
  passed : (trace.count .bodyReiterate : Int) = if kind.Repeats decision then passes else 0
  announced : trace.count .bodyInit = if kind = .bodyBuffering ∧ decision = .buffered then 1 else 0
  /-- A buffered body is announced directly after the start. -/
  placed : Callback.bodyInit ∈ trace → [Callback.start, Callback.bodyInit] <+: trace

/-! ## What every shape of a run has -/

namespace Run

theorem head?_eq (run : kind.Run buffered trace) : trace.head? = kind.callbacks.head? := by
  cases run with
  | alone single => subst single; rfl
  | inPlace passes drives loops => revert drives; cases kind <;> simp [callbacks]
  | inBuffer passes buffers => subst buffers; rfl

theorem getLast?_eq (run : kind.Run buffered trace) : trace.getLast? = kind.callbacks.getLast? := by
  obtain ⟨earlier, rfl, -⟩ := run.exists_concat_terminal
  rw [List.getLast?_concat, getLast?_callbacks]

theorem count_eq_one (run : kind.Run buffered trace) {callback : Callback} (once : callback ≠ .bodyReiterate)
    (member : callback ∈ trace) : trace.count callback = 1 :=
  Nat.le_antisymm (run.count_le_one once) (List.count_pos_iff.2 member)

/-- The first callback of the kind and the last one are no callbacks after a pass, so they do not repeat. -/
theorem count_eq_one_of_outer (run : kind.Run buffered trace) {callback : Callback}
    (outer : callback ∈ kind.callbacks.head? ∨ callback ∈ kind.callbacks.getLast?) : trace.count callback = 1 := by
  have once : callback ≠ .bodyReiterate := by
    rintro rfl
    revert outer
    cases kind <;> decide
  refine run.count_eq_one once ?_
  obtain first | last := outer
  · exact List.mem_of_head? (run.head?_eq.trans first)
  · exact List.mem_of_getLast? (run.getLast?_eq.trans last)

theorem destutter_sublist (run : kind.Run buffered trace) :
    (trace.destutter (· ≠ ·)).Sublist kind.callbacks := by
  cases run with
  | alone single => subst single; decide
  | inPlace passes drives loops =>
    cases passes with
    | zero => revert drives; cases kind <;> decide
    | succ passes =>
      -- the calls after the passes merge into one, which is among the callbacks of a handler that has passes
      have looping : kind.isLooping := loops.resolve_right (Nat.succ_ne_zero passes)
      rw [List.destutter_cons', List.replicate_succ, List.cons_append, List.destutter'_cons_pos _ (by decide),
        destutter'_replicate_append]
      revert looping
      cases kind <;> decide
  | inBuffer passes buffers =>
    subst buffers
    rw [List.destutter_cons', List.destutter'_cons_pos _ (by decide)]
    cases passes with
    | zero => decide
    | succ passes =>
      rw [List.replicate_succ, List.cons_append, List.destutter'_cons_pos _ (by decide), destutter'_replicate_append]
      decide

theorem bodyInit_after_start (run : kind.Run buffered trace) (member : .bodyInit ∈ trace) :
    [Callback.start, Callback.bodyInit] <+: trace := by
  cases run with
  | alone single => simp at member
  | inPlace passes drives loops => simp at member
  | inBuffer passes buffers => exact List.prefix_append [Callback.start, Callback.bodyInit] _

end Run

/-! ## How often the body is met -/

theorem runsBody_iff : decision.runsBody ↔ decision ≠ .skip := by
  cases decision <;> decide

theorem countsPasses_iff : kind.countsPasses decision ↔ kind.Repeats decision := by
  cases kind <;> cases decision <;> decide

theorem count_bodyReiterate_reached :
    (kind.reached decision passes).count .bodyReiterate = if kind.Repeats decision then passes.toNat else 0 := by
  simp only [reached, countsPasses_iff]
  split
  · split <;> simp
  · rfl

theorem count_bodyInit_reached (allowed : decision = .buffered → kind = .bodyBuffering) :
    (kind.reached decision passes).count .bodyInit = if kind = .bodyBuffering ∧ decision = .buffered then 1 else 0 := by
  by_cases buffers : decision = .buffered
  · simp [reached, allowed buffers, buffers, countsPasses, isLooping, BodyDecision.runsBody, List.count_replicate]
  · unfold reached
    split <;> simp [buffers, List.count_replicate]

theorem follows_of_trace (ran : kind.trace decision passes room = .ok trace) (kept : ¬ kind.Refuses decision passes) :
    kind.Follows decision passes trace := by
  obtain ⟨buffered, run⟩ := run_of_trace ran
  have counts : (trace.count .bodyReiterate : Int) = (if kind.Repeats decision then passes else 0) ∧
      trace.count .bodyInit = if kind = .bodyBuffering ∧ decision = .buffered then 1 else 0 := by
    obtain ⟨rfl, rfl⟩ | ⟨drives, allowed, rfl⟩ := trace_eq_ok ran
    · exact ⟨by simp [Repeats], by simp⟩
    · refine ⟨?_, count_bodyInit_reached allowed⟩
      rw [count_bodyReiterate_reached]
      split
      · next repeats =>
        -- a body that runs no time was refused, so as many calls are made as there are passes
        have some_pass : ¬ passes < 1 := fun few => kept ⟨drives, .inr ⟨repeats.2, few⟩⟩
        omega
      · rfl
  exact
    { known := fun callback member => run.mem_callbacks member
      starts := run.head?_eq
      ends := run.getLast?_eq
      first_once := fun callback first => run.count_eq_one_of_outer (.inl first)
      last_once := fun callback last => run.count_eq_one_of_outer (.inr last)
      ordered := run.destutter_sublist
      passed := counts.1
      announced := counts.2
      placed := run.bodyInit_after_start }

/-! ## What is refused, and what there is no room for -/

theorem trace_of_refuses (refused : kind.Refuses decision passes) (room : Int) :
    ∃ fault, kind.trace decision passes room = .error fault ∧ fault.IsRefusal := by
  obtain ⟨drives, fails⟩ := refused
  unfold Handler.trace
  rw [if_neg drives]
  split
  · exact ⟨_, rfl, trivial⟩
  · next allowed =>
    rw [if_pos ((fails.resolve_left allowed).imp_left runsBody_iff.2)]
    exact ⟨_, rfl, trivial⟩

theorem trace_of_not_refuses (kept : ¬ kind.Refuses decision passes) (room : Int) :
    kind.trace decision passes room =
      if kind.Repeats decision ∧ Extent.limit ≤ passes then .error (.uncountable passes)
      else if kind.Repeats decision ∧ room < passes then .error (.noRoom passes)
      else .ok (if kind = .simple then [.tag] else kind.reached decision passes) := by
  simp only [Handler.trace, countsPasses_iff, runsBody_iff]
  by_cases single : kind = .simple
  · simp [single, Repeats]
  · have allowed : ¬ (decision = .buffered ∧ kind ≠ .bodyBuffering) := fun buffers => kept ⟨single, .inl buffers⟩
    have enough : ¬ (decision ≠ .skip ∧ passes < 1) := fun few => kept ⟨single, .inr few⟩
    simp only [if_neg single, if_neg allowed, if_neg enough]

/-- What every run comes to.  It is refused as the kind, the decision and the passes say; otherwise it has a trace that
follows the life of the handler, unless it repeats its body more often than a sequence can be long or than there is room
for. -/
theorem trace_by_lifecycle (kind : Handler) (decision : BodyDecision) (passes room : Int) :
    ((∃ fault, kind.trace decision passes room = .error fault ∧ fault.IsRefusal) ↔ kind.Refuses decision passes) ∧
    (kind.trace decision passes room = .error (.uncountable passes) ↔
      ¬ kind.Refuses decision passes ∧ kind.Repeats decision ∧ Extent.limit ≤ passes) ∧
    (kind.trace decision passes room = .error (.noRoom passes) ↔
      ¬ kind.Refuses decision passes ∧ kind.Repeats decision ∧ passes < Extent.limit ∧ room < passes) ∧
    ((∃ trace, kind.trace decision passes room = .ok trace ∧ kind.Follows decision passes trace) ↔
      ¬ kind.Refuses decision passes ∧ ¬ (kind.Repeats decision ∧ (Extent.limit ≤ passes ∨ room < passes))) := by
  by_cases refused : kind.Refuses decision passes
  · obtain ⟨fault, failed, refusal⟩ := trace_of_refuses refused room
    cases fault with
    | cannotBuffer | noPass => simp [failed, refused, TraceFault.IsRefusal]
    | uncountable | noRoom => cases refusal
  · -- what is left to ask is whether the trace is too long, first for any sequence and then for the machine
    have ran := trace_of_not_refuses refused room
    split at ran
    · next beyond => simp [ran, refused, beyond, TraceFault.IsRefusal, Int.not_lt.2 beyond.2]
    · next within =>
      split at ran
      · next full =>
        have countable : passes < Extent.limit := Int.not_le.1 fun beyond => within ⟨full.1, beyond⟩
        simp [ran, refused, full, countable, TraceFault.IsRefusal]
      · next fits =>
        have follows := follows_of_trace ran refused
        refine ⟨?_, ?_, ?_, ?_⟩
        · simp [ran, refused]
        · simp [ran, refused, within]
        · simp only [ran, reduceCtorEq, false_iff]
          exact fun full => fits ⟨full.2.1, full.2.2.2⟩
        · refine iff_of_true ⟨_, ran, follows⟩ ⟨refused, ?_⟩
          rintro ⟨repeats, beyond | full⟩
          · exact within ⟨repeats, beyond⟩
          · exact fits ⟨repeats, full⟩

/-- No sequence is as long as this number of passes, so a run that is not refused has no trace. -/
theorem no_trace_beyond_limit :
    ¬ (¬ Handler.iterating.Refuses .inPlace 9223372036854775808 →
      ∃ trace, Handler.iterating.trace .inPlace 9223372036854775808 = .ok trace) := by
  intro claimed
  obtain ⟨trace, ran⟩ := claimed (by simp [Refuses])
  have beyond : Handler.iterating.trace .inPlace 9223372036854775808 = .error (.uncountable 9223372036854775808) := rfl
  rw [beyond] at ran
  cases ran

end Handler

end TagBinding
