import TagBinding.Proofs.Schedule
import TagBinding.Trace

/-! # The shape of a run

Whatever is decided about the body, and however often it is passed, a run has one of three shapes
(`Handler.Run`): one call alone, a body in place, or a body in a buffer.  Its callbacks come in the order of
the handler's life, and only the callback after each pass repeats.

* `Handler.run_of_trace` — every trace has one of the shapes.
* `Handler.Run.count_le_one` — a callback that is not the one after a pass is reached once at most.
* `Handler.Run.add_one_eq_length_of_terminal` — the last callback of the kind is the last of each run.
* `Handler.Run.opening?_eq_some_iff` — the first callback of the kind that binds a scope is, in each run, the
  first callback of the run that does.
-/

namespace TagBinding

namespace Handler

variable {kind : Handler} {buffered : Bool} {trace : List Callback}

/-- The shapes that runs of a kind have, with or without a buffered body. -/
inductive Run (kind : Handler) : Bool → List Callback → Prop where
  | alone (single : kind = .simple) : Run kind false [.tag]
  | inPlace (passes : Nat) (drives : kind ≠ .simple) (loops : kind.isLooping ∨ passes = 0) :
      Run kind false (.start :: (List.replicate passes .bodyReiterate ++ [.finish]))
  | inBuffer (passes : Nat) (buffers : kind = .bodyBuffering) :
      Run kind true (.start :: .bodyInit :: (List.replicate passes .bodyReiterate ++ [.finish]))

/-- A trace is the one call of a handler without body callbacks, or what any other handler reaches. -/
theorem trace_eq_ok {decision : BodyDecision} {passes room : Int}
    (ran : kind.trace decision passes room = .ok trace) :
    (kind = .simple ∧ trace = [.tag]) ∨
      (kind ≠ .simple ∧ (decision = .buffered → kind = .bodyBuffering) ∧
        trace = kind.reached decision passes) := by
  unfold Handler.trace at ran
  split at ran
  · next single =>
    cases ran
    exact Or.inl ⟨single, rfl⟩
  · next drives =>
    split at ran
    · cases ran
    · next buffers =>
      have allowed : decision = .buffered → kind = .bodyBuffering := by
        intro buffered
        simpa [buffered] using buffers
      repeat' split at ran
      all_goals cases ran
      exact Or.inr ⟨drives, allowed, rfl⟩

theorem run_of_trace {decision : BodyDecision} {passes room : Int}
    (ran : kind.trace decision passes room = .ok trace) : ∃ buffered, kind.Run buffered trace := by
  rcases trace_eq_ok ran with ⟨single, rfl⟩ | ⟨drives, allowed, rfl⟩
  · exact ⟨false, .alone single⟩
  · unfold reached
    split
    · next counts =>
      by_cases buffers : decision = .buffered
      · refine ⟨true, ?_⟩
        simpa [buffers] using Run.inBuffer passes.toNat (allowed buffers)
      · have loops : kind.isLooping := by
          simp only [countsPasses, Bool.and_eq_true] at counts
          exact counts.1
        refine ⟨false, ?_⟩
        simpa [buffers] using Run.inPlace passes.toNat drives (Or.inl loops)
    · exact ⟨false, .inPlace 0 drives (Or.inr rfl)⟩

theorem eq_bodyBuffering_of_bodyInit (announces : .bodyInit ∈ kind.callbacks) : kind = .bodyBuffering := by
  revert announces
  cases kind <;> decide

namespace Run

theorem mem_callbacks (run : kind.Run buffered trace) {callback : Callback} (member : callback ∈ trace) :
    callback ∈ kind.callbacks := by
  cases run with
  | alone single =>
    subst single
    exact member
  | inPlace passes drives loops =>
    simp only [List.mem_cons, List.mem_append, List.mem_replicate, List.not_mem_nil, or_false] at member
    rcases member with rfl | ⟨passed, rfl⟩ | rfl
    · revert drives
      cases kind <;> decide
    · -- a body that was passed belongs to a handler that repeats it
      have looping : kind.isLooping := loops.resolve_right passed
      revert looping
      cases kind <;> decide
    · revert drives
      cases kind <;> decide
  | inBuffer passes buffers =>
    subst buffers
    simp only [List.mem_cons, List.mem_append, List.mem_replicate, List.not_mem_nil, or_false] at member
    rcases member with rfl | rfl | ⟨_, rfl⟩ | rfl <;> decide

theorem mem_bodyInit_iff (run : kind.Run buffered trace) : .bodyInit ∈ trace ↔ buffered = true := by
  cases run <;> simp

theorem eq_bodyBuffering (run : kind.Run true trace) : kind = .bodyBuffering := by
  cases run with
  | inBuffer passes buffers => exact buffers

/-! ## How often and in which order -/

theorem count_le_one (run : kind.Run buffered trace) {callback : Callback}
    (once : callback ≠ .bodyReiterate) : trace.count callback ≤ 1 := by
  cases run <;> cases callback <;> simp_all [List.count_replicate]

theorem notMem_earlier (run : kind.Run buffered trace) {callback : Callback}
    (once : callback ≠ .bodyReiterate) {earlier later : List Callback}
    (split : trace = earlier ++ callback :: later) : callback ∉ earlier := by
  have count := run.count_le_one once
  rw [split, List.count_append, List.count_cons_self] at count
  rw [← List.count_eq_zero]
  omega

/-- No callback but the one after a pass is reached at two positions. -/
theorem le_of_getElem? {path : List Callback} (run : kind.Run buffered path) {callback : Callback}
    (once : callback ≠ .bodyReiterate) {first second : Nat} (here : path[first]? = some callback)
    (there : path[second]? = some callback) : second ≤ first := by
  refine Nat.le_of_not_lt fun before => ?_
  obtain ⟨bound, same⟩ := List.getElem?_eq_some_iff.1 there
  have split : path = path.take second ++ callback :: path.drop (second + 1) := by
    rw [← same, List.getElem_cons_drop, List.take_append_drop]
  have member : callback ∈ path.take second := by
    refine List.mem_of_getElem? (i := first) ?_
    rw [List.getElem?_take_of_lt before]
    exact here
  exact run.notMem_earlier once split member

theorem eq_zero_of_start {path : List Callback} (run : kind.Run buffered path) {position : Nat}
    (here : path[position]? = some .start) : position = 0 := by
  cases position with
  | zero => rfl
  | succ before =>
    rw [← List.getElem?_tail] at here
    have member := List.mem_of_getElem? here
    cases run <;> simp at member

theorem exists_concat_terminal (run : kind.Run buffered trace) :
    ∃ earlier, trace = earlier ++ [kind.terminal] ∧ kind.terminal ∉ earlier := by
  cases run with
  | alone single =>
    subst single
    exact ⟨[], rfl, List.not_mem_nil⟩
  | inPlace passes drives loops =>
    have ends : kind.terminal = .finish := by
      revert drives
      cases kind <;> decide
    rw [ends]
    exact ⟨.start :: List.replicate passes .bodyReiterate, rfl, by simp⟩
  | inBuffer passes buffers =>
    subst buffers
    exact ⟨.start :: .bodyInit :: List.replicate passes .bodyReiterate, rfl, by simp [terminal]⟩

/-- A run ends at the last callback of its kind, and reaches it nowhere else. -/
theorem add_one_eq_length_of_terminal {path : List Callback} (run : kind.Run buffered path)
    {position : Nat} (here : path[position]? = some kind.terminal) : position + 1 = path.length := by
  obtain ⟨earlier, split, absent⟩ := run.exists_concat_terminal
  have bound := (List.getElem?_eq_some_iff.1 here).1
  rw [split, List.length_append, List.length_singleton] at bound ⊢
  by_cases before : position < earlier.length
  · rw [split, List.getElem?_append_left before] at here
    exact absurd (List.mem_of_getElem? here) absent
  · omega

theorem opening?_ne_bodyReiterate (run : kind.Run buffered trace) (scope : Scope) :
    kind.opening? buffered scope ≠ some .bodyReiterate := by
  cases run with
  | alone single => subst single; cases scope <;> decide
  | inPlace passes drives loops => cases kind <;> cases scope <;> decide
  | inBuffer passes buffers => subst buffers; cases scope <;> decide

/-- The first callback of the kind that binds a scope is the first of each run to do so. -/
theorem find?_binds (run : kind.Run buffered trace) (scope : Scope) :
    trace.find? (fun callback => (kind.bound buffered callback).contains scope) =
      kind.opening? buffered scope := by
  cases run with
  | alone single =>
    subst single
    rfl
  | inPlace passes drives loops =>
    revert drives
    cases kind <;> cases scope <;>
      simp [opening?, callbacks, bound_false, refreshed, aroundBody, afterLast]
  | inBuffer passes buffers =>
    subst buffers
    cases scope <;> simp [aroundBody, afterLast]

theorem opening?_eq_some_iff (run : kind.Run buffered trace) {earlier later : List Callback}
    {callback : Callback} (split : trace = earlier ++ callback :: later) {scope : Scope}
    (binds : scope ∈ kind.bound buffered callback) :
    kind.opening? buffered scope = some callback ↔
      ∀ before ∈ earlier, scope ∉ kind.bound buffered before := by
  rw [← run.find?_binds scope]
  -- only the callback after a pass can have come before, and it never opens a scope
  refine find?_binds_iff split binds fun opens => run.notMem_earlier ?_ split
  rintro rfl
  rw [run.find?_binds] at opens
  exact run.opening?_ne_bodyReiterate scope opens

/-- In each run, every scope is bound at some time, but for the body of a handler that runs it itself. -/
theorem exists_opening? (run : kind.Run buffered trace) (scope : Scope) :
    (∃ callback ∈ trace, kind.opening? buffered scope = some callback) ↔
      ¬ (kind = .simple ∧ scope = .nested) := by
  have opened : (∃ callback ∈ trace, kind.opening? buffered scope = some callback) ↔
      (kind.opening? buffered scope).isSome := by
    rw [← run.find?_binds scope, Option.isSome_iff_exists]
    constructor
    · rintro ⟨callback, _, opens⟩
      exact ⟨callback, opens⟩
    · rintro ⟨callback, opens⟩
      exact ⟨callback, List.mem_of_find?_eq_some opens, opens⟩
  rw [opened]
  cases run with
  | alone single => subst single; cases scope <;> decide
  | inPlace passes drives loops => revert drives; cases kind <;> cases scope <;> decide
  | inBuffer passes buffers => subst buffers; cases scope <;> decide

end Run

end Handler

end TagBinding
