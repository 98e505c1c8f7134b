import TagBinding.Plan.Replay

/-! # How far a replay gets

A plan that is put together by hand may lack checkpoints that a trace calls for, or have several for one callback.
Whatever the plan and the trace, a replay comes by one checkpoint for each callback up to the first that the plan has
none for, and there it ends (`Plan.replay_reaches`).  Only a run through a buffered body can do worse: without a
checkpoint at the start marker nothing can be put off, and the replay does not begin.

There are two ways to look checkpoints up, and a walk over a trace needs to know only what they have in common
(`Plan.Finds`).
-/

namespace TagBinding

namespace Plan

variable {σ : Type} [Marked σ] {plan : Plan σ}

/-- The callbacks that a plan has checkpoints for, in its order and as often as it has them. -/
def callbacks (plan : Plan σ) : List Callback := plan.checkpoints.map Checkpoint.callback

/-- A checkpoint of the plan that no other one for its callback comes after. -/
def IsLast (plan : Plan σ) (checkpoint : Checkpoint σ) : Prop :=
  ∃ before after, plan.checkpoints = before ++ checkpoint :: after ∧
    ∀ later ∈ after, later.callback ≠ checkpoint.callback

/-! ## Looking checkpoints up -/

theorem last?_eq_some_iff {callback : Callback} {checkpoint : Checkpoint σ} :
    plan.last? callback = some checkpoint ↔ checkpoint.callback = callback ∧ plan.IsLast checkpoint := by
  rw [last?, List.find?_eq_some_iff_append, beq_iff_eq]
  refine and_congr_right fun here => ?_
  subst here
  constructor
  · rintro ⟨after, before, split, others⟩
    refine ⟨before.reverse, after.reverse, ?_, fun later inside => ?_⟩
    · rw [← plan.checkpoints.reverse_reverse, split]
      simp
    · simpa using others later (List.mem_reverse.1 inside)
  · rintro ⟨before, after, split, others⟩
    refine ⟨after.reverse, before.reverse, ?_, fun later inside => ?_⟩
    · rw [split]
      simp
    · simpa using others later (List.mem_reverse.1 inside)

theorem isSome_last?_iff {callback : Callback} : (plan.last? callback).isSome ↔ callback ∈ plan.callbacks := by
  simp [last?, callbacks]

theorem isSome_first?_iff {callback : Callback} : (plan.first? callback).isSome ↔ callback ∈ plan.callbacks := by
  simp [first?, callbacks]

theorem first?_eq_none_iff {callback : Callback} : plan.first? callback = none ↔ callback ∉ plan.callbacks := by
  rw [← isSome_first?_iff, Option.not_isSome_iff_eq_none]

theorem mem_callbacks_of_first? {callback : Callback} {checkpoint : Checkpoint σ}
    (found : plan.first? callback = some checkpoint) : callback ∈ plan.callbacks := by
  rw [← isSome_first?_iff, found, Option.isSome_some]

theorem callback_of_first? {callback : Callback} {checkpoint : Checkpoint σ}
    (found : plan.first? callback = some checkpoint) : checkpoint.callback = callback := by
  simpa using List.find?_some found

/-- A way to look checkpoints up that gives one for each callback of the plan, and for no other callback. -/
structure Finds (plan : Plan σ) (checkpointOf : Callback → Option (Checkpoint σ)) : Prop where
  known : ∀ callback, (checkpointOf callback).isSome ↔ callback ∈ plan.callbacks
  carries : ∀ callback checkpoint, checkpointOf callback = some checkpoint → checkpoint.callback = callback

theorem finds_last? : plan.Finds plan.last? where
  known _ := isSome_last?_iff
  carries _ _ found := (last?_eq_some_iff.1 found).1

/-! ## Walking over a trace -/

section Walk

variable {checkpointOf : Callback → Option (Checkpoint σ)} {callback : Callback} {later trace : List Callback}
  {kind : Handler}

theorem Finds.walk_cons_of_notMem (finds : plan.Finds checkpointOf) (unknown : callback ∉ plan.callbacks) :
    walk kind checkpointOf (callback :: later) = ⟨[], some (.foreign ⟨kind, callback⟩)⟩ := by
  rw [← finds.known, Option.not_isSome_iff_eq_none] at unknown
  simp only [walk, unknown]

theorem Finds.walk_cons_of_mem (finds : plan.Finds checkpointOf) (known : callback ∈ plan.callbacks) :
    ∃ checkpoint, checkpoint.callback = callback ∧
      walk kind checkpointOf (callback :: later) =
        ⟨checkpoint :: (walk kind checkpointOf later).reached, (walk kind checkpointOf later).fault⟩ := by
  rw [← finds.known, Option.isSome_iff_exists] at known
  obtain ⟨checkpoint, found⟩ := known
  exact ⟨checkpoint, finds.carries callback checkpoint found, by simp only [walk, found]⟩

theorem Finds.reached (finds : plan.Finds checkpointOf) :
    (walk kind checkpointOf trace).reached.map Checkpoint.callback = trace.takeWhile (· ∈ plan.callbacks) := by
  induction trace with
  | nil => rfl
  | cons callback later ih =>
    by_cases known : callback ∈ plan.callbacks
    · obtain ⟨checkpoint, here, step⟩ := finds.walk_cons_of_mem known
      rw [step, List.map_cons, here, ih, List.takeWhile_cons_of_pos (by simpa using known)]
    · rw [finds.walk_cons_of_notMem known, List.map_nil, List.takeWhile_cons_of_neg (by simpa using known)]

theorem Finds.fault (finds : plan.Finds checkpointOf) :
    (walk kind checkpointOf trace).fault =
      (trace.find? (· ∉ plan.callbacks)).map fun callback => .foreign ⟨kind, callback⟩ := by
  induction trace with
  | nil => rfl
  | cons callback later ih =>
    by_cases known : callback ∈ plan.callbacks
    · obtain ⟨checkpoint, _, step⟩ := finds.walk_cons_of_mem known
      rw [step, ih, List.find?_cons_of_neg (by simpa using known)]
    · rw [finds.walk_cons_of_notMem known, List.find?_cons_of_pos (by simpa using known), Option.map_some]

theorem exists_of_mem_reached {checkpoint : Checkpoint σ}
    (reached : checkpoint ∈ (walk kind checkpointOf trace).reached) :
    ∃ callback, checkpointOf callback = some checkpoint := by
  induction trace with
  | nil => cases reached
  | cons callback later ih =>
    cases found : checkpointOf callback with
    | none => simp [walk, found] at reached
    | some here =>
      simp only [walk, found, List.mem_cons] at reached
      rcases reached with rfl | there
      · exact ⟨callback, found⟩
      · exact ih there

theorem Finds.of_mem_reached {checkpoint : Checkpoint σ} (finds : plan.Finds checkpointOf)
    (reached : checkpoint ∈ (walk kind checkpointOf trace).reached) :
    checkpointOf checkpoint.callback = some checkpoint := by
  obtain ⟨callback, found⟩ := exists_of_mem_reached reached
  rwa [finds.carries callback checkpoint found]

end Walk

/-! ## Replaying -/

section Replay

variable [DecidableEq σ] {trace : List Callback}

theorem replay_of_plain (plain : ¬ (.bodyInit ∈ trace ∧ .bodyInit ∈ plan.callbacks)) :
    plan.replay trace = walk plan.kind plan.last? trace := by
  have found : plan.lookup trace = .ok plan.last? := by
    unfold lookup
    split
    · rfl
    · next init announces => rw [if_neg fun announced => plain ⟨announced, mem_callbacks_of_first? announces⟩]
  rw [replay, found]

theorem replay_of_stranded {init : Checkpoint σ} (announced : .bodyInit ∈ trace)
    (announces : plan.first? .bodyInit = some init) (stranded : .start ∉ plan.callbacks) :
    plan.replay trace = ⟨[], some (.missing ⟨.start⟩)⟩ := by
  have missing : plan.lookup trace = .error ⟨.start⟩ := by
    simp only [lookup, announces, announced, if_true, checkpointFor, first?_eq_none_iff.2 stranded]
    rfl
  rw [replay, missing]

theorem replay_of_buffered {start init : Checkpoint σ} (announced : .bodyInit ∈ trace)
    (starts : plan.first? .start = some start) (announces : plan.first? .bodyInit = some init) :
    plan.replay trace = walk plan.kind (plan.bufferedLookup start init) trace := by
  have changed : plan.lookup trace = .ok (plan.bufferedLookup start init) := by
    simp only [lookup, announces, announced, if_true, checkpointFor, starts]
    rfl
  rw [replay, changed]

theorem finds_bufferedLookup {start init : Checkpoint σ} (starts : plan.first? .start = some start)
    (announces : plan.first? .bodyInit = some init) : plan.Finds (plan.bufferedLookup start init) where
  known callback := by
    -- the two checkpoints that are changed are there, and the others are looked up as ever
    cases callback with
    | start => simp [bufferedLookup, mem_callbacks_of_first? starts]
    | bodyInit => simp [bufferedLookup, mem_callbacks_of_first? announces]
    | bodyReiterate | finish | tag => exact isSome_last?_iff
  carries callback checkpoint found := by
    cases callback with
    | start =>
      cases found
      exact (callback_of_first? starts : start.callback = .start)
    | bodyInit =>
      cases found
      exact (callback_of_first? announces : init.callback = .bodyInit)
    | bodyReiterate | finish | tag => exact (last?_eq_some_iff.1 found).1

theorem isLast_of_bufferedLookup {start init checkpoint : Checkpoint σ} {callback : Callback}
    (found : plan.bufferedLookup start init callback = some checkpoint) (starting : callback ≠ .start)
    (announcing : callback ≠ .bodyInit) : plan.IsLast checkpoint := by
  cases callback with
  | start => exact absurd rfl starting
  | bodyInit => exact absurd rfl announcing
  | bodyReiterate | finish | tag => exact (last?_eq_some_iff.1 found).2

/-- A replay of any plan over any trace.  If a body is to be buffered but the plan has nothing for the start marker,
the replay fails for want of that checkpoint and comes by none.  Otherwise it comes by one checkpoint for each callback
of the longest beginning of the trace that the plan covers, and fails at the callback after that, if there is one.  The
checkpoints that it comes by are the last ones of the plan for their callbacks; where the body is buffered, this need
not hold at the start marker and at the announcement of the body. -/
theorem replay_reaches (plan : Plan σ) (trace : List Callback) :
    let replay := plan.replay trace
    let buffered := .bodyInit ∈ trace ∧ .bodyInit ∈ plan.callbacks
    (buffered ∧ .start ∉ plan.callbacks → replay = ⟨[], some (.missing ⟨.start⟩)⟩) ∧
      (¬ (buffered ∧ .start ∉ plan.callbacks) →
        replay.reached.map Checkpoint.callback = trace.takeWhile (· ∈ plan.callbacks) ∧
        replay.fault =
          (trace.find? (· ∉ plan.callbacks)).map fun callback => .foreign ⟨plan.kind, callback⟩) ∧
      (¬ buffered → ∀ checkpoint ∈ replay.reached, plan.IsLast checkpoint) ∧
      (buffered → ∀ checkpoint ∈ replay.reached, checkpoint.callback ≠ .start →
        checkpoint.callback ≠ .bodyInit → plan.IsLast checkpoint) := by
  by_cases buffered : .bodyInit ∈ trace ∧ .bodyInit ∈ plan.callbacks
  · obtain ⟨init, announces⟩ := Option.isSome_iff_exists.1 (isSome_first?_iff.2 buffered.2)
    -- the checkpoint of the announcement is made of the one at the start, so without that there is no replay
    by_cases started : .start ∈ plan.callbacks
    · obtain ⟨start, starts⟩ := Option.isSome_iff_exists.1 (isSome_first?_iff.2 started)
      have finds := finds_bufferedLookup starts announces
      rw [replay_of_buffered buffered.1 starts announces]
      refine ⟨fun stranded => absurd started stranded.2, fun _ => ⟨finds.reached, finds.fault⟩,
        fun plain => absurd buffered plain, fun _ checkpoint reached starting announcing => ?_⟩
      exact isLast_of_bufferedLookup (finds.of_mem_reached reached) starting announcing
    · rw [replay_of_stranded buffered.1 announces started]
      exact ⟨fun _ => rfl, fun fine => absurd ⟨buffered, started⟩ fine, fun plain => absurd buffered plain,
        fun _ checkpoint reached => by cases reached⟩
  · rw [replay_of_plain buffered]
    refine ⟨fun stranded => absurd stranded.1 buffered, fun _ => ⟨finds_last?.reached, finds_last?.fault⟩,
      fun _ checkpoint reached => ?_, fun deferred => absurd deferred buffered⟩
    exact (last?_eq_some_iff.1 (finds_last?.of_mem_reached reached)).2

end Replay

end Plan

end TagBinding
