import TagBinding.Proofs.Plan.Names

/-! # One binding of a name at a time

Two variables may have one name if one is for the body and the other for what follows the end marker.  Then a run
declares the name twice, and the second declaration must find the first variable gone.

* `declarationsOf` — all declarations of a name that some checkpoints make, in order.
* `GivesWay` — the one way in which a name can be declared again: the variable of the body gives way, at the last
  callback, to the variable beyond.
* `pairwise_givesWay` — every two declarations of a name in a run are so related.  Since none can be the first of one
  such pair and the second of another, there are never three (`GivesWay.length_le_two`).
-/

namespace TagBinding

/-! ## The declarations of a name -/

/-- The declarations of a name that some checkpoints make, in order, each with the position of its checkpoint. -/
def declarationsOf (name : String) (checkpoints : List Checkpoint) : List (Nat × Variable) :=
  checkpoints.zipIdx.flatMap fun (checkpoint, position) =>
    (checkpoint.declarations.toList.filter (·.name == name)).map fun v => (position, v)

theorem mem_declarationsOf {name : String} {checkpoints : List Checkpoint} {position : Nat} {v : Variable} :
    (position, v) ∈ declarationsOf name checkpoints ↔
      v.name = name ∧
        ∃ checkpoint, checkpoints[position]? = some checkpoint ∧ v ∈ checkpoint.declarations := by
  rw [declarationsOf, List.mem_flatMap]
  constructor
  · rintro ⟨⟨checkpoint, place⟩, inside, made⟩
    rw [List.mem_zipIdx_iff_getElem?] at inside
    simp only [List.mem_map, List.mem_filter, beq_iff_eq, Prod.mk.injEq] at made
    obtain ⟨w, ⟨declared, named⟩, rfl, rfl⟩ := made
    exact ⟨named, checkpoint, inside, declared⟩
  · rintro ⟨named, checkpoint, inside, declared⟩
    refine ⟨(checkpoint, position), List.mem_zipIdx_iff_getElem?.2 inside, ?_⟩
    exact List.mem_map_of_mem (List.mem_filter.2 ⟨declared, by simpa using named⟩)

theorem pairwise_declarationsOf (name : String) (checkpoints : List Checkpoint) :
    (declarationsOf name checkpoints).Pairwise fun first second =>
      first.1 < second.1 ∨ first.1 = second.1 ∧ compare first.2 second.2 = .lt := by
  have positions : checkpoints.zipIdx.Pairwise fun first second => first.2 < second.2 := by
    rw [← List.pairwise_map (f := Prod.snd), List.zipIdx_map_snd]
    exact List.pairwise_lt_range'
  refine List.pairwise_flatMap.2 ⟨?_, ?_⟩
  · rintro ⟨checkpoint, position⟩ _
    refine List.pairwise_map.2 ((checkpoint.declarations.ascending.filter _).imp ?_)
    intro v w before
    exact Or.inr ⟨rfl, before⟩
  · refine positions.imp ?_
    rintro ⟨checkpoint, position⟩ ⟨checkpoint', position'⟩ before first made second made'
    obtain ⟨v, _, rfl⟩ := List.mem_map.1 made
    obtain ⟨w, _, rfl⟩ := List.mem_map.1 made'
    exact Or.inl before

/-! ## Giving way -/

/-- Of two declarations in a run, the first is of a variable of the body, made before the last callback; the second is
of a variable that is visible only beyond, made after the last callback; and from there on no checkpoint touches the
first variable. -/
structure GivesWay (kind : Handler) (checkpoints : List Checkpoint) (first second : Nat × Variable) : Prop where
  inOrder : first.1 < second.1
  nested : first.2.scope = .nested
  beforeLast : ∃ checkpoint, checkpoints[first.1]? = some checkpoint ∧ checkpoint.callback ≠ kind.terminal
  atEnd : second.2.scope = .atEnd
  afterLast : ∃ checkpoint, checkpoints[second.1]? = some checkpoint ∧ checkpoint.callback = kind.terminal
  untouched : ∀ position ≥ second.1, ∀ checkpoint, checkpoints[position]? = some checkpoint →
    first.2 ∉ checkpoint.touched

theorem GivesWay.length_le_two {kind : Handler} {checkpoints : List Checkpoint}
    {declarations : List (Nat × Variable)} (pairs : declarations.Pairwise (GivesWay kind checkpoints)) :
    declarations.length ≤ 2 := by
  match declarations, pairs with
  | [], _ | [_], _ | [_, _], _ => simp
  | first :: second :: third :: _, pairs =>
    -- the variable of the second would be visible in the body only and beyond only
    have before : GivesWay kind checkpoints first second := List.rel_of_pairwise_cons pairs List.mem_cons_self
    have behind : GivesWay kind checkpoints second third :=
      List.rel_of_pairwise_cons pairs.of_cons List.mem_cons_self
    have both := before.atEnd
    rw [behind.nested] at both
    cases both

/-! ## Scopes that share no region -/

theorem Scope.overlaps_eq_false_iff {left right : Scope} :
    left.overlaps right = false ↔ left = .nested ∧ right = .atEnd ∨ left = .atEnd ∧ right = .nested := by
  cases left <;> cases right <;> decide

namespace Handler

variable {kind : Handler} {buffered : Bool} {callback : Callback}

theorem opening?_atEnd_eq_terminal (kind : Handler) (buffered : Bool) :
    kind.opening? buffered .atEnd = some kind.terminal := by
  cases kind <;> cases buffered <;> rfl

theorem nested_notMem_bound_terminal (kind : Handler) (buffered : Bool) :
    Scope.nested ∉ kind.bound buffered kind.terminal := by
  cases kind <;> cases buffered <;> decide

theorem ne_terminal_of_opening?_nested (opens : kind.opening? buffered .nested = some callback) :
    callback ≠ kind.terminal := by
  rintro rfl
  exact nested_notMem_bound_terminal kind buffered (mem_bound_of_opening? opens)

end Handler

/-! ## Declarations in a run -/

section Run

variable {kind : Handler} {buffered : Bool} {reserved : SortedSet String} {vars : List Variable}
  {path : List Callback} {name : String} {position : Nat} {v : Variable}

theorem mem_declarationsOf_settled :
    (position, v) ∈ declarationsOf name (path.map (.settled kind buffered vars)) ↔
      v.name = name ∧ v ∈ vars ∧ v.declare ∧
        ∃ callback, path[position]? = some callback ∧ kind.opening? buffered v.scope = some callback := by
  rw [mem_declarationsOf]
  constructor
  · rintro ⟨named, checkpoint, inside, declared⟩
    rw [List.getElem?_map, Option.map_eq_some_iff] at inside
    obtain ⟨callback, here, rfl⟩ := inside
    obtain ⟨listed, declare, opens⟩ := Checkpoint.mem_declarations_settled.1 declared
    exact ⟨named, listed, declare, callback, here, opens⟩
  · rintro ⟨named, listed, declare, callback, here, opens⟩
    refine ⟨named, .settled kind buffered vars callback, ?_, ?_⟩
    · rw [List.getElem?_map, here, Option.map_some]
    · exact Checkpoint.mem_declarations_settled.2 ⟨listed, declare, opens⟩

/-- A run opens what can be read in the body only before it opens what can be read beyond only. -/
theorem lt_of_opening?_nested (run : kind.Run buffered path) {callback : Callback} {first second : Nat}
    (here : path[first]? = some callback) (opens : kind.opening? buffered .nested = some callback)
    (there : path[second]? = some kind.terminal) : first < second := by
  have ends := run.add_one_eq_length_of_terminal there
  have bound := (List.getElem?_eq_some_iff.1 here).1
  have apart : first ≠ second := by
    rintro rfl
    cases here.symm.trans there
    exact Handler.ne_terminal_of_opening?_nested opens rfl
  omega

theorem notMem_touched_of_terminal (run : kind.Run buffered path) {last : Nat}
    (ends : path[last]? = some kind.terminal) (nested : v.scope = .nested) (late : last ≤ position)
    {checkpoint : Checkpoint}
    (inside : (path.map (Checkpoint.settled kind buffered vars))[position]? = some checkpoint) :
    v ∉ checkpoint.touched := by
  rw [List.getElem?_map, Option.map_eq_some_iff] at inside
  obtain ⟨callback, here, rfl⟩ := inside
  -- nothing comes after the last callback, so this is its checkpoint
  have bound := (List.getElem?_eq_some_iff.1 here).1
  have length := run.add_one_eq_length_of_terminal ends
  have same : position = last := by omega
  rw [same, ends, Option.some.injEq] at here
  subst here
  rw [Checkpoint.mem_touched_settled, nested]
  rintro ⟨_, binds⟩
  exact Handler.nested_notMem_bound_terminal kind buffered binds

theorem givesWay_run (run : kind.Run buffered path) {w : Variable} {first second : Nat} {callback : Callback}
    (nested : v.scope = .nested) (here : path[first]? = some callback)
    (opens : kind.opening? buffered .nested = some callback) (atEnd : w.scope = .atEnd)
    (there : path[second]? = some kind.terminal) :
    GivesWay kind (path.map (.settled kind buffered vars)) (first, v) (second, w) where
  inOrder := lt_of_opening?_nested run here opens there
  nested := nested
  beforeLast := by
    refine ⟨.settled kind buffered vars callback, ?_, Handler.ne_terminal_of_opening?_nested opens⟩
    rw [List.getElem?_map, here, Option.map_some]
  atEnd := atEnd
  afterLast := by
    refine ⟨.settled kind buffered vars kind.terminal, ?_, rfl⟩
    rw [List.getElem?_map, there, Option.map_some]
  untouched _ late _ inside := notMem_touched_of_terminal run there nested late inside

/-- What opens a scope is reached once in a run, so no variable is declared twice. -/
theorem ne_of_declarationsOf (run : kind.Run buffered path) {w : Variable} {first second : Nat}
    (made : (first, v) ∈ declarationsOf name (path.map (.settled kind buffered vars)))
    (made' : (second, w) ∈ declarationsOf name (path.map (.settled kind buffered vars)))
    (ordered : first < second ∨ first = second ∧ compare v w = .lt) : v ≠ w := by
  rintro rfl
  obtain ⟨_, _, _, callback, here, opens⟩ := mem_declarationsOf_settled.1 made
  obtain ⟨_, _, _, callback', there, opens'⟩ := mem_declarationsOf_settled.1 made'
  rcases ordered with inOrder | ⟨_, before⟩
  · cases opens.symm.trans opens'
    have once : callback ≠ .bodyReiterate := by
      rintro rfl
      exact run.opening?_ne_bodyReiterate v.scope opens
    exact Nat.not_le_of_lt inOrder (run.le_of_getElem? once here there)
  · simp [Std.ReflCmp.compare_self] at before

theorem pairwise_givesWay (free : firstCollision reserved vars = none) (run : kind.Run buffered path)
    (name : String) :
    (declarationsOf name (path.map (.settled kind buffered vars))).Pairwise
      (GivesWay kind (path.map (.settled kind buffered vars))) := by
  refine (pairwise_declarationsOf name _).imp_of_mem ?_
  rintro ⟨first, v⟩ ⟨second, w⟩ made made' ordered
  have different : v ≠ w := ne_of_declarationsOf run made made' ordered
  obtain ⟨named, listed, _, callback, here, opens⟩ := mem_declarationsOf_settled.1 made
  obtain ⟨named', listed', _, callback', there, opens'⟩ := mem_declarationsOf_settled.1 made'
  -- two variables of one name were admitted, so their scopes share no region
  have apart : v.scope.overlaps w.scope = false := by
    rw [← Bool.not_eq_true]
    intro overlaps
    exact different (eq_of_overlaps free listed listed'
      (Variable.overlaps_iff.2 ⟨named.trans named'.symm, overlaps⟩))
  rcases Scope.overlaps_eq_false_iff.1 apart with ⟨nested, atEnd⟩ | ⟨atEnd, nested⟩
  · rw [nested] at opens
    rw [atEnd, Handler.opening?_atEnd_eq_terminal] at opens'
    cases opens'
    exact givesWay_run run nested here opens atEnd there
  · -- the other way round, the declarations would stand in the other order
    rw [atEnd, Handler.opening?_atEnd_eq_terminal] at opens
    rw [nested] at opens'
    cases opens
    have backwards := lt_of_opening?_nested run there opens' here
    simp only at ordered
    omega

end Run

/-! ## Plans that a resolver gives -/

theorem Checkpoint.pairwise_names_settled {kind : Handler} {buffered : Bool} {reserved : SortedSet String}
    {vars : List Variable} (free : firstCollision reserved vars = none) (callback : Callback) :
    (settled kind buffered vars callback).names.Pairwise (· < ·) := by
  refine List.pairwise_map.2 ((settled kind buffered vars callback).touched.ascending.imp_of_mem ?_)
  intro v w touches touches' before
  rcases Ordering.isLE_iff_eq_lt_or_eq_eq.1 (Variable.name_isLE_of_lt before) with lower | same
  · exact compareOfLessAndEq_eq_lt.1 lower
  · have equal := eq_of_name_eq free touches touches' (Std.LawfulEqOrd.eq_of_compare same)
    simp [equal, Std.ReflCmp.compare_self] at before

section Answered

variable {settings : Settings} {calls : List Call} {question : Question} {vars : List Variable}
  {kind : Handler} {issue : Issue} {decision : BodyDecision} {passes room : Int} {path : List Callback}

/-- No checkpoint of a plan, nor of a replay over any run, touches two variables of one name.  Over a whole run a name
is declared twice at most, and then first for a variable of the body and after the last callback for a variable of
what follows, when the variable of the body is no longer touched. -/
theorem History.bindings_apart (read : question.key? = some (vars, kind))
    (answered : ((History.after settings calls).resolver.ask question).2.outcome = .ok issue)
    (ran : kind.trace decision passes room = .ok path) :
    let replay := issue.plan.replay path
    replay.fault = none ∧ replay.reached.map Checkpoint.callback = path ∧
      (∀ checkpoint, checkpoint ∈ issue.plan.checkpoints ∨ checkpoint ∈ replay.reached →
        (∀ v ∈ checkpoint.touched, ∀ w ∈ checkpoint.touched, v.name = w.name → v = w) ∧
        checkpoint.names.Pairwise (· < ·)) ∧
      ∀ name, (declarationsOf name replay.reached).length ≤ 2 ∧
        (declarationsOf name replay.reached).Pairwise (GivesWay kind replay.reached) := by
  obtain ⟨free, plan, buffered, run, replay⟩ := replay_of_answered read answered ran
  rw [replay, plan, Plan.checkpoints_ofVariables (nodup_of_firstCollision_eq_none free)]
  refine ⟨rfl, ?_, ?_, ?_⟩
  · rw [List.map_map]
    exact List.map_id' path
  · intro checkpoint inside
    -- both in the plan and in the replay every checkpoint is settled
    have settles : ∃ buffered callback, checkpoint = .settled kind buffered vars callback := by
      rcases inside with inside | inside
      · obtain ⟨callback, _, rfl⟩ := List.mem_map.1 inside
        exact ⟨false, callback, rfl⟩
      · obtain ⟨callback, _, rfl⟩ := List.mem_map.1 inside
        exact ⟨buffered, callback, rfl⟩
    obtain ⟨buffered, callback, rfl⟩ := settles
    exact ⟨fun v touches w touches' => Checkpoint.eq_of_name_eq free touches touches',
      Checkpoint.pairwise_names_settled free callback⟩
  · intro name
    have pairs := pairwise_givesWay free run name
    exact ⟨GivesWay.length_le_two pairs, pairs⟩

/-- The row is declared when the body begins and once more beyond it. -/
theorem History.bindings_apart_rows :
    Rows.question.key? = some (Rows.vars, .bodyBuffering) ∧
      ((History.after .usual [.ask Rows.question]).resolver.ask Rows.question).2.outcome =
        .ok ⟨Rows.plan, 0⟩ ∧
      Handler.trace .bodyBuffering .buffered 2 = .ok Rows.path ∧
      declarationsOf "row" (Rows.plan.replay Rows.path).reached = [(1, Rows.inBody), (4, Rows.beyond)] ∧
      GivesWay .bodyBuffering (Rows.plan.replay Rows.path).reached (1, Rows.inBody) (4, Rows.beyond) := by
  have read : Rows.question.key? = some (Rows.vars, .bodyBuffering) := by rfl
  have answered : ((History.after .usual [.ask Rows.question]).resolver.ask Rows.question).2.outcome =
      .ok ⟨Rows.plan, 0⟩ := by rfl
  have ran : Handler.trace .bodyBuffering .buffered 2 = .ok Rows.path := by rfl
  have declared : declarationsOf "row" (Rows.plan.replay Rows.path).reached =
      [(1, Rows.inBody), (4, Rows.beyond)] := by rfl
  have pairs := ((bindings_apart read answered ran).2.2.2 "row").2
  refine ⟨read, answered, ran, declared, ?_⟩
  have pair := List.pairwise_cons.1 (declared ▸ pairs)
  exact pair.1 _ (List.mem_singleton.2 rfl)

end Answered

end TagBinding
