import TagBinding.Proofs.History
import TagBinding.Proofs.Memo

/-! # What a resolver remembers

A plan is remembered by its age alone: after any run, the memory holds exactly the newest of the plans that
were computed since it was last cleared, as many as there is room for (`History.Retained`).  Answers from the
memory do not make a plan any younger, and what fails leaves no trace.

* `Latest` — the latest plan that was computed for a key, and its age in plans computed after it.
* `History.Retained.find?_eq_some_iff` — a look-up finds a plan exactly if it is the latest of its key and there
  is still room for it.
-/

namespace TagBinding

/-- Of some computed plans, oldest first, this one is the latest for its key, and so many came after it. -/
def Latest (misses : List (PlanKey × Issue)) (key : PlanKey) (issue : Issue) (age : Nat) : Prop :=
  ∃ earlier later, misses = earlier ++ (key, issue) :: later ∧ key ∉ later.map Prod.fst ∧
    later.length = age

namespace History

variable {history : History} {settings : Settings} {calls : List Call}

/-- The memory holds the newest plans that were computed since it was cleared, each key at most once.  Every
plan has a number of its own, below the number of the next. -/
structure Retained (history : History) : Prop where
  newest : history.resolver.memo.entries = history.misses.rtake history.resolver.settings.capacity
  distinct : history.resolver.memo.keys.Nodup
  numbered : history.misses.Pairwise fun miss miss' => miss.2.serial < miss'.2.serial
  below : ∀ miss ∈ history.misses, miss.2.serial < history.resolver.computed

theorem retained_of_empty (empty : history.resolver.memo = .empty) (none : history.misses = []) :
    history.Retained where
  newest := by
    rw [empty, none]
    simp [Memo.empty]
  distinct := by
    rw [empty]
    exact List.nodup_nil
  numbered := by
    rw [none]
    exact .nil
  below := by
    intro miss member
    rw [none] at member
    cases member

theorem Retained.ask (retained : history.Retained) (question : Question) :
    (history.take (.ask question)).Retained := by
  rcases history.take_ask_cases question with unchanged | ⟨vars, kind, _, absent, _, changed⟩
  · rw [unchanged]
    exact retained
  · rw [changed]
    refine ⟨Memo.entries_store retained.newest, Memo.nodup_keys_store retained.distinct absent, ?_, ?_⟩
    · -- the new plan has the number that all others are below
      rw [List.pairwise_append]
      refine ⟨retained.numbered, List.pairwise_singleton _ _, ?_⟩
      intro miss member new same
      rw [List.mem_singleton.1 same]
      exact retained.below miss member
    · intro miss member
      rcases List.mem_append.1 member with old | new
      · exact Nat.lt_succ_of_lt (retained.below miss old)
      · rw [List.mem_singleton.1 new]
        exact Nat.lt_succ_self _

theorem retained_after (settings : Settings) (calls : List Call) : (after settings calls).Retained := by
  refine (after_induction Retained (retained_of_empty rfl rfl) ?_ calls).2
  intro history call _ retained
  cases call with
  | clear => exact retained_of_empty rfl rfl
  | ask question => exact retained.ask question

theorem Retained.keys_eq (retained : history.Retained) :
    history.resolver.memo.keys =
      (history.misses.rtake (min history.resolver.settings.capacity history.misses.length)).map Prod.fst := by
  rw [Memo.keys, retained.newest]
  congr 1
  simp only [List.rtake]
  congr 1
  omega

theorem Retained.length_keys_le (retained : history.Retained) :
    history.resolver.memo.keys.length ≤ history.resolver.settings.capacity := by
  rw [retained.keys_eq, List.length_map, List.rtake, List.length_drop]
  omega

/-- A look-up finds a plan exactly if it is the latest of its key and young enough. -/
theorem Retained.find?_eq_some_iff (retained : history.Retained) {key : PlanKey} {issue : Issue} :
    history.resolver.memo.find? key = some issue ↔
      ∃ age < history.resolver.settings.capacity, Latest history.misses key issue age := by
  rw [Memo.find?_eq_some_iff retained.distinct, retained.newest]
  constructor
  · intro member
    obtain ⟨before, later, split⟩ := List.append_of_mem member
    -- no key stands twice among what is held, so this entry is the latest of its key
    have distinct := retained.distinct
    rw [Memo.keys, retained.newest, split, List.map_append, List.map_cons, List.nodup_append] at distinct
    let older := history.misses.take (history.misses.length - history.resolver.settings.capacity)
    refine ⟨later.length, ?_, older ++ before, later, ?_, (List.nodup_cons.1 distinct.2.1).1, rfl⟩
    · have bound := congrArg List.length split
      simp only [List.rtake, List.length_drop, List.length_append, List.length_cons] at bound
      omega
    · -- what the memory gave up, then what it holds
      have whole := List.take_append_drop
        (history.misses.length - history.resolver.settings.capacity) history.misses
      rw [← List.rtake, split, ← List.append_assoc] at whole
      exact whole.symm
  · rintro ⟨_, young, earlier, later, split, _, rfl⟩
    -- too few came later to push the entry out
    have drops : (earlier ++ (key, issue) :: later).length - history.resolver.settings.capacity ≤
        earlier.length := by
      simp only [List.length_append, List.length_cons]
      omega
    rw [split, List.rtake, List.drop_append_of_le_length drops]
    exact List.mem_append_right _ List.mem_cons_self

/-- After any run the memory holds the newest of the plans computed since it was last cleared, as many as
there is room for.  So a question that can be read is answered from it exactly if a plan was computed for its
key since then, and fewer than there is room for came after the latest such plan; the answer is that plan
itself, by its number. -/
theorem memory_after (settings : Settings) (calls : List Call) :
    let history := after settings calls
    let memo := history.resolver.memo
    memo.keys = (history.misses.rtake (min settings.capacity history.misses.length)).map Prod.fst ∧
      memo.keys.Nodup ∧ memo.keys.length ≤ settings.capacity ∧
      (history.misses.Pairwise fun miss miss' => miss.2.serial < miss'.2.serial) ∧
      ∀ question key, question.key? = some key →
        (history.resolver.recalls question ↔
          ∃ issue, ∃ age < settings.capacity, Latest history.misses key issue age) ∧
        (∀ issue, ∀ age < settings.capacity, Latest history.misses key issue age →
          history.resolver.ask question =
            (history.resolver, ⟨.ok issue, [.recalled key.2 key.1.length]⟩)) ∧
        (history.resolver.ask question).2.log.any Event.isRecalled = history.resolver.recalls question ∧
        ∀ miss, history.resolver.miss? question = some miss →
          miss.1 = key ∧
            (history.resolver.ask question).2 = ⟨.ok miss.2, [.computed key.2 key.1.length]⟩ := by
  intro history memo
  -- the invariant of all runs says what is held; the rest is what a question does on such a memory
  have retained : history.Retained := retained_after settings calls
  have same : history.resolver.settings = settings := settings_after settings calls
  have finds : ∀ key issue, memo.find? key = some issue ↔
      ∃ age < settings.capacity, Latest history.misses key issue age := by
    intro key issue
    rw [retained.find?_eq_some_iff, same]
  have keys := retained.keys_eq
  have bound := retained.length_keys_le
  rw [same] at keys bound
  refine ⟨keys, retained.distinct, bound, retained.numbered, ?_⟩
  intro question key read
  refine ⟨?_, ?_, Resolver.any_isRecalled_log _ question, ?_⟩
  · rw [Resolver.recalls, read, Option.bind_some, Option.isSome_iff_exists]
    exact exists_congr (finds key)
  · intro issue age young latest
    exact Resolver.ask_of_find?_eq_some read ((finds key issue).2 ⟨age, young, latest⟩)
  · intro miss missed
    obtain ⟨read', answer⟩ := Resolver.ask_of_miss? missed
    cases read.symm.trans read'
    exact ⟨rfl, answer⟩

end History

end TagBinding
