import TagBinding.Proofs.History
import TagBinding.Proofs.Memo

/-! # The memory cannot be seen in the answers

A plan from the memory is handed out without the check for collisions and without a computation.  That is
right because of what is in the memory after any run: each plan there is the one that its variables and its
kind have, and the check was passed when it was stored (`History.genuine_after`).  So the answers of a run
are those of resolvers without a memory.
-/

namespace TagBinding

/-- An entry that a resolver with these reserved names may answer with: its variables do not collide, and its
plan is the plan of its key. -/
structure Memo.Genuine (reserved : SortedSet String) (entry : PlanKey × Issue) : Prop where
  free : firstCollision reserved entry.1.1 = none
  plan : entry.2.plan = Plan.ofVariables entry.1.2 entry.1.1

namespace History

theorem genuine_take {history : History} {reserved : SortedSet String}
    (same : history.resolver.settings.reserved = reserved)
    (genuine : ∀ entry ∈ history.resolver.memo.entries, Memo.Genuine reserved entry) (call : Call) :
    ∀ entry ∈ (history.take call).resolver.memo.entries, Memo.Genuine reserved entry := by
  cases call with
  | clear =>
    intro entry member
    cases member
  | ask question =>
    rcases history.take_ask_cases question with unchanged | ⟨vars, kind, _, _, free, changed⟩
    · rw [unchanged]
      exact genuine
    · rw [changed]
      intro entry member
      rcases Memo.mem_entries_of_mem_store member with old | new
      · exact genuine entry old
      · -- what is stored has just passed the check
        subst new
        exact ⟨same ▸ free, rfl⟩

theorem genuine_after (settings : Settings) (calls : List Call) :
    ∀ entry ∈ (after settings calls).resolver.memo.entries, Memo.Genuine settings.reserved entry := by
  refine (after_induction (fun history =>
    ∀ entry ∈ history.resolver.memo.entries, Memo.Genuine settings.reserved entry) ?_ ?_ calls).2
  · intro entry member
    cases member
  · intro history call same genuine
    exact genuine_take (by rw [same]) genuine call

end History

namespace Resolver

variable {resolver : Resolver} {question : Question} {vars : List Variable} {kind : Handler}

/-- The outcome of a question to a new resolver that keeps no plans. -/
def outcomeWithoutMemory (reserved : SortedSet String) (question : Question) : Except Refusal Plan :=
  ((fresh ⟨0, reserved⟩).ask question).2.outcome.map Issue.plan

/-- As long as its memory is genuine, a resolver answers as if it had none. -/
theorem outcome_ask_of_genuine (question : Question)
    (genuine : ∀ entry ∈ resolver.memo.entries, Memo.Genuine resolver.settings.reserved entry) :
    (resolver.ask question).2.outcome.map Issue.plan =
      outcomeWithoutMemory resolver.settings.reserved question := by
  unfold outcomeWithoutMemory
  cases read : question.key? with
  | none =>
    obtain ⟨refusal, refused⟩ := ask_of_key?_eq_none read
    rw [refused, refused]
  | some key =>
    obtain ⟨vars, kind⟩ := key
    have nothing : (fresh ⟨0, resolver.settings.reserved⟩).memo.find? (vars, kind) = none := rfl
    cases found : resolver.memo.find? (vars, kind) with
    | some issue =>
      -- the check that the look-up skips would be passed
      obtain ⟨free, plan⟩ := genuine _ (Memo.mem_entries_of_find? found)
      rw [ask_of_find?_eq_some read found, ask_of_firstCollision_eq_none read nothing free]
      exact congrArg Except.ok plan
    | none =>
      cases collides : firstCollision resolver.settings.reserved vars with
      | some collision =>
        rw [ask_of_firstCollision_eq_some read found collides,
          ask_of_firstCollision_eq_some read nothing collides]
      | none =>
        rw [ask_of_firstCollision_eq_none read found collides,
          ask_of_firstCollision_eq_none read nothing collides]
        rfl

/-- The plan that a resolver with a genuine memory answers with is that of the list and the kind asked for, and
the list is one that the check lets through. -/
theorem plan_of_answered {issue : Issue}
    (genuine : ∀ entry ∈ resolver.memo.entries, Memo.Genuine resolver.settings.reserved entry)
    (answered : (resolver.ask question).2.outcome = .ok issue) :
    ∃ vars kind, question.key? = some (vars, kind) ∧
      firstCollision resolver.settings.reserved vars = none ∧ issue.plan = Plan.ofVariables kind vars := by
  cases resolver.asked question with
  | unread refusal unread refused =>
    rw [refused] at answered
    cases answered
  | recalled vars kind issue' read found recalled =>
    rw [recalled] at answered
    cases answered
    obtain ⟨free, plan⟩ := genuine _ (Memo.mem_entries_of_find? found)
    exact ⟨vars, kind, read, free, plan⟩
  | collided vars kind collision read absent collides refused =>
    rw [refused] at answered
    cases answered
  | computed vars kind read absent free computed =>
    -- here the check and the computation were made for this very question
    rw [computed] at answered
    cases answered
    exact ⟨vars, kind, read, free, rfl⟩

end Resolver

namespace History

theorem outcomes_of_genuine (history : History)
    (genuine : ∀ entry ∈ history.resolver.memo.entries,
      Memo.Genuine history.resolver.settings.reserved entry) (calls : List Call) :
    (history.answers calls).map (fun answer => answer.outcome.map Issue.plan) =
      (calls.filterMap Call.question?).map
        (Resolver.outcomeWithoutMemory history.resolver.settings.reserved) := by
  induction calls generalizing history with
  | nil => rfl
  | cons call later ih =>
    have rest := ih (history.take call) (by
      rw [settings_take]
      exact genuine_take rfl genuine call)
    rw [settings_take] at rest
    cases call with
    | clear => exact rest
    | ask question =>
      simp only [answers, List.map_cons, rest, Resolver.outcome_ask_of_genuine question genuine]
      rfl

/-- The memory of a resolver in use is genuine by the resolver's own settings. -/
theorem genuine_own (settings : Settings) (calls : List Call) :
    ∀ entry ∈ (after settings calls).resolver.memo.entries,
      Memo.Genuine (after settings calls).resolver.settings.reserved entry := by
  rw [settings_after]
  exact genuine_after settings calls

theorem outcome_eq_without_memory (settings : Settings) (calls : List Call) (question : Question) :
    ((after settings calls).resolver.ask question).2.outcome.map Issue.plan =
      Resolver.outcomeWithoutMemory settings.reserved question := by
  rw [Resolver.outcome_ask_of_genuine question (genuine_own settings calls), settings_after]

/-- Every plan that a resolver in use answers with is the plan of its list and kind, and the list is free of
collisions. -/
theorem plan_of_answered {settings : Settings} {calls : List Call} {question : Question} {issue : Issue}
    (answered : ((after settings calls).resolver.ask question).2.outcome = .ok issue) :
    ∃ vars kind, question.key? = some (vars, kind) ∧
      firstCollision settings.reserved vars = none ∧ issue.plan = Plan.ofVariables kind vars := by
  obtain ⟨vars, kind, read, free, plan⟩ := Resolver.plan_of_answered (genuine_own settings calls) answered
  rw [settings_after] at free
  exact ⟨vars, kind, read, free, plan⟩

/-- In any run, every question has the outcome that it has without a memory.  In particular an answer from the
memory is the plan of its own list and kind, and never of a list that would be refused. -/
theorem outcomes_eq_without_memory (settings : Settings) (calls : List Call) :
    ((start settings).answers calls).map (fun answer => answer.outcome.map Issue.plan) =
        (calls.filterMap Call.question?).map (Resolver.outcomeWithoutMemory settings.reserved) ∧
      ∀ question, ((after settings calls).resolver.ask question).2.log.any Event.isRecalled →
        ∃ vars kind issue, question.key? = some (vars, kind) ∧
          ((after settings calls).resolver.ask question).2.outcome = .ok issue ∧
          firstCollision settings.reserved vars = none ∧ issue.plan = Plan.ofVariables kind vars := by
  constructor
  · refine outcomes_of_genuine (start settings) ?_ calls
    intro entry member
    cases member
  · intro question recalled
    rw [Resolver.any_isRecalled_log, Resolver.recalls_iff] at recalled
    obtain ⟨⟨vars, kind⟩, issue, read, found⟩ := recalled
    -- a plan from the memory is an answer like any other
    have answered : ((after settings calls).resolver.ask question).2.outcome = .ok issue := by
      rw [Resolver.ask_of_find?_eq_some read found]
    obtain ⟨vars', kind', read', free, plan⟩ := plan_of_answered answered
    exact ⟨vars', kind', issue, read', answered, free, plan⟩

end History

end TagBinding
