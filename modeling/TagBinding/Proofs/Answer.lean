import Mathlib.Data.List.Forall2

/-! # Answers and faults

What an answer made of steps comes to: its result if every step has one (`bind_eq_ok_iff`), or the fault of the first
step that fails.  A list that is read item by item comes to its results in order (`mapM_eq_ok_iff`), or to the fault of
the first item that has one (`mapM_eq_error_iff`).
-/

namespace TagBinding

/-! ## Steps -/

/-- Two steps succeed if the first one does, and the second one with what the first one found. -/
theorem bind_eq_ok_iff {α β ε : Type} {first : Except ε α} {next : α → Except ε β} {result : β} :
    (first >>= next) = .ok result ↔ ∃ found, first = .ok found ∧ next found = .ok result := by
  cases first <;> simp [bind, Except.bind]

theorem mapError_eq_ok_iff {α ε δ : Type} {wrap : ε → δ} {answer : Except ε α} {result : α} :
    answer.mapError wrap = .ok result ↔ answer = .ok result := by
  constructor
  · intro same
    cases answer with
    | ok found => rw [Except.ok.inj same]
    | error fault => cases same
  · rintro rfl
    rfl

/-- The fault of an answer that has no result. -/
def fault? {α ε : Type} : Except ε α → Option ε
  | .ok _ => none
  | .error fault => some fault

theorem fault?_eq_some_iff {α ε : Type} {answer : Except ε α} {fault : ε} :
    fault? answer = some fault ↔ answer = .error fault := by
  cases answer <;> simp [fault?]

theorem fault?_eq_none_iff {α ε : Type} {answer : Except ε α} :
    fault? answer = none ↔ ∃ result, answer = .ok result := by
  cases answer <;> simp [fault?]

theorem fault?_mapError {α ε δ : Type} {answer : Except ε α} {wrap : ε → δ} :
    fault? (answer.mapError wrap) = (fault? answer).map wrap := by
  cases answer <;> rfl

/-! ## Reading a list in order -/

section Reading

variable {α β ε : Type} {read : α → Except ε β} {item : α} {items rest : List α} {fault : ε}

theorem mapM_cons_of_error (failed : read item = .error fault) : (item :: rest).mapM read = .error fault := by
  rw [List.mapM_cons, failed]
  rfl

theorem mapM_cons_of_ok {result : β} (done : read item = .ok result) :
    (item :: rest).mapM read = (rest.mapM read).map (result :: ·) := by
  rw [List.mapM_cons, done]
  cases rest.mapM read <;> rfl

theorem mapM_eq_ok_iff {results : List β} :
    items.mapM read = .ok results ↔ List.Forall₂ (fun item result => read item = .ok result) items results := by
  -- an item that fails has no result to stand beside it; one that has a result leaves the rest to the induction
  induction items generalizing results with
  | nil =>
    rw [List.forall₂_nil_left_iff, List.mapM_nil]
    constructor
    · intro same
      exact (Except.ok.inj same).symm
    · rintro rfl
      rfl
  | cons item rest ih =>
    rw [List.forall₂_cons_left_iff]
    cases here : read item with
    | error fault => simp [mapM_cons_of_error here]
    | ok result =>
      rw [mapM_cons_of_ok here]
      constructor
      · intro same
        cases there : rest.mapM read with
        | error fault =>
          rw [there] at same
          cases same
        | ok others =>
          rw [there] at same
          exact ⟨result, others, rfl, ih.1 there, (Except.ok.inj same).symm⟩
      · rintro ⟨_, others, same, there, rfl⟩
        rw [ih.2 there, Except.ok.inj same]
        rfl

theorem mapM_eq_error_iff :
    items.mapM read = .error fault ↔
      ∃ before item after, items = before ++ item :: after ∧ (∀ earlier ∈ before, ∃ result, read earlier = .ok result) ∧
        read item = .error fault := by
  induction items with
  | nil => simp [pure, Except.pure]
  | cons item rest ih =>
    cases here : read item with
    | error found =>
      rw [mapM_cons_of_error here]
      constructor
      · intro same
        cases same
        exact ⟨[], item, rest, rfl, by simp, here⟩
      · rintro ⟨before, other, after, split, done, failed⟩
        -- nothing can come before an item that fails
        cases before with
        | nil =>
          cases split
          rw [here] at failed
          cases failed
          rfl
        | cons first before =>
          cases split
          obtain ⟨result, ok⟩ := done _ List.mem_cons_self
          rw [here] at ok
          cases ok
    | ok result =>
      have skip : (item :: rest).mapM read = .error fault ↔ rest.mapM read = .error fault := by
        rw [mapM_cons_of_ok here]
        cases rest.mapM read <;> simp [Except.map]
      rw [skip, ih]
      constructor
      · rintro ⟨before, other, after, rfl, done, failed⟩
        exact ⟨item :: before, other, after, rfl, List.forall_mem_cons.2 ⟨⟨result, here⟩, done⟩, failed⟩
      · rintro ⟨before, other, after, split, done, failed⟩
        cases before with
        | nil =>
          cases split
          rw [here] at failed
          cases failed
        | cons first before =>
          cases split
          exact ⟨before, other, after, rfl, (List.forall_mem_cons.1 done).2, failed⟩

theorem exists_mapM_eq_ok_iff :
    (∃ results, items.mapM read = .ok results) ↔ ∀ item ∈ items, ∃ result, read item = .ok result := by
  induction items with
  | nil => simp [pure, Except.pure]
  | cons item rest ih =>
    rw [List.forall_mem_cons, ← ih]
    cases here : read item with
    | error fault => simp [mapM_cons_of_error here]
    | ok result =>
      rw [mapM_cons_of_ok here]
      cases rest.mapM read <;> simp [Except.map]

theorem mapM_congr {left right : α → Except ε β} (same : ∀ item ∈ items, left item = right item) :
    items.mapM left = items.mapM right := by
  induction items with
  | nil => rfl
  | cons item rest ih =>
    obtain ⟨here, there⟩ := List.forall_mem_cons.1 same
    rw [List.mapM_cons, List.mapM_cons, here, ih there]

end Reading

end TagBinding
