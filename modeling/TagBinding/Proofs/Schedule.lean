import TagBinding.Schedule

/-! # Where scopes are bound

The schedule tells the scopes to refresh after each callback.  A run through a buffered body departs from it
in one place: the body has not begun when the first callback returns, so no variable of the body is bound
there.

* `Handler.bound` — the scopes whose variables a callback binds, in a run of either sort.
* `Handler.opening?` — the first callback of a kind that binds the variables of a scope.
* `Handler.visible` — whether the variables of a scope can be read once a callback has returned.  The schedule
  refreshes exactly what can be read (`Handler.mem_refreshed_iff`).
-/

namespace TagBinding

namespace Handler

/-- The scopes whose variables a callback binds, in a run with or without a buffered body. -/
def bound (kind : Handler) (buffered : Bool) (callback : Callback) : List Scope :=
  if buffered && callback == .start then (kind.refreshed callback).filter (· != .nested)
  else kind.refreshed callback

/-- The first callback of a kind that binds the variables of a scope. -/
def opening? (kind : Handler) (buffered : Bool) (scope : Scope) : Option Callback :=
  kind.callbacks.find? fun callback => (kind.bound buffered callback).contains scope

theorem bound_false (kind : Handler) (callback : Callback) :
    kind.bound false callback = kind.refreshed callback := rfl

theorem mem_bound_of_opening? {kind : Handler} {buffered : Bool} {scope : Scope} {callback : Callback}
    (opens : kind.opening? buffered scope = some callback) : scope ∈ kind.bound buffered callback := by
  simpa using List.find?_some opens

section BodyBuffering

variable (buffered : Bool)

@[simp] theorem bound_start :
    bound .bodyBuffering buffered .start = if buffered then [.atBegin] else aroundBody := by
  cases buffered <;> rfl

@[simp] theorem bound_bodyInit : bound .bodyBuffering buffered .bodyInit = aroundBody := by
  cases buffered <;> rfl

@[simp] theorem bound_bodyReiterate : bound .bodyBuffering buffered .bodyReiterate = aroundBody := by
  cases buffered <;> rfl

@[simp] theorem bound_finish : bound .bodyBuffering buffered .finish = afterLast := by
  cases buffered <;> rfl

@[simp] theorem opening?_nested :
    opening? .bodyBuffering buffered .nested = some (if buffered then .bodyInit else .start) := by
  cases buffered <;> rfl

@[simp] theorem opening?_atBegin : opening? .bodyBuffering buffered .atBegin = some .start := by
  cases buffered <;> rfl

@[simp] theorem opening?_atEnd : opening? .bodyBuffering buffered .atEnd = some .finish := by
  cases buffered <;> rfl

end BodyBuffering

theorem find?_binds_iff {kind : Handler} {buffered : Bool} {scope : Scope} {callback : Callback}
    {callbacks earlier later : List Callback} (split : callbacks = earlier ++ callback :: later)
    (binds : scope ∈ kind.bound buffered callback)
    (once : callbacks.find? (fun other => (kind.bound buffered other).contains scope) = some callback →
      callback ∉ earlier) :
    callbacks.find? (fun other => (kind.bound buffered other).contains scope) = some callback ↔
      ∀ before ∈ earlier, scope ∉ kind.bound buffered before := by
  constructor
  · intro opens before member binds'
    -- the search would have stopped before, at a callback that `once` excludes
    have absent := once opens
    rw [split, List.find?_append] at opens
    cases found : earlier.find? fun other => (kind.bound buffered other).contains scope with
    | none =>
      have unbound := List.find?_eq_none.1 found before member
      simp [binds'] at unbound
    | some other =>
      rw [found] at opens
      cases opens
      exact absent (List.mem_of_find?_eq_some found)
  · intro first
    have none : (earlier.find? fun other => (kind.bound buffered other).contains scope) = none := by
      rw [List.find?_eq_none]
      intro before member
      simpa using first before member
    rw [split, List.find?_append, none, Option.none_or, List.find?_cons]
    simp [binds]

theorem opening?_eq_some_iff {kind : Handler} {buffered : Bool} {scope : Scope} {callback : Callback}
    {earlier later : List Callback} (split : kind.callbacks = earlier ++ callback :: later)
    (binds : scope ∈ kind.bound buffered callback) :
    kind.opening? buffered scope = some callback ↔
      ∀ before ∈ earlier, scope ∉ kind.bound buffered before := by
  refine find?_binds_iff split binds fun _ member => ?_
  -- the callbacks of a kind do not repeat
  have once := kind.callbacks_nodup
  rw [split, List.nodup_append] at once
  exact once.2.2 callback member callback List.mem_cons_self rfl

theorem exists_opening?_iff (kind : Handler) (scope : Scope) :
    (∃ callback ∈ kind.callbacks, kind.opening? false scope = some callback) ↔
      ¬ (kind = .simple ∧ scope = .nested) := by
  cases kind <;> cases scope <;> decide

/-! ## Visibility -/

/-- Whether the variables of a scope can be read once a callback has returned: beyond the tag after the last
callback, in the body after any other. -/
def visible (kind : Handler) (callback : Callback) (scope : Scope) : Bool :=
  if callback = kind.terminal then scope.reachesBeyond else scope.reachesBody

theorem mem_refreshed_iff {kind : Handler} {callback : Callback} (known : callback ∈ kind.callbacks)
    (scope : Scope) : scope ∈ kind.refreshed callback ↔ kind.visible callback scope := by
  revert known
  cases kind <;> cases callback <;> cases scope <;> decide

theorem mem_bound_iff {kind : Handler} {buffered : Bool} {callback : Callback}
    (known : callback ∈ kind.callbacks) {scope : Scope} :
    scope ∈ kind.bound buffered callback ↔
      kind.visible callback scope ∧ ¬ (buffered = true ∧ callback = .start ∧ scope = .nested) := by
  rw [← mem_refreshed_iff known, bound]
  cases buffered with
  | false => simp
  | true =>
    by_cases starts : callback = .start
    · simp [starts]
    · simp [starts]

end Handler

end TagBinding
