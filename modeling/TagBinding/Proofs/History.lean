import TagBinding.Resolver

/-! # Runs of a resolver

A resolver in use is asked questions, and now and then it is told to forget its plans.

* `Question.key?` — the variables and the kind that a question comes down to once it is read.
* `Resolver.Asked` — the four ways that a question can go: it cannot be read, it is answered from the
  memory, its variables collide, or a plan is computed.  Everything about runs is derived from
  `Resolver.asked`; nothing else looks into `Resolver.ask`.
* `History` — a resolver after some calls, together with the plans it has computed since its memory was
  last cleared.
-/

namespace TagBinding

/-! ## One question -/

/-- The variables and the kind that a question comes down to, if its kind is recognised and each of its
elements has a scope. -/
def Question.key? (question : Question) : Option PlanKey :=
  match Handler.recognize question.kind, Element.toVariables question.elements with
  | .ok kind, .ok vars => some (vars, kind)
  | _, _ => none

namespace Resolver

variable {resolver : Resolver} {question : Question} {vars : List Variable} {kind : Handler}

/-- The plan that a resolver would compute now. -/
def nextIssue (resolver : Resolver) (vars : List Variable) (kind : Handler) : Issue :=
  ⟨Plan.ofVariables kind vars, resolver.computed⟩

def withNextIssue (resolver : Resolver) (vars : List Variable) (kind : Handler) : Resolver :=
  { resolver with
    memo := resolver.memo.store resolver.settings.capacity (vars, kind) (resolver.nextIssue vars kind)
    computed := resolver.computed + 1 }

theorem ask_of_recognize_eq_error {fault : UnknownKind}
    (unknown : Handler.recognize question.kind = .error fault) :
    resolver.ask question = (resolver, ⟨.error (.unknownKind fault), []⟩) := by
  rw [ask, unknown]

theorem ask_of_toVariables_eq_error {element : Element}
    (known : Handler.recognize question.kind = .ok kind)
    (unscoped : Element.toVariables question.elements = .error element) :
    resolver.ask question =
      (resolver, ⟨.error (.diagnosed (.ofCause (.unscoped element) question.invocation)), []⟩) := by
  rw [ask, known]
  simp only [unscoped]

theorem ask_of_key?_eq_none (unread : question.key? = none) :
    ∃ refusal, ∀ resolver : Resolver, resolver.ask question = (resolver, ⟨.error refusal, []⟩) := by
  unfold Question.key? at unread
  cases recognized : Handler.recognize question.kind with
  | error fault => exact ⟨_, fun resolver => ask_of_recognize_eq_error recognized⟩
  | ok kind =>
    cases listed : Element.toVariables question.elements with
    | error element => exact ⟨_, fun resolver => ask_of_toVariables_eq_error recognized listed⟩
    | ok vars => simp [recognized, listed] at unread

theorem ask_of_key?_eq_some (read : question.key? = some (vars, kind)) :
    resolver.ask question = resolver.answer vars kind question.invocation := by
  unfold Question.key? at read
  split at read
  · next kind' vars' recognized listed =>
    simp only [Option.some.injEq, Prod.mk.injEq] at read
    obtain ⟨rfl, rfl⟩ := read
    rw [ask, recognized]
    simp only [listed]
  · cases read

theorem ask_of_find?_eq_some {issue : Issue} (read : question.key? = some (vars, kind))
    (found : resolver.memo.find? (vars, kind) = some issue) :
    resolver.ask question = (resolver, ⟨.ok issue, [.recalled kind vars.length]⟩) := by
  rw [ask_of_key?_eq_some read, answer, found]

theorem ask_of_firstCollision_eq_some {collision : Collision} (read : question.key? = some (vars, kind))
    (absent : resolver.memo.find? (vars, kind) = none)
    (collides : firstCollision resolver.settings.reserved vars = some collision) :
    resolver.ask question =
      (resolver, ⟨.error (.diagnosed (collision.diagnostic question.invocation)), [collision.event]⟩) := by
  rw [ask_of_key?_eq_some read, answer, absent]
  simp only [resolve, collides]

theorem ask_of_firstCollision_eq_none (read : question.key? = some (vars, kind))
    (absent : resolver.memo.find? (vars, kind) = none)
    (free : firstCollision resolver.settings.reserved vars = none) :
    resolver.ask question = (resolver.withNextIssue vars kind,
      ⟨.ok (resolver.nextIssue vars kind), [.computed kind vars.length]⟩) := by
  rw [ask_of_key?_eq_some read, answer, absent]
  simp only [resolve, free]
  rfl

/-- The ways that a question to a resolver can go. -/
inductive Asked (resolver : Resolver) (question : Question) : Prop where
  | unread (refusal : Refusal) (unread : question.key? = none)
      (answered : resolver.ask question = (resolver, ⟨.error refusal, []⟩))
  | recalled (vars : List Variable) (kind : Handler) (issue : Issue)
      (read : question.key? = some (vars, kind))
      (found : resolver.memo.find? (vars, kind) = some issue)
      (answered : resolver.ask question = (resolver, ⟨.ok issue, [.recalled kind vars.length]⟩))
  | collided (vars : List Variable) (kind : Handler) (collision : Collision)
      (read : question.key? = some (vars, kind))
      (absent : resolver.memo.find? (vars, kind) = none)
      (collides : firstCollision resolver.settings.reserved vars = some collision)
      (answered : resolver.ask question = (resolver,
        ⟨.error (.diagnosed (collision.diagnostic question.invocation)), [collision.event]⟩))
  | computed (vars : List Variable) (kind : Handler)
      (read : question.key? = some (vars, kind))
      (absent : resolver.memo.find? (vars, kind) = none)
      (free : firstCollision resolver.settings.reserved vars = none)
      (answered : resolver.ask question = (resolver.withNextIssue vars kind,
        ⟨.ok (resolver.nextIssue vars kind), [.computed kind vars.length]⟩))

theorem asked (resolver : Resolver) (question : Question) : resolver.Asked question := by
  cases read : question.key? with
  | none =>
    obtain ⟨refusal, refused⟩ := ask_of_key?_eq_none read
    exact .unread refusal read (refused resolver)
  | some key =>
    obtain ⟨vars, kind⟩ := key
    cases found : resolver.memo.find? (vars, kind) with
    | some issue => exact .recalled vars kind issue read found (ask_of_find?_eq_some read found)
    | none =>
      cases collides : firstCollision resolver.settings.reserved vars with
      | some collision =>
        exact .collided vars kind collision read found collides
          (ask_of_firstCollision_eq_some read found collides)
      | none =>
        exact .computed vars kind read found collides
          (ask_of_firstCollision_eq_none read found collides)

/-! ## Answers from the memory -/

/-- Whether a question is answered from the memory: its key is in it. -/
def recalls (resolver : Resolver) (question : Question) : Bool :=
  (question.key?.bind resolver.memo.find?).isSome

theorem recalls_iff : resolver.recalls question ↔
    ∃ key issue, question.key? = some key ∧ resolver.memo.find? key = some issue := by
  cases read : question.key? with
  | none => simp [recalls, read]
  | some key => simp [recalls, read, Option.isSome_iff_exists]

/-- A question tells in the log whether it was answered from the memory. -/
theorem any_isRecalled_log (resolver : Resolver) (question : Question) :
    (resolver.ask question).2.log.any Event.isRecalled = resolver.recalls question := by
  cases resolver.asked question with
  | unread refusal unread answered => simp [answered, recalls, unread]
  | recalled vars kind issue read found answered => simp [answered, recalls, read, found, Event.isRecalled]
  | collided vars kind collision read absent collides answered =>
    rw [answered]
    cases collision <;> simp [recalls, read, absent, Collision.event, Event.isRecalled]
  | computed vars kind read absent free answered =>
    simp [answered, recalls, read, absent, Event.isRecalled]

/-- What a question newly adds to the plans a resolver knows: its key and its plan, if it is answered with a
plan and not from the memory. -/
def miss? (resolver : Resolver) (question : Question) : Option (PlanKey × Issue) :=
  if resolver.recalls question then none
  else
    match question.key?, (resolver.ask question).2.outcome with
    | some key, .ok issue => some (key, issue)
    | _, _ => none

/-- A plan that is newly computed is the answer, and computing it is all that is told in the log. -/
theorem ask_of_miss? {miss : PlanKey × Issue} (missed : resolver.miss? question = some miss) :
    question.key? = some miss.1 ∧
      (resolver.ask question).2 = ⟨.ok miss.2, [.computed miss.1.2 miss.1.1.length]⟩ := by
  cases resolver.asked question with
  | unread refusal unread answered => simp [miss?, unread] at missed
  | recalled vars kind issue read found answered => simp [miss?, recalls, read, found] at missed
  | collided vars kind collision read absent collides answered => simp [miss?, answered] at missed
  | computed vars kind read absent free answered =>
    have new : miss = ((vars, kind), resolver.nextIssue vars kind) := by
      simpa [miss?, recalls, read, absent, answered, eq_comm] using missed
    rw [new, answered]
    exact ⟨read, rfl⟩

end Resolver

/-! ## Runs -/

inductive Call where
  | ask (question : Question)
  /-- Has every plan forgotten. -/
  | clear

/-- The question of a call, if it is one. -/
def Call.question? : Call → Option Question
  | .ask question => some question
  | .clear => none

/-- A resolver after some calls. -/
structure History where
  resolver : Resolver
  /-- The plans computed since the memory was last cleared, with their keys, the oldest first. -/
  misses : List (PlanKey × Issue)

namespace History

def start (settings : Settings) : History := ⟨.fresh settings, []⟩

def take (history : History) : Call → History
  | .ask question =>
      ⟨(history.resolver.ask question).1, history.misses ++ (history.resolver.miss? question).toList⟩
  | .clear => ⟨history.resolver.clear, []⟩

def after (settings : Settings) (calls : List Call) : History := calls.foldl take (start settings)

/-- The answers that a resolver gives to the questions among some calls, in order. -/
def answers (history : History) : List Call → List Answer
  | [] => []
  | .ask question :: later =>
      (history.resolver.ask question).2 :: (history.take (.ask question)).answers later
  | .clear :: later => (history.take .clear).answers later

theorem take_ask_cases (history : History) (question : Question) :
    history.take (.ask question) = history ∨
      ∃ vars kind, question.key? = some (vars, kind) ∧
        history.resolver.memo.find? (vars, kind) = none ∧
        firstCollision history.resolver.settings.reserved vars = none ∧
        history.take (.ask question) = ⟨history.resolver.withNextIssue vars kind,
          history.misses ++ [((vars, kind), history.resolver.nextIssue vars kind)]⟩ := by
  cases history.resolver.asked question with
  | unread refusal unread answered => left; simp [take, Resolver.miss?, unread, answered]
  | recalled vars kind issue read found answered =>
    left
    simp [take, Resolver.miss?, Resolver.recalls, read, found, answered]
  | collided vars kind collision read absent collides answered =>
    left
    simp [take, Resolver.miss?, answered]
  | computed vars kind read absent free answered =>
    right
    exact ⟨vars, kind, read, absent, free, by
      simp [take, Resolver.miss?, Resolver.recalls, read, absent, answered]⟩

theorem settings_take (history : History) (call : Call) :
    (history.take call).resolver.settings = history.resolver.settings := by
  cases call with
  | clear => rfl
  | ask question =>
    rcases history.take_ask_cases question with unchanged | ⟨vars, kind, _, _, _, changed⟩
    · rw [unchanged]
    · rw [changed]
      rfl

/-- What holds at the start and is kept by every call holds after any calls. -/
theorem after_induction {settings : Settings} (Holds : History → Prop) (initial : Holds (start settings))
    (kept : ∀ history call, history.resolver.settings = settings → Holds history →
      Holds (history.take call)) (calls : List Call) :
    (after settings calls).resolver.settings = settings ∧ Holds (after settings calls) := by
  have same : (start settings).resolver.settings = settings := rfl
  -- by induction on the calls, from any history with these settings
  unfold after
  generalize start settings = history at initial same ⊢
  induction calls generalizing history with
  | nil => exact ⟨same, initial⟩
  | cons call later ih =>
    exact ih _ (kept history call same initial) (by rw [settings_take, same])

@[simp] theorem settings_after (settings : Settings) (calls : List Call) :
    (after settings calls).resolver.settings = settings :=
  (after_induction (fun _ => True) trivial (fun _ _ _ _ => trivial) calls).1

end History

end TagBinding
