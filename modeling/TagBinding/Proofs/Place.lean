import TagBinding.Proofs.Arrangement

/-! # The place of a tag

A question may tell where its tag is.  The place goes into the diagnostic of a refusal and nowhere else: a resolver
answers as it would without one, and then puts the place into what it says (`Resolver.ask_eq_located`).  So two runs
that differ in places alone have the same histories, the same answers and, but for the places, the same refusals
(`History.place_immaterial`).

A kind that is not recognised is refused before there is a diagnostic, so its refusal tells no place.
-/

namespace TagBinding

/-! ## Questions without a place -/

def Question.placeless (question : Question) : Question := { question with invocation := none }

def Call.placeless : Call → Call
  | .ask question => .ask question.placeless
  | .clear => .clear

/-! ## What a refusal says -/

/-- The place as it stands behind a message. -/
def placeSuffix : Option Invocation → String
  | none => ""
  | some invocation => " in " ++ invocation.text

namespace Refusal

def bareMessage : Refusal → String
  | .unknownKind fault => fault.message
  | .diagnosed diagnostic => diagnostic.bareMessage

def code? : Refusal → Option ErrorCode
  | .unknownKind _ => none
  | .diagnosed diagnostic => diagnostic.cause.code?

def hint? : Refusal → Option String
  | .unknownKind _ => none
  | .diagnosed diagnostic => diagnostic.hint

/-- The cause with all that it names: the scopes of a name, or the element that has none. -/
def cause? : Refusal → Option Cause
  | .unknownKind _ => none
  | .diagnosed diagnostic => some diagnostic.cause

/-- The refusal as it is for another place. -/
def located (place : Option Invocation) : Refusal → Refusal
  | .unknownKind fault => .unknownKind fault
  | .diagnosed diagnostic => .diagnosed { diagnostic with invocation := place }

/-- Two refusals say the same, wherever they say it of. -/
structure SaysSame (refusal refusal' : Refusal) : Prop where
  faultClass : refusal.faultClass = refusal'.faultClass
  bareMessage : refusal.bareMessage = refusal'.bareMessage
  code : refusal.code? = refusal'.code?
  hint : refusal.hint? = refusal'.hint?
  cause : refusal.cause? = refusal'.cause?

theorem saysSame_located (refusal : Refusal) (place place' : Option Invocation) :
    (refusal.located place).SaysSame (refusal.located place') := by
  cases refusal with
  | unknownKind fault => exact ⟨rfl, rfl, rfl, rfl, rfl⟩
  | diagnosed diagnostic => exact ⟨rfl, rfl, rfl, rfl, rfl⟩

theorem message_located_of_diagnosed {refusal : Refusal} (place : Option Invocation)
    (diagnosed : (refusal.located place).faultClass ≠ .unknownKind) :
    (refusal.located place).message = (refusal.located place).bareMessage ++ placeSuffix place := by
  cases refusal with
  | unknownKind fault => exact absurd rfl diagnosed
  | diagnosed diagnostic =>
    cases place with
    | none => exact String.append_empty.symm
    | some invocation => exact String.append_assoc

theorem message_of_unknownKind {refusal : Refusal} (unknown : refusal.faultClass = .unknownKind) :
    refusal.message = refusal.bareMessage := by
  cases refusal with
  | unknownKind fault => rfl
  | diagnosed diagnostic =>
    -- no cause of a diagnostic is of this class
    rw [faultClass] at unknown
    cases cause : diagnostic.cause <;> rw [cause] at unknown <;> cases unknown

end Refusal

/-! ## One question -/

def Answer.located (place : Option Invocation) (answer : Answer) : Answer :=
  ⟨answer.outcome.mapError (Refusal.located place), answer.log⟩

theorem Answer.located_ok {answer : Answer} {place : Option Invocation} {issue : Issue} :
    (answer.located place).outcome = .ok issue ↔ answer.outcome = .ok issue := by
  rw [located]
  cases answer.outcome <;> simp [Except.mapError]

theorem Answer.located_error {answer : Answer} {place : Option Invocation} {refusal : Refusal} :
    (answer.located place).outcome = .error refusal ↔
      ∃ original, answer.outcome = .error original ∧ refusal = original.located place := by
  rw [located]
  cases answer.outcome <;> simp [Except.mapError, eq_comm]

namespace Resolver

variable {resolver : Resolver} {question question' : Question}

/-- A resolver goes by what a question asks, and the place is put into the answer. -/
theorem ask_eq_located (resolver : Resolver) (question : Question) :
    resolver.ask question = ((resolver.ask question.placeless).1,
      (resolver.ask question.placeless).2.located question.invocation) := by
  -- no stage reads the invocation, so both questions take the same way through all of them
  cases recognized : Handler.recognize question.kind with
  | error fault =>
    have recognized' : Handler.recognize question.placeless.kind = .error fault := recognized
    rw [ask_of_recognize_eq_error recognized, ask_of_recognize_eq_error recognized']
    rfl
  | ok kind =>
    have recognized' : Handler.recognize question.placeless.kind = .ok kind := recognized
    cases listed : Element.toVariables question.elements with
    | error element =>
      have listed' : Element.toVariables question.placeless.elements = .error element := listed
      rw [ask_of_toVariables_eq_error recognized listed, ask_of_toVariables_eq_error recognized' listed']
      rfl
    | ok vars =>
      have read : question.key? = some (vars, kind) :=
        Question.key?_eq_some_iff.2 (.of_toVariables recognized listed)
      have read' : question.placeless.key? = some (vars, kind) := read
      cases found : resolver.memo.find? (vars, kind) with
      | some issue =>
        rw [ask_of_find?_eq_some read found, ask_of_find?_eq_some read' found]
        rfl
      | none =>
        cases collides : firstCollision resolver.settings.reserved vars with
        | some collision =>
          rw [ask_of_firstCollision_eq_some read found collides,
            ask_of_firstCollision_eq_some read' found collides]
          cases collision <;> rfl
        | none =>
          rw [ask_of_firstCollision_eq_none read found collides,
            ask_of_firstCollision_eq_none read' found collides]
          rfl

theorem recalls_placeless (resolver : Resolver) (question : Question) :
    resolver.recalls question.placeless = resolver.recalls question := rfl

theorem miss?_placeless (resolver : Resolver) (question : Question) :
    resolver.miss? question.placeless = resolver.miss? question := by
  have key : question.placeless.key? = question.key? := rfl
  have outcome : (resolver.ask question).2.outcome =
      (resolver.ask question.placeless).2.outcome.mapError (Refusal.located question.invocation) := by
    rw [ask_eq_located resolver question]
    rfl
  -- only a plan that was computed counts, and a plan has no place
  rw [miss?, miss?, recalls_placeless, key, outcome]
  cases question.key? <;> cases (resolver.ask question.placeless).2.outcome <;> rfl

/-- Questions that differ in their places alone are answered alike but for the places. -/
theorem answers_of_placeless (same : question.placeless = question'.placeless) :
    (resolver.ask question').2.log = (resolver.ask question).2.log ∧
      resolver.recalls question' = resolver.recalls question ∧
      (∀ issue, (resolver.ask question).2.outcome = .ok issue → (resolver.ask question').2.outcome = .ok issue) ∧
      ∀ refusal, (resolver.ask question).2.outcome = .error refusal →
        ∃ refusal', (resolver.ask question').2.outcome = .error refusal' ∧ refusal.SaysSame refusal' := by
  rw [ask_eq_located resolver question, ask_eq_located resolver question', ← recalls_placeless resolver question,
    ← recalls_placeless resolver question', same]
  refine ⟨rfl, rfl, ?_, ?_⟩
  · intro issue answered
    exact Answer.located_ok.2 (Answer.located_ok.1 answered)
  · intro refusal refused
    obtain ⟨original, outcome, rfl⟩ := Answer.located_error.1 refused
    exact ⟨original.located question'.invocation, Answer.located_error.2 ⟨original, outcome, rfl⟩,
      original.saysSame_located _ _⟩

/-- A refusal with a diagnostic tells the place of its question at the end, and tells one only if it was given. -/
theorem message_of_refused {refusal : Refusal} (refused : (resolver.ask question).2.outcome = .error refusal) :
    (refusal.faultClass ≠ .unknownKind →
        refusal.message = refusal.bareMessage ++ placeSuffix question.invocation) ∧
      (refusal.faultClass = .unknownKind → refusal.message = refusal.bareMessage) := by
  rw [ask_eq_located] at refused
  obtain ⟨original, _, rfl⟩ := Answer.located_error.1 refused
  exact ⟨Refusal.message_located_of_diagnosed question.invocation, Refusal.message_of_unknownKind⟩

end Resolver

/-! ## Runs -/

namespace History

variable {settings : Settings} {calls calls' : List Call}

theorem take_placeless (history : History) (call : Call) : history.take call.placeless = history.take call := by
  cases call with
  | clear => rfl
  | ask question =>
    rw [Call.placeless, take, take, Resolver.miss?_placeless, Resolver.ask_eq_located history.resolver question]

theorem after_placeless (settings : Settings) (calls : List Call) :
    after settings (calls.map Call.placeless) = after settings calls := by
  rw [after, after, List.foldl_map]
  congr 1
  funext history call
  exact history.take_placeless call

theorem question_of_placeless (alike : calls.map Call.placeless = calls'.map Call.placeless) {n : Nat}
    {question : Question} (here : calls[n]? = some (.ask question)) :
    ∃ question', calls'[n]? = some (.ask question') ∧ question.placeless = question'.placeless := by
  have same : (calls[n]?).map Call.placeless = (calls'[n]?).map Call.placeless := by
    rw [← List.getElem?_map, ← List.getElem?_map, alike]
  rw [here, Option.map_some] at same
  obtain ⟨call, there, placeless⟩ := Option.map_eq_some_iff.1 same.symm
  cases call with
  | clear => cases placeless
  | ask question' => exact ⟨question', there, (Call.ask.inj placeless).symm⟩

/-- Two runs of resolvers with the same settings that differ in places alone have the same history before each call
and at the end: the same plans are remembered, in the same order.  Corresponding questions get the same plan, by its
number as well, or refusals that say the same; they are answered from the memory or not, and have one log.  A refusal
with a diagnostic ends in the place of its question if it was given one; where the kind is not recognised, no place
is told. -/
theorem place_immaterial (alike : calls.map Call.placeless = calls'.map Call.placeless) (n : Nat) :
    let history := after settings (calls.take n)
    let history' := after settings (calls'.take n)
    history = history' ∧
      ∀ question, calls[n]? = some (.ask question) →
        let answer := (history.resolver.ask question).2
        (∃ question', calls'[n]? = some (.ask question') ∧
          let answer' := (history'.resolver.ask question').2
          answer'.log = answer.log ∧
            history'.resolver.recalls question' = history.resolver.recalls question ∧
            (∀ issue, answer.outcome = .ok issue → answer'.outcome = .ok issue) ∧
            ∀ refusal, answer.outcome = .error refusal →
              ∃ refusal', answer'.outcome = .error refusal' ∧ refusal.SaysSame refusal') ∧
          ∀ refusal, answer.outcome = .error refusal →
            (refusal.faultClass ≠ .unknownKind →
              refusal.message = refusal.bareMessage ++ placeSuffix question.invocation) ∧
            (refusal.faultClass = .unknownKind → refusal.message = refusal.bareMessage) := by
  -- both runs leave what the run without places leaves
  have same : after settings (calls.take n) = after settings (calls'.take n) := by
    rw [← after_placeless settings (calls.take n), ← after_placeless settings (calls'.take n), List.map_take,
      List.map_take, alike]
  intro history history'
  have histories : history = history' := same
  refine ⟨histories, fun question here => ⟨?_, fun refusal => Resolver.message_of_refused⟩⟩
  obtain ⟨question', there, placeless⟩ := question_of_placeless alike here
  refine ⟨question', there, ?_⟩
  rw [← histories]
  exact Resolver.answers_of_placeless placeless

end History

namespace Rows

def place : Invocation := ⟨"t:rows", some "list.jsp", some 7, none⟩

def visits : List Call := [.ask question, .ask crowdQuestion]

def placedVisits : List Call :=
  [.ask { question with invocation := some place }, .ask { crowdQuestion with invocation := some place }]

end Rows

theorem History.place_immaterial_rows :
    Rows.visits.map Call.placeless = Rows.placedVisits.map Call.placeless ∧
      after .usual (Rows.visits.take 1) = after .usual (Rows.placedVisits.take 1) ∧
      ∃ refusal refusal',
        ((after .usual (Rows.visits.take 1)).resolver.ask Rows.crowdQuestion).2.outcome = .error refusal ∧
        ((after .usual (Rows.placedVisits.take 1)).resolver.ask
          { Rows.crowdQuestion with invocation := some Rows.place }).2.outcome = .error refusal' ∧
        refusal.SaysSame refusal' ∧ refusal.message = refusal.bareMessage ++ "" ∧
        refusal'.message = refusal'.bareMessage ++ (" in " ++ Rows.place.text) := by
  have alike : Rows.visits.map Call.placeless = Rows.placedVisits.map Call.placeless := by rfl
  have refused : ((after .usual (Rows.visits.take 1)).resolver.ask Rows.crowdQuestion).2.outcome =
      .error (.diagnosed ⟨.duplicate "row" [.mark (.scope .nested), .mark (.scope .atBegin)], none,
        some "Rename one of the variables, or give them disjoint scopes"⟩) := by rfl
  obtain ⟨same, each⟩ := @place_immaterial .usual Rows.visits Rows.placedVisits alike 1
  obtain ⟨⟨question', there, _, _, _, fails⟩, text⟩ := each Rows.crowdQuestion rfl
  obtain ⟨refusal', refused', saysSame⟩ := fails _ refused
  cases there
  -- the texts, for each of the runs
  have text' := ((@place_immaterial .usual Rows.placedVisits Rows.visits alike.symm 1).2 _ rfl).2 refusal' refused'
  have diagnosed : refusal'.faultClass ≠ .unknownKind := by
    rw [← saysSame.faultClass]
    decide
  exact ⟨alike, same, _, refusal', refused, refused', saysSame, (text _ refused).1 (by decide), text'.1 diagnosed⟩

/-- The rows, for a kind that there is not. -/
def Rows.misspelt : Question := ⟨question.elements, .text "bogus", some place⟩

/-- A kind that is not recognised is refused without the place, although one was given. -/
theorem Resolver.unknownKind_tells_no_place :
    ∃ refusal, ((fresh .usual).ask Rows.misspelt).2.outcome = .error refusal ∧
      refusal.message ≠ refusal.bareMessage ++ placeSuffix Rows.misspelt.invocation := by
  refine ⟨.unknownKind ⟨.text "bogus"⟩, by rfl, ?_⟩
  rw [Refusal.message_of_unknownKind rfl]
  intro same
  have longer := congrArg String.length same
  simp [placeSuffix, Rows.misspelt] at longer

end TagBinding
