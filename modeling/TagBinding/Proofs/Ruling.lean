import TagBinding.Proofs.Admission
import TagBinding.Proofs.History
import TagBinding.Proofs.Plan.Replay

/-! # How a new question is ruled on

A question that no plan is remembered for gets a plan or a refusal.  Which of them, and which refusal, is told
here by rules that know nothing of the order in which the checks are made (`Question.Ruled`): a kind that cannot
be recognised counts before an element without a scope, and that before a collision; among elements and
positions the least counts.

`Resolver.ruled_ask` says that a question is answered by one of the rules, and `Resolver.outcome_of_ruled` that
whichever rule applies is the answer.
-/

namespace TagBinding

/-! ## The rules -/

/-- Whether what an element has for a scope is one. -/
def Element.HasScope (element : Element) : Prop := ∃ scope, element.scope = .mark (.scope scope)

theorem Element.toVariable?_eq_none_iff {element : Element} :
    element.toVariable? = none ↔ ¬ element.HasScope := by
  rw [HasScope, ← isSome_toVariable?_iff, Option.not_isSome_iff_eq_none]

namespace Question

/-- A question comes down to some variables and a kind. -/
structure Reads (question : Question) (vars : List Variable) (kind : Handler) : Prop where
  known : Handler.recognize? question.kind = some kind
  listed : question.elements.map Element.toVariable? = vars.map some

/-- What a question comes to where these names are reserved, if no plan is remembered for it. -/
inductive Ruled (reserved : SortedSet String) (question : Question) : Except Refusal Plan → Prop where
  | unknownKind (unknown : Handler.recognize? question.kind = none) :
      Ruled reserved question (.error (.unknownKind ⟨question.kind⟩))
  | unscoped (kind : Handler) (known : Handler.recognize? question.kind = some kind)
      (before : List Element) (element : Element) (after : List Element)
      (split : question.elements = before ++ element :: after)
      (first : ∀ other ∈ before, other.HasScope) (without : ¬ element.HasScope) :
      Ruled reserved question (.error (.diagnosed ⟨.unscoped element, question.invocation, none⟩))
  | shadowing (vars : List Variable) (kind : Handler) (reads : question.Reads vars kind)
      (j : Fin vars.length) (first : ∀ k < j, ¬ Barred reserved vars k)
      (shadows : (vars.get j).name ∈ reserved) :
      Ruled reserved question (.error (.diagnosed
        ⟨.duplicate (vars.get j).name [.mark (.scope (vars.get j).scope)], question.invocation,
          some ("'" ++ (vars.get j).name ++ "' is already bound by generated code")⟩))
  | clashing (vars : List Variable) (kind : Handler) (reads : question.Reads vars kind)
      (j : Fin vars.length) (first : ∀ k < j, ¬ Barred reserved vars k)
      (spared : (vars.get j).name ∉ reserved) (i : Fin vars.length) (before : i < j)
      (clash : Clash vars i j) (earliest : ∀ k < i, ¬ Clash vars k j) :
      Ruled reserved question (.error (.diagnosed
        ⟨.duplicate (vars.get j).name [.mark (.scope (vars.get i).scope), .mark (.scope (vars.get j).scope)],
          question.invocation, some "Rename one of the variables, or give them disjoint scopes"⟩))
  | admitted (vars : List Variable) (kind : Handler) (reads : question.Reads vars kind)
      (unbarred : ∀ j, ¬ Barred reserved vars j) :
      Ruled reserved question (.ok (.ofVariables kind vars))

/-! ## Reading a question -/

variable {question : Question} {vars : List Variable} {kind : Handler}

theorem Reads.of_toVariables (recognized : Handler.recognize question.kind = .ok kind)
    (listed : Element.toVariables question.elements = .ok vars) : question.Reads vars kind where
  known := Handler.recognize_eq_ok_iff.1 recognized
  listed := Element.toVariables_eq_ok_iff.1 listed

theorem key?_eq_some_iff : question.key? = some (vars, kind) ↔ question.Reads vars kind := by
  constructor
  · intro read
    unfold key? at read
    split at read
    · next kind' vars' recognized listed =>
      cases read
      exact .of_toVariables recognized listed
    · cases read
  · rintro ⟨known, listed⟩
    simp only [key?, Handler.recognize_eq_ok_iff.2 known, Element.toVariables_eq_ok_iff.2 listed]

end Question

/-! ## Ruling -/

namespace Resolver

variable {resolver : Resolver} {question : Question} {vars : List Variable} {kind : Handler}

/-- To a resolver that has not been asked yet every question is new. -/
theorem recalls_fresh (settings : Settings) (question : Question) :
    (fresh settings).recalls question = false := by
  cases read : question.key? with
  | none => simp [recalls, read]
  | some key =>
    have nothing : (fresh settings).memo.find? key = none := rfl
    simp [recalls, read, nothing]

theorem find?_eq_none_of_new (new : resolver.recalls question = false) (reads : question.Reads vars kind) :
    resolver.memo.find? (vars, kind) = none := by
  rw [recalls, Question.key?_eq_some_iff.2 reads] at new
  simpa using new

theorem outcome_of_collision {collision : Collision} (new : resolver.recalls question = false)
    (reads : question.Reads vars kind)
    (collides : firstCollision resolver.settings.reserved vars = some collision) :
    (resolver.ask question).2.outcome.map Issue.plan =
      .error (.diagnosed (collision.diagnostic question.invocation)) := by
  rw [ask_of_firstCollision_eq_some (Question.key?_eq_some_iff.2 reads) (find?_eq_none_of_new new reads)
    collides]
  rfl

theorem outcome_of_free (new : resolver.recalls question = false) (reads : question.Reads vars kind)
    (free : firstCollision resolver.settings.reserved vars = none) :
    (resolver.ask question).2.outcome.map Issue.plan = .ok (.ofVariables kind vars) := by
  rw [ask_of_firstCollision_eq_none (Question.key?_eq_some_iff.2 reads) (find?_eq_none_of_new new reads) free]
  rfl

/-- A new question that can be read gets a plan exactly if its variables are free of collisions. -/
theorem answered_iff_free (new : resolver.recalls question = false) (reads : question.Reads vars kind) :
    (∃ issue, (resolver.ask question).2.outcome = .ok issue) ↔
      firstCollision resolver.settings.reserved vars = none := by
  constructor
  · rintro ⟨issue, answered⟩
    cases collides : firstCollision resolver.settings.reserved vars with
    | none => rfl
    | some collision =>
      have refused := outcome_of_collision new reads collides
      rw [answered] at refused
      cases refused
  · intro free
    have planned := outcome_of_free new reads free
    cases outcome : (resolver.ask question).2.outcome with
    | ok issue => exact ⟨issue, rfl⟩
    | error refusal =>
      rw [outcome] at planned
      cases planned

/-- Whichever rule applies to a new question is the answer. -/
theorem outcome_of_ruled (new : resolver.recalls question = false) {ruling : Except Refusal Plan}
    (ruled : question.Ruled resolver.settings.reserved ruling) :
    (resolver.ask question).2.outcome.map Issue.plan = ruling := by
  cases ruled with
  | unknownKind unknown =>
    rw [ask_of_recognize_eq_error (Handler.recognize_eq_error_iff.2 ⟨unknown, rfl⟩)]
    rfl
  | unscoped kind known before element after split first without =>
    have unread : Element.toVariables question.elements = .error element := by
      refine Element.toVariables_eq_error_iff.2 ⟨before, after, split, ?_, ?_⟩
      · exact fun other member => other.isSome_toVariable?_iff.2 (first other member)
      · exact Element.toVariable?_eq_none_iff.2 without
    rw [ask_of_toVariables_eq_error (Handler.recognize_eq_ok_iff.2 known) unread]
    rfl
  | shadowing vars kind reads j first shadows =>
    have collides : firstCollision resolver.settings.reserved vars = some (.reserved vars[j]) :=
      firstCollision_eq_some_iff.2 ⟨j, first, if_pos shadows⟩
    exact outcome_of_collision new reads collides
  | clashing vars kind reads j first spared i before clash earliest =>
    have collides : firstCollision resolver.settings.reserved vars = some (.overlap vars[i] vars[j]) := by
      refine firstCollision_eq_some_iff.2 ⟨j, first, (if_neg spared).trans ?_⟩
      rw [find?_take_eq_some_iff.2 ⟨i, before, rfl, clash, earliest⟩, Option.map_some]
    exact outcome_of_collision new reads collides
  | admitted vars kind reads unbarred =>
    exact outcome_of_free new reads (firstCollision_eq_none_iff_unbarred.2 unbarred)

/-- A new question is answered by one of the rules. -/
theorem ruled_ask (new : resolver.recalls question = false) :
    question.Ruled resolver.settings.reserved ((resolver.ask question).2.outcome.map Issue.plan) := by
  -- stage by stage, in the order in which a question goes through them
  cases recognized : Handler.recognize question.kind with
  | error fault =>
    obtain ⟨unknown, rfl⟩ := Handler.recognize_eq_error_iff.1 recognized
    rw [outcome_of_ruled new (.unknownKind unknown)]
    exact .unknownKind unknown
  | ok kind =>
    have known := Handler.recognize_eq_ok_iff.1 recognized
    cases listed : Element.toVariables question.elements with
    | error element =>
      obtain ⟨before, after, split, first, without⟩ := Element.toVariables_eq_error_iff.1 listed
      have rule : question.Ruled resolver.settings.reserved
          (.error (.diagnosed ⟨.unscoped element, question.invocation, none⟩)) :=
        .unscoped kind known before element after split
          (fun other member => other.isSome_toVariable?_iff.1 (first other member))
          (Element.toVariable?_eq_none_iff.1 without)
      rw [outcome_of_ruled new rule]
      exact rule
    | ok vars =>
      have reads : question.Reads vars kind := .of_toVariables recognized listed
      cases collides : firstCollision resolver.settings.reserved vars with
      | none =>
        rw [outcome_of_free new reads collides]
        exact .admitted vars kind reads (firstCollision_eq_none_iff_unbarred.1 collides)
      | some collision =>
        rw [outcome_of_collision new reads collides]
        -- at the first variable in the way, a reserved name counts before the variables in front of it
        obtain ⟨j, first, hinders⟩ := firstCollision_eq_some_iff.1 collides
        by_cases shadows : vars[j].name ∈ resolver.settings.reserved
        · rw [hindrance?, if_pos shadows] at hinders
          cases hinders
          exact .shadowing vars kind reads j first shadows
        · rw [hindrance?, if_neg shadows, Option.map_eq_some_iff] at hinders
          obtain ⟨earlier, found, rfl⟩ := hinders
          obtain ⟨i, before, rfl, clash, earliest⟩ := find?_take_eq_some_iff.1 found
          exact .clashing vars kind reads j first shadows i before clash earliest

/-- A question that no plan is remembered for has exactly the outcome that the rules give it.  So where it can be
read, it gets a plan exactly if no name is reserved and every name occurs once, or twice and then for the body
and for what follows the end marker. -/
theorem outcome_eq_iff_ruled (new : resolver.recalls question = false) :
    (∀ ruling, (resolver.ask question).2.outcome.map Issue.plan = ruling ↔
      question.Ruled resolver.settings.reserved ruling) ∧
    ∀ vars kind, question.Reads vars kind →
      ((∃ issue, (resolver.ask question).2.outcome = .ok issue) ↔
        (∀ v ∈ vars, v.name ∉ resolver.settings.reserved) ∧
          ∀ name, (scopesOf name vars).length ≤ 1 ∨ (scopesOf name vars).Perm [.nested, .atEnd]) := by
  constructor
  · intro ruling
    constructor
    · rintro rfl
      exact ruled_ask new
    · exact outcome_of_ruled new
  · intro vars kind reads
    rw [answered_iff_free new reads, firstCollision_eq_none_iff_scopesOf]

end Resolver

namespace Rows

def throughout : Variable := { inBody with scope := .atBegin }

/-- The variables of the rows, and one more of their name that can be read in the body and beyond. -/
def crowd : List Variable := [inBody, beyond, total, throughout]

def crowdQuestion : Question := ⟨crowd.map .ofVariable, .text " simple", none⟩

end Rows

/-- The two rows do not clash with each other, but the third clashes with both; the earlier one is told. -/
theorem Resolver.outcome_eq_iff_ruled_crowd :
    (fresh .usual).recalls Rows.crowdQuestion = false ∧
      Rows.crowdQuestion.Reads Rows.crowd .simple ∧
      ((fresh .usual).ask Rows.crowdQuestion).2.outcome.map Issue.plan =
        .error (.diagnosed ⟨.duplicate "row" [.mark (.scope .nested), .mark (.scope .atBegin)], none,
          some "Rename one of the variables, or give them disjoint scopes"⟩) ∧
      ¬ ∃ issue, ((fresh .usual).ask Rows.crowdQuestion).2.outcome = .ok issue := by
  have new := recalls_fresh .usual Rows.crowdQuestion
  have reads : Rows.crowdQuestion.Reads Rows.crowd .simple := ⟨by rfl, by rfl⟩
  have rule : Rows.crowdQuestion.Ruled (fresh .usual).settings.reserved _ :=
    .clashing Rows.crowd .simple reads ⟨3, by decide⟩ (by decide) (by decide) ⟨0, by decide⟩
      (by decide) (by decide) (by decide)
  refine ⟨new, reads, ((outcome_eq_iff_ruled new).1 _).2 rule, ?_⟩
  rw [(outcome_eq_iff_ruled new).2 Rows.crowd .simple reads]
  rintro ⟨_, pairs⟩
  rcases pairs "row" with few | pair
  · exact absurd few (by decide)
  · exact absurd pair.length_eq (by decide)

end TagBinding
