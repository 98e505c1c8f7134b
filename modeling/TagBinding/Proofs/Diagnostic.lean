import TagBinding.Proofs.Coloring
import TagBinding.Proofs.Defect
import TagBinding.Proofs.Ruling

/-! # Diagnostics keep to their lines

What is reported where no invocation is known cannot be broken up by what it reports.  Values are shown by their
literals, and the one text that is shown as it stands, the name of a variable in a collision, went through the checks
of `Variable`, which let no character pass that breaks a line.

* `Reported` - what the checks of scopes, kinds, variables, declarations and questions can come to.
* `Diagnostic.Steady` - a diagnostic whose message and hint are unbroken; its compact form without colour has the lines
  `Diagnostic.plainLines` and no escape sequence.
* `Reported.lines_of_compact` - all that is reported is steady, and so keeps to its lines.
-/

namespace TagBinding

open Text (Unbroken)
open Terminal (Markup)

/-! ## The compact form without colour -/

theorem Terminal.Markup.render_joined (colored : Bool) (separator : String) (parts : List Markup) :
    (Markup.joined separator parts).render colored = separator.intercalate (parts.map (Markup.render colored)) := by
  rw [← String.toList_inj, String.toList_intercalate, Markup.render, String.toList_ofList, Markup.chars_joined,
    List.map_map]
  simp [Function.comp_def, Markup.render]

theorem Terminal.Markup.render_false_nil : Markup.render false [] = "" := rfl

theorem Terminal.Markup.render_false_cons (span : Terminal.Span) (rest : Markup) :
    Markup.render false (span :: rest) = String.ofList span.text ++ Markup.render false rest := by
  rw [← String.toList_inj]
  simp [Markup.render, Markup.chars, Terminal.Span.chars_false]

namespace Diagnostic

/-- The lines of a diagnostic that has a code, where no invocation is known. -/
def plainLines (code : ErrorCode) (message : String) (hint : Option String) : List String :=
  [code.text ++ ": " ++ message] ++ (hint.map fun hint => "  Hint: " ++ hint).toList ++ ["  Docs: " ++ code.docsUrl]

theorem render_header (code : ErrorCode) (message : String) :
    (header (some code.text) message).render false = code.text ++ ": " ++ message := by
  have shape : header (some code.text) message = [.styled .errorCode code.text, .plain (": " ++ message)] := by
    cases code <;> rfl
  simp only [shape, Markup.render_false_cons, Markup.render_false_nil, Terminal.Span.text, String.ofList_toList,
    String.append_empty, String.append_assoc]

theorem render_hintLine (hint : String) : (Notice.hintLine hint).render false = "  Hint: " ++ hint := by
  have label : "  " ++ ("Hint:" ++ " ") = "  Hint: " := by decide
  simp only [Notice.hintLine, Markup.render_false_cons, Markup.render_false_nil, Terminal.Span.text,
    String.ofList_toList, String.append_empty, ← label, String.append_assoc]

theorem render_docsLine (code : ErrorCode) : (Notice.docsLine code).render false = "  Docs: " ++ code.docsUrl := by
  have label : "  " ++ ("Docs:" ++ " ") = "  Docs: " := by decide
  simp only [Notice.docsLine, Markup.render_false_cons, Markup.render_false_nil, Terminal.Span.text,
    String.ofList_toList, String.append_empty, ← label, String.append_assoc]

theorem map_render_lines {notice : Notice} {code : ErrorCode} (coded : notice.code = some code)
    (placeless : notice.place = none) (hinted : ∀ hint ∈ notice.hint, hint ≠ "") :
    notice.lines.map (Markup.render false) = plainLines code notice.message notice.hint := by
  have filtered : notice.hint.filter (!·.isEmpty) = notice.hint := by
    cases given : notice.hint with
    | none => rfl
    | some hint => simp [hinted hint given]
  rw [Notice.lines, coded, placeless, filtered]
  cases notice.hint <;> simp [plainLines, render_header, render_hintLine, render_docsLine]

theorem unbroken_plainLines {message : String} {hint? : Option String} (said : Unbroken message)
    (hinted : ∀ hint ∈ hint?, Unbroken hint) (code : ErrorCode) :
    ∀ line ∈ plainLines code message hint?, Unbroken line := by
  simp only [plainLines, List.mem_append, List.mem_singleton, Option.mem_toList, Option.map_eq_some_iff]
  rintro line ((rfl | ⟨hint, given, rfl⟩) | rfl)
  · exact (code.unbroken_text.append (by decide)).append said
  · exact Unbroken.append (by decide) (hinted hint given)
  · exact Unbroken.append (by decide) code.unbroken_docsUrl

/-- A diagnostic that has a code and no place, and whose texts are unbroken. -/
structure Steady (diagnostic : Diagnostic) : Prop where
  coded : ∃ code, diagnostic.cause.code? = some code
  placeless : diagnostic.invocation = none
  said : Unbroken diagnostic.bareMessage
  hinted : ∀ hint ∈ diagnostic.hint, hint ≠ "" ∧ Unbroken hint

variable {diagnostic : Diagnostic}

theorem Steady.message_eq (steady : diagnostic.Steady) : diagnostic.message = diagnostic.bareMessage := by
  rw [message, steady.placeless]

theorem Steady.place_eq_none (steady : diagnostic.Steady) : diagnostic.notice.place = none := by
  rw [notice, steady.placeless]
  rfl

theorem Steady.compact_eq (steady : diagnostic.Steady) {code : ErrorCode} (coded : diagnostic.cause.code? = some code) :
    diagnostic.compact false = "\n".intercalate (plainLines code diagnostic.bareMessage diagnostic.hint) := by
  rw [compact, Notice.compact, Markup.render_joined,
    map_render_lines coded steady.place_eq_none fun hint given => (steady.hinted hint given).1]
  rfl

/-- Without colour there is nothing to strip: the texts hold no escape character, and so no sequence. -/
theorem Steady.strip_compact (steady : diagnostic.Steady) :
    Terminal.strip (diagnostic.compact false) = diagnostic.compact false := by
  have unescaped : diagnostic.notice.Unescaped :=
    { message := steady.said.escapeFree
      place := by simp [steady.place_eq_none]
      hint := fun hint given => (steady.hinted hint given).2.escapeFree }
  exact diagnostic.notice.decorative_compact.same.symm.trans (diagnostic.notice.decorative_compact.restored unescaped)

end Diagnostic

/-! ## What the checks report -/

theorem steady_of_defect {defect : Defect} (said : Unbroken defect.message) :
    (Diagnostic.ofCause (.invalid defect) none).Steady where
  coded := ⟨_, rfl⟩
  placeless := rfl
  said := said
  hinted := by simp [Diagnostic.ofCause, Cause.usualHint?]

theorem steady_of_element {element : Element} (written : element.scope.WellWritten) :
    (Diagnostic.mk (.unscoped element) none none).Steady where
  coded := ⟨_, rfl⟩
  placeless := rfl
  said := by
    have name : element.name.WellWritten := by
      cases element with
      | described v => exact .text v.name
      | stray value => cases value <;> constructor
    have opening : Unbroken ("Variable " ++ element.name.literal) := Unbroken.append (by decide) name.unbroken_literal
    exact ((opening.append (by decide)).append written.unbroken_literal).append (by decide)
  hinted := by simp

/-- The name that a collision tells is shown as it stands, and so is the hint that tells it again: it is the name of a
variable. -/
theorem steady_of_duplicate (v : Variable) (scopes : List Scope) {hint : String} (something : hint ≠ "")
    (hinted : Unbroken hint) :
    (Diagnostic.mk (.duplicate v.name (scopes.map fun scope => .mark (.scope scope))) none (some hint)).Steady where
  coded := ⟨_, rfl⟩
  placeless := rfl
  said := by
    have labels : ∀ label ∈ (scopes.map fun scope => Datum.mark (.scope scope)).map Datum.label, Unbroken label := by
      simp only [List.map_map, List.mem_map]
      rintro label ⟨scope, -, rfl⟩
      exact (Mark.scope scope).unbroken_name
    have name : Unbroken ("Duplicate scripting variable '" ++ v.name) :=
      Unbroken.append (by decide) (Text.unbroken_of_isVariableName v.name_valid)
    exact ((name.append (by decide)).append (Text.unbroken_intercalate (by decide) labels)).append (by decide)
  hinted := by simp [something, hinted]

/-- What the checks come to where no invocation is known: a refusal of a scope, of a kind, of the fields of a variable,
of a declaration or of a question. -/
inductive Reported : Refusal → Prop where
  | scope (value : Datum) (written : value.WellWritten) (defect : Defect)
      (refused : Scope.recognize value = .error defect) : Reported (.diagnosed (.ofCause (.invalid defect) none))
  | kind (value : Datum) (written : value.WellWritten) (fault : UnknownKind)
      (refused : Handler.recognize value = .error fault) : Reported (.unknownKind fault)
  | fields (name typeName declare scope : Datum)
      (written : ∀ field, (Variable.offered name typeName declare scope field).WellWritten) (defect : Defect)
      (refused : Variable.ofData name typeName declare scope = .error defect) :
      Reported (.diagnosed (.ofCause (.invalid defect) none))
  | declaration (entries : List (String × Datum)) (attributes : Attributes)
      (written : (Datum.record entries).WellWritten)
      (writtenAttributes : ∀ key, (attributes.value key).WellWritten) (defect : Defect)
      (refused : (Declaration.ofEntries entries).toVariable attributes = .error (.defect defect)) :
      Reported (.diagnosed (.ofCause (.invalid defect) none))
  | question (resolver : Resolver) (question : Question) (written : question.kind.WellWritten)
      (writtenScopes : ∀ element ∈ question.elements, element.scope.WellWritten)
      (placeless : question.invocation = none) (refusal : Refusal)
      (refused : (resolver.ask question).2.outcome = .error refusal) : Reported refusal

theorem unbroken_of_unknownKind {value : Datum} (written : value.WellWritten) :
    Unbroken (UnknownKind.mk value).message :=
  Unbroken.append (by decide) written.unbroken_literal

/-- A refused question is not one that a plan is remembered for, so the rules for new questions apply. -/
theorem Question.ruled_of_refused {resolver : Resolver} {question : Question} {refusal : Refusal}
    (refused : (resolver.ask question).2.outcome = .error refusal) :
    question.Ruled resolver.settings.reserved (.error refusal) := by
  have new : resolver.recalls question = false := by
    rw [← Bool.not_eq_true, Resolver.recalls_iff]
    rintro ⟨⟨vars, kind⟩, issue, read, found⟩
    rw [Resolver.ask_of_find?_eq_some read found] at refused
    cases refused
  have ruled := Resolver.ruled_ask new
  rwa [refused] at ruled

/-- What a refusal says is unbroken, and a diagnostic in it is steady. -/
def Refusal.KeepsToLines : Refusal → Prop
  | .unknownKind fault => Unbroken fault.message
  | .diagnosed diagnostic => diagnostic.Steady

theorem Question.Ruled.keepsToLines {reserved : SortedSet String} {question : Question} {refusal : Refusal}
    (ruled : question.Ruled reserved (.error refusal)) (written : question.kind.WellWritten)
    (writtenScopes : ∀ element ∈ question.elements, element.scope.WellWritten)
    (placeless : question.invocation = none) : refusal.KeepsToLines := by
  cases ruled with
  | unknownKind unknown => exact unbroken_of_unknownKind written
  | unscoped kind known before element after split first without =>
    rw [placeless]
    exact steady_of_element (writtenScopes element (by simp [split]))
  | shadowing vars kind reads j first shadows =>
    rw [placeless]
    have name := Text.unbroken_of_isVariableName (vars.get j).name_valid
    have hinted : Unbroken ("'" ++ (vars.get j).name ++ "' is already bound by generated code") :=
      (Unbroken.append (by decide) name).append (by decide)
    exact steady_of_duplicate (vars.get j) [(vars.get j).scope] (by simp) hinted
  | clashing vars kind reads j first spared i before clash earliest =>
    rw [placeless]
    exact steady_of_duplicate (vars.get j) [(vars.get i).scope, (vars.get j).scope] (by decide) (by decide)

theorem Reported.keepsToLines {refusal : Refusal} (reported : Reported refusal) : refusal.KeepsToLines := by
  cases reported with
  | scope value written defect refused => exact steady_of_defect (Scope.unbroken_of_refused written refused)
  | kind value written fault refused =>
    obtain ⟨-, rfl⟩ := Handler.recognize_eq_error_iff.1 refused
    exact unbroken_of_unknownKind written
  | fields name typeName declare scope written defect refused =>
    exact steady_of_defect (Variable.unbroken_of_refused written refused)
  | declaration entries attributes written writtenAttributes defect refused =>
    exact steady_of_defect (Declaration.unbroken_of_refused written writtenAttributes refused)
  | question resolver question written writtenScopes placeless _ refused =>
    exact (Question.ruled_of_refused refused).keepsToLines written writtenScopes placeless

/-- What is reported where no invocation is known says its message on one line, whatever the refused values hold.  So
the compact form of a diagnostic, without colour, is a line with the code and the message, a line with the hint if
there is one, and a line with the place in the documentation; none of them can be broken, and there is nothing in them
to strip. -/
theorem Reported.lines_of_compact {refusal : Refusal} (reported : Reported refusal) :
    Unbroken refusal.message ∧
      ∀ diagnostic, refusal = .diagnosed diagnostic →
        ∃ code, diagnostic.cause.code? = some code ∧
          diagnostic.compact false = "\n".intercalate (Diagnostic.plainLines code refusal.message diagnostic.hint) ∧
          (∀ line ∈ Diagnostic.plainLines code refusal.message diagnostic.hint, Unbroken line) ∧
          Terminal.strip (diagnostic.compact false) = diagnostic.compact false := by
  have keeps := reported.keepsToLines
  cases refusal with
  | unknownKind fault => exact ⟨keeps, by rintro _ ⟨⟩⟩
  | diagnosed diagnostic =>
    have steady : diagnostic.Steady := keeps
    have same : (Refusal.diagnosed diagnostic).message = diagnostic.bareMessage := steady.message_eq
    rw [same]
    refine ⟨steady.said, ?_⟩
    rintro _ ⟨⟩
    obtain ⟨code, coded⟩ := steady.coded
    have lines := Diagnostic.unbroken_plainLines steady.said (fun hint given => (steady.hinted hint given).2) code
    exact ⟨code, coded, steady.compact_eq coded, lines, steady.strip_compact⟩

/-- A scope given by a list with a line end and an escape sequence in it: the diagnostic has two lines. -/
theorem Reported.lines_of_compact_list :
    let scope := Datum.list [.text "a\nb\x1B[31m", .decimal "1e+22"]
    let diagnostic := Diagnostic.ofCause (.invalid ⟨.unknownScope, scope⟩) none
    Reported (.diagnosed diagnostic) ∧
      diagnostic.compact false = "\n".intercalate
        ["T-VAR-001: Invalid scope ['a\\nb\\x1b[31m', 1e+22]: expected one of NESTED, AT_BEGIN, AT_END",
          "  Docs: https://tagscope.readthedocs.io/en/latest/errors.html#t-var-001"] ∧
      Terminal.strip (diagnostic.compact false) = diagnostic.compact false := by
  intro scope diagnostic
  have written : scope.WellWritten := by
    refine .list _ ?_
    simp only [List.forall_mem_cons]
    exact ⟨.text _, .decimal _ (by decide), by simp⟩
  have reported : Reported (.diagnosed diagnostic) := .scope scope written _ rfl
  obtain ⟨-, lines⟩ := reported.lines_of_compact
  obtain ⟨code, coded, compact, -, stripped⟩ := lines diagnostic rfl
  cases coded
  exact ⟨reported, compact.trans (by decide +kernel), stripped⟩

end TagBinding
