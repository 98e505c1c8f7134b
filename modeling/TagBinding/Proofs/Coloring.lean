import TagBinding.Diagnostic
import TagBinding.Plan.Views
import TagBinding.Proofs.Plan.Replay
import TagBinding.Proofs.Terminal.Markup
import TagBinding.Proofs.Text.Unbroken

/-!
# Colour is decoration

What the table of a plan and the compact form of a diagnostic say is the same in colour and without. The words
of the package and the names of variables hold no escape character (`Text.escapeFree_of_isVariableName`); a
name of a type may hold anything, and what it is cut off in is closed by the bracket after it; every other
text that may hold anything ends its line.
-/

namespace TagBinding

open Terminal (EscapeFree Settled Markup Span Decorative)

/-! ## Words -/

/-- The escape character is one of those that break a line. -/
theorem Text.Unbroken.escapeFree {text : String} (unbroken : Text.Unbroken text) : EscapeFree text.toList := by
  have breaking : Text.breaks Terminal.escapeChar = true := by decide
  intro member
  rw [unbroken _ member] at breaking
  cases breaking

theorem Text.escapeFree_of_isVariableName {name : String} (valid : Text.isVariableName name) :
    EscapeFree name.toList :=
  (Text.unbroken_of_isVariableName valid).escapeFree

theorem Callback.escapeFree_method (callback : Callback) : EscapeFree callback.method.toList := by
  cases callback <;> decide

/-! ## Tables -/

theorem escapeFree_padded (width : Nat) {text : String} (free : EscapeFree text.toList) :
    EscapeFree (padded width text).toList := by
  have blanks : EscapeFree (List.replicate (width - text.length) ' ') := by
    simp [EscapeFree, List.mem_replicate, Terminal.escapeChar]
  simpa [padded] using free.append blanks

namespace Checkpoint

variable {σ : Type} [Marked σ]

theorem escapeFree_label (checkpoint : Checkpoint σ) : EscapeFree checkpoint.label.toList :=
  (EscapeFree.append_string (by decide) checkpoint.callback.escapeFree_method).append_string (by decide)

theorem mem_declarationCell {v : Variable σ} {span : Span} (member : span ∈ declarationCell v) :
    EscapeFree span.text ∨ span = .plain (": " ++ v.typeName ++ " [") := by
  simp only [declarationCell, List.mem_cons, List.not_mem_nil, or_false] at member
  obtain rfl | rfl | rfl | rfl | rfl := member
  · exact .inl (by decide)
  · exact .inl (Text.escapeFree_of_isVariableName v.name_valid)
  · exact .inr rfl
  · exact .inl (Marked.mark v.scope).unbroken_name.escapeFree
  · exact .inl (by decide)

omit [Marked σ] in
theorem escapeFree_updateCell (v : Variable σ) : Markup.EscapeFree (updateCell v) := by
  intro span member
  simp only [updateCell, List.mem_cons, List.not_mem_nil, or_false] at member
  obtain rfl | rfl := member
  · decide
  · exact Text.escapeFree_of_isVariableName v.name_valid

theorem mem_cells {checkpoint : Checkpoint σ} {cell : Markup} (member : cell ∈ checkpoint.cells) :
    (∃ v ∈ checkpoint.declarations, cell = declarationCell v) ∨
      ∃ v ∈ checkpoint.updates, cell = updateCell v := by
  obtain declared | updated := List.mem_append.1 member
  · obtain ⟨v, among, rfl⟩ := List.mem_map.1 declared
    exact .inl ⟨v, among, rfl⟩
  · obtain ⟨v, among, rfl⟩ := List.mem_map.1 updated
    exact .inr ⟨v, among, rfl⟩

/-- A piece of a row holds no escape character, unless it shows the name of a type. -/
theorem mem_row {width : Nat} {checkpoint : Checkpoint σ} {span : Span} (member : span ∈ checkpoint.row width) :
    EscapeFree span.text ∨ ∃ v ∈ checkpoint.declarations, span = .plain (": " ++ v.typeName ++ " [") := by
  obtain rfl | member := List.mem_cons.1 member
  · have shown := escapeFree_padded width checkpoint.escapeFree_label
    exact .inl ((EscapeFree.append_string (by decide) shown).append_string (by decide))
  · unfold content at member
    split at member
    · obtain rfl := List.mem_singleton.1 member
      exact .inl (by decide)
    · obtain rfl | ⟨cell, among, inside⟩ := Markup.mem_joined member
      · exact .inl (by decide)
      · obtain ⟨v, declared, rfl⟩ | ⟨v, -, rfl⟩ := mem_cells among
        · exact (mem_declarationCell inside).imp_right fun shown => ⟨v, declared, shown⟩
        · exact .inl (escapeFree_updateCell v span inside)

theorem legible_row (width : Nat) (checkpoint : Checkpoint σ) : Markup.Legible (checkpoint.row width) := by
  intro span member
  obtain free | ⟨v, -, rfl⟩ := mem_row (List.dropLast_subset _ member)
  · exact free.settled
  · simp only [Span.text, String.toList_append]
    exact Terminal.settled_append_bracket (": ".toList ++ v.typeName.toList)

theorem escapeFree_row {checkpoint : Checkpoint σ}
    (unescaped : ∀ v ∈ checkpoint.declarations, EscapeFree v.typeName.toList) (width : Nat) :
    Markup.EscapeFree (checkpoint.row width) := by
  intro span member
  obtain free | ⟨v, declared, rfl⟩ := mem_row member
  · exact free
  · exact (EscapeFree.append_string (by decide) (unescaped v declared)).append_string (by decide)

end Checkpoint

namespace Plan

variable {σ : Type} [Marked σ]

/-- Whether no name of a type that the plan declares a variable with holds an escape character. -/
def Unescaped (plan : Plan σ) : Prop :=
  ∀ checkpoint ∈ plan.checkpoints, ∀ v ∈ checkpoint.declarations, EscapeFree v.typeName.toList

theorem escapeFree_title (plan : Plan σ) : Markup.EscapeFree plan.title := by
  intro span member
  obtain rfl := List.mem_singleton.1 member
  exact (Mark.kind plan.kind).unbroken_name.escapeFree.append_string (by decide)

theorem decorative_format (plan : Plan σ) : Decorative plan.format plan.Unescaped := by
  refine Terminal.decorative_lines fun line member => ?_
  obtain rfl | row := List.mem_cons.1 member
  · exact ⟨plan.escapeFree_title.legible, fun _ => plan.escapeFree_title⟩
  · obtain ⟨checkpoint, among, rfl⟩ := List.mem_map.1 row
    exact ⟨checkpoint.legible_row plan.labelWidth,
      fun unescaped => Checkpoint.escapeFree_row (unescaped checkpoint among) plan.labelWidth⟩

end Plan

/-! ## Notices -/

namespace Notice

/-- Whether none of the texts that a notice is given holds an escape character. -/
structure Unescaped (notice : Notice) : Prop where
  message : EscapeFree notice.message.toList
  place : ∀ place ∈ notice.place, EscapeFree place.toList
  hint : ∀ hint ∈ notice.hint, EscapeFree hint.toList

/-- A line is made of words of the package, and one text at its end that may hold anything the notice was
given. -/
theorem mem_lines {notice : Notice} {line : Markup} (member : line ∈ notice.lines) :
    ∃ front last, line = front ++ [last] ∧ Markup.EscapeFree front ∧
      (notice.Unescaped → EscapeFree last.text) := by
  simp only [lines, List.mem_append, List.mem_singleton, Option.mem_toList, Option.map_eq_some_iff,
    Option.filter_eq_some_iff] at member
  obtain ((rfl | ⟨place, given, rfl⟩) | ⟨hint, ⟨given, -⟩, rfl⟩) | ⟨code, -, rfl⟩ := member
  · cases notice.code with
    | none => exact ⟨[], .plain notice.message, rfl, by decide, fun unescaped => unescaped.message⟩
    | some code =>
        refine ⟨[.styled .errorCode code.text], .plain (": " ++ notice.message), ?_, ?_,
          fun unescaped => EscapeFree.append_string (by decide) unescaped.message⟩
        · cases code <;> rfl
        · simpa [Markup.EscapeFree, Span.text] using code.unbroken_text.escapeFree
  · exact ⟨[.plain "  Location: "], .styled .location place, rfl, by decide,
      fun unescaped => unescaped.place place given⟩
  · exact ⟨[.plain "  ", .styled .hint "Hint:"], .plain (" " ++ hint), rfl, by decide,
      fun unescaped => EscapeFree.append_string (by decide) (unescaped.hint hint given)⟩
  · exact ⟨[.plain "  ", .styled .dimText "Docs:", .plain " "], .styled .docsUrl code.docsUrl, rfl, by decide,
      fun _ => code.unbroken_docsUrl.escapeFree⟩

theorem decorative_compact (notice : Notice) : Decorative notice.compact notice.Unescaped := by
  refine Terminal.decorative_lines fun line member => ?_
  obtain ⟨front, last, rfl, free, closing⟩ := mem_lines member
  exact ⟨free.legible_concat last, fun unescaped => free.concat (closing unescaped)⟩

end Notice

/-! ## All of them -/

/-- Colour is decoration: of the table of a plan, of whatever a notice tells, and so of every diagnostic. -/
theorem coloring_immaterial :
    (∀ {σ : Type} [Marked σ] (plan : Plan σ), Decorative plan.format plan.Unescaped) ∧
      (∀ notice : Notice, Decorative notice.compact notice.Unescaped) ∧
        ∀ diagnostic : Diagnostic, Decorative diagnostic.compact diagnostic.notice.Unescaped :=
  ⟨fun plan => plan.decorative_format, Notice.decorative_compact,
    fun diagnostic => diagnostic.notice.decorative_compact⟩

namespace Rows

/-- A row with a type whose name is cut off in a control sequence. -/
def severed : Variable := { inBody with typeName := "Row\x1B[3", typeName_visible := by decide }

def severedPlan : Plan := .ofVariables .classic [severed]

/-- A notice with every text cut off in some sequence. -/
def severedNotice : Notice := ⟨some .duplicateVariable, "taken \x1B[1", some "<t:rows> at \x1B", some "\x1B[3 "⟩

end Rows

/-- A table, and a notice each of whose texts is cut off in a sequence: what they say in colour is what they say
without. -/
theorem coloring_immaterial_rows :
    (Terminal.strip (Rows.severedPlan.format true) = Terminal.strip (Rows.severedPlan.format false) ∧
      Terminal.strip (Rows.severedNotice.compact true) = Terminal.strip (Rows.severedNotice.compact false) ∧
        Rows.plan.Unescaped ∧ Rows.plan.format true ≠ Rows.plan.format false ∧
          Terminal.strip (Rows.plan.format true) = Rows.plan.format false) ∧
    Rows.plan.format false = "\n".intercalate
      ["BODY_BUFFERING synchronization plan:", "  after doStartTag()  declare row: Row [NESTED], sync total",
        "  after doInitBody()  sync row, sync total", "  after doAfterBody() sync row, sync total",
        "  after doEndTag()    declare row: Row [AT_END], sync total"] ∧
    Rows.severedNotice.compact false = "\n".intercalate
      ["T-SCO-001: taken \x1B[1", "  Location: <t:rows> at \x1B", "  Hint: \x1B[3 ",
        "  Docs: https://tagscope.readthedocs.io/en/latest/errors.html#t-sco-001"] ∧
    Rows.severedNotice.compact true = "\n".intercalate
      ["\x1B[91m\x1B[1mT-SCO-001\x1B[0m: taken \x1B[1", "  Location: \x1B[36m<t:rows> at \x1B\x1B[0m",
        "  \x1B[32mHint:\x1B[0m \x1B[3 ",
        "  \x1B[2mDocs:\x1B[0m \x1B[94mhttps://tagscope.readthedocs.io/en/latest/errors.html#t-sco-001\x1B[0m"] := by
  have free : Rows.plan.Unescaped := by
    unfold Plan.Unescaped
    decide
  refine ⟨⟨(coloring_immaterial.1 Rows.severedPlan).same, (coloring_immaterial.2.1 Rows.severedNotice).same, free, ?_,
    (coloring_immaterial.1 Rows.plan).restored free⟩, ?_, ?_, ?_⟩
  all_goals decide +kernel

end TagBinding
