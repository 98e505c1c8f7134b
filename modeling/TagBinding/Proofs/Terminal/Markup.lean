import TagBinding.Proofs.Terminal.Stripping
import TagBinding.Terminal.Color

/-!
# Stripping marked-up texts

A piece of a text is painted as a whole, so what stripping leaves of it does not depend on the paint
(`Span.stripChars_chars`). Pieces next to each other may be stripped one by one if each but the last ends
outside every sequence, with paint and without: such a line is `Legible`. A text made of legible lines is
stripped alike in both renderings, since a line end breaks off whatever the line before it is cut off in
(`decorative_lines`).
-/

namespace TagBinding.Terminal

/-! ## Pieces -/

namespace Span

def text : Span → List Char
  | .plain text => text.toList
  | .styled _ text => text.toList

theorem chars_false (span : Span) : span.chars false = span.text := by
  cases span <;> rfl

theorem stripChars_chars (colored : Bool) (span : Span) :
    stripChars (span.chars colored) = stripChars span.text := by
  cases span with
  | plain text => rfl
  | styled style text => exact stripChars_paintChars colored style.colors text.toList

theorem settled_chars (colored : Bool) {span : Span} (settled : Settled span.text) :
    Settled (span.chars colored) := by
  cases span with
  | plain text => exact settled
  | styled style text => exact settled_paintChars colored style.colors settled

end Span

namespace Markup

def text (markup : Markup) : List Char := markup.flatMap Span.text

theorem chars_false (markup : Markup) : markup.chars false = markup.text := by
  simp only [chars, text, funext Span.chars_false]

/-- Whether each piece that another one follows ends outside every sequence. -/
def Legible (markup : Markup) : Prop := ∀ span ∈ markup.dropLast, Settled span.text

theorem stripChars_chars (colored : Bool) {markup : Markup} (legible : markup.Legible) :
    stripChars (markup.chars colored) = stripChars markup.text := by
  induction markup with
  | nil => rfl
  | cons span rest ih =>
      cases rest with
      | nil => simpa [chars, text] using span.stripChars_chars colored
      | cons next rest =>
          have front : Settled span.text := legible span (by simp)
          have back : Legible (next :: rest) := fun later member => legible later (by simp [member])
          have seam (form : Span → List Char) (settled : Settled (form span)) :
              stripChars ((span :: next :: rest).flatMap form) =
                stripChars (form span) ++ stripChars ((next :: rest).flatMap form) := by
            rw [List.flatMap_cons, stripChars_append_of_settled settled]
          have tail := ih back
          simp only [chars, text] at tail ⊢
          rw [seam _ (span.settled_chars colored front), seam _ front, span.stripChars_chars, tail]

/-- Whether no piece holds an escape character. -/
def EscapeFree (markup : Markup) : Prop := ∀ span ∈ markup, Terminal.EscapeFree span.text

instance (markup : Markup) : Decidable markup.EscapeFree :=
  inferInstanceAs (Decidable (∀ span ∈ markup, Terminal.EscapeFree span.text))

theorem EscapeFree.legible {markup : Markup} (free : markup.EscapeFree) : markup.Legible :=
  fun span member => (free span (List.dropLast_subset _ member)).settled

/-- Pieces without escape characters may be followed by one that may hold anything. -/
theorem EscapeFree.legible_concat {front : Markup} (free : front.EscapeFree) (last : Span) :
    Legible (front ++ [last]) := by
  intro span inside
  rw [List.dropLast_concat] at inside
  exact (free span inside).settled

theorem EscapeFree.concat {front : Markup} (free : front.EscapeFree) {last : Span}
    (last_free : Terminal.EscapeFree last.text) : EscapeFree (front ++ [last]) := by
  intro span inside
  obtain early | final := List.mem_append.1 inside
  · exact free span early
  · obtain rfl := List.mem_singleton.1 final
    exact last_free

theorem EscapeFree.stripChars_text {markup : Markup} (free : markup.EscapeFree) :
    stripChars markup.text = markup.text := by
  have whole : Terminal.EscapeFree markup.text := by
    simpa [text, Terminal.EscapeFree, EscapeFree] using free
  exact whole.stripChars

theorem joined_cons_cons (separator : String) (part next : Markup) (rest : List Markup) :
    joined separator (part :: next :: rest) =
      part ++ ([.plain separator] ++ joined separator (next :: rest)) := by
  simp [joined]

theorem mem_joined {separator : String} {parts : List Markup} {span : Span}
    (member : span ∈ joined separator parts) :
    span = .plain separator ∨ ∃ part ∈ parts, span ∈ part := by
  induction parts with
  | nil => simp [joined] at member
  | cons part rest ih =>
      cases rest with
      | nil => exact .inr ⟨part, by simp, by simpa [joined] using member⟩
      | cons next rest =>
          rw [joined_cons_cons, List.mem_append, List.mem_append, List.mem_singleton] at member
          obtain here | between | later := member
          · exact .inr ⟨part, by simp, here⟩
          · exact .inl between
          · obtain same | ⟨found, among, holds⟩ := ih later
            · exact .inl same
            · exact .inr ⟨found, by simp [among], holds⟩

theorem chars_joined (colored : Bool) (separator : String) (parts : List Markup) :
    chars colored (joined separator parts) =
      separator.toList.intercalate (parts.map (chars colored)) := by
  induction parts with
  | nil => rfl
  | cons part rest ih =>
      cases rest with
      | nil => simp [joined]
      | cons next rest =>
          rw [joined_cons_cons, chars_append, chars_append, ih]
          simp [chars, Span.chars]

/-- Legible lines are stripped one by one, and what is left of them does not depend on the paint. -/
theorem stripChars_chars_lines (colored : Bool) {lines : List Markup}
    (legible : ∀ line ∈ lines, line.Legible) :
    stripChars (chars colored (joined "\n" lines)) =
      ['\n'].intercalate (lines.map fun line => stripChars line.text) := by
  have each : (lines.map (chars colored)).map stripChars = lines.map fun line => stripChars line.text := by
    rw [List.map_map]
    exact List.map_congr_left fun line member => stripChars_chars colored (legible line member)
  rw [chars_joined, show "\n".toList = ['\n'] from rfl, stripChars_intercalate, each]

end Markup

/-! ## Decoration -/

/-- Colour only decorates a text that is rendered with or without it: the two renderings differ in escape
sequences alone, and where what is shown holds no escape character, stripping the coloured one gives back the
other. -/
structure Decorative (rendering : Bool → String) (unescaped : Prop) : Prop where
  same : strip (rendering true) = strip (rendering false)
  restored : unescaped → strip (rendering true) = rendering false

theorem decorative_lines {lines : List Markup} {unescaped : Prop}
    (each : ∀ line ∈ lines, line.Legible ∧ (unescaped → line.EscapeFree)) :
    Decorative (fun colored => (Markup.joined "\n" lines).render colored) unescaped where
  same := by
    simp [strip, Markup.render, Markup.stripChars_chars_lines _ fun line member => (each line member).1]
  restored unescaped := by
    have bare : (lines.map fun line => stripChars line.text) = lines.map (Markup.chars false) :=
      List.map_congr_left fun line member => by
        rw [((each line member).2 unescaped).stripChars_text, Markup.chars_false]
    rw [strip, Markup.render, String.toList_ofList,
      Markup.stripChars_chars_lines _ fun line member => (each line member).1, bare, Markup.render,
      Markup.chars_joined]
    rfl

end TagBinding.Terminal
