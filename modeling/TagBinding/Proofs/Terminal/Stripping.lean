import TagBinding.Terminal.Color

/-!
# What stripping takes out

A text is stripped piece by piece only where no escape sequence can reach over the seam. Two things make a
seam safe: the first piece ends outside every sequence (`Settled`), or the second piece begins with a character
that goes on with none, as every character below the space does. Both codes and line ends are of the second
kind, so a text is stripped line by line (`stripChars_intercalate`), and painting a text, whatever it is cut
off in, changes nothing that is left of it (`stripChars_paintChars`).
-/

namespace TagBinding.Terminal

/-! ## Texts that end outside every sequence -/

/-- Whether reading a text from outside ends outside, so that nothing is held back. -/
def Settled (text : List Char) : Prop := (Phase.plain.scan text).2 = .plain

theorem settled_append {text more : List Char} (front : Settled text) (back : Settled more) :
    Settled (text ++ more) := by
  rw [Settled, Phase.scan_append, front]
  exact back

theorem stripChars_append_of_settled {text : List Char} (settled : Settled text) (more : List Char) :
    stripChars (text ++ more) = stripChars text ++ stripChars more := by
  simp only [stripChars, Phase.scan_append]
  rw [settled]
  simp [Phase.held]

/-- A space and an opening bracket leave nothing open: in a control sequence the bracket is the final character,
and elsewhere the space breaks off what is pending. -/
theorem settled_append_bracket (text : List Char) : Settled (text ++ [' ', controlOpener]) := by
  rw [Settled, Phase.scan_append]
  cases (Phase.plain.scan text).2 with
  | plain => rfl
  | opened => rfl
  | parameters read => rfl
  | intermediates read => rfl

/-! ## Characters that break a sequence off -/

namespace Phase

/-- A character below the space goes on with no sequence: what is held back is given out before it. -/
theorem step_of_lt_space {c : Char} (below : c < ' ') (phase : Phase) : phase.step c = phase.giveUp c := by
  have unreached (low : Char) (above : ' ' ≤ low) : ¬ low ≤ c := fun reached =>
    Nat.not_le.2 below (Nat.le_trans above reached)
  have single : isSingleFinal c = false := by simp [isSingleFinal, unreached '@' (by decide)]
  have parameter : isParameter c = false := by simp [isParameter, unreached '0' (by decide)]
  have intermediate : isIntermediate c = false := by simp [isIntermediate, unreached ' ' (by decide)]
  have final : isFinal c = false := by simp [isFinal, unreached '@' (by decide)]
  have opener : c ≠ controlOpener := by
    rintro rfl
    exact absurd below (by decide)
  cases phase with
  | plain => simp [step, giveUp, held]
  | opened => simp [step, opener, single]
  | parameters read => simp [step, parameter, intermediate, final]
  | intermediates read => simp [step, intermediate, final]

theorem scan_cons_of_lt_space {c : Char} (below : c < ' ') (phase : Phase) (rest : List Char) :
    phase.scan (c :: rest) =
      (phase.held ++ (Phase.plain.scan (c :: rest)).1, (Phase.plain.scan (c :: rest)).2) := by
  simp only [scan_cons, step_of_lt_space below, giveUp, List.append_assoc]
  rfl

end Phase

theorem stripChars_append_of_lt_space {c : Char} (below : c < ' ') (text rest : List Char) :
    stripChars (text ++ c :: rest) = stripChars text ++ stripChars (c :: rest) := by
  simp only [stripChars, Phase.scan_append, Phase.scan_cons_of_lt_space below (Phase.plain.scan text).2,
    List.append_assoc]

/-! ## Lines -/

theorem stripChars_newline_cons (rest : List Char) : stripChars ('\n' :: rest) = '\n' :: stripChars rest := by
  simp [stripChars, Phase.scan_cons, Phase.step, Phase.restart, escapeChar]

theorem stripChars_intercalate (lines : List (List Char)) :
    stripChars (['\n'].intercalate lines) = ['\n'].intercalate (lines.map stripChars) := by
  induction lines with
  | nil => rfl
  | cons line rest ih =>
      cases rest with
      | nil => simp
      | cons next rest =>
          have seam : stripChars (line ++ '\n' :: ['\n'].intercalate (next :: rest)) =
              stripChars line ++ '\n' :: stripChars (['\n'].intercalate (next :: rest)) := by
            rw [stripChars_append_of_lt_space (by decide), stripChars_newline_cons]
          simpa [ih] using seam

/-! ## Texts without the escape character -/

/-- Whether a text holds no escape character. -/
def EscapeFree (text : List Char) : Prop := escapeChar ∉ text

instance (text : List Char) : Decidable (EscapeFree text) := inferInstanceAs (Decidable (escapeChar ∉ text))

theorem EscapeFree.append {text more : List Char} (front : EscapeFree text) (back : EscapeFree more) :
    EscapeFree (text ++ more) := by
  simp_all [EscapeFree]

theorem EscapeFree.append_string {text more : String} (front : EscapeFree text.toList)
    (back : EscapeFree more.toList) : EscapeFree (text ++ more).toList := by
  rw [String.toList_append]
  exact front.append back

/-- A text without the escape character is ordinary text throughout. -/
theorem EscapeFree.scan {text : List Char} (free : EscapeFree text) :
    Phase.plain.scan text = (text, .plain) := by
  induction text with
  | nil => rfl
  | cons c rest ih =>
      obtain ⟨other, rest_free⟩ := List.ne_and_not_mem_of_not_mem_cons free
      simp [Phase.scan_cons, Phase.step, Phase.restart, Ne.symm other, ih rest_free]

theorem EscapeFree.settled {text : List Char} (free : EscapeFree text) : Settled text := by
  simp [Settled, free.scan]

theorem EscapeFree.stripChars {text : List Char} (free : EscapeFree text) : stripChars text = text := by
  simp [Terminal.stripChars, free.scan, Phase.held]

/-! ## Painted texts -/

theorem settled_sequence (color : Color) : Settled color.sequence := by
  simp [Settled, color.scan_sequence]

theorem stripChars_sequence (color : Color) : stripChars color.sequence = [] := by
  simp [stripChars, color.scan_sequence, Phase.held]

theorem settled_sequences (colors : List Color) : Settled (colors.flatMap Color.sequence) := by
  induction colors with
  | nil => rfl
  | cons color rest ih => simpa using settled_append (settled_sequence color) ih

theorem stripChars_sequences (colors : List Color) : stripChars (colors.flatMap Color.sequence) = [] := by
  induction colors with
  | nil => rfl
  | cons color rest ih =>
      rw [List.flatMap_cons, stripChars_append_of_settled (settled_sequence color), stripChars_sequence, ih,
        List.append_nil]

/-- Nothing is left of the codes that a text is painted with, and they take nothing of the text along. -/
theorem stripChars_paintChars (colored : Bool) (colors : List Color) (text : List Char) :
    stripChars (paintChars colored colors text) = stripChars text := by
  unfold paintChars
  split
  · -- the reset code breaks off what the text is cut off in, so the seam before it is safe
    have seam : stripChars ((colors.flatMap Color.sequence ++ text) ++ Color.reset.sequence) =
        stripChars (colors.flatMap Color.sequence ++ text) ++ stripChars Color.reset.sequence :=
      stripChars_append_of_lt_space (by decide) _ _
    rw [seam, stripChars_append_of_settled (settled_sequences colors), stripChars_sequences,
      stripChars_sequence, List.nil_append, List.append_nil]
  · rfl

theorem settled_paintChars (colored : Bool) (colors : List Color) {text : List Char} (settled : Settled text) :
    Settled (paintChars colored colors text) := by
  unfold paintChars
  split
  · exact settled_append (settled_append (settled_sequences colors) settled) (settled_sequence .reset)
  · exact settled

theorem paintChars_eq_self_iff {colored : Bool} {colors : List Color} {text : List Char} :
    paintChars colored colors text = text ↔ colored = false ∨ colors = [] := by
  unfold paintChars
  split
  · next painted =>
      obtain ⟨on, given⟩ : colored = true ∧ colors ≠ [] := by simpa using painted
      simp only [on, given, Bool.true_eq_false, or_false, iff_false]
      intro same
      have lengths := congrArg List.length same
      simp only [Color.sequence, List.length_append, List.length_cons] at lengths
      omega
  · next plain => simpa [Decidable.or_iff_not_imp_left] using plain

/-- Whatever a text is cut off in and whatever colours are named, stripping undoes the painting; and painting does
something, unless colours are off or no name is that of a colour. -/
theorem strip_paintNamed (colored : Bool) (names : List String) (text : String) :
    strip (paintNamed colored names text) = strip text ∧
      (EscapeFree text.toList → strip (paintNamed colored names text) = text) ∧
        (paintNamed colored names text = text ↔ colored = false ∨ ∀ name ∈ names, Color.ofName? name = none) := by
  have undone : strip (paintNamed colored names text) = strip text := by
    simp only [strip, paintNamed, paint, String.toList_ofList, stripChars_paintChars]
  refine ⟨undone, fun free => ?_, ?_⟩
  · rw [undone, strip, free.stripChars, String.ofList_toList]
  · rw [paintNamed, paint, ← String.toList_inj, String.toList_ofList, paintChars_eq_self_iff,
      List.filterMap_eq_nil_iff]

theorem strip_paintNamed_code :
    EscapeFree "T-SCO-001".toList ∧
      strip (paintNamed true ["bright_red", "mauve", "bold"] "T-SCO-001") = "T-SCO-001" :=
  ⟨by decide, (strip_paintNamed true ["bright_red", "mauve", "bold"] "T-SCO-001").2.1 (by decide)⟩

end TagBinding.Terminal
