import TagBinding.Proofs.Terminal.Stripping

/-!
# Sequences that stripping brings together

The reader that strips a text is held to the grammar of escape sequences (`IsSequence`) by two rules: a sequence
at the front of a text is taken out (`stripChars_sequence_append`), and a character that no sequence begins with
stays (`stripChars_cons`).  So stripping takes out, in one pass from the front, every sequence that stands in the
text (`stripped_stripChars`, `stripChars_around_sequence`).

One pass may still leave a sequence behind: one that others stood in the middle of.  `clean_strip_iff` says that
these are all: what is left of a text holds a sequence, and a second pass changes it, exactly if the text holds
an interrupted one.
-/

namespace TagBinding.Terminal

/-! ## The grammar -/

/-- An escape sequence: the escape character with one more character, or the escape character, an opening bracket,
parameters, intermediates and a final character. -/
inductive IsSequence : List Char → Prop where
  | single {final : Char} (ends : isSingleFinal final) : IsSequence [escapeChar, final]
  | control {parameters intermediates : List Char} {final : Char} (parametric : ∀ c ∈ parameters, isParameter c)
      (intermediate : ∀ c ∈ intermediates, isIntermediate c) (ends : isFinal final) :
      IsSequence (escapeChar :: controlOpener :: (parameters ++ intermediates ++ [final]))

/-- Whether no sequence begins with the first character of a text. -/
def OpensNone (text : List Char) : Prop := ∀ sequence, IsSequence sequence → ¬ sequence <+: text

/-- Whether a text holds no sequence. -/
def Clean (text : List Char) : Prop := ∀ sequence, IsSequence sequence → ¬ sequence <:+: text

theorem exists_sequence_of_not_opensNone {text : List Char} (opens : ¬ OpensNone text) :
    ∃ sequence, IsSequence sequence ∧ sequence <+: text := by
  simpa [OpensNone] using opens

section Characters

variable {c : Char}

theorem not_isParameter_of_isIntermediate (intermediate : isIntermediate c) : isParameter c = false := by
  simp only [isIntermediate, isParameter, Bool.and_eq_true, decide_eq_true_eq, ← Bool.not_eq_true] at intermediate ⊢
  exact fun parameter => absurd (Char.le_trans parameter.1 intermediate.2) (by decide)

theorem not_isParameter_of_isFinal (final : isFinal c) : isParameter c = false := by
  simp only [isFinal, isParameter, Bool.and_eq_true, decide_eq_true_eq, ← Bool.not_eq_true] at final ⊢
  exact fun parameter => absurd (Char.le_trans final.1 parameter.2) (by decide)

theorem not_isIntermediate_of_isFinal (final : isFinal c) : isIntermediate c = false := by
  simp only [isFinal, isIntermediate, Bool.and_eq_true, decide_eq_true_eq, ← Bool.not_eq_true] at final ⊢
  exact fun intermediate => absurd (Char.le_trans final.1 intermediate.2) (by decide)

theorem ne_controlOpener_of_isSingleFinal (final : isSingleFinal c) : c ≠ controlOpener := by
  simp only [isSingleFinal, Bool.and_eq_true, bne_iff_ne] at final
  exact final.2

end Characters

/-! ## The reader follows the grammar -/

namespace Phase

theorem scan_parameters (read : List Char) {added : List Char} (parametric : ∀ c ∈ added, isParameter c) :
    (parameters read).scan added = ([], parameters (read ++ added)) := by
  induction added generalizing read with
  | nil => simp
  | cons c rest ih =>
      obtain ⟨first, others⟩ := List.forall_mem_cons.1 parametric
      simp [scan_cons, step, first, ih (read ++ [c]) others]

theorem scan_intermediates (read : List Char) {added : List Char} (intermediate : ∀ c ∈ added, isIntermediate c) :
    (intermediates read).scan added = ([], intermediates (read ++ added)) := by
  induction added generalizing read with
  | nil => simp
  | cons c rest ih =>
      obtain ⟨first, others⟩ := List.forall_mem_cons.1 intermediate
      simp [scan_cons, step, first, ih (read ++ [c]) others]

/-- After the opening bracket, intermediates and a final character finish the sequence. -/
theorem scan_intermediates_final (read : List Char) {added : List Char} {final : Char}
    (intermediate : ∀ c ∈ added, isIntermediate c) (ends : isFinal final) :
    (parameters read).scan (added ++ [final]) = ([], .plain) := by
  cases added with
  | nil =>
      simp [scan_cons, step, ends, not_isParameter_of_isFinal ends, not_isIntermediate_of_isFinal ends]
  | cons c rest =>
      obtain ⟨first, others⟩ := List.forall_mem_cons.1 intermediate
      simp [scan_cons, step, first, not_isParameter_of_isIntermediate first, scan_append,
        scan_intermediates _ others, ends, not_isIntermediate_of_isFinal ends]

end Phase

namespace IsSequence

variable {sequence : List Char}

theorem scan (isSequence : IsSequence sequence) : Phase.plain.scan sequence = ([], .plain) := by
  cases isSequence with
  | single ends =>
      simp [Phase.scan_cons, Phase.step, Phase.restart, ends, ne_controlOpener_of_isSingleFinal ends]
  | control parametric intermediate ends =>
      simp [Phase.scan_cons, Phase.step, Phase.restart, List.append_assoc, Phase.scan_append,
        Phase.scan_parameters _ parametric, Phase.scan_intermediates_final _ intermediate ends]

theorem settled (isSequence : IsSequence sequence) : Settled sequence := by
  simp [Settled, isSequence.scan]

theorem stripChars (isSequence : IsSequence sequence) : stripChars sequence = [] := by
  simp [Terminal.stripChars, isSequence.scan, Phase.held]

/-- Only the first character of a sequence is the escape character. -/
theorem exists_body (isSequence : IsSequence sequence) :
    ∃ body, sequence = escapeChar :: body ∧ EscapeFree body := by
  cases isSequence with
  | single ends =>
      refine ⟨_, rfl, ?_⟩
      simp only [EscapeFree, List.mem_singleton]
      rintro rfl
      exact absurd ends (by decide)
  | control parametric intermediate ends =>
      refine ⟨_, rfl, ?_⟩
      simp only [EscapeFree, List.mem_cons, List.mem_append, List.not_mem_nil, or_false, not_or]
      refine ⟨by decide, ⟨fun inside => ?_, fun inside => ?_⟩, ?_⟩
      · exact absurd (parametric _ inside) (by decide)
      · exact absurd (intermediate _ inside) (by decide)
      · rintro rfl
        exact absurd ends (by decide)

theorem ne_nil (isSequence : IsSequence sequence) : sequence ≠ [] := by
  obtain ⟨body, rfl, -⟩ := isSequence.exists_body
  exact List.cons_ne_nil _ _

end IsSequence

theorem stripChars_sequence_append {sequence : List Char} (isSequence : IsSequence sequence) (rest : List Char) :
    stripChars (sequence ++ rest) = stripChars rest := by
  rw [stripChars_append_of_settled isSequence.settled, isSequence.stripChars, List.nil_append]

theorem stripChars_cons_of_ne {c : Char} (other : c ≠ escapeChar) (rest : List Char) :
    stripChars (c :: rest) = c :: stripChars rest := by
  simp [stripChars, Phase.scan_cons, Phase.step, Phase.restart, other]

theorem stripChars_escapeFree_append {text : List Char} (free : EscapeFree text) (rest : List Char) :
    stripChars (text ++ rest) = text ++ stripChars rest := by
  rw [stripChars_append_of_settled free.settled, free.stripChars]

/-- A sequence is taken out wherever it stands. -/
theorem stripChars_around_sequence (before : List Char) {sequence : List Char} (isSequence : IsSequence sequence)
    (after : List Char) : stripChars (before ++ sequence ++ after) = stripChars before ++ stripChars after := by
  obtain ⟨body, rfl, -⟩ := isSequence.exists_body
  rw [List.append_assoc, List.cons_append, stripChars_append_of_lt_space (by decide), ← List.cons_append,
    stripChars_sequence_append isSequence]

/-! ## What the reader holds back -/

namespace Phase

/-- Whether the characters that a phase has read are of the kinds it takes them for. -/
def Sound : Phase → Prop
  | .plain | .opened => True
  | .parameters read => ∀ c ∈ read, isParameter c
  | .intermediates read => ∃ front back, read = front ++ back ∧ (∀ c ∈ front, isParameter c) ∧
      ∀ c ∈ back, isIntermediate c

/-- All that a character can do: no pending sequence can take it, it finishes one, or it is held back too. -/
theorem step_cases {phase : Phase} (sound : phase.Sound) (c : Char) :
    phase.step c = phase.giveUp c ∨ (phase.step c = ([], .plain) ∧ IsSequence (phase.held ++ [c])) ∨
      ∃ next, phase.step c = ([], next) ∧ next.Sound ∧ next.held = phase.held ++ [c] ∧ c ≠ escapeChar := by
  -- in each phase the tests come in the order of the grammar; a character that passes none ends the attempt
  cases phase with
  | plain => exact .inl rfl
  | opened =>
      by_cases opener : c = controlOpener
      · subst opener
        exact .inr (.inr ⟨.parameters [], rfl, by simp [Sound], rfl, by decide⟩)
      · by_cases final : isSingleFinal c
        · exact .inr (.inl ⟨by simp [step, opener, final], .single final⟩)
        · exact .inl (by simp [step, opener, final])
  | parameters read =>
      by_cases parameter : isParameter c
      · refine .inr (.inr ⟨.parameters (read ++ [c]), by simp [step, parameter], ?_, rfl, ?_⟩)
        · exact List.forall_mem_append.2 ⟨sound, by simpa using parameter⟩
        · rintro rfl
          exact absurd parameter (by decide)
      · by_cases intermediate : isIntermediate c
        · refine .inr (.inr ⟨.intermediates (read ++ [c]), by simp [step, parameter, intermediate], ?_, rfl, ?_⟩)
          · exact ⟨read, [c], rfl, sound, by simpa using intermediate⟩
          · rintro rfl
            exact absurd intermediate (by decide)
        · by_cases final : isFinal c
          · refine .inr (.inl ⟨by simp [step, parameter, intermediate, final], ?_⟩)
            simpa [held] using IsSequence.control sound (List.forall_mem_nil _) final
          · exact .inl (by simp [step, parameter, intermediate, final])
  | intermediates read =>
      obtain ⟨front, back, rfl, parametric, intermediates⟩ := sound
      by_cases intermediate : isIntermediate c
      · refine .inr (.inr ⟨.intermediates (front ++ back ++ [c]), by simp [step, intermediate], ?_, rfl, ?_⟩)
        · refine ⟨front, back ++ [c], by simp, parametric, ?_⟩
          exact List.forall_mem_append.2 ⟨intermediates, by simpa using intermediate⟩
        · rintro rfl
          exact absurd intermediate (by decide)
      · by_cases final : isFinal c
        · refine .inr (.inl ⟨by simp [step, intermediate, final], ?_⟩)
          simpa [held] using IsSequence.control parametric intermediates final
        · exact .inl (by simp [step, intermediate, final])

/-- All that is given out of a text read from a phase, with what is held back at its end. -/
def output (phase : Phase) (text : List Char) : List Char := (phase.scan text).1 ++ (phase.scan text).2.held

theorem output_cons (phase : Phase) (c : Char) (rest : List Char) :
    phase.output (c :: rest) = (phase.step c).1 ++ (phase.step c).2.output rest := by
  simp only [output, scan_cons, List.append_assoc]

/-- What is held back is given out again, unless it is the beginning of a sequence. -/
theorem output_of_opensNone {phase : Phase} (sound : phase.Sound) {text : List Char}
    (none : OpensNone (phase.held ++ text)) : phase.output text = phase.held ++ stripChars text := by
  -- on the text, for every phase: a character that is held back too moves from the text to what is held
  induction text generalizing phase with
  | nil => simp [output, stripChars, held]
  | cons c rest ih =>
      rcases step_cases sound c with givesUp | ⟨-, finished⟩ | ⟨next, goesOn, next_sound, next_held, other⟩
      · rw [output_cons, givesUp, giveUp, List.append_assoc, List.append_cancel_left_eq]
        exact (output_cons .plain c rest).symm
      · exact absurd ⟨rest, by simp⟩ (none _ finished)
      · have later : OpensNone (next.held ++ rest) := by simpa [next_held] using none
        rw [output_cons, goesOn, List.nil_append, ih next_sound later, next_held, stripChars_cons_of_ne other,
          List.append_assoc, List.singleton_append]

end Phase

theorem stripChars_cons {c : Char} {rest : List Char} (none : OpensNone (c :: rest)) :
    stripChars (c :: rest) = c :: stripChars rest := by
  by_cases escape : c = escapeChar
  · subst escape
    have opened : Phase.opened.Sound := trivial
    exact Phase.output_of_opensNone opened none
  · exact stripChars_cons_of_ne escape rest

/-! ## One pass from the front -/

/-- What is left of a text if, from the front on, each sequence that is come upon is left out. -/
inductive Stripped : List Char → List Char → Prop where
  | nil : Stripped [] []
  | removed {sequence rest left : List Char} (isSequence : IsSequence sequence) (later : Stripped rest left) :
      Stripped (sequence ++ rest) left
  | kept {c : Char} {rest left : List Char} (none : OpensNone (c :: rest)) (later : Stripped rest left) :
      Stripped (c :: rest) (c :: left)

theorem stripped_stripChars (text : List Char) : Stripped text (stripChars text) := by
  -- on the length, since a sequence takes more than one character
  induction size : text.length using Nat.strongRecOn generalizing text with
  | ind n ih =>
      subst size
      cases text with
      | nil => exact .nil
      | cons c rest =>
          by_cases none : OpensNone (c :: rest)
          · rw [stripChars_cons none]
            exact .kept none (ih _ (by simp) rest rfl)
          · obtain ⟨sequence, isSequence, after, split⟩ := exists_sequence_of_not_opensNone none
            have shorter : after.length < (c :: rest).length := by
              have positive := List.length_pos_iff.2 isSequence.ne_nil
              rw [← split, List.length_append]
              omega
            rw [← split, stripChars_sequence_append isSequence]
            exact .removed isSequence (ih _ shorter after rfl)

theorem Stripped.length_le {text left : List Char} (stripped : Stripped text left) : left.length ≤ text.length := by
  induction stripped with
  | nil => exact Nat.le_refl _
  | removed _ _ ih =>
      rw [List.length_append]
      omega
  | kept _ _ ih => exact Nat.succ_le_succ ih

theorem Stripped.eq_of_clean {text left : List Char} (stripped : Stripped text left) (clean : Clean text) :
    left = text := by
  induction stripped with
  | nil => rfl
  | removed isSequence _ _ => exact absurd (List.prefix_append _ _).isInfix (clean _ isSequence)
  | kept _ _ ih =>
      rw [ih fun sequence isSequence inside =>
        clean sequence isSequence (inside.trans (List.suffix_cons _ _).isInfix)]

theorem stripChars_eq_self_iff {text : List Char} : stripChars text = text ↔ Clean text := by
  refine ⟨?_, (stripped_stripChars text).eq_of_clean⟩
  -- a sequence that stands in a text makes what is left of it shorter
  rintro unchanged sequence isSequence ⟨before, after, rfl⟩
  have lengths := congrArg List.length unchanged
  have front := (stripped_stripChars before).length_le
  have back := (stripped_stripChars after).length_le
  have positive := List.length_pos_iff.2 isSequence.ne_nil
  simp only [stripChars_around_sequence before isSequence after, List.length_append] at lengths
  omega

/-! ## Interrupted sequences -/

/-- Characters in their order, with sequences put in between them, before the first and after the last. -/
inductive Spread : List Char → List Char → Prop where
  | nil : Spread [] []
  | kept {c : Char} {whole spread : List Char} (later : Spread whole spread) : Spread (c :: whole) (c :: spread)
  | inserted {sequence whole spread : List Char} (isSequence : IsSequence sequence) (later : Spread whole spread) :
      Spread whole (sequence ++ spread)

/-- A sequence that others are put in the middle of: one right after its beginning, and any number in the rest. -/
inductive Interrupted : List Char → Prop where
  | intro {opening closing inserted spread : List Char} (whole : IsSequence (escapeChar :: (opening ++ closing)))
      (unfinished : closing ≠ []) (isSequence : IsSequence inserted) (later : Spread closing spread) :
      Interrupted (escapeChar :: (opening ++ (inserted ++ spread)))

/-- No sequence is the beginning of another. -/
theorem IsSequence.eq_of_begins {short long : List Char} (isShort : IsSequence short) (isLong : IsSequence long)
    (begins : short <+: long) : short = long := by
  obtain ⟨more, rfl⟩ := begins
  obtain ⟨body, shape, body_free⟩ := isLong.exists_body
  obtain ⟨inside, rfl, -⟩ := isShort.exists_body
  rw [List.cons_append, List.cons.injEq] at shape
  have free : EscapeFree more := fun member => body_free (shape.2 ▸ List.mem_append_right inside member)
  have nothing : more = [] := by
    rw [← free.stripChars, ← stripChars_sequence_append isShort more, isLong.stripChars]
  rw [nothing, List.append_nil]

theorem EscapeFree.prefix_of_append {front text rest : List Char} (free : EscapeFree front)
    (begins : front <+: text ++ escapeChar :: rest) : front <+: text := by
  by_cases short : front.length ≤ text.length
  · exact List.prefix_of_prefix_length_le begins (List.prefix_append _ _) short
  · have reached : text ++ [escapeChar] <+: front := by
      refine List.prefix_of_prefix_length_le ⟨rest, by simp⟩ begins ?_
      rw [List.length_append, List.length_singleton]
      omega
    exact absurd (reached.subset (by simp)) free

/-- Where another sequence comes before the rest of one, the beginning of that one opens none. -/
theorem opensNone_of_unfinished {opening closing : List Char} (whole : IsSequence (escapeChar :: (opening ++ closing)))
    (unfinished : closing ≠ []) {inserted : List Char} (isSequence : IsSequence inserted) (rest : List Char) :
    OpensNone (escapeChar :: (opening ++ (inserted ++ rest))) := by
  intro sequence isFound begins
  obtain ⟨body, rfl, free⟩ := isFound.exists_body
  obtain ⟨inside, rfl, -⟩ := isSequence.exists_body
  -- past its first character a sequence holds no escape character, so it would end before the other one begins
  have within : body <+: opening := free.prefix_of_append (List.cons_prefix_cons.1 begins).2
  have same := isFound.eq_of_begins whole
    (List.cons_prefix_cons.2 ⟨rfl, within.trans (List.prefix_append opening closing)⟩)
  have bound := within.length_le
  rw [(List.cons.inj same).2, List.length_append] at bound
  exact unfinished (List.eq_nil_of_length_eq_zero (by omega))

theorem Spread.stripChars_append {whole spread : List Char} (later : Spread whole spread) (free : EscapeFree whole)
    (rest : List Char) : stripChars (spread ++ rest) = whole ++ stripChars rest := by
  induction later with
  | nil => rfl
  | @kept c whole spread later ih =>
      obtain ⟨other, whole_free⟩ := List.ne_and_not_mem_of_not_mem_cons free
      rw [List.cons_append, stripChars_cons_of_ne other.symm, ih whole_free, List.cons_append]
  | inserted isSequence later ih => rw [List.append_assoc, stripChars_sequence_append isSequence, ih free]

/-- Of an interrupted sequence the sequence is left. -/
theorem Interrupted.exists_left {part : List Char} (interrupted : Interrupted part) :
    ∃ whole, IsSequence whole ∧
      ∀ before after, stripChars (before ++ part ++ after) = stripChars before ++ whole ++ stripChars after := by
  cases interrupted with
  | @intro opening closing inserted spread isWhole unfinished isInserted later =>
      refine ⟨_, isWhole, fun before after => ?_⟩
      obtain ⟨body, shape, body_free⟩ := isWhole.exists_body
      obtain rfl := (List.cons.inj shape).2
      have opening_free : EscapeFree opening := fun member => body_free (List.mem_append_left _ member)
      have closing_free : EscapeFree closing := fun member => body_free (List.mem_append_right _ member)
      calc stripChars (before ++ escapeChar :: (opening ++ (inserted ++ spread)) ++ after)
          = stripChars (before ++ escapeChar :: (opening ++ (inserted ++ (spread ++ after)))) := by simp
        _ = stripChars before ++ stripChars (escapeChar :: (opening ++ (inserted ++ (spread ++ after)))) :=
            stripChars_append_of_lt_space (by decide) _ _
        _ = stripChars before ++ escapeChar :: (opening ++ (closing ++ stripChars after)) := by
            rw [stripChars_cons (opensNone_of_unfinished isWhole unfinished isInserted _),
              stripChars_escapeFree_append opening_free, stripChars_sequence_append isInserted,
              later.stripChars_append closing_free]
        _ = stripChars before ++ escapeChar :: (opening ++ closing) ++ stripChars after := by simp

/-! ## Where a sequence in the rest comes from -/

/-- A character that is left was kept where it stands. -/
theorem Stripped.split {text left earlier later : List Char} {c : Char} (stripped : Stripped text left)
    (split : left = earlier ++ c :: later) :
    ∃ before after, text = before ++ c :: after ∧ OpensNone (c :: after) ∧ Stripped after later := by
  induction stripped generalizing earlier with
  | nil => simp at split
  | @removed sequence rest left isSequence _ ih =>
      obtain ⟨before, after, rfl, none, stripped⟩ := ih split
      exact ⟨sequence ++ before, after, by simp, none, stripped⟩
  | @kept d rest left none stripped ih =>
      cases earlier with
      | nil =>
          obtain ⟨rfl, rfl⟩ := List.cons.inj split
          exact ⟨[], rest, rfl, none, stripped⟩
      | cons e earlier =>
          obtain ⟨before, after, rfl, none, stripped⟩ := ih (List.cons.inj split).2
          exact ⟨d :: before, after, rfl, none, stripped⟩

/-- Characters that are left next to each other stood in the text with nothing but sequences in between. -/
theorem Stripped.exists_spread {text left whole later : List Char} (stripped : Stripped text left)
    (split : left = whole ++ later) : ∃ spread rest, text = spread ++ rest ∧ Spread whole spread := by
  induction stripped generalizing whole with
  | nil =>
      obtain ⟨rfl, -⟩ := List.append_eq_nil_iff.1 split.symm
      exact ⟨[], [], rfl, .nil⟩
  | @removed sequence rest left isSequence _ ih =>
      obtain ⟨spread, more, rfl, inOrder⟩ := ih split
      exact ⟨sequence ++ spread, more, by simp, .inserted isSequence inOrder⟩
  | @kept c rest left _ _ ih =>
      cases whole with
      | nil => exact ⟨[], c :: rest, rfl, .nil⟩
      | cons d whole =>
          obtain ⟨rfl, same⟩ := List.cons.inj split
          obtain ⟨spread, more, rfl, inOrder⟩ := ih same
          exact ⟨c :: spread, more, rfl, .kept inOrder⟩

/-- Either they stood in the text as they are left, or a sequence came between two of them. -/
theorem Stripped.prefix_or_spread {text left whole later : List Char} (stripped : Stripped text left)
    (split : left = whole ++ later) :
    whole <+: text ∨ ∃ opening closing inserted spread rest, whole = opening ++ closing ∧ closing ≠ [] ∧
      IsSequence inserted ∧ Spread closing spread ∧ text = opening ++ (inserted ++ spread) ++ rest := by
  induction stripped generalizing whole with
  | nil => exact .inl (split ▸ List.prefix_append _ _)
  | @removed sequence rest left isSequence stripped _ =>
      by_cases empty : whole = []
      · exact .inl (empty ▸ List.nil_prefix)
      · -- the sequence comes right here, and the rest of the characters stand behind it in some way
        obtain ⟨spread, more, rfl, inOrder⟩ := stripped.exists_spread split
        exact .inr ⟨[], whole, sequence, spread, more, rfl, empty, isSequence, inOrder, by simp⟩
  | @kept c rest left _ _ ih =>
      cases whole with
      | nil => exact .inl List.nil_prefix
      | cons d whole =>
          -- the first character stays in its place, in front of whatever holds of the others
          obtain ⟨rfl, same⟩ := List.cons.inj split
          obtain together | ⟨opening, closing, inserted, spread, more, rfl, unfinished, isSequence, inOrder, rfl⟩ :=
            ih same
          · exact .inl (List.cons_prefix_cons.2 ⟨rfl, together⟩)
          · exact .inr ⟨c :: opening, closing, inserted, spread, more, rfl, unfinished, isSequence, inOrder, rfl⟩

/-- A sequence in what is left of a text comes of an interrupted one. -/
theorem exists_interrupted {text sequence : List Char} (isSequence : IsSequence sequence)
    (inside : sequence <:+: stripChars text) : ∃ part, Interrupted part ∧ part <:+: text := by
  obtain ⟨earlier, later, split⟩ := inside
  obtain ⟨body, rfl, -⟩ := isSequence.exists_body
  have left : stripChars text = earlier ++ escapeChar :: (body ++ later) := by rw [← split]; simp
  obtain ⟨before, after, rfl, none, stripped⟩ := (stripped_stripChars text).split left
  obtain together | ⟨opening, closing, inserted, spread, rest, rfl, unfinished, isInserted, inOrder, rfl⟩ :=
    stripped.prefix_or_spread rfl
  · -- it did not stand there before, or else it had been taken out
    exact absurd (List.cons_prefix_cons.2 ⟨rfl, together⟩) (none _ isSequence)
  · exact ⟨_, .intro isSequence unfinished isInserted inOrder, before, rest, by simp⟩

/-- What is left of a text holds no sequence exactly if the text holds no interrupted one, and exactly then a second
pass changes nothing. -/
theorem clean_strip_iff (text : String) :
    (Clean (strip text).toList ↔ ∀ part, Interrupted part → ¬ part <:+: text.toList) ∧
      (strip (strip text) = strip text ↔ Clean (strip text).toList) := by
  simp only [strip, String.toList_ofList, String.ofList_inj, stripChars_eq_self_iff, and_true]
  constructor
  · -- the sequence that is left of an interrupted one is left of it wherever it stands
    rintro clean part interrupted ⟨before, after, split⟩
    obtain ⟨whole, isSequence, left⟩ := interrupted.exists_left
    exact clean whole isSequence ⟨stripChars before, stripChars after, by rw [← left, split]⟩
  · intro uninterrupted sequence isSequence inside
    obtain ⟨part, interrupted, stands⟩ := exists_interrupted isSequence inside
    exact uninterrupted part interrupted stands

/-- A sequence right after an escape character leaves the two ends of another one together. -/
theorem strip_not_clean :
    strip "\x1B\x1B[0m[0m" = "\x1B[0m" ∧ ¬ Clean (strip "\x1B\x1B[0m[0m").toList ∧
      strip (strip "\x1B\x1B[0m[0m") ≠ strip "\x1B\x1B[0m[0m" := by
  have left : strip "\x1B\x1B[0m[0m" = "\x1B[0m" := by decide
  have reset : IsSequence "\x1B[0m".toList :=
    .control (List.forall_mem_singleton.2 (by decide : isParameter '0')) (List.forall_mem_nil _)
      (by decide : isFinal 'm')
  rw [left]
  exact ⟨rfl, fun clean => clean _ reset (List.infix_refl _), by decide⟩

end TagBinding.Terminal
