/-!
# Escape sequences

Terminals read styling from escape sequences: the escape character with one more character, or the escape
character, an opening bracket, parameters, intermediates and a final character. `strip` takes the sequences
out of a text, reading it once from the front.

The reader is a machine with four states that takes one character at a time. While it is inside what may
become a sequence it holds the characters back; a character that cannot go on with the sequence gives them
out again, since an unfinished sequence is ordinary text.
-/

namespace TagBinding.Terminal

def escapeChar : Char := '\x1B'

def controlOpener : Char := '['

/-- A character that makes a sequence with the escape character alone: `@` to `_`, but for `[`. -/
def isSingleFinal (c : Char) : Bool := '@' ≤ c && c ≤ '_' && c != controlOpener

def isParameter (c : Char) : Bool := '0' ≤ c && c ≤ '?'

def isIntermediate (c : Char) : Bool := ' ' ≤ c && c ≤ '/'

def isFinal (c : Char) : Bool := '@' ≤ c && c ≤ '~'

/-! ## The reader -/

/-- How far the text read so far may be the beginning of a sequence. -/
inductive Phase where
  | plain
  | opened
  /-- A control sequence was opened, and these parameters were read. -/
  | parameters (read : List Char)
  /-- In a control sequence; these parameters and, after them, intermediates were read. -/
  | intermediates (read : List Char)
  deriving DecidableEq, Repr

namespace Phase

def held : Phase → List Char
  | .plain => []
  | .opened => [escapeChar]
  | .parameters read => escapeChar :: controlOpener :: read
  | .intermediates read => escapeChar :: controlOpener :: read

/-- The phase before a character that no pending sequence can take: only another escape character is
held back. -/
def restart (c : Char) : List Char × Phase :=
  if c = escapeChar then ([], .opened) else ([c], .plain)

/-- Gives out the characters held back and starts again with `c`. -/
def giveUp (phase : Phase) (c : Char) : List Char × Phase :=
  (phase.held ++ (restart c).1, (restart c).2)

/-- Reads one character: the characters given out, and the next phase. -/
def step : Phase → Char → List Char × Phase
  | .plain, c => restart c
  | .opened, c =>
      if c = controlOpener then ([], .parameters [])
      else if isSingleFinal c then ([], .plain)
      else giveUp .opened c
  | .parameters read, c =>
      if isParameter c then ([], .parameters (read ++ [c]))
      else if isIntermediate c then ([], .intermediates (read ++ [c]))
      else if isFinal c then ([], .plain)
      else giveUp (.parameters read) c
  | .intermediates read, c =>
      if isIntermediate c then ([], .intermediates (read ++ [c]))
      else if isFinal c then ([], .plain)
      else giveUp (.intermediates read) c

/-- Reads a text from a phase: the characters given out, and the phase at its end. -/
def scan (phase : Phase) : List Char → List Char × Phase
  | [] => ([], phase)
  | c :: rest =>
      let (given, next) := phase.step c
      let (later, last) := scan next rest
      (given ++ later, last)

@[simp] theorem scan_nil (phase : Phase) : phase.scan [] = ([], phase) := rfl

theorem scan_cons (phase : Phase) (c : Char) (rest : List Char) :
    phase.scan (c :: rest) =
      ((phase.step c).1 ++ ((phase.step c).2.scan rest).1, ((phase.step c).2.scan rest).2) := rfl

/-- A text is read through like its two halves, one after the other. -/
theorem scan_append (phase : Phase) (text more : List Char) :
    phase.scan (text ++ more) =
      ((phase.scan text).1 ++ ((phase.scan text).2.scan more).1, ((phase.scan text).2.scan more).2) := by
  induction text generalizing phase with
  | nil => simp
  | cons c rest ih => simp [scan_cons, ih, List.append_assoc]

end Phase

/-- The text without its escape sequences. What is held back at the end was no sequence and stays. -/
def stripChars (text : List Char) : List Char :=
  (Phase.plain.scan text).1 ++ (Phase.plain.scan text).2.held

def strip (text : String) : String := String.ofList (stripChars text.toList)

end TagBinding.Terminal
