import TagBinding.Admission
import TagBinding.Terminal.Color

/-!
# Diagnostics

A fault found while a template is turned into code, with the invocation it is found at and a hint what to do
about it. A diagnostic can be put into one sentence (`Diagnostic.message`) or into a few lines for the terminal
(`Diagnostic.compact`).
-/

namespace TagBinding

/-! ## Invocations of tags

One use of a tag in a template, as far as a diagnostic needs it to point at the place. An invocation never
has a part in what is computed.
-/

/-- One use of a tag in a template. -/
structure Invocation where
  tagName : String
  template : Option String
  /-- The line of the start marker, from one. -/
  line : Option Int
  /-- The column of the start marker, from zero. -/
  column : Option Int
  deriving DecidableEq, Repr

namespace Invocation

/-- The name of the template; a template without one is called by a stock name. -/
def templateName (invocation : Invocation) : String :=
  match invocation.template with
  | some name => if name.isEmpty then "<template>" else name
  | none => "<template>"

/-- The position in the template: nothing without a line, where line zero is no line. A number is written out
however many digits it has, whatever limit a host may set to them. -/
def position (invocation : Invocation) : String :=
  match invocation.line with
  | none => ""
  | some line =>
      if line = 0 then ""
      else
        match invocation.column with
        | none => ":" ++ toString line
        | some column => ":" ++ toString line ++ ":" ++ toString column

def location (invocation : Invocation) : String := invocation.templateName ++ invocation.position

def text (invocation : Invocation) : String :=
  "<" ++ invocation.tagName ++ "> at " ++ invocation.location

end Invocation

/-! ## Causes -/

open Terminal (Markup)

inductive Cause where
  /-- A fault in the words of the caller. -/
  | general (message : String)
  | invalid (defect : Defect)
  /-- A name is bound more than once, in the scopes given. -/
  | duplicate (name : String) (scopes : List Datum)
  | unscoped (element : Element)

namespace Cause

def message : Cause → String
  | .general message => message
  | .invalid defect => defect.message
  | .duplicate name scopes =>
      "Duplicate scripting variable '" ++ name ++ "' (" ++ ", ".intercalate (scopes.map Datum.label) ++ ")"
  | .unscoped element =>
      "Variable " ++ element.name.literal ++ " has no valid scope (got " ++ element.scope.literal ++ ")"

def code? : Cause → Option ErrorCode
  | .general _ => none
  | .invalid defect => some defect.complaint.code
  | .duplicate _ _ => some .duplicateVariable
  | .unscoped _ => some .unscopedVariable

/-- The hint that goes with the cause unless another one is given. -/
def usualHint? : Cause → Option String
  | .duplicate _ _ => some "Rename one of the variables, or give them disjoint scopes"
  | _ => none

end Cause

/-- A fault, where it was found, and what to do about it. -/
structure Diagnostic where
  cause : Cause
  invocation : Option Invocation
  hint : Option String

namespace Diagnostic

def ofCause (cause : Cause) (invocation : Option Invocation) : Diagnostic :=
  ⟨cause, invocation, cause.usualHint?⟩

def bareMessage (diagnostic : Diagnostic) : String := diagnostic.cause.message

/-- The sentence, with the place if it is known. -/
def message (diagnostic : Diagnostic) : String :=
  match diagnostic.invocation with
  | none => diagnostic.bareMessage
  | some invocation => diagnostic.bareMessage ++ " in " ++ invocation.text

/-- The first line of the compact form: the message, after a code if there is one. -/
def header (code : Option String) (message : String) : Markup :=
  match code with
  | none => [.plain message]
  | some code =>
      if code.isEmpty then [.plain message] else [.styled .errorCode code, .plain (": " ++ message)]

end Diagnostic

/-! ## The compact form -/

/-- What the compact form of a diagnostic tells. -/
structure Notice where
  code : Option ErrorCode
  message : String
  /-- The text of the invocation. -/
  place : Option String
  hint : Option String
  deriving DecidableEq, Repr

namespace Notice

def locationLine (place : String) : Markup := [.plain "  Location: ", .styled .location place]

def hintLine (hint : String) : Markup :=
  [.plain "  ", .styled .hint "Hint:", .plain (" " ++ hint)]

def docsLine (code : ErrorCode) : Markup :=
  [.plain "  ", .styled .dimText "Docs:", .plain " ", .styled .docsUrl code.docsUrl]

/-- The lines of the compact form: the header always, each other line if there is something to tell. An
empty hint is none. -/
def lines (notice : Notice) : List Markup :=
  [Diagnostic.header (notice.code.map ErrorCode.text) notice.message] ++
    (notice.place.map locationLine).toList ++
    ((notice.hint.filter (!·.isEmpty)).map hintLine).toList ++
    (notice.code.map docsLine).toList

def compact (notice : Notice) (colored : Bool) : String :=
  (Markup.joined "\n" notice.lines).render colored

end Notice

namespace Diagnostic

def notice (diagnostic : Diagnostic) : Notice where
  code := diagnostic.cause.code?
  message := diagnostic.bareMessage
  place := diagnostic.invocation.map Invocation.text
  hint := diagnostic.hint

/-- The diagnostic in a few lines for the terminal. -/
def compact (diagnostic : Diagnostic) (colored : Bool) : String := diagnostic.notice.compact colored

end Diagnostic

end TagBinding
