import TagBinding.Terminal.Escape

/-!
# Colours, styles and marked-up text

The colours a diagnostic may be painted in, the styles named for what they mark, and the rule that decides
whether anything is painted at all. Painting puts the codes of the colours before the text and the reset
code after it.

A text for the terminal is a list of pieces, each plain or in a style (`Markup`). What a diagnostic or a table
says is fixed there, once; whether it is painted is decided only when it is rendered.
-/

namespace TagBinding.Terminal

/-- A colour or a rendition that a terminal can be switched to. -/
inductive Color where
  | reset | bold | dim | red | green | yellow | blue | magenta | cyan
  | brightRed | brightGreen | brightBlue
  deriving DecidableEq, Repr

namespace Color

def all : List Color :=
  [.reset, .bold, .dim, .red, .green, .yellow, .blue, .magenta, .cyan, .brightRed, .brightGreen, .brightBlue]

def name : Color → String
  | .reset => "reset"
  | .bold => "bold"
  | .dim => "dim"
  | .red => "red"
  | .green => "green"
  | .yellow => "yellow"
  | .blue => "blue"
  | .magenta => "magenta"
  | .cyan => "cyan"
  | .brightRed => "bright_red"
  | .brightGreen => "bright_green"
  | .brightBlue => "bright_blue"

def ofName? (name : String) : Option Color := all.find? fun color => color.name == name

def digits : Color → List Char
  | .reset => ['0']
  | .bold => ['1']
  | .dim => ['2']
  | .red => ['3', '1']
  | .green => ['3', '2']
  | .yellow => ['3', '3']
  | .blue => ['3', '4']
  | .magenta => ['3', '5']
  | .cyan => ['3', '6']
  | .brightRed => ['9', '1']
  | .brightGreen => ['9', '2']
  | .brightBlue => ['9', '4']

def sequence (color : Color) : List Char := escapeChar :: controlOpener :: (color.digits ++ ['m'])

/-- A code is a finished control sequence: reading it from outside gives nothing out and ends outside. -/
theorem scan_sequence (color : Color) : Phase.plain.scan color.sequence = ([], .plain) := by
  cases color <;> decide

end Color

/-! ## Painting -/

/-- The text in the given colours, if colours are on and there is one. -/
def paintChars (colored : Bool) (colors : List Color) (text : List Char) : List Char :=
  if colored && !colors.isEmpty then colors.flatMap Color.sequence ++ text ++ Color.reset.sequence else text

/-- The text in the given colours, if colours are on and there is one. -/
def paint (colored : Bool) (colors : List Color) (text : String) : String :=
  String.ofList (paintChars colored colors text.toList)

/-- The text in the colours with the given names; a name of no colour adds nothing. -/
def paintNamed (colored : Bool) (names : List String) (text : String) : String :=
  paint colored (names.filterMap Color.ofName?) text

/-! ## Styles -/

/-- What a painted piece of a diagnostic is. -/
inductive Style where
  | errorCode | location | variable | scope | hint | dimText | docsUrl
  deriving DecidableEq, Repr

def Style.colors : Style → List Color
  | .errorCode => [.brightRed, .bold]
  | .location => [.cyan]
  | .variable => [.yellow, .bold]
  | .scope => [.magenta]
  | .hint => [.green]
  | .dimText => [.dim]
  | .docsUrl => [.brightBlue]

/-! ## Whether to paint -/

/-- What a user and the output say about colours. -/
structure Preference where
  /-- The setting that asks for colours. -/
  force : Option String
  /-- The setting that refuses colours. -/
  refuse : Option String
  isTerminal : Bool

/-- Colours are on if they are asked for, off if they are refused, and otherwise on for a terminal. A
setting that is there but empty says nothing. -/
def Preference.colored (preference : Preference) : Bool :=
  if preference.force.any (!·.isEmpty) then true
  else if preference.refuse.any (!·.isEmpty) then false
  else preference.isTerminal

/-! ## Marked-up text -/

inductive Span where
  | plain (text : String)
  | styled (style : Style) (text : String)
  deriving DecidableEq, Repr

def Span.chars (colored : Bool) : Span → List Char
  | .plain text => text.toList
  | .styled style text => paintChars colored style.colors text.toList

abbrev Markup := List Span

namespace Markup

def chars (colored : Bool) (markup : Markup) : List Char := markup.flatMap (Span.chars colored)

def render (colored : Bool) (markup : Markup) : String := String.ofList (markup.chars colored)

@[simp] theorem chars_nil (colored : Bool) : chars colored [] = [] := rfl

@[simp] theorem chars_append (colored : Bool) (left right : Markup) :
    chars colored (left ++ right) = chars colored left ++ chars colored right := by
  simp [chars]

/-- Texts one after the other, with a plain separator between each two. -/
def joined (separator : String) (parts : List Markup) : Markup :=
  (parts.intersperse [.plain separator]).flatten

end Markup

end TagBinding.Terminal
