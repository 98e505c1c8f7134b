import TagBinding.Schedule
import TagBinding.Text.Quoted
import TagBinding.Trace

/-!
# Marks

Scopes, kinds of handlers, callbacks, control flows, decisions about the body and error codes are closed
vocabularies, and a message can show a word of any of them. A `Mark` is such a word together with the vocabulary
it is from.

What a variable has for a scope should be a scope, but a plan that is put together by hand may have any mark
there. The class `Marked` is for what can be there: a type of values each of which is a mark of its own.
-/

namespace TagBinding

/-! ## Error codes

The codes under which diagnostics can be looked up. A code names a category and a number in it, and each has
a place in the documentation.
-/

inductive ErrorCode where
  | invalidDescriptor
  | invalidDeclaration
  | duplicateVariable
  /-- Something without a scope was taken for a variable. -/
  | unscopedVariable
  deriving DecidableEq, Repr

namespace ErrorCode

def all : List ErrorCode :=
  [.invalidDescriptor, .invalidDeclaration, .duplicateVariable, .unscopedVariable]

theorem mem_all (code : ErrorCode) : code ∈ all := by
  cases code <;> decide

def name : ErrorCode → String
  | .invalidDescriptor => "INVALID_DESCRIPTOR"
  | .invalidDeclaration => "INVALID_DECLARATION"
  | .duplicateVariable => "DUPLICATE_VARIABLE"
  | .unscopedVariable => "UNSCOPED_VARIABLE"

def text : ErrorCode → String
  | .invalidDescriptor => "T-VAR-001"
  | .invalidDeclaration => "T-VAR-002"
  | .duplicateVariable => "T-SCO-001"
  | .unscopedVariable => "T-INT-001"

def category : ErrorCode → String
  | .invalidDescriptor => "descriptor"
  | .invalidDeclaration => "descriptor"
  | .duplicateVariable => "scope"
  | .unscopedVariable => "internal"

def docsPage : String := "https://tagscope.readthedocs.io/en/latest/errors.html"

/-- Where a code is documented: at the place on the page that is named by the code in small letters. -/
def docsUrl (code : ErrorCode) : String :=
  docsPage ++ "#" ++ String.ofList (Text.smallLetters code.text.toList)

/-- The code that a text shows, if it shows one. -/
def ofText? (text : String) : Option ErrorCode := all.find? fun code => code.text == text

end ErrorCode

/-! ## How words are shown -/

/-- How a message shows a word: its vocabulary, its name in it, and what it stands for. -/
def wordLiteral (vocabulary name meaning : String) : String :=
  "<" ++ vocabulary ++ "." ++ name ++ ": " ++ meaning ++ ">"

def Scope.literal (scope : Scope) : String :=
  wordLiteral "VariableScope" scope.name (toString scope.number)

def Callback.literal (callback : Callback) : String :=
  wordLiteral "LifecycleCallback" callback.name (Text.quoted callback.method)

def ControlFlow.literal (flow : ControlFlow) : String :=
  wordLiteral "ControlFlow" flow.name (Text.quoted flow.word)

def BodyDecision.literal (decision : BodyDecision) : String :=
  wordLiteral "BodyAction" decision.name (Text.quoted decision.word)

def ErrorCode.literal (code : ErrorCode) : String :=
  wordLiteral "ErrorCode" code.name (Text.quoted code.text)

/-- A group in round brackets; a group of one keeps its comma. -/
def bracketed : List String → String
  | [only] => "(" ++ only ++ ",)"
  | items => "(" ++ ", ".intercalate items ++ ")"

/-- How a message shows a kind of handler: with its callbacks and its control flow. -/
def Handler.literal (kind : Handler) : String :=
  wordLiteral "HandlerKind" kind.name
    ("(" ++ bracketed (kind.callbacks.map Callback.literal) ++ ", " ++ kind.flow.literal ++ ")")

/-! ## Marks -/

/-- A word of one of the vocabularies. -/
inductive Mark where
  | scope (value : Scope)
  | kind (value : Handler)
  | callback (value : Callback)
  | flow (value : ControlFlow)
  | decision (value : BodyDecision)
  | code (value : ErrorCode)
  deriving DecidableEq, Repr

namespace Mark

/-- All marks, the scopes by number in front. -/
def all : List Mark :=
  Scope.all.map .scope ++ Handler.all.map .kind ++ Callback.all.map .callback ++
    ControlFlow.all.map .flow ++ BodyDecision.all.map .decision ++ ErrorCode.all.map .code

theorem mem_all (mark : Mark) : mark ∈ all := by
  cases mark with
  | scope value => simp [all, Scope.mem_all]
  | kind value => simp [all, Handler.mem_all]
  | callback value => simp [all, Callback.mem_all]
  | flow value => simp [all, ControlFlow.mem_all]
  | decision value => simp [all, BodyDecision.mem_all]
  | code value => simp [all, ErrorCode.mem_all]

def name : Mark → String
  | .scope value => value.name
  | .kind value => value.name
  | .callback value => value.name
  | .flow value => value.name
  | .decision value => value.name
  | .code value => value.name

def literal : Mark → String
  | .scope value => value.literal
  | .kind value => value.literal
  | .callback value => value.literal
  | .flow value => value.literal
  | .decision value => value.literal
  | .code value => value.literal

def vocabulary : Mark → String
  | .scope _ => "VariableScope"
  | .kind _ => "HandlerKind"
  | .callback _ => "LifecycleCallback"
  | .flow _ => "ControlFlow"
  | .decision _ => "BodyAction"
  | .code _ => "ErrorCode"

/-- The bare text of a mark: a scope is its number, another mark its name after its vocabulary. -/
def display : Mark → String
  | .scope value => toString value.number
  | mark => mark.vocabulary ++ "." ++ mark.name

/-- The place of a mark among all marks; a scope has its number for a place. -/
def rank (mark : Mark) : Nat := all.idxOf mark

theorem getElem?_rank (mark : Mark) : all[mark.rank]? = some mark := by
  have inside : mark.rank < all.length := List.idxOf_lt_length_of_mem (mem_all mark)
  rw [List.getElem?_eq_getElem inside]
  exact congrArg some (List.getElem_idxOf inside)

theorem rank_injective {left right : Mark} (same : left.rank = right.rank) : left = right := by
  -- the same place in the list holds the same mark
  have found := getElem?_rank left
  rw [same, getElem?_rank right] at found
  exact (Option.some.inj found).symm

/-- Marks are ordered by place, so scopes among them by number. -/
instance : Ord Mark := ⟨compareOn rank⟩

instance : Std.TransOrd Mark := inferInstanceAs (Std.TransCmp (compareOn rank))

instance : Std.LawfulEqOrd Mark where
  compare_self := Std.ReflOrd.compare_self
  eq_of_compare same := rank_injective (Std.LawfulEqOrd.eq_of_compare same)

end Mark

/-- What a variable can have for a scope, so that it can be shown: each value is a mark. -/
class Marked (σ : Type) where
  mark : σ → Mark
  mark_injective : ∀ {left right : σ}, mark left = mark right → left = right

instance : Marked Scope where
  mark := .scope
  mark_injective same := Mark.scope.inj same

instance : Marked Mark where
  mark := id
  mark_injective same := same

@[simp] theorem mark_scope (scope : Scope) : Marked.mark scope = .scope scope := rfl

end TagBinding
