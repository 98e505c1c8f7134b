import TagBinding.Mark

/-!
# Values of unchecked type

Metadata of a tag library reaches the checks as it was read, so a field that should hold a name may hold
anything: a number, a list, a scope. `Datum` is such a value. Two of its aspects matter besides its content:
how a message shows it (`Datum.literal`), and whether it counts as empty (`Datum.isEmpty`). Some values are
recognised as a scope, a kind of handler or an error code.
-/

namespace TagBinding

/-- A value of unchecked type. -/
inductive Datum where
  | null
  | flag (value : Bool)
  | whole (value : Int)
  /-- A number with a fraction or an exponent, or an infinite one, as it is written. -/
  | decimal (written : String)
  | text (value : String)
  | list (items : List Datum)
  | record (entries : List (String × Datum))
  /-- A word of a closed vocabulary, such as a scope or a kind of handler. -/
  | mark (value : Mark)
  deriving Inhabited

/-! ## How values are shown -/

namespace Datum

def flagLiteral : Bool → String
  | true => "True"
  | false => "False"

mutual

/-- How a message shows a value. A number is written out however many digits it has, and a value in values is
shown however deep it stands: what limits a host may set to either is left out. -/
def literal : Datum → String
  | .null => "None"
  | .flag value => flagLiteral value
  | .whole value => toString value
  | .decimal written => written
  | .text value => Text.quoted value
  | .list items => "[" ++ ", ".intercalate (literals items) ++ "]"
  | .record entries => "\x7b" ++ ", ".intercalate (entryLiterals entries) ++ "\x7d"
  | .mark value => value.literal

def literals : List Datum → List String
  | [] => []
  | item :: rest => item.literal :: literals rest

def entryLiterals : List (String × Datum) → List String
  | [] => []
  | (key, value) :: rest => (Text.quoted key ++ ": " ++ value.literal) :: entryLiterals rest

end

/-- The bare text of a value: a text is itself, a mark its own, and the rest as messages show it. -/
def display : Datum → String
  | .text value => value
  | .mark value => value.display
  | value => value.literal

/-- The label of a value in a list of scopes: the name of a mark, else the bare text. -/
def label : Datum → String
  | .mark value => value.name
  | value => value.display

/-! ## Types of values -/

/-- The word for the type of a value. -/
def noun : Datum → String
  | .null => "NoneType"
  | .flag _ => "bool"
  | .whole _ => "int"
  | .decimal _ => "float"
  | .text _ => "str"
  | .list _ => "list"
  | .record _ => "dict"
  | .mark value => value.vocabulary

/-- Whether a value is made of others. Such a value can neither be looked up nor be in a set. -/
def isCompound : Datum → Bool
  | .list _ | .record _ => true
  | _ => false

def compoundMessage (value : Datum) : String := "unhashable type: " ++ Text.quoted value.noun

/-! ## Empty values -/

/-- Whether a value counts as empty: no value, false, zero, or nothing in it. -/
def isEmpty : Datum → Bool
  | .null => true
  | .flag value => !value
  | .whole value => value == 0
  | .decimal written => written == "0.0" || written == "-0.0"
  | .text value => value.isEmpty
  | .list items => items.isEmpty
  | .record entries => entries.isEmpty
  | .mark value => value == .scope .nested

/-- The value that a key is given in a list of entries; a key that is missing has no value. -/
def lookup (entries : List (String × Datum)) (key : String) : Datum :=
  match entries with
  | [] => .null
  | (key', value) :: rest => if key' = key then value else lookup rest key

end Datum

/-! ## Recognising words

Tag libraries spell a scope as itself, as its number or as its name, and a kind of handler as itself or as
its name. Names may be in any mix of cases and have blanks around them. Flags are no numbers here.
-/

def Scope.recognize? : Datum → Option Scope
  | .mark (.scope value) => some value
  | .whole value => Scope.ofNumber? value
  | .text value => Scope.all.find? fun scope => Text.spells value scope.name
  | _ => none

/-- A value was given for a kind of handler and spells none. -/
structure UnknownKind where
  value : Datum

def UnknownKind.message (fault : UnknownKind) : String := "Unknown handler kind: " ++ fault.value.literal

def Handler.recognize? : Datum → Option Handler
  | .mark (.kind value) => some value
  | .text value => Handler.all.find? fun kind => Text.spells value kind.name
  | _ => none

def Handler.recognize (value : Datum) : Except UnknownKind Handler :=
  match Handler.recognize? value with
  | some kind => .ok kind
  | none => .error ⟨value⟩

namespace Handler

variable {value : Datum}

theorem recognize_eq_ok_iff {kind : Handler} : recognize value = .ok kind ↔ recognize? value = some kind := by
  rw [recognize]
  cases recognize? value <;> simp

theorem recognize_eq_error_iff {fault : UnknownKind} :
    recognize value = .error fault ↔ recognize? value = none ∧ fault = ⟨value⟩ := by
  rw [recognize]
  cases recognize? value <;> simp [eq_comm]

end Handler

/-- A value was given for an error code and is none. -/
structure UnknownCode where
  value : Datum

def UnknownCode.message (fault : UnknownCode) : String :=
  fault.value.literal ++ " is not a valid ErrorCode"

/-- An error code is given as itself or by the text it shows, as it stands. -/
def ErrorCode.recognize : Datum → Except UnknownCode ErrorCode
  | .mark (.code value) => .ok value
  | .text shown =>
      match ErrorCode.ofText? shown with
      | some code => .ok code
      | none => .error ⟨.text shown⟩
  | value => .error ⟨value⟩

end TagBinding
