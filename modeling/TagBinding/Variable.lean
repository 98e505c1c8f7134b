import TagBinding.Datum
import TagBinding.Text.Identifier

/-!
# Variables

One variable that a tag brings into the generated code: its name, the name of its type, whether the tag
declares it or only assigns to it, and its scope. A `Variable` is always well-formed; `Variable.ofData` is
the check that values of unchecked type pass through on the way to one, and a `Defect` is what it finds.

After that check something else can be put in place of the scope, so `Variable σ` is a variable with a `σ` for
a scope. Where nothing is said, that is a scope.

Variables are ordered by name, then type name, declaration mark and scope, so that sets of them have one
order to be shown in.
-/

namespace TagBinding

/-! ## Defects

What can be wrong with the description of a variable or with a declaration that should yield one. A defect
is a complaint about one value; the field it belongs to, the reason given and the error code follow from the
complaint.
-/

/-- What is wrong with a value. -/
inductive Complaint where
  /-- The name is no text, or an empty one. -/
  | emptyName
  | malformedName
  /-- The name of the type is no text, or a blank one. -/
  | blankTypeName
  /-- The mark for a fresh declaration is no flag. -/
  | declareNotFlag
  | unknownScope
  /-- A declaration gives a name and an attribute to take the name from. -/
  | twoNameSources
  /-- A declaration gives neither a name nor an attribute to take it from. -/
  | noNameSource
  | unsetAttribute
  /-- The mark for a fresh declaration does not read as true or false. -/
  | unclearDeclare
  /-- A complaint in the words of the caller. -/
  | stated (field reason : String) (code : ErrorCode)
  deriving DecidableEq, Repr

namespace Complaint

def field : Complaint → String
  | .emptyName | .malformedName | .twoNameSources | .noNameSource => "name"
  | .blankTypeName => "type_name"
  | .declareNotFlag | .unclearDeclare => "declare"
  | .unknownScope => "scope"
  | .unsetAttribute => "name-from-attribute"
  | .stated field _ _ => field

def reason : Complaint → String
  | .emptyName => "must be a non-empty string"
  | .malformedName => "must be a valid identifier"
  | .blankTypeName => "must be a non-empty string"
  | .declareNotFlag => "must be a bool"
  | .unknownScope => "expected one of NESTED, AT_BEGIN, AT_END"
  | .twoNameSources => "name-given and name-from-attribute are mutually exclusive"
  | .noNameSource => "one of name-given or name-from-attribute is required"
  | .unsetAttribute => "attribute is not set on this tag invocation"
  | .unclearDeclare => "expected true or false"
  | .stated _ reason _ => reason

def code : Complaint → ErrorCode
  | .twoNameSources | .noNameSource | .unsetAttribute | .unclearDeclare => .invalidDeclaration
  | .stated _ _ code => code
  | _ => .invalidDescriptor

end Complaint

structure Defect where
  complaint : Complaint
  value : Datum

def Defect.message (defect : Defect) : String :=
  "Invalid " ++ defect.complaint.field ++ " " ++ defect.value.literal ++ ": " ++ defect.complaint.reason

def Scope.recognize (value : Datum) : Except Defect Scope :=
  match Scope.recognize? value with
  | some scope => .ok scope
  | none => .error ⟨.unknownScope, value⟩

/-! ## Well-formed variables -/

/-- A well-formed variable of a tag. -/
structure Variable (σ : Type := Scope) where
  name : String
  /-- The name of the type, with its package or without. -/
  typeName : String
  /-- Whether the tag introduces the variable, rather than assigns to one that is there. -/
  declare : Bool
  scope : σ
  name_valid : Text.isVariableName name
  typeName_visible : typeName.toList.all Text.isBlank = false
  deriving DecidableEq

namespace Variable

variable {σ τ : Type}

theorem eq_of_fields {left right : Variable σ} (name : left.name = right.name)
    (typeName : left.typeName = right.typeName) (declare : left.declare = right.declare)
    (scope : left.scope = right.scope) : left = right := by
  cases left
  cases right
  cases name
  cases typeName
  cases declare
  cases scope
  rfl

def withScope (v : Variable σ) (scope : τ) : Variable τ := { v with scope := scope }

/-! ## Order -/

/-- The order by name, type name, declaration mark and scope. -/
abbrev order [Marked σ] : Variable σ → Variable σ → Ordering :=
  compareLex (compareOn name)
    (compareLex (compareOn typeName)
      (compareLex (compareOn declare) (compareOn fun v => Marked.mark v.scope)))

instance [Marked σ] : Ord (Variable σ) := ⟨order⟩

instance [Marked σ] : Std.TransOrd (Variable σ) := inferInstanceAs (Std.TransCmp order)

instance [Marked σ] : Std.LawfulEqOrd (Variable σ) where
  compare_self := Std.ReflOrd.compare_self
  eq_of_compare {left right} same := by
    have fields : order left right = .eq := same
    simp only [order, compareLex_eq_eq, compareOn] at fields
    exact eq_of_fields (Std.LawfulEqOrd.eq_of_compare fields.1)
      (Std.LawfulEqOrd.eq_of_compare fields.2.1) (Std.LawfulEqOrd.eq_of_compare fields.2.2.1)
      (Marked.mark_injective (Std.LawfulEqOrd.eq_of_compare fields.2.2.2))

/-! ## Checking -/

/-- The name that a value holds, if it may name a variable. -/
def nameOf : Datum → Except Defect { name : String // Text.isVariableName name }
  | .text name =>
      if name.isEmpty then .error ⟨.emptyName, .text name⟩
      else if valid : Text.isVariableName name then .ok ⟨name, valid⟩
      else .error ⟨.malformedName, .text name⟩
  | value => .error ⟨.emptyName, value⟩

/-- The name of a type that a value holds, if something is left of it once it is trimmed. -/
def typeNameOf : Datum → Except Defect { name : String // name.toList.all Text.isBlank = false }
  | .text name =>
      if blank : Text.trim name.toList = [] then .error ⟨.blankTypeName, .text name⟩
      else .ok ⟨name, Text.trim_ne_nil_iff.1 blank⟩
  | value => .error ⟨.blankTypeName, value⟩

def declareOf : Datum → Except Defect Bool
  | .flag value => .ok value
  | value => .error ⟨.declareNotFlag, value⟩

/-- The variable with the given fields. The first field that is wrong, in this order, is the defect. -/
def ofData (name typeName declare scope : Datum) : Except Defect Variable := do
  let ⟨name, name_valid⟩ ← nameOf name
  let ⟨typeName, typeName_visible⟩ ← typeNameOf typeName
  let declare ← declareOf declare
  let scope ← Scope.recognize scope
  return { name, typeName, declare, scope, name_valid, typeName_visible }

/-! ## What can be asked of a variable -/

def isQualified (v : Variable σ) : Bool := v.typeName.toList.contains '.'

def plainTypeName (v : Variable σ) : String :=
  String.ofList (v.typeName.toList.reverse.takeWhile (· != '.')).reverse

def overlaps (left right : Variable) : Bool := left.name == right.name && left.scope.overlaps right.scope

theorem overlaps_comm (left right : Variable) : left.overlaps right = right.overlaps left := by
  simp only [overlaps, Scope.overlaps_comm left.scope, Bool.beq_comm]

def literal [Marked σ] (v : Variable σ) : String :=
  "VariableDescriptor(name=" ++ Text.quoted v.name ++ ", type_name=" ++ Text.quoted v.typeName ++
    ", declare=" ++ Datum.flagLiteral v.declare ++ ", scope=" ++ (Marked.mark v.scope).literal ++ ")"

end Variable

end TagBinding
