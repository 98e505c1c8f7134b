import TagBinding.Variable

/-!
# Declarations in tag libraries

Most tags do not compute their variables but declare them in the tag library, one `<variable>` element for
each. An element arrives as entries named after its parts. This module fills in what an element leaves out,
takes a name from an attribute of the invocation where the element says so, and hands the result to the
checks of `Variable`.

An element without a value for a part and an element with no value in it are read alike, and so are an
invocation whose attributes are not told and one that has none.
-/

namespace TagBinding

/-- The attributes of an invocation with their values, if they are told. -/
abbrev Attributes := Option (List (String × Datum))

/-- The value of an attribute, null where it is not set. Attributes that are not told are none. -/
def Attributes.value (attributes : Attributes) (name : String) : Datum :=
  Datum.lookup (attributes.getD []) name

/-- The parts of a `<variable>` element, null where there is none. -/
structure Declaration where
  nameGiven : Datum
  /-- The attribute whose value is the name. -/
  nameFromAttribute : Datum
  variableClass : Datum
  declare : Datum
  scope : Datum

inductive DeclarationFault where
  | defect (defect : Defect)
  /-- The attribute to take the name from is given by a list or a record, which cannot be looked up. -/
  | compoundAttribute (attributeName : Datum)

def DeclarationFault.message : DeclarationFault → String
  | .defect found => found.message
  | .compoundAttribute attributeName => attributeName.compoundMessage

namespace Declaration

/-- The declaration made of the entries of an element; entries with other names say nothing. -/
def ofEntries (entries : List (String × Datum)) : Declaration where
  nameGiven := Datum.lookup entries "name-given"
  nameFromAttribute := Datum.lookup entries "name-from-attribute"
  variableClass := Datum.lookup entries "variable-class"
  declare := Datum.lookup entries "declare"
  scope := Datum.lookup entries "scope"

/-- The type of a variable whose declaration names none. -/
def defaultClass : String := "java.lang.String"

/-- The value of an attribute. Only a text can name one; another simple value names none. -/
def attributeValue (attributes : Attributes) : Datum → Except DeclarationFault Datum
  | .text name =>
      match attributes.value name with
      | .null => .error (.defect ⟨.unsetAttribute, .text name⟩)
      | value => .ok value
  | name =>
      if name.isCompound then .error (.compoundAttribute name)
      else .error (.defect ⟨.unsetAttribute, name⟩)

/-- The name that a declaration gives, by itself or by an attribute, but not both. -/
def name (declaration : Declaration) (attributes : Attributes) : Except DeclarationFault Datum :=
  match declaration.nameGiven, declaration.nameFromAttribute with
  | .null, .null => .error (.defect ⟨.noNameSource, .null⟩)
  | .null, source => attributeValue attributes source
  | given, .null => .ok given
  | given, _ => .error (.defect ⟨.twoNameSources, given⟩)

/-- The type that a declaration gives; an empty value gives none. -/
def typeName (declaration : Declaration) : Datum :=
  if declaration.variableClass.isEmpty then .text defaultClass else declaration.variableClass

def trueWords : List String := ["true", "yes", "1"]

def falseWords : List String := ["false", "no", "0"]

/-- The flag that a word means, blanks around it and its case aside. -/
def wordFlag? (word : String) : Option Bool :=
  let bare := String.ofList (Text.smallLetters (Text.trim word.toList))
  if bare ∈ trueWords then some true
  else if bare ∈ falseWords then some false
  else none

/-- Whether the variable is introduced, which it is if nothing is said. -/
def introduces (declaration : Declaration) : Except Defect Bool :=
  match declaration.declare with
  | .null => .ok true
  | .flag value => .ok value
  | value =>
      match wordFlag? value.display with
      | some flag => .ok flag
      | none => .error ⟨.unclearDeclare, value⟩

/-- The scope that a declaration gives, the body if it gives none. -/
def window (declaration : Declaration) : Except Defect Scope :=
  match declaration.scope with
  | .null => .ok .nested
  | value => Scope.recognize value

/-- The variable that a declaration yields for an invocation with the given attributes. -/
def toVariable (declaration : Declaration) (attributes : Attributes) : Except DeclarationFault Variable := do
  let name ← declaration.name attributes
  let checked : Except Defect Variable := do
    let declare ← declaration.introduces
    let scope ← declaration.window
    Variable.ofData name declaration.typeName (.flag declare) (.mark (.scope scope))
  checked.mapError .defect

/-- The variables that a list of declarations yields; the first that yields none is the fault. -/
def toVariables (declarations : List Declaration) (attributes : Attributes) :
    Except DeclarationFault (List Variable) :=
  declarations.mapM fun declaration => declaration.toVariable attributes

end Declaration

end TagBinding
