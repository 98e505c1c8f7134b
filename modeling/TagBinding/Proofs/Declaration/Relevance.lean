import TagBinding.Proofs.Declaration

/-! # What matters of a declaration

What a list of declarations comes to depends on little of what is handed over: on what the elements say under the five
keys that the parts of a declaration are read from, where a key without a value says nothing, and on the values of the
attributes that names are taken from, where an attribute without a value is one that is not set.

* `Retouched` - one edit of an element that leaves all of that as it is, and `Retouched.ofEntries_eq`.
* `Declaration.toVariables_of_retouched` - any number of such edits, and any other attributes, change no outcome.
-/

namespace TagBinding

/-! ## Entries -/

namespace Datum

/-- The entries without those of a key. -/
def without (entries : List (String × Datum)) (key : String) : List (String × Datum) :=
  entries.filter fun entry => entry.1 != key

/-- The entries with a value for a key, in the place of the one it has, or else at the end. -/
def assigned (entries : List (String × Datum)) (key : String) (value : Datum) : List (String × Datum) :=
  match entries with
  | [] => [(key, value)]
  | (other, old) :: rest =>
    if other = key then (key, value) :: rest else (other, old) :: assigned rest key value

theorem lookup_without (entries : List (String × Datum)) (key other : String) :
    lookup (without entries key) other = if other = key then .null else lookup entries other := by
  induction entries with
  | nil => simp [without, lookup]
  | cons entry rest ih =>
    obtain ⟨here, value⟩ := entry
    rw [without] at ih ⊢
    by_cases dropped : here = key
    · rw [List.filter_cons_of_neg (by simp [dropped]), ih, lookup]
      by_cases same : other = key
      · simp [same]
      · have apart : here ≠ other := fun equal => same (equal.symm.trans dropped)
        simp [same, apart]
    · rw [List.filter_cons_of_pos (by simp [dropped]), lookup, lookup, ih]
      by_cases found : here = other
      · have apart : other ≠ key := fun equal => dropped (found.trans equal)
        simp [found, apart]
      · simp [found]

theorem lookup_assigned_of_ne {key other : String} (apart : other ≠ key) (entries : List (String × Datum))
    (value : Datum) : lookup (assigned entries key value) other = lookup entries other := by
  induction entries with
  | nil => simp [assigned, lookup, Ne.symm apart]
  | cons entry rest ih =>
    obtain ⟨here, old⟩ := entry
    rw [assigned]
    split
    · next same => simp [lookup, same, Ne.symm apart]
    · rw [lookup, lookup, ih]

end Datum

/-! ## Edits of an element -/

/-- The keys that the parts of a declaration are read from. -/
def partKeys : List String := ["name-given", "name-from-attribute", "variable-class", "declare", "scope"]

/-- An edit of an element that changes nothing it says: a key without a value is taken out, or a key that no part is
read from is put in or gets another value. -/
inductive Retouched (entries : List (String × Datum)) : List (String × Datum) → Prop where
  | dropped (key : String) (nothing : Datum.lookup entries key = .null) : Retouched entries (Datum.without entries key)
  | assigned (key : String) (value : Datum) (unread : key ∉ partKeys) :
      Retouched entries (Datum.assigned entries key value)

namespace Declaration

theorem ofEntries_congr {left right : List (String × Datum)}
    (agree : ∀ key ∈ partKeys, Datum.lookup left key = Datum.lookup right key) : ofEntries left = ofEntries right := by
  simp only [partKeys, List.forall_mem_cons] at agree
  obtain ⟨given, taken, type, flag, scope, -⟩ := agree
  rw [ofEntries, ofEntries, given, taken, type, flag, scope]

end Declaration

namespace Retouched

variable {entries others : List (String × Datum)}

theorem ofEntries_eq (edit : Retouched entries others) :
    Declaration.ofEntries entries = Declaration.ofEntries others := by
  apply Declaration.ofEntries_congr
  intro part among
  cases edit with
  | dropped key nothing =>
    rw [Datum.lookup_without]
    split
    · next same => rw [same, nothing]
    · rfl
  | assigned key value unread =>
    have apart : part ≠ key := fun same => unread (same ▸ among)
    rw [Datum.lookup_assigned_of_ne apart]

/-- Any number of edits, made or taken back. -/
theorem ofEntries_eq_of_many (edits : Relation.EqvGen Retouched entries others) :
    Declaration.ofEntries entries = Declaration.ofEntries others := by
  induction edits with
  | rel left right edit => exact edit.ofEntries_eq
  | refl entries => rfl
  | symm left right _ ih => exact ih.symm
  | trans left middle right _ _ first second => exact first.trans second

theorem map_ofEntries_eq {elements rewritten : List (List (String × Datum))}
    (edited : List.Forall₂ (Relation.EqvGen Retouched) elements rewritten) :
    elements.map Declaration.ofEntries = rewritten.map Declaration.ofEntries := by
  induction edited with
  | nil => rfl
  | cons edits _ ih => rw [List.map_cons, List.map_cons, ofEntries_eq_of_many edits, ih]

end Retouched

/-! ## Attributes -/

namespace Declaration

variable {left right : Attributes}

theorem attributeValue_congr {source : Datum}
    (agree : ∀ key, source = .text key → left.value key = right.value key) :
    attributeValue left source = attributeValue right source := by
  unfold attributeValue
  split
  · next key => rw [agree key rfl]
  · rfl

/-- Attributes are read only for a name, and only the one that the name is taken from. -/
theorem toVariable_congr {declaration : Declaration}
    (agree : ∀ key, declaration.nameFromAttribute = .text key → left.value key = right.value key) :
    declaration.toVariable left = declaration.toVariable right := by
  have named : declaration.name left = declaration.name right := by
    unfold name
    split
    · rfl
    · exact attributeValue_congr agree
    · rfl
    · rfl
  rw [toVariable, toVariable, named]

/-- Two invocations give the same value to each attribute that an element takes its name from. -/
def AgreeOnNamed (elements : List (List (String × Datum))) (left right : Attributes) : Prop :=
  ∀ entries ∈ elements, ∀ key, Datum.lookup entries "name-from-attribute" = .text key →
    left.value key = right.value key

theorem toVariables_congr {elements : List (List (String × Datum))} (agree : AgreeOnNamed elements left right) :
    toVariables (elements.map ofEntries) left = toVariables (elements.map ofEntries) right := by
  refine mapM_congr fun declaration member => toVariable_congr ?_
  obtain ⟨entries, among, rfl⟩ := List.mem_map.1 member
  exact agree entries among

/-- Elements come to the same variables, or the same fault with all that it tells, however often keys without a value
are taken out of them or put in, whatever they say under keys that no part is read from, and whatever attributes the
invocation has besides those that names are taken from; one whose attributes are not told is one that sets none. -/
theorem toVariables_of_retouched (elements rewritten : List (List (String × Datum))) (left right : Attributes)
    (edited : List.Forall₂ (Relation.EqvGen Retouched) elements rewritten)
    (agree : AgreeOnNamed elements left right) :
    toVariables (elements.map ofEntries) left = toVariables (rewritten.map ofEntries) right := by
  rw [toVariables_congr agree, Retouched.map_ofEntries_eq edited]

/-- An element that loses a mark without a value and gets a description, and another one that stays, for an invocation
whose attributes are not told any more: one had no value, and no element names the other.  The second element is at
fault as before. -/
theorem toVariables_of_retouched_rows :
    let first : List (String × Datum) := [("declare", .null), ("name-given", .text "row")]
    let second : List (String × Datum) := [("name-from-attribute", .text "var"), ("scope", .text "AT_BEGIN")]
    let described : List (String × Datum) := [("name-given", .text "row"), ("description", .list [.null])]
    let left : Attributes := some [("var", .null), ("items", .text "rows")]
    let right : Attributes := none
    List.Forall₂ (Relation.EqvGen Retouched) [first, second] [described, second] ∧
      AgreeOnNamed [first, second] left right ∧
      toVariables ([described, second].map ofEntries) right =
        .error (.defect ⟨.unsetAttribute, .text "var"⟩) := by
  intro first second described left right
  have dropped : Retouched first [("name-given", .text "row")] := .dropped "declare" rfl
  have assigned : Retouched [("name-given", .text "row")] described :=
    .assigned "description" (.list [.null]) (by decide)
  have edited : List.Forall₂ (Relation.EqvGen Retouched) [first, second] [described, second] :=
    .cons (.trans _ _ _ (.rel _ _ dropped) (.rel _ _ assigned)) (.cons (.refl second) .nil)
  have agree : AgreeOnNamed [first, second] left right := by
    simp [AgreeOnNamed, first, second, left, right, Attributes.value, Datum.lookup]
  exact ⟨edited, agree, (toVariables_of_retouched _ _ left right edited agree).symm.trans rfl⟩

end Declaration

end TagBinding
