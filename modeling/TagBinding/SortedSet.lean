/-!
# Finite sets kept in order

A finite set of values with a linear order, held as its strictly ascending list. The list is the one normal
form of the set, so two sets are equal exactly when they have the same members (`SortedSet.ext`), and the
order in which a set is shown is the order of its list.

The type is all a caller needs for sets of variables and of names: `ofList` drops repetitions, and each of
the operations comes with the membership law that says what it does.
-/

namespace TagBinding

open Std (TransOrd LawfulEqOrd)

/-- A finite set, as its strictly ascending list. -/
structure SortedSet (α : Type) [Ord α] where
  /-- The members, each once, in ascending order. -/
  toList : List α
  ascending : toList.Pairwise fun a b => compare a b = .lt

namespace SortedSet

variable {α : Type} [Ord α]

instance : Membership α (SortedSet α) where
  mem set a := a ∈ set.toList

theorem mem_def {set : SortedSet α} {a : α} : a ∈ set ↔ a ∈ set.toList := Iff.rfl

instance [DecidableEq α] : DecidableEq (SortedSet α) := fun left right =>
  if same : left.toList = right.toList then
    isTrue (by cases left; cases right; cases same; rfl)
  else
    isFalse fun equal => same (equal ▸ rfl)

instance [DecidableEq α] (a : α) (set : SortedSet α) : Decidable (a ∈ set) :=
  inferInstanceAs (Decidable (a ∈ set.toList))

/-! ## Building sets -/

def empty : SortedSet α where
  toList := []
  ascending := .nil

@[simp] theorem not_mem_empty (a : α) : a ∉ (empty : SortedSet α) := by
  simp [mem_def, empty]

/-- Puts a value at its place in an ascending list, unless the list holds it. -/
def insertSorted (a : α) : List α → List α
  | [] => [a]
  | b :: rest =>
      match compare a b with
      | .lt => a :: b :: rest
      | .eq => b :: rest
      | .gt => b :: insertSorted a rest

theorem mem_insertSorted [LawfulEqOrd α] {a b : α} {list : List α} :
    b ∈ insertSorted a list ↔ b = a ∨ b ∈ list := by
  induction list with
  | nil => simp [insertSorted]
  | cons c rest ih =>
      cases order : compare a c with
      | lt => simp [insertSorted, order]
      | eq =>
          -- the value is there already
          have same : a = c := LawfulEqOrd.eq_of_compare order
          simp only [insertSorted, order, List.mem_cons]
          rw [same, or_self_left]
      | gt => simp only [insertSorted, order, List.mem_cons, ih, or_left_comm]

theorem pairwise_insertSorted [TransOrd α] [LawfulEqOrd α] (a : α) {list : List α}
    (ascending : list.Pairwise fun a b => compare a b = .lt) :
    (insertSorted a list).Pairwise fun a b => compare a b = .lt := by
  induction list with
  | nil => simp [insertSorted]
  | cons c rest ih =>
      obtain ⟨above, later⟩ := List.pairwise_cons.1 ascending
      cases order : compare a c with
      | lt =>
          simp only [insertSorted, order]
          refine List.pairwise_cons.2 ⟨fun d member => ?_, ascending⟩
          cases member with
          | head => exact order
          | tail _ member => exact Std.TransCmp.lt_trans order (above d member)
      | eq =>
          simp only [insertSorted, order]
          exact ascending
      | gt =>
          simp only [insertSorted, order]
          refine List.pairwise_cons.2 ⟨fun d member => ?_, ih later⟩
          cases mem_insertSorted.1 member with
          | inl same => exact same ▸ Std.OrientedCmp.lt_of_gt order
          | inr member => exact above d member

/-! ## Operations and their membership laws -/

def size (set : SortedSet α) : Nat := set.toList.length

def isEmpty (set : SortedSet α) : Bool := set.toList.isEmpty

def filter (keep : α → Bool) (set : SortedSet α) : SortedSet α where
  toList := set.toList.filter keep
  ascending := set.ascending.filter keep

@[simp] theorem mem_filter {a : α} {keep : α → Bool} {set : SortedSet α} :
    a ∈ set.filter keep ↔ a ∈ set ∧ keep a := by
  simp [mem_def, filter]

def diff [DecidableEq α] (left right : SortedSet α) : SortedSet α :=
  left.filter fun a => decide (a ∉ right)

@[simp] theorem mem_diff [DecidableEq α] {a : α} {left right : SortedSet α} :
    a ∈ left.diff right ↔ a ∈ left ∧ a ∉ right := by
  simp [diff]

variable [TransOrd α] [LawfulEqOrd α]

def insert (a : α) (set : SortedSet α) : SortedSet α where
  toList := insertSorted a set.toList
  ascending := pairwise_insertSorted a set.ascending

@[simp] theorem mem_insert {a b : α} {set : SortedSet α} : b ∈ set.insert a ↔ b = a ∨ b ∈ set :=
  mem_insertSorted

def ofList : List α → SortedSet α
  | [] => empty
  | a :: rest => (ofList rest).insert a

@[simp] theorem mem_ofList {a : α} {list : List α} : a ∈ ofList list ↔ a ∈ list := by
  induction list with
  | nil => simp [ofList]
  | cons b rest ih => simp [ofList, ih]

def union (left right : SortedSet α) : SortedSet α :=
  left.toList.foldr insert right

@[simp] theorem mem_union {a : α} {left right : SortedSet α} :
    a ∈ left.union right ↔ a ∈ left ∨ a ∈ right := by
  have general : ∀ list : List α, a ∈ list.foldr insert right ↔ a ∈ list ∨ a ∈ right := by
    intro list
    induction list with
    | nil => simp
    | cons b rest ih => simp [ih, or_assoc]
  exact general left.toList

/-! ## Equality -/

/-- Two strictly ascending lists with the same members are the same list. -/
theorem eq_of_mem_iff {left right : List α} (ascending : left.Pairwise fun a b => compare a b = .lt)
    (ascending' : right.Pairwise fun a b => compare a b = .lt) (same : ∀ a, a ∈ left ↔ a ∈ right) :
    left = right := by
  induction left generalizing right with
  | nil =>
      cases right with
      | nil => rfl
      | cons b rest => exact absurd ((same b).2 List.mem_cons_self) (by simp)
  | cons a rest ih =>
      cases right with
      | nil => exact absurd ((same a).1 List.mem_cons_self) (by simp)
      | cons b rest' =>
          obtain ⟨above, later⟩ := List.pairwise_cons.1 ascending
          obtain ⟨above', later'⟩ := List.pairwise_cons.1 ascending'
          -- each head is in the other list, and neither may stand above the other
          have heads : a = b := by
            cases List.mem_cons.1 ((same a).1 List.mem_cons_self) with
            | inl equal => exact equal
            | inr inside =>
                cases List.mem_cons.1 ((same b).2 List.mem_cons_self) with
                | inl equal => exact equal.symm
                | inr inside' =>
                    have cycle := Std.TransCmp.lt_trans (above b inside') (above' a inside)
                    simp [Std.ReflCmp.compare_self] at cycle
          subst heads
          congr 1
          refine ih later later' fun c => ⟨fun inside => ?_, fun inside => ?_⟩
          · cases List.mem_cons.1 ((same c).1 (List.mem_cons_of_mem _ inside)) with
            | inl equal =>
                have self := above c inside
                simp [equal, Std.ReflCmp.compare_self] at self
            | inr inside' => exact inside'
          · cases List.mem_cons.1 ((same c).2 (List.mem_cons_of_mem _ inside)) with
            | inl equal =>
                have self := above' c inside
                simp [equal, Std.ReflCmp.compare_self] at self
            | inr inside' => exact inside'

@[ext] theorem ext {left right : SortedSet α} (same : ∀ a, a ∈ left ↔ a ∈ right) : left = right := by
  cases left with
  | mk list ascending =>
      cases right with
      | mk list' ascending' =>
          have equal : list = list' := eq_of_mem_iff ascending ascending' same
          subst equal
          rfl

end SortedSet

end TagBinding
