import Mathlib.Data.List.Pairwise
import TagBinding.Admission

/-! # Lists of variables without a collision

The check goes through a list with the variables admitted so far at hand.  It finds nothing exactly if no name
is reserved and no two variables bind one name in windows that share a region
(`firstCollision_eq_none_iff`).  Since each window shares a region with itself, no variable stands twice in
such a list.

* `Element.toVariables_eq_error_iff` — the first element without a scope is the one that is reported.
* `Barred` — a position whose variable cannot be admitted, told from the list alone.  The check reports the least
  such position (`firstCollision_eq_some_iff`).
* `firstCollision_eq_none_iff_scopesOf` — windows can share a region with a third one and not with each other, yet
  no name can occur three times.
-/

namespace TagBinding

namespace Variable

@[simp] theorem overlaps_self (v : Variable) : v.overlaps v = true := by
  simp [overlaps]

instance : Std.Symm fun v w : Variable => v.overlaps w = false where
  symm v w apart := by rw [overlaps_comm, apart]

end Variable

theorem firstCollisionAfter_eq_none_iff {reserved : SortedSet String} {admitted vars : List Variable} :
    firstCollisionAfter reserved admitted vars = none ↔
      (∀ v ∈ vars, v.name ∉ reserved) ∧
        (∀ earlier ∈ admitted, ∀ v ∈ vars, earlier.overlaps v = false) ∧
        vars.Pairwise fun v w => v.overlaps w = false := by
  induction vars generalizing admitted with
  | nil => simp [firstCollisionAfter]
  | cons v rest ih =>
    by_cases shadows : v.name ∈ reserved
    · simp [firstCollisionAfter, shadows]
    · cases found : admitted.find? (·.overlaps v) with
      | some earlier =>
        -- the earlier variable that is found refutes the right side
        have clash : earlier.overlaps v = true := by simpa using List.find?_some found
        have member := List.mem_of_find?_eq_some found
        simp only [firstCollisionAfter, shadows, if_false, found, reduceCtorEq, false_iff]
        rintro ⟨_, apart, _⟩
        have disjoint := apart earlier member v List.mem_cons_self
        rw [clash] at disjoint
        cases disjoint
      | none =>
        have apart : ∀ earlier ∈ admitted, earlier.overlaps v = false := by
          intro earlier member
          simpa using List.find?_eq_none.1 found earlier member
        simp only [firstCollisionAfter, shadows, if_false, found, ih, List.mem_append,
          List.mem_singleton, List.forall_mem_cons, List.pairwise_cons, not_false_eq_true, true_and]
        constructor
        · rintro ⟨names, disjoint, later⟩
          refine ⟨names, fun earlier member => ⟨apart earlier member, ?_⟩, ?_, later⟩
          · intro w inside
            exact disjoint earlier (Or.inl member) w inside
          · intro w inside
            exact disjoint v (Or.inr rfl) w inside
        · rintro ⟨names, disjoint, fromHere, later⟩
          refine ⟨names, ?_, later⟩
          rintro earlier (member | rfl) w inside
          · exact (disjoint earlier member).2 w inside
          · exact fromHere w inside

theorem firstCollision_eq_none_iff {reserved : SortedSet String} {vars : List Variable} :
    firstCollision reserved vars = none ↔
      (∀ v ∈ vars, v.name ∉ reserved) ∧ vars.Pairwise fun v w => v.overlaps w = false := by
  simp [firstCollision, firstCollisionAfter_eq_none_iff]

section Free

variable {reserved : SortedSet String} {vars : List Variable}

theorem nodup_of_firstCollision_eq_none (free : firstCollision reserved vars = none) : vars.Nodup := by
  refine (firstCollision_eq_none_iff.1 free).2.imp ?_
  rintro v w apart rfl
  simp at apart

theorem eq_of_overlaps (free : firstCollision reserved vars = none) {v w : Variable} (left : v ∈ vars)
    (right : w ∈ vars) (clash : v.overlaps w = true) : v = w := by
  by_cases same : v = w
  · exact same
  · have apart := (firstCollision_eq_none_iff.1 free).2.forall left right same
    rw [clash] at apart
    cases apart

end Free

/-! ## Elements -/

namespace Element

theorem toVariables_eq_ok_iff {elements : List Element} {vars : List Variable} :
    toVariables elements = .ok vars ↔ elements.map toVariable? = vars.map some := by
  induction elements generalizing vars with
  | nil => cases vars <;> simp [toVariables]
  | cons element rest ih =>
    rw [toVariables, List.map_cons]
    cases read : element.toVariable? with
    | none => cases vars <;> simp
    | some v =>
      cases vars with
      | nil => cases toVariables rest <;> simp [Except.map]
      | cons w later =>
        rw [List.map_cons, List.cons.injEq, Option.some.injEq, ← ih]
        cases toVariables rest <;> simp [Except.map]

theorem toVariables_eq_error_iff {elements : List Element} {element : Element} :
    toVariables elements = .error element ↔
      ∃ before after, elements = before ++ element :: after ∧
        (∀ other ∈ before, other.toVariable?.isSome) ∧ element.toVariable? = none := by
  induction elements with
  | nil => simp [toVariables]
  | cons head rest ih =>
    rw [toVariables]
    cases read : head.toVariable? with
    | none =>
      constructor
      · rintro ⟨⟩
        exact ⟨[], rest, rfl, by simp, read⟩
      · rintro ⟨before, after, split, reads, unscoped⟩
        cases before with
        | nil =>
          cases split
          rfl
        | cons other before =>
          -- the head has no scope, so nothing comes before the element
          cases split
          have scope := reads head List.mem_cons_self
          simp [read] at scope
    | some v =>
      have later : (toVariables rest).map (v :: ·) = .error element ↔
          toVariables rest = .error element := by
        cases toVariables rest <;> simp [Except.map]
      simp only [later, ih]
      constructor
      · rintro ⟨before, after, rfl, reads, unscoped⟩
        refine ⟨head :: before, after, rfl, ?_, unscoped⟩
        exact List.forall_mem_cons.2 ⟨by simp [read], reads⟩
      · rintro ⟨before, after, split, reads, unscoped⟩
        cases before with
        | nil =>
          cases split
          rw [read] at unscoped
          cases unscoped
        | cons other before =>
          cases split
          exact ⟨before, after, rfl, (List.forall_mem_cons.1 reads).2, unscoped⟩

end Element

/-! ## The first collision -/

/-- Why a variable cannot be admitted after some others, if it cannot. -/
def hindrance? (reserved : SortedSet String) (admitted : List Variable) (v : Variable) : Option Collision :=
  if v.name ∈ reserved then some (.reserved v) else (admitted.find? (·.overlaps v)).map (.overlap · v)

section Hindrance

variable {reserved : SortedSet String} {admitted vars : List Variable} {collision : Collision}

theorem firstCollisionAfter_cons (v : Variable) (rest : List Variable) :
    firstCollisionAfter reserved admitted (v :: rest) =
      (hindrance? reserved admitted v).or (firstCollisionAfter reserved (admitted ++ [v]) rest) := by
  rw [firstCollisionAfter, hindrance?]
  by_cases shadows : v.name ∈ reserved
  · simp [shadows]
  · cases found : admitted.find? (·.overlaps v) <;> simp [shadows]

theorem firstCollisionAfter_append (later : List Variable) :
    firstCollisionAfter reserved admitted (vars ++ later) =
      (firstCollisionAfter reserved admitted vars).or
        (firstCollisionAfter reserved (admitted ++ vars) later) := by
  induction vars generalizing admitted with
  | nil => simp [firstCollisionAfter]
  | cons v rest ih =>
    rw [List.cons_append, firstCollisionAfter_cons, firstCollisionAfter_cons, ih, Option.or_assoc,
      List.append_assoc, List.singleton_append]

/-- A list collides first at a variable that cannot be admitted after those before it, where these are free of
collisions themselves. -/
theorem firstCollisionAfter_eq_some_iff :
    firstCollisionAfter reserved admitted vars = some collision ↔
      ∃ before v after, vars = before ++ v :: after ∧
        firstCollisionAfter reserved admitted before = none ∧
        hindrance? reserved (admitted ++ before) v = some collision := by
  constructor
  · -- by induction on the list, what is admitted growing along with what was gone through
    intro collides
    induction vars generalizing admitted with
    | nil => simp [firstCollisionAfter] at collides
    | cons v rest ih =>
      rw [firstCollisionAfter_cons] at collides
      cases hinders : hindrance? reserved admitted v with
      | some found =>
        rw [hinders] at collides
        exact ⟨[], v, rest, rfl, rfl, by simpa [hinders] using collides⟩
      | none =>
        rw [hinders, Option.none_or] at collides
        obtain ⟨before, w, after, rfl, free, hinders'⟩ := ih collides
        refine ⟨v :: before, w, after, rfl, ?_, by simpa using hinders'⟩
        rw [firstCollisionAfter_cons, hinders, Option.none_or, free]
  · rintro ⟨before, v, after, rfl, free, hinders⟩
    rw [firstCollisionAfter_append, free, Option.none_or, firstCollisionAfter_cons, hinders,
      Option.some_or]

end Hindrance

/-! ## Positions -/

theorem Variable.overlaps_iff {v w : Variable} :
    v.overlaps w = true ↔ v.name = w.name ∧ v.scope.overlaps w.scope := by
  rw [Variable.overlaps, Bool.and_eq_true, beq_iff_eq]

/-- The variables at two positions bind one name in windows that share a region. -/
def Clash (vars : List Variable) (i j : Fin vars.length) : Prop :=
  vars[i].name = vars[j].name ∧ vars[i].scope.overlaps vars[j].scope

/-- The variable at a position cannot be admitted: its name is reserved, or it clashes with an earlier one. -/
def Barred (reserved : SortedSet String) (vars : List Variable) (j : Fin vars.length) : Prop :=
  vars[j].name ∈ reserved ∨ ∃ i < j, Clash vars i j

instance (vars : List Variable) (i j : Fin vars.length) : Decidable (Clash vars i j) :=
  inferInstanceAs (Decidable (_ ∧ _))

instance (reserved : SortedSet String) (vars : List Variable) (j : Fin vars.length) :
    Decidable (Barred reserved vars j) :=
  inferInstanceAs (Decidable (_ ∨ _))

section Positions

variable {reserved : SortedSet String} {vars : List Variable} {collision : Collision}

theorem firstCollision_take_eq_none_iff {n : Nat} :
    firstCollision reserved (vars.take n) = none ↔
      ∀ j : Fin vars.length, j < n → ¬ Barred reserved vars j := by
  rw [firstCollision_eq_none_iff, List.pairwise_iff_getElem]
  constructor
  · rintro ⟨free, apart⟩ j before (shadows | ⟨i, earlier, clash⟩)
    · exact free _ (List.mem_take_iff_getElem.2 ⟨j, by omega, rfl⟩) shadows
    · have disjoint := apart i j (by rw [List.length_take]; omega) (by rw [List.length_take]; omega) earlier
      rw [List.getElem_take, List.getElem_take, ← Bool.not_eq_true, Variable.overlaps_iff] at disjoint
      exact disjoint clash
  · intro unbarred
    constructor
    · intro v member shadows
      obtain ⟨j, bound, rfl⟩ := List.mem_take_iff_getElem.1 member
      exact unbarred ⟨j, by omega⟩ (show j < n by omega) (Or.inl shadows)
    · intro i j left right earlier
      rw [List.length_take] at left right
      rw [List.getElem_take, List.getElem_take, ← Bool.not_eq_true, Variable.overlaps_iff]
      intro clash
      exact unbarred ⟨j, by omega⟩ (show j < n by omega) (Or.inr ⟨⟨i, by omega⟩, earlier, clash⟩)

theorem find?_take_eq_some_iff {j : Fin vars.length} {v : Variable} :
    (vars.take j).find? (·.overlaps vars[j]) = some v ↔
      ∃ i < j, v = vars[i] ∧ Clash vars i j ∧ ∀ k < i, ¬ Clash vars k j := by
  rw [List.find?_eq_some_iff_getElem]
  constructor
  · rintro ⟨clash, i, bound, rfl, first⟩
    rw [List.length_take] at bound
    rw [List.getElem_take, Variable.overlaps_iff] at clash
    refine ⟨⟨i, by omega⟩, show i < j by omega, List.getElem_take, clash, fun k earlier clash' => ?_⟩
    have apart := first k earlier
    rw [List.getElem_take, Bool.not_eq_true', ← Bool.not_eq_true, Variable.overlaps_iff] at apart
    exact apart clash'
  · rintro ⟨i, before, rfl, clash, first⟩
    refine ⟨Variable.overlaps_iff.2 clash, i, by rw [List.length_take]; omega, List.getElem_take, ?_⟩
    intro k earlier
    rw [List.getElem_take, Bool.not_eq_true', ← Bool.not_eq_true, Variable.overlaps_iff]
    exact first ⟨k, by omega⟩ earlier

theorem firstCollision_eq_some_iff :
    firstCollision reserved vars = some collision ↔
      ∃ j : Fin vars.length, (∀ i < j, ¬ Barred reserved vars i) ∧
        hindrance? reserved (vars.take j) vars[j] = some collision := by
  rw [firstCollision, firstCollisionAfter_eq_some_iff]
  constructor
  · rintro ⟨before, v, after, rfl, free, hinders⟩
    refine ⟨⟨before.length, by simp⟩, ?_, by simpa using hinders⟩
    refine firstCollision_take_eq_none_iff.1 ?_
    rw [List.take_left]
    exact free
  · rintro ⟨j, unbarred, hinders⟩
    refine ⟨vars.take j, vars[j], vars.drop (j + 1), ?_, ?_, ?_⟩
    · simp
    · exact firstCollision_take_eq_none_iff.2 unbarred
    · simpa using hinders

end Positions

/-! ## Names that occur twice -/

namespace Scope

/-- Of windows that share no region with each other there are at most two, the body and what follows the end
marker. -/
theorem pairwise_apart_iff {scopes : List Scope} :
    (scopes.Pairwise fun s t => s.overlaps t = false) ↔
      scopes.length ≤ 1 ∨ scopes.Perm [.nested, .atEnd] := by
  constructor
  · intro apart
    match scopes, apart with
    | [], _ => exact Or.inl (Nat.zero_le 1)
    | [s], _ => exact Or.inl (Nat.le_refl 1)
    | [s, t], apart =>
      right
      have disjoint := List.rel_of_pairwise_cons apart List.mem_cons_self
      revert disjoint
      cases s <;> cases t <;> decide
    | s :: t :: u :: rest, apart =>
      -- the first three already share a region
      exfalso
      obtain ⟨fromFirst, later⟩ := List.pairwise_cons.1 apart
      have disjoint := fromFirst t (by simp)
      have disjoint' := fromFirst u (by simp)
      have disjoint'' := List.rel_of_pairwise_cons later List.mem_cons_self
      revert disjoint disjoint' disjoint''
      cases s <;> cases t <;> cases u <;> decide
  · rintro (few | pair)
    · match scopes, few with
      | [], _ => exact .nil
      | [s], _ => exact List.pairwise_singleton _ _
    · rw [pair.pairwise_iff fun apart => by rw [overlaps_comm, apart]]
      simp [overlaps, reachesBody, reachesBeyond]

end Scope

/-- The scopes of the variables of one name, in order. -/
def scopesOf (name : String) (vars : List Variable) : List Scope :=
  (vars.filter fun v => v.name == name).map Variable.scope

theorem pairwise_apart_iff_scopesOf {vars : List Variable} :
    (vars.Pairwise fun v w => v.overlaps w = false) ↔
      ∀ name, (scopesOf name vars).Pairwise fun s t => s.overlaps t = false := by
  constructor
  · -- variables of one name overlap exactly if their scopes do
    intro apart name
    rw [scopesOf, List.pairwise_map]
    refine (apart.filter _).imp_of_mem ?_
    intro v w left right disjoint
    have named : v.name = name := by simpa using (List.mem_filter.1 left).2
    have named' : w.name = name := by simpa using (List.mem_filter.1 right).2
    rw [Variable.overlaps, named, named', beq_self_eq_true, Bool.true_and] at disjoint
    exact disjoint
  · intro apart
    rw [List.pairwise_iff_forall_sublist]
    intro v w ordered
    by_cases same : v.name = w.name
    · -- both are among the variables of their name
      have ordered' : [v.scope, w.scope].Sublist (scopesOf w.name vars) := by
        have kept := (ordered.filter fun u => u.name == w.name).map Variable.scope
        simpa [scopesOf, same] using kept
      have disjoint := List.rel_of_pairwise_cons ((apart w.name).sublist ordered') List.mem_cons_self
      rw [Variable.overlaps, disjoint, Bool.and_false]
    · rw [Variable.overlaps, beq_eq_false_iff_ne.2 same, Bool.false_and]

/-- The check lets a list through exactly if no name is reserved and each name occurs once, or twice and then for
the body and for what follows the end marker. -/
theorem firstCollision_eq_none_iff_scopesOf {reserved : SortedSet String} {vars : List Variable} :
    firstCollision reserved vars = none ↔
      (∀ v ∈ vars, v.name ∉ reserved) ∧
        ∀ name, (scopesOf name vars).length ≤ 1 ∨ (scopesOf name vars).Perm [.nested, .atEnd] := by
  rw [firstCollision_eq_none_iff, pairwise_apart_iff_scopesOf]
  simp only [Scope.pairwise_apart_iff]

theorem firstCollision_eq_none_iff_unbarred {reserved : SortedSet String} {vars : List Variable} :
    firstCollision reserved vars = none ↔ ∀ j, ¬ Barred reserved vars j := by
  have whole := @firstCollision_take_eq_none_iff reserved vars vars.length
  rw [List.take_length] at whole
  rw [whole]
  exact forall_congr' fun j => ⟨fun unbarred => unbarred j.isLt, fun unbarred _ => unbarred⟩

end TagBinding
