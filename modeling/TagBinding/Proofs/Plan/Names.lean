import TagBinding.Plan.Views
import TagBinding.Proofs.Plan.Replay

/-! # Names at a checkpoint

The scopes that one callback binds can all be read in one region, so any two of them overlap.  The check for
collisions goes by overlapping scopes; hence no checkpoint of a plan touches two variables of one name
(`Checkpoint.eq_of_name_eq`).

Text is made of a checkpoint by listing its variables by name.  This needs no further rule: where no name occurs
twice, there is only one such list (`Variable.listing_iff`), so the text is told by the sets and their names
(`Checkpoint.ToldByName`).
-/

namespace TagBinding

/-! ## One region -/

namespace Handler

variable {kind : Handler} {buffered : Bool} {callback : Callback} {left right : Scope}

theorem mem_refreshed_of_mem_bound (binds : left ∈ kind.bound buffered callback) :
    left ∈ kind.refreshed callback := by
  unfold bound at binds
  split at binds
  · exact List.mem_of_mem_filter binds
  · exact binds

theorem overlaps_of_visible (reads : kind.visible callback left) (reads' : kind.visible callback right) :
    left.overlaps right = true := by
  unfold visible at reads reads'
  split at reads
  · next last =>
    rw [if_pos last] at reads'
    rw [Scope.overlaps, reads, reads', Bool.and_self, Bool.or_true]
  · next last =>
    rw [if_neg last] at reads'
    rw [Scope.overlaps, reads, reads', Bool.and_self, Bool.true_or]

theorem overlaps_of_mem_bound (binds : left ∈ kind.bound buffered callback)
    (binds' : right ∈ kind.bound buffered callback) : left.overlaps right = true := by
  have refreshes := mem_refreshed_of_mem_bound binds
  have refreshes' := mem_refreshed_of_mem_bound binds'
  have known : callback ∈ kind.callbacks := by
    rw [← refreshed_ne_nil_iff]
    exact List.ne_nil_of_mem refreshes
  exact overlaps_of_visible ((mem_refreshed_iff known left).1 refreshes)
    ((mem_refreshed_iff known right).1 refreshes')

end Handler

theorem Checkpoint.eq_of_name_eq {kind : Handler} {buffered : Bool} {reserved : SortedSet String}
    {vars : List Variable} {callback : Callback} {v w : Variable}
    (free : firstCollision reserved vars = none)
    (touches : v ∈ (settled kind buffered vars callback).touched)
    (touches' : w ∈ (settled kind buffered vars callback).touched) (same : v.name = w.name) : v = w := by
  obtain ⟨listed, binds⟩ := mem_touched_settled.1 touches
  obtain ⟨listed', binds'⟩ := mem_touched_settled.1 touches'
  exact eq_of_overlaps free listed listed'
    (Variable.overlaps_iff.2 ⟨same, Handler.overlaps_of_mem_bound binds binds'⟩)

/-! ## Listing by name -/

namespace Variable

variable {v w : Variable}

theorem lt_of_name_lt (before : compare v.name w.name = .lt) : compare v w = .lt :=
  Ordering.then_eq_lt.2 (Or.inl before)

theorem name_isLE_of_lt (before : compare v w = .lt) : (compare v.name w.name).isLE := by
  rcases Ordering.then_eq_lt.1 before with names | ⟨names, _⟩
  · exact Ordering.isLE_of_eq_lt names
  · exact Ordering.isLE_of_eq_eq names

/-- The members of a set, each once, in an order that goes by their names and by nothing else. -/
structure Listing (set : SortedSet Variable) (listed : List Variable) : Prop where
  members : ∀ v, v ∈ listed ↔ v ∈ set
  distinct : listed.Nodup
  byName : listed.Pairwise fun v w => (compare v.name w.name).isLE

theorem listing_toList (set : SortedSet Variable) : Listing set set.toList where
  members _ := Iff.rfl
  distinct := by
    refine set.ascending.imp ?_
    rintro v w before rfl
    simp [Std.ReflCmp.compare_self] at before
  byName := set.ascending.imp name_isLE_of_lt

/-- A set in which no name occurs twice has one listing, the one it is shown by. -/
theorem listing_iff {set : SortedSet Variable}
    (apart : ∀ v ∈ set, ∀ w ∈ set, v.name = w.name → v = w) {listed : List Variable} :
    Listing set listed ↔ listed = set.toList := by
  constructor
  · rintro ⟨members, distinct, byName⟩
    refine SortedSet.eq_of_mem_iff ?_ set.ascending members
    -- two that follow each other have different names, so the names decide
    refine (distinct.and byName).imp_of_mem ?_
    rintro v w left right ⟨different, ordered⟩
    refine lt_of_name_lt ?_
    rcases Ordering.isLE_iff_eq_lt_or_eq_eq.1 ordered with before | same
    · exact before
    · exact absurd (apart v ((members v).1 left) w ((members w).1 right)
        (Std.LawfulEqOrd.eq_of_compare same)) different
  · rintro rfl
    exact listing_toList set

end Variable

namespace Checkpoint

/-- What is told of a checkpoint is told by name alone: its cells are those of any listing of what it declares and
of what it assigns to, and its names those of any listing of what it touches. -/
structure ToldByName (checkpoint : Checkpoint) : Prop where
  cells : ∀ declared assigned, Variable.Listing checkpoint.declarations declared →
    Variable.Listing checkpoint.updates assigned →
    checkpoint.cells = declared.map declarationCell ++ assigned.map updateCell
  names : ∀ listed, Variable.Listing checkpoint.touched listed → checkpoint.names = listed.map Variable.name

theorem toldByName_settled {kind : Handler} {buffered : Bool} {reserved : SortedSet String}
    {vars : List Variable} (free : firstCollision reserved vars = none) (callback : Callback) :
    (settled kind buffered vars callback).ToldByName := by
  have apart : ∀ v ∈ (settled kind buffered vars callback).touched,
      ∀ w ∈ (settled kind buffered vars callback).touched, v.name = w.name → v = w :=
    fun v left w right => eq_of_name_eq free left right
  constructor
  · intro declared assigned listing listing'
    have declarations := (Variable.listing_iff fun v left w right =>
      apart v (mem_touched.2 (Or.inl left)) w (mem_touched.2 (Or.inl right))).1 listing
    have updates := (Variable.listing_iff fun v left w right =>
      apart v (mem_touched.2 (Or.inr left)) w (mem_touched.2 (Or.inr right))).1 listing'
    rw [cells, declarations, updates]
  · intro listed listing
    rw [names, (Variable.listing_iff apart).1 listing]

end Checkpoint

end TagBinding
