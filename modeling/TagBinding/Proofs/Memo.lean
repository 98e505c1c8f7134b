import Mathlib.Data.List.DropRight
import Mathlib.Data.List.Nodup
import TagBinding.Resolver

/-!
# The memory as a queue

The memory keeps its entries in the order in which they came, and it gives up the oldest when it is full.
So its entries are the newest of all that were ever stored (`Memo.entries_store`), and as long as no key is
in it twice, a look-up finds exactly the entry of the key (`Memo.find?_eq_some_iff`).
-/

namespace TagBinding

namespace Memo

variable {memo : Memo} {capacity : Nat} {key : PlanKey} {issue : Issue}

/-! ## Looking up -/

theorem find?_eq_none_iff : memo.find? key = none ↔ key ∉ memo.keys := by
  simp only [find?, Option.map_eq_none_iff, List.find?_eq_none, decide_eq_true_eq, keys, List.mem_map]
  constructor
  · rintro absent ⟨entry, member, same⟩
    exact absent entry member same
  · intro absent entry member same
    exact absent ⟨entry, member, same⟩

theorem mem_entries_of_find? (found : memo.find? key = some issue) : (key, issue) ∈ memo.entries := by
  simp only [find?, Option.map_eq_some_iff] at found
  obtain ⟨⟨key', issue'⟩, found, rfl⟩ := found
  have same := List.find?_some found
  simp only [decide_eq_true_eq] at same
  subst same
  exact List.mem_of_find?_eq_some found

theorem eq_of_mem_entries (distinct : memo.keys.Nodup) {issue' : Issue}
    (member : (key, issue) ∈ memo.entries) (member' : (key, issue') ∈ memo.entries) : issue = issue' := by
  have same := List.inj_on_of_nodup_map distinct member member' rfl
  exact (Prod.mk.inj same).2

theorem find?_eq_some_iff (distinct : memo.keys.Nodup) :
    memo.find? key = some issue ↔ (key, issue) ∈ memo.entries := by
  refine ⟨mem_entries_of_find?, fun member => ?_⟩
  cases found : memo.find? key with
  | none => exact absurd (List.mem_map_of_mem member) (find?_eq_none_iff.1 found)
  | some other => rw [eq_of_mem_entries distinct (mem_entries_of_find? found) member]

/-! ## Storing -/

theorem mem_entries_of_mem_store {entry : PlanKey × Issue}
    (member : entry ∈ (memo.store capacity key issue).entries) :
    entry ∈ memo.entries ∨ entry = (key, issue) := by
  unfold store at member
  split at member
  · exact Or.inl member
  · rcases List.mem_append.1 member with kept | new
    · unfold withRoom at kept
      split at kept
      · exact Or.inl (List.mem_of_mem_tail kept)
      · exact Or.inl kept
    · exact Or.inr (List.mem_singleton.1 new)

/-- Among the newest entries there is one fewer once the oldest of them is gone. -/
theorem tail_rtake {α : Type} {list : List α} {n : Nat} (enough : n < list.length) :
    (list.rtake (n + 1)).tail = list.rtake n := by
  simp only [List.rtake, List.tail_drop]
  congr 1
  omega

/-- If the memory holds the newest of some entries, it holds the newest of them and of the one stored. -/
theorem entries_store {stored : List (PlanKey × Issue)} (newest : memo.entries = stored.rtake capacity) :
    (memo.store capacity key issue).entries = (stored ++ [(key, issue)]).rtake capacity := by
  cases capacity with
  | zero => simpa [store] using newest
  | succ n =>
    rw [List.rtake_concat_succ]
    simp only [store, Nat.succ_ne_zero, if_false, withRoom, size, newest]
    congr 1
    have length : (stored.rtake (n + 1)).length = min (n + 1) stored.length := by
      simp only [List.rtake, List.length_drop]
      omega
    by_cases full : n < stored.length
    · -- the oldest makes room
      rw [if_pos (by omega)]
      exact tail_rtake full
    · -- all that was ever stored is still there
      rw [if_neg (by omega), newest]
      simp only [List.rtake]
      congr 1
      omega

theorem nodup_keys_store (distinct : memo.keys.Nodup) (absent : memo.find? key = none) :
    (memo.store capacity key issue).keys.Nodup := by
  unfold store
  split
  · exact distinct
  · have kept : (memo.withRoom capacity).keys.Sublist memo.keys := by
      unfold withRoom
      split
      · exact (List.tail_sublist _).map _
      · exact List.Sublist.refl _
    -- what is absent before room is made is absent after
    have new : key ∉ (memo.withRoom capacity).keys := fun member =>
      find?_eq_none_iff.1 absent (kept.subset member)
    simp only [keys, List.map_append, List.map_cons, List.map_nil] at kept new ⊢
    rw [List.nodup_append]
    refine ⟨kept.nodup distinct, by simp, ?_⟩
    rintro other member _ (_ | ⟨_, ⟨⟩⟩) same
    exact new (same ▸ member)

end Memo

end TagBinding
