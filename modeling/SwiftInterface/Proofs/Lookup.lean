import Mathlib.Data.List.Nodup

/-!
# Association lists

The members of an object and the entries of a file tree are lists of keys with
values, and the first value of a key counts.  Where each key stands once, the
order of the list does not matter.
-/

namespace SwiftInterface

variable {Key Entry : Type} [BEq Key] [LawfulBEq Key]

theorem lookup_cons_of_ne {key other : Key} (different : key ≠ other)
    (entry : Entry) (entries : List (Key × Entry)) :
    ((other, entry) :: entries).lookup key = entries.lookup key := by
  have skipped : (key == other) = false := beq_eq_false_iff_ne.mpr different
  rw [List.lookup_cons, skipped]

theorem lookup_eq_none_iff_not_mem {key : Key}
    {entries : List (Key × Entry)} :
    entries.lookup key = none ↔ key ∉ entries.map Prod.fst := by
  rw [List.lookup_eq_none_iff]
  simp only [bne_iff_ne, List.mem_map, not_exists, not_and]
  exact forall₂_congr fun entry _ => ⟨Ne.symm, Ne.symm⟩

theorem mem_of_lookup {key : Key} {entry : Entry}
    {entries : List (Key × Entry)} (found : entries.lookup key = some entry) :
    (key, entry) ∈ entries := by
  obtain ⟨before, after, rfl, -⟩ := List.lookup_eq_some_iff.mp found
  simp

/-! ## Removing a key -/

section Filter

variable [DecidableEq Key]

theorem lookup_filter_self (key : Key) (entries : List (Key × Entry)) :
    (entries.filter fun old => old.1 ≠ key).lookup key = none := by
  rw [lookup_eq_none_iff_not_mem]
  simp

theorem lookup_filter_ne {key other : Key} (different : other ≠ key)
    (entries : List (Key × Entry)) :
    (entries.filter fun old => old.1 ≠ key).lookup other =
      entries.lookup other := by
  induction entries with
  | nil => rfl
  | cons head entries ih =>
      obtain ⟨headKey, entry⟩ := head
      by_cases removed : headKey = key
      · subst removed
        rw [List.filter_cons_of_neg (by simp), ih, lookup_cons_of_ne different]
      · rw [List.filter_cons_of_pos (by simpa using removed), List.lookup_cons,
          List.lookup_cons, ih]

end Filter

/-! ## Distinct keys -/

theorem lookup_eq_some_iff_mem {key : Key} {entry : Entry}
    {entries : List (Key × Entry)} (distinct : (entries.map Prod.fst).Nodup) :
    entries.lookup key = some entry ↔ (key, entry) ∈ entries := by
  refine ⟨mem_of_lookup, fun member => ?_⟩
  induction entries with
  | nil => cases member
  | cons head entries ih =>
      rw [List.map_cons, List.nodup_cons] at distinct
      cases member with
      | head => exact List.lookup_cons_self
      | tail _ member =>
          have different : key ≠ head.1 := fun same =>
            distinct.1 (List.mem_map.mpr ⟨(key, entry), member, same⟩)
          rw [lookup_cons_of_ne different]
          exact ih distinct.2 member

theorem lookup_eq_of_perm {first second : List (Key × Entry)}
    (distinct : (first.map Prod.fst).Nodup) (same : first.Perm second)
    (key : Key) : first.lookup key = second.lookup key := by
  have distinctSecond : (second.map Prod.fst).Nodup :=
    (same.map Prod.fst).nodup_iff.mp distinct
  ext entry
  rw [lookup_eq_some_iff_mem distinct, lookup_eq_some_iff_mem distinctSecond,
    same.mem_iff]

end SwiftInterface
