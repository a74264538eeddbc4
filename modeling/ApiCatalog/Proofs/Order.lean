import Mathlib.Data.List.Sort
import Mathlib.Data.String.Basic
import ApiCatalog.Text.Order

/-!
# Code point order is the order of strings

Sorting is written as plain recursion with its own comparison. The comparison is
the library's order on strings, and the recursion is the library's insertion sort,
so what is known of that sort is known here. Where keys differ, sorting is a
function of the set of elements: two orders of the same elements sort alike. A set
of names is its strictly increasing list.
-/

namespace ApiCatalog.Text

theorem before_iff {as bs : List Char} : before as bs = true ↔ as < bs := by
  induction as generalizing bs with
  | nil =>
      cases bs with
      | nil => simp [before]
      | cons b bs => simp [before]
  | cons a as ih =>
      cases bs with
      | nil => simp [before]
      | cons b bs =>
          rw [before, List.cons_lt_cons_iff, Bool.or_eq_true, Bool.and_eq_true,
            decide_eq_true_eq, beq_iff_eq, ih]
          rfl

variable {α : Type} {key : α → String}

theorem insertBy_eq_orderedInsert (a : α) (bs : List α) :
    insertBy key a bs = bs.orderedInsert (fun x y => key x ≤ key y) a := by
  induction bs with
  | nil => rfl
  | cons b bs ih =>
      rw [insertBy, List.orderedInsert_cons, ih]
      by_cases hlt : key b < key a
      · rw [if_pos (before_iff.mpr hlt), if_neg (not_le.mpr hlt)]
      · rw [if_neg (fun h => hlt (before_iff.mp h)), if_pos (not_lt.mp hlt)]

theorem sortBy_eq_insertionSort (xs : List α) :
    sortBy key xs = xs.insertionSort fun x y => key x ≤ key y := by
  induction xs with
  | nil => rfl
  | cons x xs ih =>
      rw [List.insertionSort_cons, ← ih]
      exact insertBy_eq_orderedInsert x (sortBy key xs)

theorem sortBy_perm (xs : List α) : (sortBy key xs).Perm xs := by
  rw [sortBy_eq_insertionSort]
  exact List.perm_insertionSort _ xs

/-- Keys that are all different come out strictly increasing. -/
theorem pairwise_sortBy {xs : List α} (h : (xs.map key).Nodup) :
    ((sortBy key xs).map key).Pairwise (· < ·) := by
  have hle : ((sortBy key xs).map key).Pairwise (· ≤ ·) := by
    rw [List.pairwise_map, sortBy_eq_insertionSort]
    exact List.pairwise_insertionSort _ xs
  have hne : ((sortBy key xs).map key).Nodup :=
    ((sortBy_perm xs).map key).nodup_iff.mpr h
  exact (hle.and hne).imp fun hxy => lt_of_le_of_ne hxy.1 hxy.2

/-- A strictly increasing list is known by its members. -/
theorem eq_of_pairwise_of_mem_iff {xs ys : List α} (hxs : (xs.map key).Pairwise (· < ·))
    (hys : (ys.map key).Pairwise (· < ·)) (h : ∀ a, a ∈ xs ↔ a ∈ ys) : xs = ys := by
  have hnodup {zs : List α} (hzs : (zs.map key).Pairwise (· < ·)) : zs.Nodup := by
    have hkeys : (zs.map key).Nodup := hzs.imp fun hlt => ne_of_lt hlt
    exact hkeys.of_map
  have hperm : xs.Perm ys :=
    (List.perm_ext_iff_of_nodup (hnodup hxs) (hnodup hys)).mpr h
  rw [List.pairwise_map] at hxs hys
  exact hperm.eq_of_pairwise (fun a b _ _ hab hba => absurd hba (lt_asymm hab)) hxs hys

/-! ## Sets of names -/

theorem mem_insertName {a b : String} {names : List String} :
    b ∈ insertName a names ↔ b = a ∨ b ∈ names := by
  induction names with
  | nil => rw [insertName, List.mem_cons]
  | cons c rest ih =>
      rw [insertName]
      split
      · next hac =>
          obtain rfl := eq_of_beq hac
          simp
      · split
        · rw [List.mem_cons]
        · rw [List.mem_cons, List.mem_cons, ih, or_left_comm]

theorem pairwise_insertName {a : String} {names : List String}
    (h : names.Pairwise (· < ·)) : (insertName a names).Pairwise (· < ·) := by
  induction names with
  | nil => exact List.pairwise_singleton _ _
  | cons c rest ih =>
      obtain ⟨hc, hrest⟩ := List.pairwise_cons.mp h
      rw [insertName]
      split
      · exact h
      · next hne =>
          split
          · next hlt =>
              have hac : a < c := before_iff.mp hlt
              refine List.pairwise_cons.mpr ⟨fun b hb => ?_, h⟩
              rcases List.mem_cons.mp hb with rfl | hb
              · exact hac
              · exact lt_trans hac (hc b hb)
          · next hle =>
              -- the name comes after the first one, as it is neither equal to it nor before it
              have hca : c < a := lt_of_le_of_ne (not_lt.mp fun hac => hle (before_iff.mpr hac))
                fun hca => hne (by simp [hca])
              refine List.pairwise_cons.mpr ⟨fun b hb => ?_, ih hrest⟩
              rcases mem_insertName.mp hb with rfl | hb
              · exact hca
              · exact hc b hb

theorem mem_nameSet {a : String} {names : List String} : a ∈ nameSet names ↔ a ∈ names := by
  induction names with
  | nil => rfl
  | cons b rest ih =>
      show a ∈ insertName b (nameSet rest) ↔ _
      rw [mem_insertName, ih, List.mem_cons]

theorem pairwise_nameSet (names : List String) : (nameSet names).Pairwise (· < ·) := by
  induction names with
  | nil => exact List.Pairwise.nil
  | cons b rest ih => exact pairwise_insertName ih

/-- A set of names is known by its members: a strictly increasing list is the set of every
list with the same names, in whatever order and however often they stand there. -/
theorem nameSet_eq_of_mem_iff {names set : List String} (hset : set.Pairwise (· < ·))
    (h : ∀ name, name ∈ names ↔ name ∈ set) : nameSet names = set := by
  refine @eq_of_pairwise_of_mem_iff _ id _ _ ?_ ?_ fun a => mem_nameSet.trans (h a)
  · rw [List.map_id]
    exact pairwise_nameSet names
  · rw [List.map_id]
    exact hset

end ApiCatalog.Text
