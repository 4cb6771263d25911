import Mathlib.Data.List.Basic
import Mathlib.Data.List.Nodup
import ScriptRegistrar.Sorting

namespace ScriptRegistrar

section
variable {α β : Type} [Ord β] [Std.TransOrd β] {key : α → β}

theorem insertOn_pairwise (a : α) {xs : List α}
    (sorted : xs.Pairwise fun x y => (compare (key x) (key y)).isLE) :
    (insertOn key a xs).Pairwise fun x y => (compare (key x) (key y)).isLE := by
  induction xs with
  | nil => simp [insertOn]
  | cons b rest ih =>
    obtain ⟨above, tail⟩ := List.pairwise_cons.1 sorted
    rw [insertOn]
    split
    · next before =>
      refine List.pairwise_cons.2 ⟨fun x member => ?_, sorted⟩
      rcases List.mem_cons.1 member with rfl | later
      · exact before
      · exact Std.TransCmp.isLE_trans before (above x later)
    · next after =>
      refine List.pairwise_cons.2 ⟨fun x member => ?_, ih tail⟩
      rcases List.mem_cons.1 ((insertOn_perm key a rest).mem_iff.1 member) with rfl | later
      · have turned : compare (key b) (key x) = (compare (key x) (key b)).swap :=
          Std.OrientedCmp.eq_swap
        rw [turned]
        cases order : compare (key x) (key b) with
        | lt => simp [order] at after
        | eq => simp [order] at after
        | gt => rfl
      · exact above x later

theorem sortOn_pairwise (xs : List α) :
    (sortOn key xs).Pairwise fun x y => (compare (key x) (key y)).isLE := by
  induction xs with
  | nil => exact .nil
  | cons a xs ih => exact insertOn_pairwise a ih

variable [Std.LawfulEqOrd β]

/-- Elements with different keys can be sorted in one way only. -/
theorem eq_of_sorted_perm {xs ys : List α} (perm : xs.Perm ys)
    (apart : ∀ x ∈ xs, ∀ y ∈ xs, key x = key y → x = y)
    (sorted : xs.Pairwise fun x y => (compare (key x) (key y)).isLE)
    (sorted' : ys.Pairwise fun x y => (compare (key x) (key y)).isLE) : xs = ys := by
  refine perm.eq_of_pairwise (fun x y member member' before after => ?_) sorted sorted'
  have same := Std.OrientedCmp.isLE_antisymm before after
  exact apart x member y (perm.mem_iff.2 member') (Std.LawfulEqCmp.eq_of_compare same)

theorem sortOn_eq_of_perm {xs ys : List α} (perm : xs.Perm ys) (distinct : (xs.map key).Nodup) :
    sortOn key xs = sortOn key ys := by
  have sorts : (sortOn key xs).Perm (sortOn key ys) :=
    (sortOn_perm key xs).trans (perm.trans (sortOn_perm key ys).symm)
  refine eq_of_sorted_perm sorts ?_ (sortOn_pairwise xs) (sortOn_pairwise ys)
  intro x member y member' same
  exact List.inj_on_of_nodup_map distinct (mem_sortOn.1 member) (mem_sortOn.1 member') same

end

section
variable {α : Type} [Ord α] [Std.TransOrd α] [Std.LawfulEqOrd α] [DecidableEq α]

theorem dropRepeats_pairwise {xs : List α} (sorted : xs.Pairwise fun x y => (compare x y).isLE) :
    (dropRepeats xs).Pairwise fun x y => compare x y = .lt := by
  fun_induction dropRepeats xs with
  | case1 a rest ih => exact ih (List.pairwise_cons.1 sorted).2
  | case2 a b rest different ih =>
    obtain ⟨above, tail⟩ := List.pairwise_cons.1 sorted
    obtain ⟨next, -⟩ := List.pairwise_cons.1 tail
    have first : compare a b = .lt := by
      have before := above b List.mem_cons_self
      cases order : compare a b with
      | lt => rfl
      | eq => exact absurd (Std.LawfulEqCmp.eq_of_compare order) different
      | gt => simp [order] at before
    refine List.pairwise_cons.2 ⟨fun x member => ?_, ih tail⟩
    rcases List.mem_cons.1 (mem_dropRepeats.1 member) with rfl | later
    · exact first
    · exact Std.TransCmp.lt_of_lt_of_isLE first (next x later)
  | case3 xs short =>
    cases xs with
    | nil => exact .nil
    | cons a rest =>
      cases rest with
      | nil => simp
      | cons b rest => exact absurd rfl (short a b rest)

theorem distinctSorted_pairwise (xs : List α) :
    (distinctSorted xs).Pairwise fun x y => compare x y = .lt :=
  dropRepeats_pairwise (sortOn_pairwise xs)

omit [Std.TransOrd α] [DecidableEq α] in
theorem nodup_of_increasing {xs : List α} (h : xs.Pairwise fun x y => compare x y = .lt) :
    xs.Nodup :=
  h.imp fun {a b} before same => by
    rw [same, Std.LawfulEqOrd.compare_eq_iff_eq.2 rfl] at before
    cases before

/-- Only the elements matter, not their order or how often they occur. -/
theorem distinctSorted_congr {xs ys : List α} (same : ∀ a, a ∈ xs ↔ a ∈ ys) :
    distinctSorted xs = distinctSorted ys := by
  have perm : (distinctSorted xs).Perm (distinctSorted ys) := by
    rw [List.perm_ext_iff_of_nodup (nodup_of_increasing (distinctSorted_pairwise xs))
      (nodup_of_increasing (distinctSorted_pairwise ys))]
    intro a
    rw [mem_distinctSorted, mem_distinctSorted, same]
  refine perm.eq_of_pairwise (fun a b _ _ before after => ?_) (distinctSorted_pairwise xs)
    (distinctSorted_pairwise ys)
  exact absurd after (Std.OrientedCmp.not_lt_of_lt before)

end

/-! ### Lists without repeats -/

/-- Lists without repeats that hold the same of what `f` shows. -/
theorem filterMap_perm {α β : Type} {f : α → Option β} {xs ys : List α} (distinct : xs.Nodup)
    (distinct' : ys.Nodup) (same : ∀ x b, f x = some b → (x ∈ xs ↔ x ∈ ys)) :
    (xs.filterMap f).Perm (ys.filterMap f) := by
  have shown : ∀ l : List α, l.filterMap f = (l.filter fun x => (f x).isSome).filterMap f := by
    intro l
    rw [List.filterMap_filter]
    refine List.filterMap_congr fun x _ => ?_
    cases f x <;> rfl
  rw [shown xs, shown ys]
  refine List.Perm.filterMap f ?_
  rw [List.perm_ext_iff_of_nodup (distinct.filter _) (distinct'.filter _)]
  intro x
  rw [List.mem_filter, List.mem_filter]
  refine and_congr_left fun some => ?_
  obtain ⟨b, found⟩ := Option.isSome_iff_exists.1 some
  exact same x b found

end ScriptRegistrar
