import Mathlib.Data.List.Forall2
import ScriptRegistrar.Inheritance

/-!
# First occurrences

`addMissing_eq` shows that `addMissing` puts first occurrences after the elements that it keeps, and
`firstMissing_supplies` says what they are without going through the list.
-/

namespace ScriptRegistrar

section
variable {α κ : Type} [DecidableEq κ] {key : α → κ}

/-- The first element of each key that is not met yet, in order. -/
def firstMissing (key : α → κ) : List κ → List α → List α
  | _, [] => []
  | met, x :: walk =>
    if key x ∈ met then firstMissing key met walk
    else x :: firstMissing key (key x :: met) walk

/-- Which keys were met matters, not in which order or how often. -/
theorem firstMissing_congr {met met' : List κ} (same : ∀ k, k ∈ met ↔ k ∈ met') (walk : List α) :
    firstMissing key met walk = firstMissing key met' walk := by
  induction walk generalizing met met' with
  | nil => rfl
  | cons x walk ih =>
    have extended : ∀ k, k ∈ key x :: met ↔ k ∈ key x :: met' := by
      intro k
      simp only [List.mem_cons, same]
    rw [firstMissing, firstMissing, ih same, ih extended]
    simp only [same]

theorem mem_firstMissing {met : List κ} {walk : List α} {x : α}
    (h : x ∈ firstMissing key met walk) : x ∈ walk ∧ key x ∉ met := by
  induction walk generalizing met with
  | nil => simp [firstMissing] at h
  | cons y walk ih =>
    rw [firstMissing] at h
    split at h
    · obtain ⟨member, fresh⟩ := ih h
      exact ⟨List.mem_cons_of_mem _ member, fresh⟩
    · next fresh =>
      rcases List.mem_cons.1 h with rfl | h
      · exact ⟨List.mem_cons_self, fresh⟩
      · obtain ⟨member, later⟩ := ih h
        exact ⟨List.mem_cons_of_mem _ member, fun met => later (List.mem_cons_of_mem _ met)⟩

theorem filter_firstMissing (met : List κ) (walk : List α) (k : κ) :
    (firstMissing key met walk).filter (key · = k) =
      if k ∈ met then [] else (walk.find? (key · = k)).toList := by
  induction walk generalizing met with
  | nil => simp [firstMissing]
  | cons x walk ih =>
    rw [firstMissing]
    by_cases hx : key x ∈ met
    · rw [if_pos hx, ih]
      by_cases hk : k ∈ met
      · rw [if_pos hk, if_pos hk]
      · have ne : key x ≠ k := fun same => hk (same ▸ hx)
        rw [if_neg hk, if_neg hk, List.find?_cons_of_neg (by simpa using ne)]
    · rw [if_neg hx, List.filter_cons, ih]
      by_cases same : key x = k
      · subst same
        simp [hx]
      · rw [List.find?_cons_of_neg (by simpa using same)]
        simp [same, Ne.symm same]

theorem firstMissing_append (met : List κ) (xs walk : List α) :
    firstMissing key met (xs ++ walk) =
      firstMissing key met xs ++ firstMissing key (xs.map key ++ met) walk := by
  induction xs generalizing met with
  | nil => rfl
  | cons x xs ih =>
    rw [List.cons_append, firstMissing, firstMissing]
    by_cases hx : key x ∈ met
    · have known : ∀ k, k ∈ xs.map key ++ met ↔ k ∈ (x :: xs).map key ++ met := by
        intro k
        simp only [List.map_cons, List.cons_append, List.mem_cons, List.mem_append]
        constructor
        · exact .inr
        · rintro (rfl | h)
          · exact .inr hx
          · exact h
      rw [if_pos hx, if_pos hx, ih, firstMissing_congr known]
    · have moved : ∀ k, k ∈ xs.map key ++ key x :: met ↔ k ∈ (x :: xs).map key ++ met := by
        intro k
        simp only [List.map_cons, List.cons_append, List.mem_cons, List.mem_append]
        exact or_left_comm
      rw [if_neg hx, if_neg hx, ih, firstMissing_congr moved, List.cons_append]

/-- A walk may leave out what it meets again, as long as the second look knows no less. -/
theorem firstMissing_firstMissing {met met' : List κ} (more : met' ⊆ met) (walk : List α) :
    firstMissing key met (firstMissing key met' walk) = firstMissing key met walk := by
  induction walk generalizing met met' with
  | nil => rfl
  | cons x walk ih =>
    rw [firstMissing, firstMissing]
    by_cases hx' : key x ∈ met'
    · have hx : key x ∈ met := more hx'
      rw [if_pos hx', if_pos hx, ih more]
    · rw [if_neg hx', firstMissing]
      by_cases hx : key x ∈ met
      · have both : key x :: met' ⊆ met := List.cons_subset.2 ⟨hx, more⟩
        rw [if_pos hx, if_pos hx, ih both]
      · rw [if_neg hx, if_neg hx, ih (List.cons_subset_cons _ more)]

/-- It makes no difference whether the first occurrences of a walk are taken at once or first below
some elements in front of it. -/
theorem firstMissing_through (met : List κ) (xs walk : List α) :
    firstMissing key met (xs ++ firstMissing key (xs.map key) walk) =
      firstMissing key met (xs ++ walk) := by
  have more : xs.map key ⊆ xs.map key ++ met := List.subset_append_left _ _
  rw [firstMissing_append, firstMissing_append, firstMissing_firstMissing more]

theorem addMissing_eq (kept walk : List α) :
    addMissing key kept walk = kept ++ firstMissing key (kept.map key) walk := by
  induction walk generalizing kept with
  | nil => simp [addMissing, firstMissing]
  | cons x walk ih =>
    have unfolded : addMissing key kept (x :: walk) =
        addMissing key (if kept.any (key · = key x) then kept else kept ++ [x]) walk := rfl
    rw [unfolded, firstMissing]
    by_cases hx : key x ∈ kept.map key
    · have present : kept.any (key · = key x) = true := by simpa using hx
      rw [if_pos hx, if_pos present, ih]
    · have absent : ¬ kept.any (key · = key x) = true := by simpa using hx
      have met : ∀ k, k ∈ (kept ++ [x]).map key ↔ k ∈ key x :: kept.map key := by
        intro k
        rw [List.map_append, List.mem_append, List.map_singleton, List.mem_singleton, or_comm,
          ← List.mem_cons]
      rw [if_neg hx, if_neg absent, ih, firstMissing_congr met, List.append_assoc]
      rfl

theorem firstMissing_of_known {met : List κ} {walk : List α} (known : walk.map key ⊆ met) :
    firstMissing key met walk = [] := by
  refine List.eq_nil_iff_forall_not_mem.2 fun x member => ?_
  obtain ⟨walked, fresh⟩ := mem_firstMissing member
  exact fresh (known (List.mem_map_of_mem walked))

/-! ### What the list holds -/

/-- `added` brings what `walk` has and `kept` lacks: for each such key one element, in the order
in which the keys occur first, and each stands for the first element of its key. -/
structure Supplies (key : α → κ) (kept walk added : List α) (standsFor : α → α → Prop) : Prop where
  keys : ∀ k, k ∈ added.map key ↔ k ∈ walk.map key ∧ k ∉ kept.map key
  order : (added.map key).Pairwise fun a b => (walk.map key).idxOf a < (walk.map key).idxOf b
  choice : ∀ x ∈ added, ∃ first, walk.find? (key · = key x) = some first ∧ standsFor x first

theorem Supplies.mem_cases {kept walk added : List α} {standsFor : α → α → Prop} {x : α}
    (h : Supplies key kept walk added standsFor) (member : x ∈ kept ++ added) :
    x ∈ kept ∨ ∃ first ∈ walk, standsFor x first := by
  refine (List.mem_append.1 member).imp_right fun new => ?_
  obtain ⟨first, found, stands⟩ := h.choice x new
  exact ⟨first, List.mem_of_find?_eq_some found, stands⟩

theorem mem_keys_firstMissing {met : List κ} {walk : List α} {k : κ} :
    k ∈ (firstMissing key met walk).map key ↔ k ∈ walk.map key ∧ k ∉ met := by
  constructor
  · intro h
    obtain ⟨x, member, rfl⟩ := List.mem_map.1 h
    obtain ⟨walked, fresh⟩ := mem_firstMissing member
    exact ⟨List.mem_map_of_mem walked, fresh⟩
  · rintro ⟨walked, fresh⟩
    obtain ⟨x, member, rfl⟩ := List.mem_map.1 walked
    obtain ⟨first, found⟩ : ∃ first, walk.find? (key · = key x) = some first := by
      rw [← Option.isSome_iff_exists, List.find?_isSome]
      exact ⟨x, member, by simp⟩
    have listed : first ∈ (firstMissing key met walk).filter (key · = key x) := by
      rw [filter_firstMissing, if_neg fresh, found]
      exact List.mem_singleton_self first
    obtain ⟨listed, same⟩ := List.mem_filter.1 listed
    exact List.mem_map.2 ⟨first, listed, by simpa using same⟩

/-- Nothing is missing once something stands for each first occurrence. -/
theorem firstMissing_completed {kept walk added : List α}
    (keys : added.map key = (firstMissing key (kept.map key) walk).map key) :
    firstMissing key ((kept ++ added).map key) walk = [] := by
  refine firstMissing_of_known fun k walked => ?_
  rw [List.map_append, keys, List.mem_append, mem_keys_firstMissing]
  by_cases old : k ∈ kept.map key
  · exact .inl old
  · exact .inr ⟨walked, old⟩

/-- A key is listed before those that first occur after it. -/
theorem firstMissing_order (met : List κ) (walk : List α) :
    ((firstMissing key met walk).map key).Pairwise fun a b =>
      (walk.map key).idxOf a < (walk.map key).idxOf b := by
  induction walk generalizing met with
  | nil => simp [firstMissing]
  | cons x walk ih =>
    -- Every key that is listed later differs from the head's, so its place moves by one.
    have shift : ∀ met', key x ∈ met' →
        ((firstMissing key met' walk).map key).Pairwise fun a b =>
          ((x :: walk).map key).idxOf a < ((x :: walk).map key).idxOf b := by
      intro met' headMet
      refine (ih met').imp_of_mem fun {a b} ha hb lt => ?_
      have differs : ∀ k ∈ (firstMissing key met' walk).map key, key x ≠ k := by
        rintro k hk rfl
        exact (mem_keys_firstMissing.1 hk).2 headMet
      rw [List.map_cons, List.idxOf_cons_ne _ (differs a ha), List.idxOf_cons_ne _ (differs b hb)]
      exact Nat.succ_lt_succ lt
    rw [firstMissing]
    split
    · next headMet => exact shift met headMet
    · refine List.pairwise_cons.2 ⟨fun k hk => ?_, shift _ List.mem_cons_self⟩
      have ne : key x ≠ k := by
        rintro rfl
        exact (mem_keys_firstMissing.1 hk).2 List.mem_cons_self
      rw [List.map_cons, List.idxOf_cons_self, List.idxOf_cons_ne _ ne]
      exact Nat.succ_pos _

theorem find?_of_mem_firstMissing {met : List κ} {walk : List α} {x : α}
    (h : x ∈ firstMissing key met walk) : walk.find? (key · = key x) = some x := by
  have listed : x ∈ (firstMissing key met walk).filter (key · = key x) :=
    List.mem_filter.2 ⟨h, by simp⟩
  rw [filter_firstMissing, if_neg (mem_firstMissing h).2] at listed
  simpa using listed

theorem exists_left_of_mem_right {β : Type} {R : α → β → Prop} {xs : List α} {ys : List β}
    (paired : List.Forall₂ R xs ys) {y : β} (h : y ∈ ys) : ∃ x ∈ xs, R x y := by
  induction paired with
  | nil => simp at h
  | cons head _ ih =>
    rcases List.mem_cons.1 h with rfl | h
    · exact ⟨_, List.mem_cons_self, head⟩
    · obtain ⟨x, member, pair⟩ := ih h
      exact ⟨x, List.mem_cons_of_mem _ member, pair⟩

omit [DecidableEq κ] in
theorem map_key_of_paired {firsts added : List α}
    (paired : List.Forall₂ (fun first x => key x = key first) firsts added) :
    added.map key = firsts.map key := by
  induction paired with
  | nil => rfl
  | cons head _ ih => rw [List.map_cons, List.map_cons, head, ih]

/-- What stands for the first occurrences may be something else of the same key. -/
theorem firstMissing_supplies {standsFor : α → α → Prop} {kept walk added : List α}
    (paired : List.Forall₂ (fun first x => key x = key first ∧ standsFor x first)
      (firstMissing key (kept.map key) walk) added) :
    Supplies key kept walk added standsFor := by
  have keys := map_key_of_paired (paired.imp fun _ _ pair => pair.1)
  constructor
  case keys =>
    intro k
    rw [keys, mem_keys_firstMissing]
  case order =>
    rw [keys]
    exact firstMissing_order _ _
  case choice =>
    intro x hx
    obtain ⟨first, member, same, stands⟩ := exists_left_of_mem_right paired hx
    exact ⟨first, by rw [same]; exact find?_of_mem_firstMissing member, stands⟩

end

end ScriptRegistrar
