import Mathlib.Data.List.Forall2
import ScriptRegistrar.Proofs.Inheritance.FirstOccurrence

namespace ScriptRegistrar

/-! ### Lists that agree under each key -/

section
variable {α κ : Type} [DecidableEq κ] {key : α → κ} {xs ys : List α}

def SameByKey (key : α → κ) (xs ys : List α) : Prop :=
  ∀ k, xs.filter (key · = k) = ys.filter (key · = k)

namespace SameByKey

theorem refl (xs : List α) : SameByKey key xs xs := fun _ => rfl

theorem symm (h : SameByKey key xs ys) : SameByKey key ys xs := fun k => (h k).symm

theorem filter (h : SameByKey key xs ys) (p : α → Bool) :
    SameByKey key (xs.filter p) (ys.filter p) := by
  intro k
  rw [List.filter_comm, h k, List.filter_comm]

theorem append {xs' ys' : List α} (h : SameByKey key xs ys) (h' : SameByKey key xs' ys') :
    SameByKey key (xs ++ xs') (ys ++ ys') := by
  intro k
  rw [List.filter_append, List.filter_append, h k, h' k]

theorem flatMap {β : Type} {R : β → β → Prop} {f : β → List α} {bs cs : List β}
    (paired : List.Forall₂ R bs cs) (same : ∀ b c, R b c → SameByKey key (f b) (f c)) :
    SameByKey key (bs.flatMap f) (cs.flatMap f) := by
  induction paired with
  | nil => exact refl _
  | cons head _ ih => exact (same _ _ head).append ih

/-- A key that says more keeps the elements of each key in order too. -/
theorem refine {σ : Type} [DecidableEq σ] {finer : α → σ} (part : σ → κ)
    (coarser : ∀ x, key x = part (finer x)) (h : SameByKey key xs ys) : SameByKey finer xs ys := by
  have both : ∀ (zs : List α) k,
      zs.filter (finer · = k) = (zs.filter (key · = part k)).filter (finer · = k) := by
    intro zs k
    rw [List.filter_filter]
    refine List.filter_congr fun x _ => ?_
    by_cases hx : finer x = k
    · simp [hx, coarser]
    · simp [hx]
  intro k
  rw [both xs, both ys, h (part k)]

theorem perm (h : SameByKey key xs ys) : xs.Perm ys := by
  classical
  rw [List.perm_iff_count]
  intro x
  have counted : ∀ zs : List α, zs.count x = (zs.filter (key · = key x)).count x := fun zs =>
    (List.count_filter (by simp)).symm
  rw [counted xs, counted ys, h (key x)]

theorem find? (h : SameByKey key xs ys) (k : κ) :
    xs.find? (key · = k) = ys.find? (key · = k) := by
  rw [← List.head?_filter, ← List.head?_filter, h k]

theorem mem_keys (h : SameByKey key xs ys) (k : κ) : k ∈ xs.map key ↔ k ∈ ys.map key := by
  have shown : ∀ zs : List α, k ∈ zs.map key ↔ (zs.find? (key · = k)).isSome := by
    intro zs
    simp only [List.mem_map, List.find?_isSome, decide_eq_true_eq]
  rw [shown xs, shown ys, h.find? k]

theorem firstMissing {kept kept' walk walk' : List α} (h : SameByKey key kept kept')
    (h' : SameByKey key walk walk') :
    SameByKey key (firstMissing key (kept.map key) walk)
      (firstMissing key (kept'.map key) walk') := by
  intro k
  rw [filter_firstMissing, filter_firstMissing, h'.find? k]
  simp only [h.mem_keys k]

end SameByKey

end

/-! ### Scopes -/

namespace Dict

section
variable {α : Type} {name : α → String}

/-- Every list holds only elements with the name that it is filed under. -/
def Filed (name : α → String) (d : Dict (List α)) : Prop :=
  ∀ e ∈ d.entries, ∀ x ∈ e.2, name x = e.1

def file (name : α → String) (d : Dict (List α)) (x : α) : Dict (List α) :=
  d.upsert (name x) fun xs => xs.getD [] ++ [x]

theorem entry_of_mem_upsertEntries {β : Type} {key : String} {change : Option β → β}
    {entries : List (String × β)} {e : String × β} (h : e ∈ upsertEntries key change entries) :
    e ∈ entries ∨ e = (key, change none) ∨
      ∃ v, (key, v) ∈ entries ∧ e = (key, change (some v)) := by
  induction entries with
  | nil =>
    rw [upsertEntries, List.mem_singleton] at h
    exact .inr (.inl h)
  | cons head rest ih =>
    obtain ⟨k, v⟩ := head
    rw [upsertEntries] at h
    split at h
    · rcases List.mem_cons.1 h with rfl | h
      · exact .inr (.inl rfl)
      · exact .inl h
    · split at h
      · next same =>
        subst same
        rcases List.mem_cons.1 h with rfl | h
        · exact .inr (.inr ⟨v, List.mem_cons_self, rfl⟩)
        · exact .inl (List.mem_cons_of_mem _ h)
      · rcases List.mem_cons.1 h with rfl | h
        · exact .inl List.mem_cons_self
        · rcases ih h with old | fresh | ⟨w, member, changed⟩
          · exact .inl (List.mem_cons_of_mem _ old)
          · exact .inr (.inl fresh)
          · exact .inr (.inr ⟨w, List.mem_cons_of_mem _ member, changed⟩)

theorem Filed.file {d : Dict (List α)} (filed : d.Filed name) (x : α) :
    (d.file name x).Filed name := by
  intro e he y hy
  rcases entry_of_mem_upsertEntries he with old | rfl | ⟨xs, member, rfl⟩
  · exact filed e old y hy
  · rw [show y = x by simpa using hy]
  · rcases List.mem_append.1 hy with old | fresh
    · exact filed _ member y old
    · rw [List.mem_singleton.1 fresh]

theorem Filed.filter_values {d : Dict (List α)} (filed : d.Filed name) (n : String) :
    d.values.flatten.filter (name · = n) = (d.get? n).getD [] := by
  obtain ⟨entries, sorted⟩ := d
  simp only [values, get?]
  induction entries with
  | nil => rfl
  | cons head rest ih =>
    obtain ⟨k, xs⟩ := head
    obtain ⟨above, tail⟩ := List.pairwise_cons.1 sorted
    have later := ih tail fun e he => filed e (List.mem_cons_of_mem _ he)
    have named : ∀ x ∈ xs, name x = k := filed _ List.mem_cons_self
    rw [List.map_cons, List.flatten_cons, List.filter_append, later, List.lookup_cons]
    by_cases same : n = k
    · subst same
      rw [lookup_eq_none_of_lt above, beq_self_eq_true]
      simpa using named
    · have none : xs.filter (name · = n) = [] := by
        rw [List.filter_eq_nil_iff]
        intro x hx
        simpa [named x hx] using Ne.symm same
      rw [none, beq_false_of_ne same]
      rfl

theorem foldl_file (xs : List α) {d : Dict (List α)} (filed : d.Filed name) (n : String) :
    (xs.foldl (file name) d).values.flatten.filter (name · = n) =
      d.values.flatten.filter (name · = n) ++ xs.filter (name · = n) := by
  induction xs generalizing d with
  | nil => simp
  | cons x xs ih =>
    rw [List.foldl_cons, ih (filed.file x), (filed.file x).filter_values, filed.filter_values,
      Dict.file, get?_upsert, List.filter_cons]
    by_cases same : n = name x
    · subst same
      simp
    · simp [same, Ne.symm same]

end

end Dict

/-- Building a scope files the members of one kind without regard to the others. -/
theorem MemberScope.foldl_add {α : Type} {name : α → String} {field : MemberScope → Dict (List α)}
    {pick : MemberDecl → Option α}
    (added : ∀ scope member, field (scope.add member) =
      (pick member).elim (field scope) ((field scope).file name))
    (declarations : List MemberDecl) (scope : MemberScope) :
    field (declarations.foldl add scope) =
      (declarations.filterMap pick).foldl (Dict.file name) (field scope) := by
  induction declarations generalizing scope with
  | nil => rfl
  | cons member rest ih =>
    rw [List.foldl_cons, ih, added, List.filterMap_cons]
    cases pick member <;> rfl

/-! ### Members -/

namespace Members

/-- The same members as a list or as the scope that is built from the list. -/
inductive Rerepresents : Members → Members → Prop
  | same (m : Members) : Rerepresents m m
  | filed (declarations : List MemberDecl) :
    Rerepresents (.listed declarations) (.scoped (.ofList declarations))
  | listed (declarations : List MemberDecl) :
    Rerepresents (.scoped (.ofList declarations)) (.listed declarations)

theorem functions_ofList (declarations : List MemberDecl) :
    SameByKey FunctionDecl.name (functions (.scoped (.ofList declarations)))
      (functions (.listed declarations)) := by
  intro n
  have built : (MemberScope.ofList declarations).functions =
      (declarations.filterMap MemberDecl.function?).foldl (Dict.file FunctionDecl.name) ∅ :=
    MemberScope.foldl_add (fun _ member => by cases member <;> rfl) declarations {}
  rw [functions, functions, built]
  exact Dict.foldl_file _ (fun _ he => by cases he) n

theorem properties_ofList (declarations : List MemberDecl) :
    SameByKey PropertyDecl.name (properties (.scoped (.ofList declarations)))
      (properties (.listed declarations)) := by
  intro n
  have built : (MemberScope.ofList declarations).properties =
      (declarations.filterMap MemberDecl.property?).foldl (Dict.file PropertyDecl.name) ∅ :=
    MemberScope.foldl_add (fun _ member => by cases member <;> rfl) declarations {}
  rw [properties, properties, built]
  exact Dict.foldl_file _ (fun _ he => by cases he) n

theorem Rerepresents.functions {m m' : Members} (h : m.Rerepresents m') :
    SameByKey FunctionDecl.signature m.functions m'.functions := by
  refine SameByKey.refine FunctionDecl.Signature.name (fun _ => rfl) ?_
  cases h with
  | same => exact .refl _
  | filed declarations => exact (functions_ofList declarations).symm
  | listed declarations => exact functions_ofList declarations

theorem Rerepresents.properties {m m' : Members} (h : m.Rerepresents m') :
    SameByKey PropertyDecl.signature m.properties m'.properties := by
  refine SameByKey.refine PropertyDecl.Signature.name (fun _ => rfl) ?_
  cases h with
  | same => exact .refl _
  | filed declarations => exact (properties_ofList declarations).symm
  | listed declarations => exact properties_ofList declarations

end Members

end ScriptRegistrar
