namespace ScriptRegistrar

/-- Puts an element before the first one that does not come before it. -/
def insertOn [Ord β] (key : α → β) (a : α) : List α → List α
  | [] => [a]
  | b :: rest => if (compare (key a) (key b)).isLE then a :: b :: rest else b :: insertOn key a rest

theorem insertOn_perm [Ord β] (key : α → β) (a : α) (xs : List α) :
    (insertOn key a xs).Perm (a :: xs) := by
  induction xs with
  | nil => exact .rfl
  | cons b rest ih =>
    rw [insertOn]
    split
    · exact .rfl
    · exact (ih.cons b).trans (.swap a b rest)

def sortOn [Ord β] (key : α → β) (xs : List α) : List α := xs.foldr (insertOn key) []

theorem sortOn_perm [Ord β] (key : α → β) (xs : List α) : (sortOn key xs).Perm xs := by
  induction xs with
  | nil => exact .rfl
  | cons a xs ih => exact (insertOn_perm key a _).trans (ih.cons a)

theorem mem_sortOn [Ord β] {key : α → β} {xs : List α} {a : α} : a ∈ sortOn key xs ↔ a ∈ xs :=
  (sortOn_perm key xs).mem_iff

def dropRepeats [DecidableEq α] : List α → List α
  | a :: b :: rest => if a = b then dropRepeats (b :: rest) else a :: dropRepeats (b :: rest)
  | xs => xs

theorem mem_dropRepeats [DecidableEq α] {xs : List α} {x : α} : x ∈ dropRepeats xs ↔ x ∈ xs := by
  fun_induction dropRepeats xs with
  | case1 a rest ih => simp [ih]
  | case2 a b rest ne ih => simp [ih]
  | case3 xs => rfl

/-- The distinct elements, in order. -/
def distinctSorted [Ord α] [DecidableEq α] (xs : List α) : List α := dropRepeats (sortOn id xs)

theorem mem_distinctSorted [Ord α] [DecidableEq α] {xs : List α} {x : α} :
    x ∈ distinctSorted xs ↔ x ∈ xs := by
  simp [distinctSorted, mem_dropRepeats, mem_sortOn]

/-! ### Dictionaries -/

/-- Entries are sorted, so two dictionaries with the same contents are equal. -/
structure Dict (α : Type u) where
  entries : List (String × α)
  sorted : entries.Pairwise fun a b => a.1 < b.1

namespace Dict

theorem ext {a b : Dict α} (h : a.entries = b.entries) : a = b := by
  cases a; cases b; cases h; rfl

instance [BEq α] : BEq (Dict α) := ⟨fun a b => a.entries == b.entries⟩

instance [DecidableEq α] : DecidableEq (Dict α) := fun a b =>
  if h : a.entries = b.entries then isTrue (ext h) else isFalse fun e => h (e ▸ rfl)

def empty : Dict α := ⟨[], .nil⟩

instance : EmptyCollection (Dict α) := ⟨empty⟩

instance : Inhabited (Dict α) := ⟨empty⟩

def get? (d : Dict α) (key : String) : Option α := d.entries.lookup key

def values (d : Dict α) : List α := d.entries.map (·.2)

/-- Puts `change` of the value under `key` back under `key`. -/
def upsertEntries (key : String) (change : Option α → α) :
    List (String × α) → List (String × α)
  | [] => [(key, change none)]
  | (k, v) :: rest =>
    if key < k then (key, change none) :: (k, v) :: rest
    else if key = k then (k, change (some v)) :: rest
    else (k, v) :: upsertEntries key change rest

theorem mem_upsertEntries {key : String} {change : Option α → α} {entries : List (String × α)}
    {e : String × α} (h : e ∈ upsertEntries key change entries) : e.1 = key ∨ e ∈ entries := by
  induction entries with
  | nil => simp [upsertEntries] at h; simp [h]
  | cons head rest ih =>
    obtain ⟨k, v⟩ := head
    rw [upsertEntries] at h
    split at h
    · rcases List.mem_cons.1 h with rfl | h
      · exact .inl rfl
      · exact .inr h
    · split at h
      · next hk =>
        rcases List.mem_cons.1 h with rfl | h
        · exact .inl hk.symm
        · exact .inr (List.mem_cons_of_mem _ h)
      · rcases List.mem_cons.1 h with rfl | h
        · exact .inr (by simp)
        · exact (ih h).imp id (List.mem_cons_of_mem _)

theorem lt_of_not_lt_of_ne {a b : String} (h : ¬ a < b) (ne : a ≠ b) : b < a := by
  by_cases lt : b < a
  · exact lt
  · exact absurd (String.le_antisymm (String.not_lt.1 lt) (String.not_lt.1 h)) ne

theorem upsertEntries_sorted {key : String} {change : Option α → α}
    {entries : List (String × α)} (h : entries.Pairwise fun a b => a.1 < b.1) :
    (upsertEntries key change entries).Pairwise fun a b => a.1 < b.1 := by
  induction entries with
  | nil => simp [upsertEntries]
  | cons head rest ih =>
    obtain ⟨k, v⟩ := head
    obtain ⟨above, tail⟩ := List.pairwise_cons.1 h
    rw [upsertEntries]
    split
    · next lt =>
      refine List.pairwise_cons.2 ⟨fun e he => ?_, h⟩
      rcases List.mem_cons.1 he with rfl | he
      · exact lt
      · exact String.lt_trans lt (above e he)
    · split
      · exact List.pairwise_cons.2 ⟨above, tail⟩
      · next notLt ne =>
        refine List.pairwise_cons.2 ⟨fun e he => ?_, ih tail⟩
        rcases mem_upsertEntries he with eq | he
        · exact eq ▸ lt_of_not_lt_of_ne notLt ne
        · exact above e he

def upsert (d : Dict α) (key : String) (change : Option α → α) : Dict α :=
  ⟨upsertEntries key change d.entries, upsertEntries_sorted d.sorted⟩

theorem lookup_eq_none_of_lt {key : String} {entries : List (String × α)}
    (h : ∀ e ∈ entries, key < e.1) : entries.lookup key = none := by
  rw [List.lookup_eq_none_iff]
  intro e he
  simp only [bne_iff_ne, ne_eq]
  rintro rfl
  exact String.lt_irrefl _ (h e he)

theorem get?_upsert (d : Dict α) (key other : String) (change : Option α → α) :
    (d.upsert key change).get? other =
      if other = key then some (change (d.get? key)) else d.get? other := by
  obtain ⟨entries, sorted⟩ := d
  simp only [get?, upsert]
  induction entries with
  | nil =>
    by_cases h : other = key
    · simp [upsertEntries, h]
    · simp [upsertEntries, List.lookup_cons, h, beq_false_of_ne h]
  | cons head rest ih =>
    obtain ⟨k, v⟩ := head
    obtain ⟨above, tail⟩ := List.pairwise_cons.1 sorted
    rw [upsertEntries]
    split
    · next lt =>
      have absent : ((k, v) :: rest).lookup key = none := lookup_eq_none_of_lt fun e he => by
        rcases List.mem_cons.1 he with rfl | he
        · exact lt
        · exact String.lt_trans lt (above e he)
      by_cases h : other = key
      · simp [h, absent]
      · rw [List.lookup_cons]
        simp [h, beq_false_of_ne h]
    · split
      · next h =>
        subst h
        by_cases h : other = key
        · simp [h]
        · simp [List.lookup_cons, h, beq_false_of_ne h]
      · next ne =>
        have := ih tail
        by_cases hk : other = k
        · subst hk
          simp [Ne.symm ne]
        · by_cases h : other = key
          · subst h
            simpa [List.lookup_cons, beq_false_of_ne hk] using this
          · simpa [List.lookup_cons, beq_false_of_ne hk, h] using this

def insert (d : Dict α) (key : String) (value : α) : Dict α := d.upsert key fun _ => value

/-- A later entry replaces an earlier one with the same key. -/
def ofList (entries : List (String × α)) : Dict α :=
  entries.foldl (fun d e => d.insert e.1 e.2) empty

theorem upsertEntries_of_above {key : String} {change : Option α → α}
    {entries : List (String × α)} (h : ∀ e ∈ entries, e.1 < key) :
    upsertEntries key change entries = entries ++ [(key, change none)] := by
  induction entries with
  | nil => rfl
  | cons head rest ih =>
    have lt := h head (by simp)
    have notLt : ¬ key < head.1 := fun gt => String.lt_irrefl _ (String.lt_trans lt gt)
    have ne : key ≠ head.1 := fun eq => String.lt_irrefl _ (eq ▸ lt)
    simp [upsertEntries, notLt, ne, ih fun e he => h e (List.mem_cons_of_mem _ he)]

theorem foldl_insert_entries (acc : Dict α) {entries : List (String × α)}
    (h : (acc.entries ++ entries).Pairwise fun a b => a.1 < b.1) :
    (entries.foldl (fun d e => d.insert e.1 e.2) acc).entries = acc.entries ++ entries := by
  induction entries generalizing acc with
  | nil => simp
  | cons e rest ih =>
    have eq : (acc.insert e.1 e.2).entries = acc.entries ++ [e] :=
      upsertEntries_of_above fun x hx => (List.pairwise_append.1 h).2.2 x hx e (by simp)
    rw [List.foldl_cons, ih _ (by rw [eq]; simpa using h), eq]
    simp

theorem ofList_entries (d : Dict α) : ofList d.entries = d :=
  ext (foldl_insert_entries empty d.sorted)

end Dict

end ScriptRegistrar
