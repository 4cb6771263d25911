import ScriptRegistrar.Declaration.Encode

namespace ScriptRegistrar

namespace Json

-- The limit has a thousand bits, and nothing here depends on which.
attribute [local irreducible] Number.doubleLimit

/-! ### Values that reach their readers -/

mutual
/-- Whether nothing in the value is marked as unreadable, or would be. -/
def isReadable : Json → Bool
  | .int value => value.natAbs < Number.doubleLimit
  | .decimal value => Number.inDoubleRange value.digits value.exponent
  | .arr items => areReadable items
  | .obj fields => fieldsAreReadable fields
  | .unreadable => false
  | _ => true
def areReadable : List Json → Bool
  | [] => true
  | item :: items => isReadable item && areReadable items
def fieldsAreReadable : List (String × Json) → Bool
  | [] => true
  | (_, value) :: fields => isReadable value && fieldsAreReadable fields
end

theorem areReadable_iff {items : List Json} :
    areReadable items = true ↔ ∀ item ∈ items, item.isReadable = true := by
  induction items with
  | nil => simp [areReadable]
  | cons item items ih => simp [areReadable, ih]

theorem fieldsAreReadable_iff {fields : List (String × Json)} :
    fieldsAreReadable fields = true ↔ ∀ field ∈ fields, field.2.isReadable = true := by
  induction fields with
  | nil => simp [fieldsAreReadable]
  | cons field fields ih =>
    obtain ⟨name, value⟩ := field
    simp [fieldsAreReadable, ih]

mutual
theorem isWhole_of_readable : ∀ {j : Json}, j.isReadable = true → j.isWhole = true
  | .null, _ | .bool _, _ | .int _, _ | .decimal _, _ | .str _, _ => by simp only [isWhole]
  | .arr items, h => by
    rw [isReadable] at h
    rw [isWhole, areWhole_of_readable h]
  | .obj fields, h => by
    rw [isReadable] at h
    rw [isWhole, fieldsAreWhole_of_readable h]
theorem areWhole_of_readable : ∀ {items : List Json}, areReadable items = true →
    areWhole items = true
  | [], _ => rfl
  | item :: items, h => by
    rw [areReadable, Bool.and_eq_true] at h
    rw [areWhole, isWhole_of_readable h.1, areWhole_of_readable h.2, Bool.and_self]
theorem fieldsAreWhole_of_readable : ∀ {fields : List (String × Json)},
    fieldsAreReadable fields = true → fieldsAreWhole fields = true
  | [], _ => rfl
  | (_, value) :: fields, h => by
    rw [fieldsAreReadable, Bool.and_eq_true] at h
    rw [fieldsAreWhole, isWhole_of_readable h.1, fieldsAreWhole_of_readable h.2, Bool.and_self]
end

theorem depthItems_le_iff {items : List Json} {levels : Nat} :
    depthItems items ≤ levels ↔ ∀ item ∈ items, item.depth ≤ levels := by
  induction items with
  | nil => simp [depthItems]
  | cons item items ih => rw [depthItems, Nat.max_le, ih, List.forall_mem_cons]

theorem depthFields_le_iff {fields : List (String × Json)} {levels : Nat} :
    depthFields fields ≤ levels ↔ ∀ field ∈ fields, field.2.depth ≤ levels := by
  induction fields with
  | nil => simp [depthFields]
  | cons field fields ih =>
    obtain ⟨name, value⟩ := field
    rw [depthFields, Nat.max_le, ih, List.forall_mem_cons]

theorem within_int (levels : Nat) (value : Int) : within levels (.int value) =
    if value.natAbs < Number.doubleLimit then .int value else .unreadable := by
  cases levels <;> rfl

theorem within_decimal (levels : Nat) (value : SignedDecimal) : within levels (.decimal value) =
    if Number.inDoubleRange value.digits value.exponent then .decimal value else .unreadable := by
  cases levels <;> rfl

theorem within_arr (levels : Nat) (items : List Json) :
    within (levels + 1) (.arr items) = .arr (items.map (within levels)) := rfl

theorem within_obj (levels : Nat) (fields : List (String × Json)) :
    within (levels + 1) (.obj fields) =
      .obj (fields.map fun field => (field.1, within levels field.2)) := rfl

theorem within_of_readable {levels : Nat} {j : Json} (readable : j.isReadable = true)
    (shallow : j.depth ≤ levels) : j.within levels = j := by
  induction levels generalizing j with
  | zero =>
    cases j with
    | arr items =>
      rw [depth] at shallow
      omega
    | obj fields =>
      rw [depth] at shallow
      omega
    | int value =>
      rw [isReadable, decide_eq_true_eq] at readable
      rw [within_int, if_pos readable]
    | decimal value =>
      rw [isReadable] at readable
      rw [within_decimal, if_pos readable]
    | null | bool | str | unreadable => rfl
  | succ levels ih =>
    cases j with
    | arr items =>
      rw [isReadable, areReadable_iff] at readable
      rw [depth, Nat.add_le_add_iff_right, depthItems_le_iff] at shallow
      have kept : ∀ item ∈ items, within levels item = item := fun item member =>
        ih (readable item member) (shallow item member)
      rw [within_arr, List.map_congr_left kept, List.map_id']
    | obj fields =>
      rw [isReadable, fieldsAreReadable_iff] at readable
      rw [depth, Nat.add_le_add_iff_right, depthFields_le_iff] at shallow
      have kept : ∀ field ∈ fields, (field.1, within levels field.2) = field := by
        intro field member
        rw [ih (readable field member) (shallow field member)]
      rw [within_obj, List.map_congr_left kept, List.map_id']
    | int value =>
      rw [isReadable, decide_eq_true_eq] at readable
      rw [within_int, if_pos readable]
    | decimal value =>
      rw [isReadable] at readable
      rw [within_decimal, if_pos readable]
    | null | bool | str | unreadable => rfl

theorem isReadable_int64 (value : Int64) : isReadable (.int value.toInt) = true := by
  have lower := value.le_toInt
  have upper := value.toInt_lt
  have limit : 2 ^ 63 < Number.doubleLimit := by decide +kernel
  rw [isReadable, decide_eq_true_eq]
  omega

/-! ### Fields, lists and optional values -/

@[simp]
theorem field?_nil (name : String) : (obj []).field? name = none := rfl

@[simp]
theorem field?_cons (key : String) (value : Json) (fields : List (String × Json)) (name : String) :
    (obj ((key, value) :: fields)).field? name =
      if name = key then some value else (obj fields).field? name := by
  by_cases same : name = key
  · simp [field?, same]
  · simp [field?, List.lookup_cons, same, beq_false_of_ne same]

theorem mapM_map {α β : Type} {read : β → Option α} {encode : α → β} {xs : List α}
    (back : ∀ x ∈ xs, read (encode x) = some x) : (xs.map encode).mapM read = some xs := by
  induction xs with
  | nil => rfl
  | cons x xs ih =>
    have first := back x List.mem_cons_self
    have rest := ih fun x member => back x (List.mem_cons_of_mem _ member)
    rw [List.map_cons, List.mapM_cons, first, rest]
    rfl

section
variable {α : Type} {read : Json → Option α} {encode : α → Json}

theorem list?_map {xs : List α} (back : ∀ x ∈ xs, read (encode x) = some x) :
    list? read (.arr (xs.map encode)) = some xs :=
  mapM_map back

theorem nullable?_ofOption {value : Option α} (given : ∀ a, encode a ≠ .null)
    (back : ∀ a ∈ value, read (encode a) = some a) :
    nullable? read (ofOption encode value) = some value := by
  cases value with
  | none => rfl
  | some a =>
    rw [ofOption, nullable?, back a rfl]
    · rfl
    · exact given a

end

end Json

end ScriptRegistrar
