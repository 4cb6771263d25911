import ScriptRegistrar.Proofs.Sorting
import ScriptRegistrar.Registration.Registrar

namespace ScriptRegistrar

/-- Two records of different classes under one name. -/
def NameRecord.Clashes (r other : NameRecord) : Prop :=
  other.className ≠ r.className ∧ other.registeredName = r.registeredName

namespace NameLedger

/-- The groups report what clashes among some records: nothing else, each once, and whatever has
one name in one group. -/
structure Reports (named : NameRecord → Prop) (groups : List (List NameRecord)) : Prop where
  members : ∀ r, r ∈ groups.flatten ↔ named r ∧ ∃ other, named other ∧ r.Clashes other
  whole : ∀ group ∈ groups, ∃ name, ∀ r, r ∈ group ↔ named r ∧ r.registeredName = name
  once : groups.flatten.Nodup

variable {ledger : NameLedger} {name : String} {r : NameRecord}

theorem mem_group : r ∈ ledger.group name ↔ r ∈ ledger.records ∧ r.registeredName = name := by
  simp [group, mem_sortOn]

theorem mem_names : name ∈ ledger.names ↔ ∃ r ∈ ledger.records, r.registeredName = name := by
  simp [names, mem_distinctSorted]

theorem mem_clashes {group : List NameRecord} :
    group ∈ ledger.clashes ↔
      (∃ name ∈ ledger.names, ledger.group name = group) ∧ 1 < group.length := by
  simp [clashes]

/-- Two elements of a list that holds no more than one are the same. -/
theorem eq_of_short {α : Type} {xs : List α} {x y : α} (short : ¬ 1 < xs.length) (hx : x ∈ xs)
    (hy : y ∈ xs) : x = y := by
  cases xs with
  | nil => cases hx
  | cons a rest =>
    cases rest with
    | nil => rw [List.mem_singleton.1 hx, List.mem_singleton.1 hy]
    | cons b rest => simp at short

theorem exists_other {α : Type} {xs : List α} {x : α} (distinct : xs.Nodup)
    (long : 1 < xs.length) : ∃ y ∈ xs, y ≠ x := by
  cases xs with
  | nil => simp at long
  | cons a rest =>
    cases rest with
    | nil => simp at long
    | cons b rest =>
      by_cases same : a = x
      · refine ⟨b, by simp, fun same' => ?_⟩
        simp [same, same'] at distinct
      · exact ⟨a, by simp, same⟩

theorem clashing_mem_clashes {other : NameRecord} (hr : r ∈ ledger.records)
    (hother : other ∈ ledger.records) (ne : other ≠ r)
    (same : other.registeredName = r.registeredName) :
    ledger.group r.registeredName ∈ ledger.clashes := by
  refine mem_clashes.2 ⟨⟨_, mem_names.2 ⟨r, hr, rfl⟩, rfl⟩, ?_⟩
  by_contra short
  exact ne (eq_of_short short (mem_group.2 ⟨hother, same⟩) (mem_group.2 ⟨hr, rfl⟩))

theorem eq_of_validate {other : NameRecord} (accepted : ledger.validate = .ok ())
    (hr : r ∈ ledger.records) (hother : other ∈ ledger.records)
    (same : other.registeredName = r.registeredName) : other = r := by
  unfold validate at accepted
  split at accepted
  · next none =>
    by_contra ne
    have listed := clashing_mem_clashes hr hother ne same
    rw [List.isEmpty_iff.1 none] at listed
    cases listed
  · cases accepted

theorem validate_of_clash {other : NameRecord} (hr : r ∈ ledger.records)
    (hother : other ∈ ledger.records) (clash : r.Clashes other) :
    ledger.validate = .error (.duplicateNames ledger.clashes) := by
  have ne : other ≠ r := fun same => clash.1 (congrArg _ same)
  have listed := clashing_mem_clashes hr hother ne clash.2
  unfold validate
  rw [if_neg]
  intro none
  rw [List.isEmpty_iff.1 none] at listed
  cases listed

/-! ### What the groups hold -/

theorem group_nodup (distinct : ledger.records.Nodup) (name : String) :
    (ledger.group name).Nodup :=
  (sortOn_perm _ _).nodup_iff.2 (distinct.filter _)

theorem mem_flatten_clashes (distinct : (ledger.records.map NameRecord.className).Nodup) :
    r ∈ ledger.clashes.flatten ↔
      r ∈ ledger.records ∧ ∃ other ∈ ledger.records, r.Clashes other := by
  rw [List.mem_flatten]
  constructor
  · rintro ⟨group, listed, member⟩
    obtain ⟨⟨name, -, rfl⟩, long⟩ := mem_clashes.1 listed
    have once := group_nodup (.of_map _ distinct) name
    obtain ⟨other, member', ne⟩ := exists_other (x := r) once long
    obtain ⟨hr, named⟩ := mem_group.1 member
    obtain ⟨hother, named'⟩ := mem_group.1 member'
    refine ⟨hr, other, hother, fun same => ne ?_, named'.trans named.symm⟩
    exact List.inj_on_of_nodup_map distinct hother hr same
  · rintro ⟨hr, other, hother, different, same⟩
    have ne : other ≠ r := fun eq => different (congrArg _ eq)
    exact ⟨_, clashing_mem_clashes hr hother ne same, mem_group.2 ⟨hr, rfl⟩⟩

theorem flatten_clashes_nodup (distinct : ledger.records.Nodup) :
    ledger.clashes.flatten.Nodup := by
  rw [List.nodup_flatten]
  constructor
  · intro group listed
    obtain ⟨⟨name, -, rfl⟩, -⟩ := mem_clashes.1 listed
    exact group_nodup distinct name
  · refine List.Pairwise.sublist List.filter_sublist (List.pairwise_map.2 ?_)
    have names : ledger.names.Nodup := nodup_of_increasing (distinctSorted_pairwise _)
    refine names.imp fun {a b} ne => ?_
    intro r member member'
    exact ne ((mem_group.1 member).2.symm.trans (mem_group.1 member').2)

theorem clashes_reports (distinct : (ledger.records.map NameRecord.className).Nodup) :
    Reports (· ∈ ledger.records) ledger.clashes where
  members _ := mem_flatten_clashes distinct
  whole group listed := by
    obtain ⟨⟨name, -, rfl⟩, -⟩ := mem_clashes.1 listed
    exact ⟨name, fun _ => mem_group⟩
  once := flatten_clashes_nodup (.of_map _ distinct)

/-! ### The order of the groups -/

/-- The groups list the clashes among some records, of which one may occur more than once: they are
ordered by their names, and each holds all records of its name, ordered by class. -/
structure ListsClashes (records : List NameRecord) (names : List String)
    (groups : List (List NameRecord)) : Prop where
  repeated : ∀ name, name ∈ names ↔ 1 < (records.map NameRecord.registeredName).count name
  increasing : names.Pairwise fun a b => compare a b = .lt
  grouped : List.Forall₂
    (fun name group => group.Perm (records.filter (·.registeredName = name))) names groups
  sorted : ∀ group ∈ groups, group.Pairwise fun r r' => (compare r.className r'.className).isLE

/-- The names that are recorded more than once. -/
def clashingNames (ledger : NameLedger) : List String :=
  ledger.names.filter fun name => 1 < (ledger.group name).length

theorem clashes_eq (ledger : NameLedger) :
    ledger.clashes = ledger.clashingNames.map ledger.group := by
  rw [clashes, clashingNames, List.filter_map]
  rfl

theorem length_group (ledger : NameLedger) (name : String) :
    (ledger.group name).length = (ledger.records.map NameRecord.registeredName).count name := by
  rw [group, (sortOn_perm _ _).length_eq, List.count_eq_countP, List.countP_map,
    List.countP_eq_length_filter]
  rfl

theorem mem_clashingNames : name ∈ ledger.clashingNames ↔
    1 < (ledger.records.map NameRecord.registeredName).count name := by
  rw [clashingNames, List.mem_filter, length_group, decide_eq_true_iff, and_iff_right_iff_imp]
  intro twice
  rw [mem_names, ← List.mem_map]
  exact List.count_pos_iff.1 (by omega)

theorem listsClashes (ledger : NameLedger) :
    ListsClashes ledger.records ledger.clashingNames ledger.clashes where
  repeated _ := mem_clashingNames
  increasing := (distinctSorted_pairwise _).sublist List.filter_sublist
  grouped := by
    rw [clashes_eq, List.forall₂_map_right_iff, List.forall₂_same]
    exact fun name _ => sortOn_perm _ _
  sorted group listed := by
    obtain ⟨⟨name, -, rfl⟩, -⟩ := mem_clashes.1 listed
    exact sortOn_pairwise _

theorem validate_ok_iff : ledger.validate = .ok () ↔ ledger.clashes = [] := by
  rw [validate, ← List.isEmpty_iff]
  split <;> simp [*]

theorem clashes_eq_nil_iff :
    ledger.clashes = [] ↔ (ledger.records.map NameRecord.registeredName).Nodup := by
  rw [clashes_eq, List.map_eq_nil_iff, List.eq_nil_iff_forall_not_mem,
    List.nodup_iff_count_le_one]
  exact forall_congr' fun name => by rw [mem_clashingNames, Nat.not_lt]

/-! ### The order of the records -/

section
variable {other : NameLedger} (same : other.records.Perm ledger.records)
include same

theorem names_perm : other.names = ledger.names :=
  distinctSorted_congr fun _ => (same.map _).mem_iff

/-- Records of one class under one name are equal, so sorting by class leaves no choice. -/
theorem group_perm (name : String) : other.group name = ledger.group name := by
  have perm : (other.group name).Perm (ledger.group name) :=
    (sortOn_perm _ _).trans ((same.filter _).trans (sortOn_perm _ _).symm)
  refine eq_of_sorted_perm perm ?_ (sortOn_pairwise _) (sortOn_pairwise _)
  rintro ⟨className, _⟩ member ⟨_, _⟩ member' rfl
  obtain rfl := (mem_group.1 member).2
  have named := (mem_group.1 member').2
  exact congrArg (NameRecord.mk className) named.symm

theorem validate_perm : other.validate = ledger.validate := by
  have groups : other.group = ledger.group := funext (group_perm same)
  rw [validate, validate, clashes, clashes, names_perm same, groups]

end

/-- The names are accepted if they are distinct. Otherwise every record whose name occurs again is
listed, as often as it was made, and nothing else is. The order of the records does not show. -/
theorem clashes_reported_exactly (ledger : NameLedger) :
    (ledger.validate = .ok () ↔ (ledger.records.map NameRecord.registeredName).Nodup) ∧
    (∀ fault, ledger.validate = .error fault →
      ∃ names groups, fault = .duplicateNames groups ∧ ListsClashes ledger.records names groups) ∧
    ∀ other : NameLedger, other.records.Perm ledger.records →
      other.validate = ledger.validate ∧
        other.validate.mapError DeclarationFault.message =
          ledger.validate.mapError DeclarationFault.message := by
  refine ⟨validate_ok_iff.trans clashes_eq_nil_iff, fun fault fails => ?_, fun other same => ?_⟩
  · refine ⟨ledger.clashingNames, ledger.clashes, ?_, listsClashes ledger⟩
    rw [validate] at fails
    split at fails
    · cases fails
    · exact (Except.error.inj fails).symm
  · rw [validate_perm same]
    exact ⟨rfl, rfl⟩

end NameLedger

namespace Sample

/-- Two classes under one name, one of them recorded twice, and a third class. -/
def foos : NameLedger :=
  ⟨[⟨.parse "ui.Foo", "Foo"⟩, ⟨.parse "game.Player", "game_Player"⟩, ⟨.parse "game.Foo", "Foo"⟩,
    ⟨.parse "ui.Foo", "Foo"⟩]⟩

end Sample

/-- Whichever class comes first, the groups are the same. -/
theorem foos_clash_in_any_order :
    let groups : List (List NameRecord) := [[⟨.parse "game.Foo", "Foo"⟩, ⟨.parse "ui.Foo", "Foo"⟩,
      ⟨.parse "ui.Foo", "Foo"⟩]]
    Sample.foos.validate = .error (.duplicateNames groups) ∧
      (∃ names, NameLedger.ListsClashes Sample.foos.records names groups) ∧
      (NameLedger.mk Sample.foos.records.reverse).validate = .error (.duplicateNames groups) := by
  intro groups
  have fails : Sample.foos.validate = .error (.duplicateNames groups) := by decide +kernel
  obtain ⟨-, reported, anyOrder⟩ := Sample.foos.clashes_reported_exactly
  obtain ⟨names, groups', same, lists⟩ := reported _ fails
  obtain rfl : groups = groups' := DeclarationFault.duplicateNames.inj same
  have turned := (anyOrder ⟨Sample.foos.records.reverse⟩ (List.reverse_perm _)).1
  exact ⟨fails, ⟨names, lists⟩, turned.trans fails⟩

end ScriptRegistrar
