import ScriptRegistrar.Proofs.Inheritance.Flattening

/-! What a class and its direct subclass register under a signature that the subclass lacks. -/

namespace ScriptRegistrar

section
variable {α κ : Type} [DecidableEq κ] {key : α → κ}

theorem filter_key_of_nodup {xs : List α} (distinct : (xs.map key).Nodup) {x : α} (h : x ∈ xs) :
    xs.filter (key · = key x) = [x] := by
  induction xs with
  | nil => cases h
  | cons y ys ih =>
    obtain ⟨fresh, rest⟩ := List.nodup_cons.1 distinct
    rcases List.mem_cons.1 h with rfl | h
    · have none : ys.filter (key · = key x) = [] := by
        rw [List.filter_eq_nil_iff]
        intro y member same
        exact fresh (of_decide_eq_true same ▸ List.mem_map_of_mem member)
      rw [List.filter_cons_of_pos (by simp), none]
    · have other : key y ≠ key x := fun same => fresh (same ▸ List.mem_map_of_mem h)
      rw [List.filter_cons_of_neg (by simpa using other), ih rest h]

variable {kept walk added : List α} {standsFor : α → α → Prop}

theorem Supplies.filter_nil (h : Supplies key kept walk added standsFor) {k : κ}
    (known : k ∈ kept.map key) : added.filter (key · = k) = [] := by
  rw [List.filter_eq_nil_iff]
  intro x member same
  obtain rfl : key x = k := by simpa using same
  exact ((h.keys _).1 (List.mem_map_of_mem member)).2 known

theorem Supplies.filter_singleton (h : Supplies key kept walk added standsFor) {k : κ}
    (walked : k ∈ walk.map key) (fresh : k ∉ kept.map key) :
    ∃ x first, added.filter (key · = k) = [x] ∧ walk.find? (key · = k) = some first ∧
      standsFor x first := by
  obtain ⟨x, member, rfl⟩ := List.mem_map.1 ((h.keys k).2 ⟨walked, fresh⟩)
  obtain ⟨first, found, stands⟩ := h.choice x member
  have distinct : (added.map key).Nodup := h.order.imp fun before same => by
    rw [same] at before
    exact Nat.lt_irrefl _ before
  exact ⟨x, first, filter_key_of_nodup distinct member, found, stands⟩

end

/-! ### One signature of a flattened class -/

namespace ClassDecl

def registeredAt (c : ClassDecl) (s : PropertyDecl.Signature) : List PropertyDecl :=
  c.members.registeredProperties.filter (·.signature = s)

/-- The class declares a property under the signature, and registers none there. -/
def Hides (c : ClassDecl) (s : PropertyDecl.Signature) : Prop :=
  c.declared s ≠ [] ∧ c.registeredAt s = []

/-- What the first of some classes that registers anything under a signature registers first. -/
def firstAt (above : List ClassDecl) (s : PropertyDecl.Signature) : Option PropertyDecl :=
  (above.flatMap (·.members.registeredProperties)).find? (·.signature = s)

variable {c : ClassDecl} {s : PropertyDecl.Signature}

theorem mem_keys_iff :
    s ∈ c.members.registeredProperties.map PropertyDecl.signature ↔ c.registeredAt s ≠ [] := by
  simp [registeredAt]

theorem firstAt_cons (above : List ClassDecl) :
    firstAt (c :: above) s = (c.registeredAt s).head?.or (firstAt above s) := by
  rw [firstAt, List.flatMap_cons, List.find?_append, ← List.head?_filter]
  rfl

theorem signature_of_firstAt {above : List ClassDecl} {p : PropertyDecl}
    (found : firstAt above s = some p) : p.signature = s := by
  simpa using List.find?_some found

theorem registeredAt_of_undeclared (none : ∀ p ∈ c.members.properties, p.signature ≠ s) :
    c.registeredAt s = [] := by
  rw [registeredAt, List.filter_eq_nil_iff]
  intro p member
  simpa using none p (List.mem_of_mem_filter member)

theorem declared_of_undeclared (none : ∀ p ∈ c.members.properties, p.signature ≠ s) :
    c.declared s = [] := by
  rw [declared, List.filter_eq_nil_iff]
  intro p member
  simp [none p member]

theorem StandsIn.eq_of_undeclared {p first : PropertyDecl} (h : c.StandsIn p first)
    (none : c.declared first.signature = []) : p = first := by
  rcases h with one | ⟨-, same⟩
  · rw [none] at one
    cases one
  · exact same

end ClassDecl

namespace ClassMembers

open ClassDecl (firstAt)

def propertiesAt (m : ClassMembers) (s : PropertyDecl.Signature) : List PropertyDecl :=
  m.properties.filter (·.signature = s)

variable {r : ClassMembers} {c : ClassDecl} {above : List ClassDecl} {s : PropertyDecl.Signature}

theorem Registers.propertiesAt_own (h : r.Registers c above) (own : c.registeredAt s ≠ []) :
    r.propertiesAt s = c.registeredAt s := by
  obtain ⟨added, all, supplies⟩ := h.properties
  rw [propertiesAt, all, List.filter_append, supplies.filter_nil (ClassDecl.mem_keys_iff.2 own),
    List.append_nil, ClassDecl.registeredAt]

theorem Registers.propertiesAt_inherited (h : r.Registers c above) (none : c.registeredAt s = []) :
    List.Forall₂ (fun first p => c.StandsIn p first) (firstAt above s).toList
      (r.propertiesAt s) := by
  obtain ⟨added, all, supplies⟩ := h.properties
  have fresh : s ∉ c.members.registeredProperties.map PropertyDecl.signature := fun known =>
    ClassDecl.mem_keys_iff.1 known none
  have brought : r.propertiesAt s = added.filter (·.signature = s) := by
    rw [propertiesAt, all, List.filter_append]
    exact congrArg (· ++ _) none
  rw [brought]
  by_cases walked : s ∈ (above.flatMap (·.members.registeredProperties)).map PropertyDecl.signature
  · obtain ⟨p, first, one, found, stands⟩ := supplies.filter_singleton walked fresh
    rw [one, firstAt, found]
    exact .cons stands .nil
  · have missing : firstAt above s = Option.none := by
      rw [firstAt, List.find?_eq_none]
      intro p member same
      exact walked (of_decide_eq_true same ▸ List.mem_map_of_mem member)
    have nothing : added.filter (·.signature = s) = [] := by
      rw [List.filter_eq_nil_iff]
      intro p member same
      have key := (supplies.keys _).1 (List.mem_map_of_mem member)
      rw [of_decide_eq_true same] at key
      exact walked key.1
    rw [missing, nothing]
    exact .nil

/-- A class that declares nothing under a signature registers what is met first above it. -/
theorem Registers.propertiesAt_undeclared (h : r.Registers c above)
    (undeclared : ∀ p ∈ c.members.properties, p.signature ≠ s) {first : PropertyDecl}
    (found : firstAt above s = some first) : r.propertiesAt s = [first] := by
  have inherited := h.propertiesAt_inherited (ClassDecl.registeredAt_of_undeclared undeclared)
  rw [found, Option.toList_some] at inherited
  obtain ⟨p, rest, stands, nothing, all⟩ := List.forall₂_cons_left_iff.1 inherited
  cases nothing
  have none := ClassDecl.declared_of_undeclared undeclared
  rw [← ClassDecl.signature_of_firstAt found] at none
  rw [all, stands.eq_of_undeclared none]

end ClassMembers

open ClassDecl (firstAt) in
/-- The subclass declares nothing under the signature. It registers what its superclass registers
there, but where the superclass hides the inherited declaration it registers that one again. -/
theorem parent_declaration_inherited {graph : Graph} (acyclic : (ClassIndex.ofGraph graph).Acyclic)
    {c s : ClassDecl} (direct : (ClassIndex.ofGraph graph).Extends c s)
    (user : s.isEngineBase = false) {child parent : ClassMembers}
    (childOk : (ClassMembers.own c).flatten (.ofGraph graph) = .ok child)
    (parentOk : (ClassMembers.own s).flatten (.ofGraph graph) = .ok parent)
    {sig : PropertyDecl.Signature} (registered : parent.propertiesAt sig ≠ [])
    (undeclared : ∀ p ∈ c.members.properties, p.signature ≠ sig) :
    ∃ q, child.propertiesAt sig = [q] ∧
      (¬ s.Hides sig ∧ q ∈ parent.propertiesAt sig ∨
        s.Hides sig ∧ parent.propertiesAt sig = s.declared sig ∧
          firstAt ((ClassIndex.ofGraph graph).userAncestors s) sig = some q) := by
  have parentRegisters := ClassMembers.registers_of_flatten parentOk
  have childRegisters := ClassMembers.registers_of_flatten childOk
  rw [acyclic.userAncestors_eq direct user] at childRegisters
  -- What `s` registers itself comes first above `c`. Otherwise `s` and `c` walk the same line.
  cases own : s.registeredAt sig with
  | cons first rest =>
    have some : s.registeredAt sig ≠ [] := own ▸ List.cons_ne_nil first rest
    refine ⟨first, childRegisters.propertiesAt_undeclared undeclared ?_, .inl ⟨?_, ?_⟩⟩
    · rw [ClassDecl.firstAt_cons, own]
      rfl
    · exact fun hides => some hides.2
    · rw [parentRegisters.propertiesAt_own some, own]
      exact List.mem_cons_self
  | nil =>
    have standIn := parentRegisters.propertiesAt_inherited own
    cases found : firstAt ((ClassIndex.ofGraph graph).userAncestors s) sig with
    | none =>
      rw [found, Option.toList_none] at standIn
      exact absurd (List.forall₂_nil_left_iff.1 standIn) registered
    | some first =>
      rw [found, Option.toList_some] at standIn
      obtain ⟨p, rest, stands, nothing, all⟩ := List.forall₂_cons_left_iff.1 standIn
      cases nothing
      refine ⟨first, childRegisters.propertiesAt_undeclared undeclared ?_, ?_⟩
      · rw [ClassDecl.firstAt_cons, own, found]
        rfl
      · have named := ClassDecl.signature_of_firstAt found
        rw [ClassDecl.StandsIn, named] at stands
        rcases stands with hidden | ⟨none, rfl⟩
        · exact .inr ⟨⟨hidden ▸ List.cons_ne_nil p [], own⟩, all.trans hidden.symm, rfl⟩
        · exact .inl ⟨fun hides => hides.1 none, all ▸ List.mem_singleton_self p⟩

/-! ### An override that is not registered

`Mob` hides the health of `Actor`, and `Boss` declares nothing. -/

namespace Sample

def quietMob : ClassDecl where
  name := .parse "game.Mob"
  superClass := some (.parse "lib.Actor")
  members := .listed [.property (health "game.Mob")]

def plainBoss : ClassDecl :=
  ClassDecl.registered { name := .parse "game.Boss", superClass := some (.parse "game.Mob") }

def overriding : Graph where
  classes := [quietMob, plainBoss]
  dependencies := [node, actor]

end Sample

theorem overriding_acyclic : (ClassIndex.ofGraph Sample.overriding).Acyclic :=
  ClassIndex.acyclic_of_rank
    ((ClassIndex.ofGraph Sample.overriding).declarations.map ClassDecl.name).idxOf
    (by decide +kernel)

theorem plainBoss_extends :
    (ClassIndex.ofGraph Sample.overriding).Extends Sample.plainBoss Sample.quietMob :=
  ⟨rfl, rfl⟩

theorem plainBoss_undeclared (s : PropertyDecl.Signature) :
    ∀ p ∈ Sample.plainBoss.members.properties, p.signature ≠ s := by
  intro p member
  cases member

theorem plainBoss_flattened :
    ∃ child, (ClassMembers.own Sample.plainBoss).flatten (.ofGraph Sample.overriding) = .ok child ∧
      child.properties.map (·.owner) = [.parse "lib.Actor"] :=
  exists_ok_of_map (by decide +kernel)

theorem quietMob_flattened :
    ∃ parent, (ClassMembers.own Sample.quietMob).flatten (.ofGraph Sample.overriding) =
        .ok parent ∧
      parent.properties.map (fun p => (p.owner, p.signature)) =
        [(.parse "game.Mob", (Sample.health "game.Mob").signature)] :=
  exists_ok_of_map (by decide +kernel)

theorem boss_registers_actor_health :
    (ClassIndex.ofGraph Sample.overriding).Acyclic ∧
      (ClassIndex.ofGraph Sample.overriding).Extends Sample.plainBoss Sample.quietMob ∧
      Sample.quietMob.isEngineBase = false ∧
      ∃ child parent,
        (ClassMembers.own Sample.plainBoss).flatten (.ofGraph Sample.overriding) = .ok child ∧
        (ClassMembers.own Sample.quietMob).flatten (.ofGraph Sample.overriding) = .ok parent ∧
        ∃ sig, parent.propertiesAt sig ≠ [] ∧
          (∀ p ∈ Sample.plainBoss.members.properties, p.signature ≠ sig) ∧
          ∃ q, child.propertiesAt sig = [q] ∧
            (¬ Sample.quietMob.Hides sig ∧ q ∈ parent.propertiesAt sig ∨
              Sample.quietMob.Hides sig ∧ parent.propertiesAt sig = Sample.quietMob.declared sig ∧
                ClassDecl.firstAt
                  ((ClassIndex.ofGraph Sample.overriding).userAncestors Sample.quietMob) sig =
                    some q) := by
  obtain ⟨child, childOk, -⟩ := plainBoss_flattened
  obtain ⟨parent, parentOk, shown⟩ := quietMob_flattened
  obtain ⟨p, one, same⟩ := List.map_eq_singleton_iff.1 shown
  have registered : parent.propertiesAt (Sample.health "game.Mob").signature ≠ [] := by
    rw [ClassMembers.propertiesAt, one, ← (Prod.mk.inj same).2]
    simp
  have undeclared := plainBoss_undeclared (Sample.health "game.Mob").signature
  exact ⟨overriding_acyclic, plainBoss_extends, by decide +kernel, child, parent, childOk, parentOk,
    _, registered, undeclared, parent_declaration_inherited overriding_acyclic plainBoss_extends
      (by decide +kernel) childOk parentOk registered undeclared⟩

/-- `Boss` does not register the declaration that `Mob` registers. -/
theorem override_not_inherited :
    (ClassIndex.ofGraph Sample.overriding).Acyclic ∧
      (ClassIndex.ofGraph Sample.overriding).Extends Sample.plainBoss Sample.quietMob ∧
      Sample.quietMob.isEngineBase = false ∧
      ∃ child parent,
        (ClassMembers.own Sample.plainBoss).flatten (.ofGraph Sample.overriding) = .ok child ∧
        (ClassMembers.own Sample.quietMob).flatten (.ofGraph Sample.overriding) = .ok parent ∧
        ∃ p ∈ parent.properties,
          (∀ own ∈ Sample.plainBoss.members.properties, own.signature ≠ p.signature) ∧
          ¬ ∃ q ∈ child.properties, q.signature = p.signature ∧ q ∈ parent.properties := by
  obtain ⟨child, childOk, childOwners⟩ := plainBoss_flattened
  obtain ⟨parent, parentOk, parentOwners⟩ := quietMob_flattened
  obtain ⟨p, one, same⟩ := List.map_eq_singleton_iff.1 parentOwners
  have member : p ∈ parent.properties := one ▸ List.mem_singleton_self p
  refine ⟨overriding_acyclic, plainBoss_extends, by decide +kernel, child, parent, childOk,
    parentOk, p, member, plainBoss_undeclared p.signature, ?_⟩
  rintro ⟨q, inChild, -, inParent⟩
  -- What the child registers belongs to another class.
  have owner : q.owner = .parse "lib.Actor" := by
    have listed : q.owner ∈ child.properties.map (·.owner) := List.mem_map_of_mem inChild
    rw [childOwners] at listed
    exact List.mem_singleton.1 listed
  rw [one, List.mem_singleton] at inParent
  rw [inParent, (Prod.mk.inj same).1] at owner
  revert owner
  decide +kernel

end ScriptRegistrar
