import ScriptRegistrar.Proofs.Inheritance.Flattening

/-!
# Flattening along a chain

The walks of a class and of its direct superclass differ by the superclass alone, and taking first
occurrences twice is taking them once.
-/

namespace ScriptRegistrar

namespace ClassMembers

variable {index : ClassIndex} {c : ClassDecl} {r : ClassMembers}

/-- Functions and signals are never replaced, so they are first occurrences as they stand. -/
theorem flatten_ok (h : (own c).flatten index = .ok r) :
    r.functions = c.members.registeredFunctions ++ firstMissing FunctionDecl.signature
        (c.members.registeredFunctions.map FunctionDecl.signature)
        ((index.userAncestors c).flatMap (·.members.registeredFunctions)) ∧
      r.signals = c.members.registeredSignals ++ firstMissing PropertyDecl.signature
        (c.members.registeredSignals.map PropertyDecl.signature)
        ((index.userAncestors c).flatMap (·.members.registeredSignals)) := by
  rw [flatten_eq] at h
  obtain ⟨ancestors, walked, h⟩ := bind_ok h
  obtain ⟨added, -, h⟩ := bind_ok h
  obtain rfl := ClassIndex.inheritedFrom_ok walked
  rw [pure_ok h]
  exact ⟨rfl, rfl⟩

theorem Registers.mem_signatures {above : List ClassDecl} (h : r.Registers c above)
    (sig : PropertyDecl.Signature) :
    sig ∈ r.properties.map PropertyDecl.signature ↔
      sig ∈ ((c :: above).flatMap (·.members.registeredProperties)).map PropertyDecl.signature := by
  obtain ⟨added, all, supplies⟩ := h.properties
  rw [all, List.flatMap_cons, List.map_append, List.map_append, List.mem_append, List.mem_append,
    supplies.keys]
  by_cases own : sig ∈ c.members.registeredProperties.map PropertyDecl.signature
  · simp [own]
  · simp [own]

/-- What a class registers, seen from what its superclass registers. -/
structure Composes (child : ClassMembers) (c : ClassDecl) (parent : ClassMembers) : Prop where
  functions : child.functions = c.members.registeredFunctions ++
    firstMissing FunctionDecl.signature
      (c.members.registeredFunctions.map FunctionDecl.signature) parent.functions
  signals : child.signals = c.members.registeredSignals ++
    firstMissing PropertyDecl.signature
      (c.members.registeredSignals.map PropertyDecl.signature) parent.signals
  properties : ∀ p ∈ parent.properties, ∃ q ∈ child.properties, q.signature = p.signature

end ClassMembers

theorem flatten_composes {graph : Graph} (acyclic : (ClassIndex.ofGraph graph).Acyclic)
    {c s : ClassDecl} (direct : (ClassIndex.ofGraph graph).Extends c s)
    (user : s.isEngineBase = false) {child parent : ClassMembers}
    (childOk : (ClassMembers.own c).flatten (.ofGraph graph) = .ok child)
    (parentOk : (ClassMembers.own s).flatten (.ofGraph graph) = .ok parent) :
    child.Composes c parent := by
  obtain ⟨childFunctions, childSignals⟩ := ClassMembers.flatten_ok childOk
  obtain ⟨parentFunctions, parentSignals⟩ := ClassMembers.flatten_ok parentOk
  have childRegisters := ClassMembers.registers_of_flatten childOk
  have parentRegisters := ClassMembers.registers_of_flatten parentOk
  rw [acyclic.userAncestors_eq direct user] at childFunctions childSignals childRegisters
  constructor
  case functions =>
    rw [childFunctions, parentFunctions, List.flatMap_cons, firstMissing_through]
  case signals =>
    rw [childSignals, parentSignals, List.flatMap_cons, firstMissing_through]
  case properties =>
    intro p member
    have above := (parentRegisters.mem_signatures _).1 (List.mem_map_of_mem member)
    have inherited : p.signature ∈ child.properties.map PropertyDecl.signature := by
      rw [childRegisters.mem_signatures, List.flatMap_cons, List.map_append]
      exact List.mem_append_right _ above
    exact List.mem_map.1 inherited

theorem boss_composes :
    (ClassIndex.ofGraph Sample.graph).Acyclic ∧
      (ClassIndex.ofGraph Sample.graph).Extends Sample.boss Sample.mob ∧
      Sample.mob.isEngineBase = false ∧
      ∃ child parent,
        (ClassMembers.own Sample.boss).flatten (.ofGraph Sample.graph) = .ok child ∧
        (ClassMembers.own Sample.mob).flatten (.ofGraph Sample.graph) = .ok parent ∧
        child.names.1 = ["game.Boss.rage", "game.Boss.act", "game.Mob.hit"] ∧
        parent.names.1 = ["game.Mob.hit", "game.Mob.hit", "lib.Actor.act"] ∧
        child.Composes Sample.boss parent := by
  have acyclic : (ClassIndex.ofGraph Sample.graph).Acyclic :=
    ClassIndex.acyclic_of_rank
      ((ClassIndex.ofGraph Sample.graph).declarations.map ClassDecl.name).idxOf
      (by decide +kernel)
  have direct : (ClassIndex.ofGraph Sample.graph).Extends Sample.boss Sample.mob := ⟨rfl, rfl⟩
  have user : Sample.mob.isEngineBase = false := by decide +kernel
  obtain ⟨child, childOk, childNames⟩ := exists_ok_of_map
    (x := (ClassMembers.own Sample.boss).flatten (.ofGraph Sample.graph)) (f := (·.names.1))
    (v := ["game.Boss.rage", "game.Boss.act", "game.Mob.hit"]) (by decide +kernel)
  obtain ⟨parent, parentOk, parentNames⟩ := exists_ok_of_map
    (x := (ClassMembers.own Sample.mob).flatten (.ofGraph Sample.graph)) (f := (·.names.1))
    (v := ["game.Mob.hit", "game.Mob.hit", "lib.Actor.act"]) (by decide +kernel)
  exact ⟨acyclic, direct, user, child, parent, childOk, parentOk, childNames, parentNames,
    flatten_composes acyclic direct user childOk parentOk⟩

/-! ### Flattening what is flat -/

/-- A flattened class has a member of every signature above it, so nothing is missing any more. -/
theorem ClassMembers.flatten_idempotent {index : ClassIndex} {m r : ClassMembers}
    (h : m.flatten index = .ok r) : r.flatten index = .ok r := by
  rw [flatten_eq] at h
  obtain ⟨ancestors, walked, h⟩ := bind_ok h
  obtain ⟨added, chosen, h⟩ := bind_ok h
  obtain rfl := pure_ok h
  have signatures := map_key_of_paired
    ((mapM_ok chosen).imp fun _ _ found => (ClassDecl.standIn_ok found).signature)
  rw [flatten_eq, walked, ok_bind, firstMissing_completed signatures, firstMissing_completed rfl,
    firstMissing_completed rfl, List.mapM_nil, pure_bind]
  simp only [List.append_nil]
  rfl

namespace Sample

/-- More than `Boss` registers itself: an action twice, and one that `Mob` registers too. -/
def armedBoss : ClassMembers where
  owner := boss
  functions := [
    (FunctionDecl.unit (.parse "game.Boss") "act").registered,
    (FunctionDecl.unit (.parse "game.Boss") "act").registered,
    (FunctionDecl.unit (.parse "game.Boss") "hit").registered]
  signals := []
  properties := []

end Sample

theorem armedBoss_flattened_again :
    ∃ r, Sample.armedBoss.flatten (.ofGraph Sample.graph) = .ok r ∧
      r.names = (["game.Boss.act", "game.Boss.act", "game.Boss.hit"], ["lib.Actor.signalDied"],
        ["game.Boss.health"]) ∧
      r.flatten (.ofGraph Sample.graph) = .ok r := by
  obtain ⟨r, flattened, names⟩ := exists_ok_of_map
    (x := Sample.armedBoss.flatten (.ofGraph Sample.graph)) (f := ClassMembers.names)
    (v := (["game.Boss.act", "game.Boss.act", "game.Boss.hit"], ["lib.Actor.signalDied"],
      ["game.Boss.health"]))
    (by decide +kernel)
  exact ⟨r, flattened, names, ClassMembers.flatten_idempotent flattened⟩

end ScriptRegistrar
