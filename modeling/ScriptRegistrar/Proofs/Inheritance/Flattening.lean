import Mathlib.Data.List.TakeWhile
import ScriptRegistrar.Proofs.Except
import ScriptRegistrar.Proofs.Inheritance.FirstOccurrence
import ScriptRegistrar.Proofs.Inheritance.Walk

namespace ScriptRegistrar

namespace ClassDecl

def declared (c : ClassDecl) (s : PropertyDecl.Signature) : List PropertyDecl :=
  c.members.properties.filter fun p => !p.isRegisteredSignal && p.signature = s

/-- What a class registers in place of an inherited property: its own property of that signature,
if it declares one. -/
def StandsIn (c : ClassDecl) (p inherited : PropertyDecl) : Prop :=
  c.declared inherited.signature = [p] ∨ c.declared inherited.signature = [] ∧ p = inherited

def standIn (c : ClassDecl) (inherited : PropertyDecl) : Except InternalFault PropertyDecl := do
  return (← c.override? inherited).getD inherited

theorem signature_of_mem_declared {c : ClassDecl} {s : PropertyDecl.Signature} {p : PropertyDecl}
    (h : p ∈ c.declared s) : p.signature = s := by
  have kept := (List.mem_filter.1 h).2
  simp only [Bool.and_eq_true, decide_eq_true_eq] at kept
  exact kept.2

theorem standIn_ok {c : ClassDecl} {inherited p : PropertyDecl} (h : c.standIn inherited = .ok p) :
    c.StandsIn p inherited := by
  obtain ⟨override, found, h⟩ := bind_ok h
  have chosen := pure_ok h
  unfold override? at found
  split at found
  · next none =>
    cases found
    exact .inr ⟨none, chosen⟩
  · next own one =>
    cases found
    subst chosen
    exact .inl one
  · cases found

theorem standIn_decides (c : ClassDecl) (p : PropertyDecl) :
    Decides ((c.declared p.signature).length < 2)
      (InternalFault.ambiguousOverride c.name p.signature.name) (c.standIn p) := by
  have searched : c.declared p.signature = c.members.properties.filter
      fun q => !q.isRegisteredSignal && q.signature = p.signature := rfl
  unfold standIn override?
  rw [← searched]
  rcases c.declared p.signature with _ | ⟨q, _ | ⟨q', rest⟩⟩
  · exact .ok Nat.two_pos
  · exact .ok Nat.one_lt_two
  · exact .error (by simp)

theorem StandsIn.signature {c : ClassDecl} {p inherited : PropertyDecl}
    (h : c.StandsIn p inherited) : p.signature = inherited.signature := by
  rcases h with one | ⟨-, rfl⟩
  · exact signature_of_mem_declared (one ▸ List.mem_singleton_self p)
  · rfl

end ClassDecl

theorem ClassIndex.inheritedFrom_ok {index : ClassIndex} {c : ClassDecl}
    {ancestors : List ClassDecl} (h : index.inheritedFrom c = .ok ancestors) :
    ancestors = index.userAncestors c := by
  unfold inheritedFrom at h
  dsimp only at h
  split at h
  · cases h
    rfl
  · next noEngine =>
    have whole : index.userAncestors c = index.ancestors c := by
      unfold userAncestors
      rw [List.takeWhile_eq_self_iff]
      intro a ha
      simp only [List.any_eq_true, not_exists, not_and] at noEngine
      simpa using noEngine a ha
    rw [whole]
    split at h
    · split at h
      · cases h
        rfl
      · cases h
    · cases h
      rfl

namespace ClassMembers

theorem foldlM_addProperty (c : ClassDecl) (walk kept : List PropertyDecl) :
    walk.foldlM (addProperty c) kept =
      (do
        let added ← (firstMissing PropertyDecl.signature
          (kept.map PropertyDecl.signature) walk).mapM c.standIn
        return kept ++ added) := by
  induction walk generalizing kept with
  | nil => simp [firstMissing]
  | cons p walk ih =>
    rw [List.foldlM_cons, firstMissing, addProperty]
    by_cases hp : p.signature ∈ kept.map PropertyDecl.signature
    · have present : kept.any (·.signature = p.signature) = true := by simpa using hp
      rw [if_pos present, if_pos hp]
      exact ih kept
    · have absent : ¬ kept.any (·.signature = p.signature) = true := by simpa using hp
      rw [if_neg absent, if_neg hp, List.mapM_cons]
      have step : (do return kept ++ [(← c.override? p).getD p]) =
          (do return kept ++ [← c.standIn p]) := by
        unfold ClassDecl.standIn
        cases c.override? p <;> rfl
      rw [step]
      cases found : c.standIn p with
      | error e => rfl
      | ok q =>
        have same := (ClassDecl.standIn_ok found).signature
        have met : ∀ s, s ∈ (kept ++ [q]).map PropertyDecl.signature ↔
            s ∈ p.signature :: kept.map PropertyDecl.signature := by
          intro s
          rw [List.map_append, List.mem_append, List.map_singleton, List.mem_singleton, same,
            or_comm, ← List.mem_cons]
        simp only [ok_bind, pure_bind, bind_assoc]
        rw [ih, firstMissing_congr met]
        simp

theorem flatten_eq (m : ClassMembers) (index : ClassIndex) :
    m.flatten index = (do
      let ancestors ← index.inheritedFrom m.owner
      let added ← (firstMissing PropertyDecl.signature (m.properties.map PropertyDecl.signature)
        (ancestors.flatMap (·.members.registeredProperties))).mapM m.owner.standIn
      return {
        owner := m.owner
        functions := m.functions ++ firstMissing FunctionDecl.signature
          (m.functions.map FunctionDecl.signature)
          (ancestors.flatMap (·.members.registeredFunctions))
        signals := m.signals ++ firstMissing PropertyDecl.signature
          (m.signals.map PropertyDecl.signature) (ancestors.flatMap (·.members.registeredSignals))
        properties := m.properties ++ added }) := by
  unfold flatten
  simp only [foldlM_addProperty, addMissing_eq, bind_assoc, pure_bind]

end ClassMembers

/-- A flattened class registers its own members of each kind and, after them, what the classes
above it supply. -/
structure ClassMembers.Registers (r : ClassMembers) (c : ClassDecl) (above : List ClassDecl) :
    Prop where
  owner : r.owner = c
  functions : ∃ added, r.functions = c.members.registeredFunctions ++ added ∧
    Supplies FunctionDecl.signature c.members.registeredFunctions
      (above.flatMap (·.members.registeredFunctions)) added (· = ·)
  signals : ∃ added, r.signals = c.members.registeredSignals ++ added ∧
    Supplies PropertyDecl.signature c.members.registeredSignals
      (above.flatMap (·.members.registeredSignals)) added (· = ·)
  properties : ∃ added, r.properties = c.members.registeredProperties ++ added ∧
    Supplies PropertyDecl.signature c.members.registeredProperties
      (above.flatMap (·.members.registeredProperties)) added c.StandsIn

theorem ClassMembers.registers_of_flatten {index : ClassIndex} {c : ClassDecl} {r : ClassMembers}
    (h : (own c).flatten index = .ok r) : r.Registers c (index.userAncestors c) := by
  rw [flatten_eq] at h
  obtain ⟨ancestors, walked, h⟩ := bind_ok h
  obtain ⟨added, chosen, h⟩ := bind_ok h
  have same := ClassIndex.inheritedFrom_ok walked
  subst same
  rw [pure_ok h]
  have unchanged : ∀ {α κ : Type} (key : α → κ) (firsts : List α),
      List.Forall₂ (fun first x => key x = key first ∧ x = first) firsts firsts :=
    fun _ _ => List.forall₂_same.2 fun _ _ => ⟨rfl, rfl⟩
  constructor
  case owner => rfl
  case functions => exact ⟨_, rfl, firstMissing_supplies (unchanged _ _)⟩
  case signals => exact ⟨_, rfl, firstMissing_supplies (unchanged _ _)⟩
  case properties =>
    refine ⟨_, rfl, firstMissing_supplies ((mapM_ok chosen).imp fun first p found => ?_)⟩
    have stands := ClassDecl.standIn_ok found
    exact ⟨stands.signature, stands⟩

/-- Every member of a flattened class is declared by the class or above it. -/
theorem ClassMembers.Registers.declared {r : ClassMembers} {c : ClassDecl} {above : List ClassDecl}
    (h : r.Registers c above) :
    (∀ f ∈ r.functions, ∃ d ∈ c :: above, f ∈ d.members.functions) ∧
    (∀ p ∈ r.signals, ∃ d ∈ c :: above, p ∈ d.members.registeredSignals) ∧
    ∀ p ∈ r.properties, ∃ d ∈ c :: above, p ∈ d.members.properties := by
  refine ⟨fun f member => ?_, fun p member => ?_, fun p member => ?_⟩
  · obtain ⟨added, all, supplied⟩ := h.functions
    rcases supplied.mem_cases (all ▸ member) with own | ⟨first, walked, rfl⟩
    · exact ⟨c, List.mem_cons_self, List.mem_of_mem_filter own⟩
    · obtain ⟨d, higher, registered⟩ := List.mem_flatMap.1 walked
      exact ⟨d, List.mem_cons_of_mem _ higher, List.mem_of_mem_filter registered⟩
  · obtain ⟨added, all, supplied⟩ := h.signals
    rcases supplied.mem_cases (all ▸ member) with own | ⟨first, walked, rfl⟩
    · exact ⟨c, List.mem_cons_self, own⟩
    · obtain ⟨d, higher, registered⟩ := List.mem_flatMap.1 walked
      exact ⟨d, List.mem_cons_of_mem _ higher, registered⟩
  · obtain ⟨added, all, supplied⟩ := h.properties
    rcases supplied.mem_cases (all ▸ member) with own | ⟨first, walked, one | ⟨-, rfl⟩⟩
    · exact ⟨c, List.mem_cons_self, List.mem_of_mem_filter own⟩
    · exact ⟨c, List.mem_cons_self, List.mem_of_mem_filter (one ▸ List.mem_singleton_self p)⟩
    · obtain ⟨d, higher, registered⟩ := List.mem_flatMap.1 walked
      exact ⟨d, List.mem_cons_of_mem _ higher, List.mem_of_mem_filter registered⟩

/-- Only the part of the walk before the first class of the engine counts. -/
theorem flatten_registers {graph : Graph} {c : ClassDecl} {r : ClassMembers}
    (h : (ClassMembers.own c).flatten (.ofGraph graph) = .ok r) :
    ∃ chain, (ClassIndex.ofGraph graph).Chain c chain ∧
      r.Registers c (chain.takeWhile (!·.isEngineBase)) :=
  ⟨_, ClassIndex.ancestors_chain _ c, ClassMembers.registers_of_flatten h⟩

/-! ### A small hierarchy

`Boss` hides the health that `Mob` declares anew, and `Mob` the one of `Actor`. What `Node`
registers belongs to the engine. -/

namespace Sample

def health (owner : String) : PropertyDecl :=
  .mutable (.parse owner) "health" (.simple (.parse "kotlin.Int"))

def died (owner : String) : PropertyDecl :=
  .mutable (.parse owner) "signalDied" { name := .parse "godot.Signal0" }

def action (owner name : String) : MemberDecl :=
  .function (FunctionDecl.unit (.parse owner) name).registered

def node : ClassDecl :=
  ClassDecl.engineBase {
    name := .parse "godot.Node"
    members := .scoped (.ofList [action "godot.Node" "free"]) }

def actor : ClassDecl where
  name := .parse "lib.Actor"
  superClass := some (.parse "godot.Node")
  members := .scoped (.ofList [
    .property (health "lib.Actor").registered, .property (died "lib.Actor").registeredSignal,
    action "lib.Actor" "hit", action "lib.Actor" "act"])

def mob : ClassDecl where
  name := .parse "game.Mob"
  superClass := some (.parse "lib.Actor")
  members := .listed [
    action "game.Mob" "hit", .property (health "game.Mob").registered, action "game.Mob" "hit"]

def boss : ClassDecl :=
  ClassDecl.registered {
    name := .parse "game.Boss"
    superClass := some (.parse "game.Mob")
    members := .listed [
      .property (health "game.Boss"), action "game.Boss" "rage", action "game.Boss" "act"] }

def graph : Graph where
  classes := [mob, boss]
  dependencies := [node, actor]

end Sample

def ClassMembers.names (m : ClassMembers) : List String × List String × List String :=
  (m.functions.map (·.qualifiedName.text), m.signals.map (·.qualifiedName.text),
    m.properties.map (·.qualifiedName.text))

theorem boss_flattened :
    ∃ r, (ClassMembers.own Sample.boss).flatten (.ofGraph Sample.graph) = .ok r ∧
      r.names = (["game.Boss.rage", "game.Boss.act", "game.Mob.hit"], ["lib.Actor.signalDied"],
        ["game.Boss.health"]) ∧
      ∃ chain, (ClassIndex.ofGraph Sample.graph).Chain Sample.boss chain ∧
        r.Registers Sample.boss (chain.takeWhile (!·.isEngineBase)) := by
  obtain ⟨r, flattened, names⟩ := exists_ok_of_map
    (x := (ClassMembers.own Sample.boss).flatten (.ofGraph Sample.graph)) (f := ClassMembers.names)
    (v := (["game.Boss.rage", "game.Boss.act", "game.Mob.hit"], ["lib.Actor.signalDied"],
      ["game.Boss.health"]))
    (by decide +kernel)
  exact ⟨r, flattened, names, flatten_registers flattened⟩

end ScriptRegistrar
