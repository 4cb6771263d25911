import Mathlib.Logic.Relation
import ScriptRegistrar.Proofs.Inheritance.Flattening
import ScriptRegistrar.Registration.Registrar

/-!
# The hierarchy of registrars

Every class on a cycle of registrars would be its own superclass with no class of the engine in
between, so none of them could be registered.
-/

namespace ScriptRegistrar

namespace Registrar

theorem candidate_ok {c : ClassDecl} {index : ClassIndex} {candidate : Candidate}
    (h : c.candidate index = .ok candidate) :
    index.engineBase? c = some candidate.engineBase ∧
      (ClassMembers.own c).flatten index = .ok candidate.members := by
  unfold ClassDecl.candidate at h
  split at h
  · next base found =>
    obtain ⟨-, -, h⟩ := bind_ok h
    obtain ⟨members, flattened, h⟩ := bind_ok h
    rw [found, pure_ok h]
    exact ⟨rfl, mapError_ok flattened⟩
  · cases h

theorem candidate_engineBase {c : ClassDecl} {index : ClassIndex} {candidate : Candidate}
    (h : c.candidate index = .ok candidate) : index.engineBase? c = some candidate.engineBase :=
  (candidate_ok h).1

theorem candidate_decl {c : ClassDecl} {index : ClassIndex} {candidate : Candidate}
    (h : c.candidate index = .ok candidate) : candidate.decl = c :=
  (ClassMembers.registers_of_flatten (candidate_ok h).2).owner

theorem classText_functions (index : ClassIndex) (c : ClassDecl) (register : Source.FunctionText) :
    (classText index c register).functions = [register] := by
  unfold classText
  split
  · rfl
  · rfl

variable {index : ClassIndex} {ledger ledger' : NameLedger} {c : ClassDecl} {registrar : Registrar}

theorem generate_eq (h : (generate index ledger c).2 = .ok registrar) :
    generate index ledger c = ((generate index ledger c).1, .ok registrar) :=
  Prod.ext rfl h

theorem generate_ok (h : generate index ledger c = (ledger', .ok registrar)) :
    ∃ candidate, c.candidate index = .ok candidate ∧ ledger' = ledger.record candidate.record ∧
      ofCandidate index candidate = .ok registrar := by
  unfold generate at h
  split at h
  · cases h
  · next candidate found =>
    obtain ⟨recorded, built⟩ := Prod.mk.inj h
    exact ⟨candidate, found, recorded.symm, built⟩

theorem generate_names (h : generate index ledger c = (ledger', .ok registrar)) :
    registrar.file.package = Vocabulary.generatedPackage c.name ∧
      registrar.file.name = Vocabulary.registrarFileName c.name := by
  obtain ⟨candidate, found, -, built⟩ := generate_ok h
  obtain ⟨register, -, built⟩ := bind_ok built
  rw [pure_ok built, ← candidate_decl found]
  exact ⟨rfl, rfl⟩

/-- The one class of the file extends the registrar of the nearest registered superclass, if there
is one. -/
theorem generate_superClass (h : generate index ledger c = (ledger', .ok registrar)) :
    registrar.file.classes.map Source.ClassText.superClass =
      [(index.registeredSuper? c).map fun p => .plain (Vocabulary.registrarClass p.name)] := by
  obtain ⟨candidate, found, -, built⟩ := generate_ok h
  obtain ⟨register, -, built⟩ := bind_ok built
  rw [pure_ok built, candidate_decl found, List.map_singleton, classText]
  cases index.registeredSuper? c <;> rfl

end Registrar

/-! ### Registrars that extend each other -/

namespace ClassIndex

variable {index : ClassIndex} {met met' : List DottedName} {next : Option DottedName}
  {chain chain' : List ClassDecl} {c p base : ClassDecl}

def RegistrarExtends (index : ClassIndex) (c p : ClassDecl) : Prop :=
  index.registeredSuper? c = some p

/-- `s` is the direct superclass of `c` and no class of the engine. -/
structure ExtendsUser (index : ClassIndex) (c s : ClassDecl) : Prop where
  superClass : index.superClass? c = some s
  user : s.isEngineBase = false

/-! ### Walks that start later -/

/-- A walk with fewer forbidden names goes at least as far. -/
theorem Walk.isPrefix (walk : index.Walk met next chain) (walk' : index.Walk met' next chain')
    (fewer : met' ⊆ met) : chain <+: chain' := by
  induction walk generalizing met' chain' with
  | unknown => exact List.nil_prefix
  | closed => exact List.nil_prefix
  | @step met next d rest found fresh later ih =>
    cases walk' with
    | unknown missing =>
      rw [missing] at found
      cases found
    | closed found' known =>
      rw [found] at found'
      cases found'
      exact absurd (fewer known) fresh
    | step found' _ later' =>
      rw [found] at found'
      cases found'
      exact (List.prefix_cons_inj d).2 (ih later' (List.cons_subset_cons _ fewer))

/-- What comes after a class on a walk is a walk from there. -/
theorem Walk.after (walk : index.Walk met next chain) {front back : List ClassDecl}
    (split : chain = front ++ p :: back) :
    ∃ met', p.name ∈ met' ∧ index.Walk met' p.superClass back := by
  induction walk generalizing front with
  | unknown => simp at split
  | closed => simp at split
  | step found fresh later ih =>
    cases front with
    | nil =>
      obtain ⟨rfl, rfl⟩ := List.cons.inj split
      exact ⟨_, List.mem_cons_self, later⟩
    | cons first front => exact ih (List.cons.inj split).2

theorem mem_userAncestors (member : p ∈ index.userAncestors c) :
    ∃ front back, index.ancestors c = front ++ p :: back ∧
      ∀ a ∈ front ++ [p], a.isEngineBase = false := by
  obtain ⟨front, between, split⟩ := List.append_of_mem member
  refine ⟨front, between ++ (index.ancestors c).dropWhile (!·.isEngineBase), ?_, ?_⟩
  · have whole := List.takeWhile_append_dropWhile
      (p := fun a : ClassDecl => !a.isEngineBase) (l := index.ancestors c)
    rw [← List.cons_append, ← List.append_assoc, ← split]
    exact whole.symm
  · intro a before
    have user : a ∈ index.userAncestors c := by
      rw [split]
      rcases List.mem_append.1 before with first | last
      · exact List.mem_append_left _ first
      · rw [List.mem_singleton.1 last]
        exact List.mem_append_right _ List.mem_cons_self
    simpa using List.mem_takeWhile_imp user

/-- The superclasses of a user-defined superclass go on to the same base in the engine. -/
theorem engineBase?_of_mem_userAncestors (found : index.engineBase? c = some base)
    (member : p ∈ index.userAncestors c) : index.engineBase? p = some base := by
  obtain ⟨front, back, split, user⟩ := mem_userAncestors member
  have later : back.find? (·.isEngineBase) = some base := by
    have none : (front ++ [p]).find? (·.isEngineBase) = none :=
      List.find?_eq_none.2 fun a before => by simp [user a before]
    rw [engineBase?, split, ← List.singleton_append, ← List.append_assoc, List.find?_append, none]
      at found
    simpa using found
  obtain ⟨met', known, walk⟩ := Walk.after (index.ancestors_chain c) split
  obtain ⟨more, longer⟩ := walk.isPrefix (index.ancestors_chain p) (by simpa using known)
  rw [engineBase?, ← longer, List.find?_append, later]
  rfl

/-! ### Cycles -/

theorem Walk.extendsUser (walk : index.Walk met next chain) (start : next = c.superClass)
    (member : p ∈ chain.takeWhile (!·.isEngineBase)) :
    Relation.TransGen index.ExtendsUser c p := by
  induction walk generalizing c with
  | unknown => cases member
  | closed => cases member
  | @step met next d rest found fresh later ih =>
    subst start
    rw [List.takeWhile_cons] at member
    split at member
    · next user =>
      have direct : index.ExtendsUser c d := ⟨found, by simpa using user⟩
      rcases List.mem_cons.1 member with rfl | above
      · exact .single direct
      · exact (ih rfl above).head direct
    · cases member

theorem RegistrarExtends.extendsUser (h : index.RegistrarExtends c p) :
    Relation.TransGen index.ExtendsUser c p :=
  Walk.extendsUser (index.ancestors_chain c) rfl (List.mem_of_find?_eq_some h)

/-- A class has one direct superclass, so a walk from a cycle stays on it. -/
theorem Walk.user_of_cycle (walk : index.Walk met next chain) (start : next = p.superClass)
    (cycle : Relation.TransGen index.ExtendsUser c c)
    (back : Relation.TransGen index.ExtendsUser p c) :
    ∀ a ∈ chain, a.isEngineBase = false := by
  induction walk generalizing p with
  | unknown => simp
  | closed => simp
  | @step met next d rest found fresh later ih =>
    subst start
    obtain ⟨s, direct, home⟩ := Relation.TransGen.head'_iff.1 back
    obtain rfl : d = s := Option.some.inj (found.symm.trans direct.superClass)
    intro a member
    rcases List.mem_cons.1 member with rfl | above
    · exact direct.user
    · exact ih rfl (Relation.TransGen.trans_right home cycle) a above

theorem engineBase?_of_cycle (cycle : Relation.TransGen index.RegistrarExtends c c) :
    index.engineBase? c = none := by
  have user : Relation.TransGen index.ExtendsUser c c :=
    Relation.TransGen.closed (fun _ _ h => h.extendsUser) _ _ cycle
  refine List.find?_eq_none.2 fun a member => ?_
  simp [Walk.user_of_cycle (index.ancestors_chain c) rfl user user a member]

end ClassIndex

/-- Where every registered class has a registrar, the registrars make up a hierarchy below the
engine, whatever the declared superclasses are. -/
theorem registrar_hierarchy {graph : Graph}
    (generated : ∀ c ∈ graph.registeredClasses, ∃ ledger registrar,
      (Registrar.generate (.ofGraph graph) ledger c).2 = .ok registrar) :
    (∀ c ∈ graph.registeredClasses,
      ¬ Relation.TransGen (ClassIndex.ofGraph graph).RegistrarExtends c c) ∧
    (∀ c ∈ graph.registeredClasses, ∀ p, (ClassIndex.ofGraph graph).RegistrarExtends c p →
      ∃ base, (ClassIndex.ofGraph graph).engineBase? c = some base ∧
        (ClassIndex.ofGraph graph).engineBase? p = some base) ∧
    ∀ c ledger registrar, (Registrar.generate (.ofGraph graph) ledger c).2 = .ok registrar →
      registrar.file.classes.map Source.ClassText.superClass =
        [((ClassIndex.ofGraph graph).registeredSuper? c).map fun p =>
          .plain (Vocabulary.registrarClass p.name)] := by
  have based : ∀ c ∈ graph.registeredClasses, ∃ base,
      (ClassIndex.ofGraph graph).engineBase? c = some base := by
    intro c registered
    obtain ⟨ledger, registrar, succeeded⟩ := generated c registered
    obtain ⟨candidate, found, -⟩ := Registrar.generate_ok (Prod.ext rfl succeeded)
    exact ⟨_, Registrar.candidate_engineBase found⟩
  refine ⟨?acyclic, ?base, ?emitted⟩
  case acyclic =>
    intro c registered cycle
    obtain ⟨base, found⟩ := based c registered
    rw [ClassIndex.engineBase?_of_cycle cycle] at found
    cases found
  case base =>
    intro c registered p extended
    obtain ⟨base, found⟩ := based c registered
    exact ⟨base, found, ClassIndex.engineBase?_of_mem_userAncestors found
      (List.mem_of_find?_eq_some extended)⟩
  case emitted =>
    exact fun c ledger registrar succeeded => Registrar.generate_superClass (Prod.ext rfl succeeded)

/-! ### A cycle through the engine

Every class is its own superclass at some distance. The walks from `Boss` and `Player` end at `Node`
before they come round. -/

namespace Sample

def loopingPlayer : ClassDecl :=
  ClassDecl.registered { name := .parse "game.Player", superClass := some (.parse "godot.Node") }

def loopingMob : ClassDecl :=
  { name := .parse "game.Mob", superClass := some (.parse "game.Player") }

def loopingBoss : ClassDecl :=
  ClassDecl.registered { name := .parse "game.Boss", superClass := some (.parse "game.Mob") }

def loopingNode : ClassDecl :=
  ClassDecl.engineBase { name := .parse "godot.Node", superClass := some (.parse "godot.Object") }

def loopingObject : ClassDecl :=
  ClassDecl.engineBase { name := .parse "godot.Object", superClass := some (.parse "game.Boss") }

def looping : Graph where
  classes := [loopingPlayer, loopingMob, loopingBoss]
  dependencies := [loopingNode, loopingObject]

end Sample

theorem looping_cycle : ¬ (ClassIndex.ofGraph Sample.looping).Acyclic := by
  have player : (ClassIndex.ofGraph Sample.looping).Extends Sample.loopingPlayer
      Sample.loopingNode := ⟨rfl, rfl⟩
  have node : (ClassIndex.ofGraph Sample.looping).Extends Sample.loopingNode
      Sample.loopingObject := ⟨rfl, rfl⟩
  have object : (ClassIndex.ofGraph Sample.looping).Extends Sample.loopingObject
      Sample.loopingBoss := ⟨rfl, rfl⟩
  have boss : (ClassIndex.ofGraph Sample.looping).Extends Sample.loopingBoss
      Sample.loopingMob := ⟨rfl, rfl⟩
  have mob : (ClassIndex.ofGraph Sample.looping).Extends Sample.loopingMob
      Sample.loopingPlayer := ⟨rfl, rfl⟩
  intro acyclic
  exact acyclic _ (((((Relation.TransGen.single player).tail node).tail object).tail boss).tail mob)

theorem looping_generated :
    ∀ c ∈ Sample.looping.registeredClasses, ∃ ledger registrar,
      (Registrar.generate (.ofGraph Sample.looping) ledger c).2 = .ok registrar := by
  have succeeds : ∀ c ∈ Sample.looping.registeredClasses,
      (Registrar.generate (.ofGraph Sample.looping) {} c).2.toOption.isSome := by
    decide +kernel
  intro c registered
  exact ⟨{}, succeeds_of_isSome (succeeds c registered)⟩

theorem boss_below_player :
    ¬ (ClassIndex.ofGraph Sample.looping).Acyclic ∧
      (∀ c ∈ Sample.looping.registeredClasses, ∃ ledger registrar,
        (Registrar.generate (.ofGraph Sample.looping) ledger c).2 = .ok registrar) ∧
      Sample.loopingBoss ∈ Sample.looping.registeredClasses ∧
      (ClassIndex.ofGraph Sample.looping).RegistrarExtends Sample.loopingBoss
        Sample.loopingPlayer ∧
      ¬ Relation.TransGen (ClassIndex.ofGraph Sample.looping).RegistrarExtends Sample.loopingBoss
        Sample.loopingBoss ∧
      ∃ base, (ClassIndex.ofGraph Sample.looping).engineBase? Sample.loopingBoss = some base ∧
        (ClassIndex.ofGraph Sample.looping).engineBase? Sample.loopingPlayer = some base := by
  have registered : Sample.loopingBoss ∈ Sample.looping.registeredClasses :=
    mem_sortOn.2 (List.mem_filter.2 ⟨by simp [Sample.looping], rfl⟩)
  have extended : (ClassIndex.ofGraph Sample.looping).RegistrarExtends Sample.loopingBoss
      Sample.loopingPlayer := rfl
  obtain ⟨acyclic, based, -⟩ := registrar_hierarchy looping_generated
  exact ⟨looping_cycle, looping_generated, registered, extended, acyclic _ registered,
    based _ registered _ extended⟩

end ScriptRegistrar
