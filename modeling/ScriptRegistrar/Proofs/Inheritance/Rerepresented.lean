import ScriptRegistrar.Proofs.Inheritance.Flattening
import ScriptRegistrar.Proofs.Inheritance.Representation

namespace ScriptRegistrar

inductive InternalFault.Kind where
  | ambiguousOverride
  | signalArgumentCount
  | missingReturnType
  | unresolvedSuperclass
deriving DecidableEq, Repr

def InternalFault.kind : InternalFault → Kind
  | .ambiguousOverride .. => .ambiguousOverride
  | .signalArgumentCount .. => .signalArgumentCount
  | .missingReturnType .. => .missingReturnType
  | .unresolvedSuperclass .. => .unresolvedSuperclass

/-! ### Classes and graphs -/

/-- Two classes that only differ in how they hold their members. -/
structure ClassDecl.Rerepresents (c c' : ClassDecl) : Prop where
  rest : c' = { c with members := c'.members }
  members : c.members.Rerepresents c'.members

structure Graph.Rerepresents (g g' : Graph) : Prop where
  classes : List.Forall₂ ClassDecl.Rerepresents g.classes g'.classes
  dependencies : List.Forall₂ ClassDecl.Rerepresents g.dependencies g'.dependencies
  sourceClasses : g'.sourceClasses = g.sourceClasses

namespace ClassDecl.Rerepresents

variable {c c' : ClassDecl}

theorem name (h : c.Rerepresents c') : c'.name = c.name := by rw [h.rest]

theorem superClass (h : c.Rerepresents c') : c'.superClass = c.superClass := by rw [h.rest]

theorem isEngineBase (h : c.Rerepresents c') : c'.isEngineBase = c.isEngineBase := by
  rw [h.rest]
  rfl

theorem registeredFunctions (h : c.Rerepresents c') :
    SameByKey FunctionDecl.signature c.members.registeredFunctions
      c'.members.registeredFunctions :=
  h.members.functions.filter _

theorem registeredSignals (h : c.Rerepresents c') :
    SameByKey PropertyDecl.signature c.members.registeredSignals c'.members.registeredSignals :=
  h.members.properties.filter _

theorem registeredProperties (h : c.Rerepresents c') :
    SameByKey PropertyDecl.signature c.members.registeredProperties
      c'.members.registeredProperties :=
  h.members.properties.filter _

theorem declared (h : c.Rerepresents c') (s : PropertyDecl.Signature) :
    c'.declared s = c.declared s := by
  have same := h.members.properties.filter (fun p => !p.isRegisteredSignal) s
  simp only [List.filter_filter] at same
  simp only [ClassDecl.declared, Bool.and_comm _ (decide _)]
  exact same.symm

theorem standIn (h : c.Rerepresents c') : c'.standIn = c.standIn := by
  funext inherited
  have same : c'.override? inherited = c.override? inherited := by
    have searched := h.declared inherited.signature
    unfold ClassDecl.declared at searched
    unfold override?
    rw [searched, h.name]
  unfold ClassDecl.standIn
  rw [same]

end ClassDecl.Rerepresents

theorem ClassDecl.standIn_error {c : ClassDecl} {inherited : PropertyDecl} {e : InternalFault}
    (h : c.standIn inherited = .error e) : e.kind = .ambiguousOverride := by
  rw [((c.standIn_decides inherited).bad_of_error h).2]
  rfl

/-! ### Walks -/

section
variable {cs cs' : List ClassDecl}

theorem find?_rerepresented (paired : List.Forall₂ ClassDecl.Rerepresents cs cs')
    (name : DottedName) :
    Option.Rel ClassDecl.Rerepresents (cs.find? (·.name = name)) (cs'.find? (·.name = name)) := by
  induction paired with
  | nil => exact .none
  | @cons c c' cs cs' first _ ih =>
    rw [List.find?_cons, List.find?_cons, first.name]
    cases decide (c.name = name) with
    | true => exact .some first
    | false => exact ih

theorem any_rerepresented (paired : List.Forall₂ ClassDecl.Rerepresents cs cs') :
    cs'.any (·.isEngineBase) = cs.any (·.isEngineBase) := by
  induction paired with
  | nil => rfl
  | cons first _ ih => rw [List.any_cons, List.any_cons, first.isEngineBase, ih]

theorem takeWhile_rerepresented (paired : List.Forall₂ ClassDecl.Rerepresents cs cs') :
    List.Forall₂ ClassDecl.Rerepresents (cs.takeWhile (!·.isEngineBase))
      (cs'.takeWhile (!·.isEngineBase)) := by
  induction paired with
  | nil => exact .nil
  | @cons c c' cs cs' first _ ih =>
    rw [List.takeWhile_cons, List.takeWhile_cons, first.isEngineBase]
    cases c.isEngineBase with
    | true => exact .nil
    | false => exact .cons first ih

theorem getLastD_rerepresented (paired : List.Forall₂ ClassDecl.Rerepresents cs cs')
    {c c' : ClassDecl} (h : c.Rerepresents c') :
    (cs.getLastD c).Rerepresents (cs'.getLastD c') := by
  induction paired generalizing c c' with
  | nil => exact h
  | cons first _ ih =>
    rw [List.getLastD_cons, List.getLastD_cons]
    exact ih first

end

namespace ClassIndex

def Rerepresents (index index' : ClassIndex) : Prop :=
  List.Forall₂ ClassDecl.Rerepresents index.declarations index'.declarations

variable {index index' : ClassIndex} {c c' : ClassDecl}

theorem Rerepresents.find? (h : index.Rerepresents index') (name : DottedName) :
    Option.Rel ClassDecl.Rerepresents (index.find? name) (index'.find? name) :=
  find?_rerepresented (List.forall₂_reverse_iff.2 h) name

theorem Rerepresents.contains (h : index.Rerepresents index') (name : DottedName) :
    index'.contains name = index.contains name := by
  have found := h.find? name
  unfold ClassIndex.contains
  generalize index.find? name = d, index'.find? name = d' at found ⊢
  cases found <;> rfl

theorem Rerepresents.climb (h : index.Rerepresents index') (steps : Nat) (met : List DottedName)
    (next : Option DottedName) :
    List.Forall₂ ClassDecl.Rerepresents (index.climb steps met next)
      (index'.climb steps met next) := by
  induction steps generalizing met next with
  | zero => exact .nil
  | succ steps ih =>
    have found : Option.Rel ClassDecl.Rerepresents (next.bind index.find?)
        (next.bind index'.find?) := by
      cases next with
      | none => exact .none
      | some name => exact h.find? name
    rw [ClassIndex.climb, ClassIndex.climb]
    generalize next.bind index.find? = d, next.bind index'.find? = d' at found ⊢
    cases found with
    | none => exact .nil
    | @some c c' same =>
      dsimp only
      rw [same.name, same.superClass]
      split
      · exact .nil
      · exact .cons same (ih _ _)

theorem Rerepresents.ancestors (h : index.Rerepresents index') (same : c.Rerepresents c') :
    List.Forall₂ ClassDecl.Rerepresents (index.ancestors c) (index'.ancestors c') := by
  unfold ClassIndex.ancestors
  rw [same.name, same.superClass, ← h.length_eq]
  exact h.climb _ _ _

theorem Rerepresents.inheritedFrom (h : index.Rerepresents index') (same : c.Rerepresents c') :
    Agree InternalFault.kind (List.Forall₂ ClassDecl.Rerepresents) (index.inheritedFrom c)
      (index'.inheritedFrom c') := by
  have walked := h.ancestors same
  have last := getLastD_rerepresented walked same
  unfold ClassIndex.inheritedFrom
  dsimp only
  rw [any_rerepresented walked, last.superClass]
  split
  · exact .ok (takeWhile_rerepresented walked)
  · split
    · next name _ =>
      rw [h.contains]
      split
      · exact .ok walked
      · exact .error rfl
    · exact .ok walked

end ClassIndex

theorem Graph.Rerepresents.index {g g' : Graph} (h : g.Rerepresents g') :
    (ClassIndex.ofGraph g).Rerepresents (.ofGraph g') :=
  List.rel_append h.dependencies h.classes

/-! ### Flattening -/

structure ClassMembers.Permuted (r r' : ClassMembers) : Prop where
  functions : r.functions.Perm r'.functions
  signals : r.signals.Perm r'.signals
  properties : r.properties.Perm r'.properties

theorem flatten_rerepresented {graph graph' : Graph} (graphs : graph.Rerepresents graph')
    {c c' : ClassDecl} (classes : c.Rerepresents c') :
    Agree InternalFault.kind ClassMembers.Permuted
      ((ClassMembers.own c).flatten (.ofGraph graph))
      ((ClassMembers.own c').flatten (.ofGraph graph')) := by
  rw [ClassMembers.flatten_eq, ClassMembers.flatten_eq]
  refine (graphs.index.inheritedFrom classes).bind fun above above' paired => ?_
  have functions := classes.registeredFunctions.firstMissing
    (SameByKey.flatMap paired fun _ _ same => same.registeredFunctions)
  have signals := classes.registeredSignals.firstMissing
    (SameByKey.flatMap paired fun _ _ same => same.registeredSignals)
  have properties := classes.registeredProperties.firstMissing
    (SameByKey.flatMap paired fun _ _ same => same.registeredProperties)
  have oneWay : ∀ x e y e', c.standIn x = .error e → c.standIn y = .error e' → e.kind = e'.kind :=
    fun _ _ _ _ failed failed' =>
      (ClassDecl.standIn_error failed).trans (ClassDecl.standIn_error failed').symm
  have chosen := mapM_perm oneWay properties.perm
  simp only [ClassMembers.own, classes.standIn]
  refine chosen.bind fun added added' perm => .ok ?_
  exact {
    functions := classes.registeredFunctions.perm.append functions.perm
    signals := classes.registeredSignals.perm.append signals.perm
    properties := classes.registeredProperties.perm.append perm }

/-! ### Compiling a graph -/

def Members.compiled : Members → Members
  | .listed declarations => .scoped (.ofList declarations)
  | .scoped scope => .scoped scope

def ClassDecl.compiled (c : ClassDecl) : ClassDecl := { c with members := c.members.compiled }

def Graph.compiled (g : Graph) : Graph :=
  { g with
    classes := g.classes.map ClassDecl.compiled
    dependencies := g.dependencies.map ClassDecl.compiled }

theorem ClassDecl.rerepresents_compiled (c : ClassDecl) : c.Rerepresents c.compiled where
  rest := rfl
  members := by
    unfold compiled
    rcases c.members with declarations | scope
    · exact .filed declarations
    · exact .same _

theorem Graph.rerepresents_compiled (g : Graph) : g.Rerepresents g.compiled := by
  have all : ∀ cs : List ClassDecl,
      List.Forall₂ ClassDecl.Rerepresents cs (cs.map ClassDecl.compiled) := fun cs =>
    List.forall₂_map_right_iff.2 (List.forall₂_same.2 fun c _ => c.rerepresents_compiled)
  exact ⟨all _, all _, rfl⟩

theorem boss_compiled :
    Sample.graph.Rerepresents Sample.graph.compiled ∧
      Sample.boss.Rerepresents Sample.boss.compiled ∧
      ∃ r r', (ClassMembers.own Sample.boss).flatten (.ofGraph Sample.graph) = .ok r ∧
        (ClassMembers.own Sample.boss.compiled).flatten (.ofGraph Sample.graph.compiled) = .ok r' ∧
        r.names.1 = ["game.Boss.rage", "game.Boss.act", "game.Mob.hit"] ∧
        r'.names.1 = ["game.Boss.act", "game.Boss.rage", "game.Mob.hit"] ∧
        r.Permuted r' := by
  have graphs := Sample.graph.rerepresents_compiled
  have classes := Sample.boss.rerepresents_compiled
  obtain ⟨r, flattened, names⟩ := exists_ok_of_map
    (x := (ClassMembers.own Sample.boss).flatten (.ofGraph Sample.graph)) (f := (·.names.1))
    (v := ["game.Boss.rage", "game.Boss.act", "game.Mob.hit"]) (by decide +kernel)
  obtain ⟨r', flattened', names'⟩ := exists_ok_of_map
    (x := (ClassMembers.own Sample.boss.compiled).flatten (.ofGraph Sample.graph.compiled))
    (f := (·.names.1))
    (v := ["game.Boss.act", "game.Boss.rage", "game.Mob.hit"]) (by decide +kernel)
  have both := flatten_rerepresented graphs classes
  rw [flattened, flattened'] at both
  cases both with
  | ok permuted => exact ⟨graphs, classes, r, r', flattened, flattened', names, names', permuted⟩

end ScriptRegistrar
