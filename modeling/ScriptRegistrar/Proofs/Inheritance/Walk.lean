import Mathlib.Logic.Relation
import ScriptRegistrar.Inheritance

namespace ScriptRegistrar.ClassIndex

/-- The classes met from `next` on. The walk ends at a name that the index lacks and at a class
whose name was met before. -/
inductive Walk (index : ClassIndex) : List DottedName → Option DottedName → List ClassDecl → Prop
  | unknown {met next} (missing : next.bind index.find? = none) : Walk index met next []
  | closed {met next c} (found : next.bind index.find? = some c) (known : c.name ∈ met) :
    Walk index met next []
  | step {met next c rest} (found : next.bind index.find? = some c) (fresh : c.name ∉ met)
    (later : Walk index (c.name :: met) c.superClass rest) : Walk index met next (c :: rest)

/-- A walk from the superclass of `c`, which must not come back to `c`. -/
def Chain (index : ClassIndex) (c : ClassDecl) (chain : List ClassDecl) : Prop :=
  index.Walk [c.name] c.superClass chain

theorem mem_of_find? {index : ClassIndex} {next : Option DottedName} {c : ClassDecl}
    (found : next.bind index.find? = some c) : c ∈ index.declarations := by
  obtain ⟨name, -, found⟩ := Option.bind_eq_some_iff.1 found
  exact List.mem_reverse.1 (List.mem_of_find?_eq_some found)

/-- The declarations whose names are not met yet bound the steps that are left. -/
theorem climb_walk {index : ClassIndex} {steps : Nat} {met : List DottedName}
    {next : Option DottedName}
    (enough : (index.declarations.filter fun d => d.name ∉ met).length ≤ steps) :
    index.Walk met next (index.climb steps met next) := by
  induction steps generalizing met next with
  | zero =>
    cases found : next.bind index.find? with
    | none => exact .unknown found
    | some c =>
      refine .closed found ?_
      have none := List.eq_nil_of_length_eq_zero (Nat.le_zero.1 enough)
      simpa using List.filter_eq_nil_iff.1 none c (mem_of_find? found)
  | succ steps ih =>
    rw [climb]
    split
    · next missing => exact .unknown missing
    · next c found =>
      split
      · next known => exact .closed found known
      · next fresh =>
        refine .step found fresh (ih ?_)
        have fewer : (index.declarations.filter fun d => d.name ∉ c.name :: met).length <
            (index.declarations.filter fun d => d.name ∉ met).length := by
          have narrowed : (index.declarations.filter fun d => d.name ∉ c.name :: met) =
              (index.declarations.filter fun d => d.name ∉ met).filter fun d =>
                d.name ≠ c.name := by
            rw [List.filter_filter]
            refine List.filter_congr fun d _ => ?_
            simp [not_or]
          rw [narrowed, List.length_filter_lt_length_iff_exists]
          refine ⟨c, List.mem_filter.2 ⟨mem_of_find? found, by simpa using fresh⟩, by simp⟩
        omega

theorem ancestors_chain (index : ClassIndex) (c : ClassDecl) :
    index.Chain c (index.ancestors c) :=
  climb_walk (List.length_filter_le _ _)

theorem Walk.unique {index : ClassIndex} {met : List DottedName} {next : Option DottedName}
    {chain other : List ClassDecl} (h : index.Walk met next chain)
    (h' : index.Walk met next other) : chain = other := by
  induction h generalizing other with
  | unknown missing =>
    cases h' with
    | unknown => rfl
    | closed => rfl
    | step found => rw [missing] at found; cases found
  | closed found known =>
    cases h' with
    | unknown => rfl
    | closed => rfl
    | step found' fresh =>
      rw [found] at found'
      cases found'
      exact absurd known fresh
  | step found fresh later ih =>
    cases h' with
    | unknown missing => rw [missing] at found; cases found
    | closed found' known =>
      rw [found] at found'
      cases found'
      exact absurd known fresh
    | step found' _ later' =>
      rw [found] at found'
      cases found'
      rw [ih later']

theorem Chain.eq_ancestors {index : ClassIndex} {c : ClassDecl} {chain : List ClassDecl}
    (h : index.Chain c chain) : chain = index.ancestors c :=
  Walk.unique h (index.ancestors_chain c)

/-! ### Hierarchies without cycles -/

/-- The class that the index has under its own name. -/
def Holds (index : ClassIndex) (c : ClassDecl) : Prop := index.find? c.name = some c

/-- `s` is the direct superclass of `c`, both as the index has them. -/
structure Extends (index : ClassIndex) (c s : ClassDecl) : Prop where
  holds : index.Holds c
  superClass : index.superClass? c = some s

def Acyclic (index : ClassIndex) : Prop := ∀ c, ¬ Relation.TransGen index.Extends c c

variable {index : ClassIndex} {c s : ClassDecl}

theorem Holds.mem (h : index.Holds c) : c ∈ index.declarations :=
  List.mem_reverse.1 (List.mem_of_find?_eq_some h)

theorem holds_of_superClass? (found : index.superClass? c = some s) : index.Holds s := by
  obtain ⟨name, -, found⟩ := Option.bind_eq_some_iff.1 found
  have named : s.name = name := by simpa using List.find?_some found
  rw [Holds, named, found]

theorem Extends.holds_super (h : index.Extends c s) : index.Holds s :=
  holds_of_superClass? h.superClass

theorem Holds.eq_of_name (h : index.Holds c) (h' : index.Holds s) (same : c.name = s.name) :
    c = s := by
  rw [Holds, same, h'] at h
  exact (Option.some.inj h).symm

/-- A class above another one is not that class, and has another name. -/
theorem Acyclic.name_ne (acyclic : index.Acyclic) (hc : index.Holds c) (hs : index.Holds s)
    (above : Relation.TransGen index.Extends c s) : s.name ≠ c.name := by
  intro same
  obtain rfl := hs.eq_of_name hc same
  exact acyclic s above

/-! ### Walks -/

variable {met met' : List DottedName} {next : Option DottedName} {chain : List ClassDecl}

theorem Walk.above (walk : index.Walk met next chain) (holds : index.Holds c)
    (start : next = c.superClass) :
    ∀ a ∈ chain, index.Holds a ∧ Relation.TransGen index.Extends c a := by
  induction walk generalizing c with
  | unknown => simp
  | closed => simp
  | @step met next d rest found fresh later ih =>
    subst start
    have step : index.Extends c d := ⟨holds, found⟩
    intro a member
    rcases List.mem_cons.1 member with rfl | member
    · exact ⟨step.holds_super, .single step⟩
    · obtain ⟨held, above⟩ := ih step.holds_super rfl a member
      exact ⟨held, above.head step⟩

theorem Walk.fresh (walk : index.Walk met next chain) : ∀ a ∈ chain, a.name ∉ met := by
  induction walk with
  | unknown => simp
  | closed => simp
  | step found fresh later ih =>
    intro a member
    rcases List.mem_cons.1 member with rfl | member
    · exact fresh
    · exact fun known => ih a member (List.mem_cons_of_mem _ known)

/-- Names that a walk does not meet may count as met from the start. -/
theorem Walk.widen (walk : index.Walk met next chain) (more : met ⊆ met')
    (apart : ∀ a ∈ chain, a.name ∉ met') : index.Walk met' next chain := by
  induction walk generalizing met' with
  | unknown missing => exact .unknown missing
  | closed found known => exact .closed found (more known)
  | @step met next d rest found fresh later ih =>
    refine .step found (apart d List.mem_cons_self) (ih (List.cons_subset_cons _ more) ?_)
    intro a member known
    rcases List.mem_cons.1 known with same | known
    · exact later.fresh a member (same ▸ List.mem_cons_self)
    · exact apart a (List.mem_cons_of_mem _ member) known

theorem Acyclic.ancestors_eq (acyclic : index.Acyclic) (direct : index.Extends c s) :
    index.ancestors c = s :: index.ancestors s := by
  have walk := index.ancestors_chain s
  have held := direct.holds_super
  refine (Chain.eq_ancestors (.step direct.superClass ?_ ?_)).symm
  · rw [List.mem_singleton]
    exact acyclic.name_ne direct.holds held (.single direct)
  · refine Walk.widen walk (by simp) fun a member => ?_
    obtain ⟨holds, above⟩ := Walk.above walk held rfl a member
    have other := acyclic.name_ne held holds above
    have other' := acyclic.name_ne direct.holds holds (above.head direct)
    simp [other, other']

theorem Acyclic.userAncestors_eq (acyclic : index.Acyclic) (direct : index.Extends c s)
    (user : s.isEngineBase = false) :
    index.userAncestors c = s :: index.userAncestors s := by
  rw [userAncestors, acyclic.ancestors_eq direct, List.takeWhile_cons]
  simp [user, userAncestors]

/-- Numbers that fall from each class of the index to its superclass. -/
theorem acyclic_of_rank (rank : DottedName → Nat)
    (falls : ∀ c ∈ index.declarations, ∀ s ∈ index.superClass? c, rank s.name < rank c.name) :
    index.Acyclic := by
  have above : ∀ c s, Relation.TransGen index.Extends c s → rank s.name < rank c.name := by
    intro c s h
    induction h with
    | single step => exact falls _ step.holds.mem _ step.superClass
    | tail _ step ih => exact Nat.lt_trans (falls _ step.holds.mem _ step.superClass) ih
  exact fun c cycle => Nat.lt_irrefl _ (above c c cycle)

end ScriptRegistrar.ClassIndex
