import Mathlib.Data.List.Nodup
import ScriptRegistrar.Proofs.Inheritance.Failure

namespace ScriptRegistrar.ClassIndex

/-- Each class of the line is the superclass of the one before it, as the index has it, and no name
comes twice on the way from `c`. -/
structure Line (index : ClassIndex) (c : ClassDecl) (line : List ClassDecl) : Prop where
  linked : (c :: line).IsChain fun a b => index.superClass? a = some b
  distinct : ((c :: line).map ClassDecl.name).Nodup

variable {index : ClassIndex} {c a : ClassDecl} {met : List DottedName} {next : Option DottedName}
  {chain line : List ClassDecl}

/-! ### The walk is a line -/

theorem Walk.linked (walk : index.Walk met next chain) (start : next = a.superClass) :
    (a :: chain).IsChain fun a b => index.superClass? a = some b := by
  induction walk generalizing a with
  | unknown => exact .singleton a
  | closed => exact .singleton a
  | step found fresh later ih =>
    subst start
    exact .cons_cons found (ih rfl)

theorem Walk.distinct (walk : index.Walk met next chain) : (chain.map ClassDecl.name).Nodup := by
  induction walk with
  | unknown => exact .nil
  | closed => exact .nil
  | step found fresh later ih =>
    refine List.nodup_cons.2 ⟨fun again => ?_, ih⟩
    obtain ⟨b, member, same⟩ := List.mem_map.1 again
    exact later.fresh b member (same ▸ List.mem_cons_self)

theorem ancestors_line (index : ClassIndex) (c : ClassDecl) : index.Line c (index.ancestors c) where
  linked := Walk.linked (index.ancestors_chain c) rfl
  distinct := by
    refine List.nodup_cons.2 ⟨fun again => ?_, (index.ancestors_chain c).distinct⟩
    obtain ⟨b, member, same⟩ := List.mem_map.1 again
    exact Walk.fresh (index.ancestors_chain c) b member (same ▸ List.mem_cons_self)

/-! ### No line is longer -/

/-- A line that meets none of the names met before goes the way of the walk: where the walk ends,
so must the line. -/
theorem Walk.isPrefix_of_linked (walk : index.Walk met next chain) (start : next = a.superClass)
    (linked : (a :: line).IsChain fun a b => index.superClass? a = some b)
    (distinct : (line.map ClassDecl.name).Nodup) (fresh : ∀ b ∈ line, b.name ∉ met) :
    line <+: chain := by
  induction walk generalizing a line with
  | unknown missing =>
    subst start
    cases line with
    | nil => exact List.nil_prefix
    | cons b line =>
      have above : index.superClass? a = some b := (List.isChain_cons_cons.1 linked).1
      cases missing.symm.trans above
  | @closed met next d found known =>
    subst start
    cases line with
    | nil => exact List.nil_prefix
    | cons b line =>
      have above : index.superClass? a = some b := (List.isChain_cons_cons.1 linked).1
      obtain rfl : d = b := Option.some.inj (found.symm.trans above)
      exact absurd known (fresh d List.mem_cons_self)
  | @step met next d rest found new later ih =>
    subst start
    cases line with
    | nil => exact List.nil_prefix
    | cons b line =>
      obtain ⟨above, linked⟩ := List.isChain_cons_cons.1 linked
      obtain rfl : d = b := Option.some.inj (found.symm.trans above)
      obtain ⟨once, distinct⟩ := List.nodup_cons.1 distinct
      refine (List.prefix_cons_inj d).2 (ih rfl linked distinct fun e member known => ?_)
      rcases List.mem_cons.1 known with same | known
      · exact once (same ▸ List.mem_map_of_mem member)
      · exact fresh e (List.mem_cons_of_mem _ member) known

theorem Line.isPrefix (h : index.Line c line) : line <+: index.ancestors c := by
  obtain ⟨once, distinct⟩ := List.nodup_cons.1 h.distinct
  refine Walk.isPrefix_of_linked (index.ancestors_chain c) rfl h.linked distinct ?_
  intro b member known
  exact once (List.mem_singleton.1 known ▸ List.mem_map_of_mem member)

/-! ### The number of steps -/

theorem Walk.declared (walk : index.Walk met next chain) : ∀ b ∈ chain, b ∈ index.declarations := by
  induction walk with
  | unknown => simp
  | closed => simp
  | step found fresh later ih => exact List.forall_mem_cons.2 ⟨mem_of_find? found, ih⟩

theorem length_ancestors_le (index : ClassIndex) (c : ClassDecl) :
    (index.ancestors c).length ≤ index.size := by
  have walk := index.ancestors_chain c
  rw [← List.length_map (f := ClassDecl.name), size]
  refine (Walk.distinct walk).length_le_of_subset fun name known => ?_
  obtain ⟨b, member, rfl⟩ := List.mem_map.1 known
  exact List.mem_eraseDups.2 (List.mem_map_of_mem (Walk.declared walk b member))

/-- More steps than the walk has make no difference. -/
theorem Walk.climb_eq (walk : index.Walk met next chain) {steps : Nat}
    (enough : chain.length ≤ steps) : index.climb steps met next = chain := by
  induction walk generalizing steps with
  | unknown missing =>
    cases steps with
    | zero => rfl
    | succ steps => rw [climb, missing]
  | closed found known =>
    cases steps with
    | zero => rfl
    | succ steps =>
      rw [climb, found]
      exact if_pos known
  | step found fresh later ih =>
    cases steps with
    | zero => cases enough
    | succ steps =>
      rw [climb, found]
      dsimp only
      rw [if_neg fresh, ih (Nat.le_of_succ_le_succ enough)]

/-- The walk along superclasses ends by itself, at a name that is unknown or was met before, after
at most as many steps as the index has names. It is the longest line of superclasses. -/
theorem ancestors_longest (index : ClassIndex) (c : ClassDecl) :
    index.Chain c (index.ancestors c) ∧ (index.ancestors c).length ≤ index.size ∧
      (∀ steps, index.size ≤ steps →
        index.climb steps [c.name] c.superClass = index.ancestors c) ∧
      index.Line c (index.ancestors c) ∧
      ∀ line, index.Line c line → line <+: index.ancestors c := by
  have walk := index.ancestors_chain c
  have bounded := index.length_ancestors_le c
  exact ⟨walk, bounded, fun _ enough => Walk.climb_eq walk (Nat.le_trans bounded enough),
    index.ancestors_line c, fun _ line => line.isPrefix⟩

end ScriptRegistrar.ClassIndex

namespace ScriptRegistrar

/-- The index lacks this class, and two above it are superclasses of each other. -/
def Sample.stray : ClassDecl where
  name := .parse "game.Stray"
  superClass := some (.parse "game.Upper")

theorem stray_climbs_circle_once :
    Sample.circle.find? Sample.stray.name = none ∧ Sample.circle.size = 2 ∧
      (Sample.circle.ancestors Sample.stray).map ClassDecl.name =
        [.parse "game.Upper", .parse "game.Lower"] ∧
      (Sample.circle.ancestors Sample.stray).length ≤ 2 ∧
      Sample.circle.climb 5 [Sample.stray.name] Sample.stray.superClass =
        Sample.circle.ancestors Sample.stray ∧
      Sample.circle.Line Sample.stray [Sample.upper] ∧
      [Sample.upper] <+: Sample.circle.ancestors Sample.stray := by
  obtain ⟨-, bounded, stable, -, longest⟩ :=
    ClassIndex.ancestors_longest Sample.circle Sample.stray
  have absent : Sample.circle.find? Sample.stray.name = none := rfl
  have two : Sample.circle.size = 2 := by decide +kernel
  have line : Sample.circle.Line Sample.stray [Sample.upper] :=
    ⟨.cons_cons rfl (.singleton _), by decide +kernel⟩
  rw [two] at bounded
  exact ⟨absent, two, by decide +kernel, bounded, stable 5 (two ▸ by decide), line,
    longest _ line⟩

end ScriptRegistrar
