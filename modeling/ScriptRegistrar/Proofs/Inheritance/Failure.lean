import ScriptRegistrar.Proofs.Inheritance.Identity

namespace ScriptRegistrar

namespace ClassIndex

/-- The walk `chain` from `c` meets no class of the engine and ends at `last`, the superclass of
which the index lacks. -/
structure Loses (index : ClassIndex) (c : ClassDecl) (chain : List ClassDecl) (last : ClassDecl)
    (superClass : DottedName) : Prop where
  user : ∀ a ∈ chain, a.isEngineBase = false
  ends : chain.getLastD c = last
  named : last.superClass = some superClass
  unknown : index.find? superClass = none

/-- The walk has a class of the engine on it, or it ends where no superclass is missing. -/
def Resolves (index : ClassIndex) (c : ClassDecl) (chain : List ClassDecl) : Prop :=
  ∀ last superClass, ¬ index.Loses c chain last superClass

variable {index : ClassIndex} {c last : ClassDecl} {name : DottedName}

theorem resolves_of_engineBase? {base : ClassDecl} (found : index.engineBase? c = some base) :
    index.Resolves c (index.ancestors c) := by
  intro last superClass lost
  have user := lost.user base (List.mem_of_find?_eq_some found)
  rw [List.find?_some found] at user
  cases user

theorem Loses.inheritedFrom (lost : index.Loses c (index.ancestors c) last name) :
    index.inheritedFrom c = .error (.unresolvedSuperclass last.name name) := by
  have noEngine : (index.ancestors c).any (·.isEngineBase) = false := by
    simpa using lost.user
  have missing : index.contains name = false := by
    simp [contains, lost.unknown]
  unfold ClassIndex.inheritedFrom
  dsimp only
  rw [noEngine, if_neg Bool.false_ne_true, lost.ends, lost.named]
  dsimp only
  rw [missing, if_neg Bool.false_ne_true]

theorem inheritedFrom_of_resolved (resolved : index.Resolves c (index.ancestors c)) :
    index.inheritedFrom c = .ok (index.userAncestors c) := by
  cases walked : index.inheritedFrom c with
  | ok ancestors => rw [inheritedFrom_ok walked]
  | error e =>
    exfalso
    unfold inheritedFrom at walked
    dsimp only at walked
    split at walked
    · cases walked
    · next noEngine =>
      split at walked
      · next name named =>
        split at walked
        · cases walked
        · next missing =>
          refine resolved _ name ⟨by simpa using noEngine, rfl, named, ?_⟩
          simpa [contains] using missing
      · cases walked

end ClassIndex

/-! ### Overrides -/

namespace ClassDecl

/-- A signature that the classes in `above` register and the class does not, although it declares
more than one property of it. -/
structure Ambiguous (c : ClassDecl) (above : List ClassDecl) (s : PropertyDecl.Signature) :
    Prop where
  inherited : s ∈ (above.flatMap (·.members.registeredProperties)).map PropertyDecl.signature
  unregistered : s ∉ c.members.registeredProperties.map PropertyDecl.signature
  declared : 2 ≤ (c.declared s).length

end ClassDecl

namespace ClassMembers

variable {index : ClassIndex} {c : ClassDecl}

theorem flatten_ends (resolved : index.Resolves c (index.ancestors c)) :
    Ends (fun _ => ∀ s, ¬ c.Ambiguous (index.userAncestors c) s)
      (fun e => ∃ s, c.Ambiguous (index.userAncestors c) s ∧ e = .ambiguousOverride c.name s.name)
      ((own c).flatten index) := by
  rw [flatten_eq]
  dsimp only [own]
  rw [ClassIndex.inheritedFrom_of_resolved resolved, ok_bind]
  have missing : ∀ p, p ∈ firstMissing PropertyDecl.signature
      (c.members.registeredProperties.map PropertyDecl.signature)
      ((index.userAncestors c).flatMap (·.members.registeredProperties)) →
      Ends (fun _ => (c.declared p.signature).length < 2)
        (fun e => ∃ s, c.Ambiguous (index.userAncestors c) s ∧
          e = .ambiguousOverride c.name s.name) (c.standIn p) := by
    intro p member
    obtain ⟨walked, fresh⟩ := mem_firstMissing member
    refine (c.standIn_decides p).mono (fun _ few => few) ?_
    rintro e ⟨many, rfl⟩
    exact ⟨p.signature, ⟨List.mem_map_of_mem walked, fresh, Nat.le_of_not_lt many⟩, rfl⟩
  refine (Ends.mapM_inputs missing).bind fun added few => .ok ?_
  rintro s ⟨inherited, unregistered, many⟩
  obtain ⟨p, member, rfl⟩ := List.mem_map.1 (mem_keys_firstMissing.2 ⟨inherited, unregistered⟩)
  exact absurd many (Nat.not_le_of_lt (few p member))

end ClassMembers

/-! ### The outcome of flattening -/

/-- How flattening the class `c` ends, where `chain` is the walk along its superclasses. -/
structure ClassDecl.FlattensAlong (c : ClassDecl) (index : ClassIndex) (chain : List ClassDecl) :
    Prop where
  unresolved : ∀ owner superClass, (ClassMembers.own c).flatten index =
    .error (.unresolvedSuperclass owner superClass) ↔
      ∃ last, index.Loses c chain last superClass ∧ last.name = owner
  ambiguous : index.Resolves c chain →
    ((∃ owner property, (ClassMembers.own c).flatten index =
      .error (.ambiguousOverride owner property)) ↔
        ∃ s, c.Ambiguous (chain.takeWhile (!·.isEngineBase)) s)
  ambiguity : ∀ owner property, (ClassMembers.own c).flatten index =
    .error (.ambiguousOverride owner property) →
      owner = c.name ∧ ∃ s, c.Ambiguous (chain.takeWhile (!·.isEngineBase)) s ∧ s.name = property
  succeeds : index.Resolves c chain →
    (∀ s, ¬ c.Ambiguous (chain.takeWhile (!·.isEngineBase)) s) →
      ∃ r, (ClassMembers.own c).flatten index = .ok r

namespace ClassMembers

variable {index : ClassIndex} {c : ClassDecl}

theorem flatten_of_lost {last : ClassDecl} {superClass : DottedName}
    (lost : index.Loses c (index.ancestors c) last superClass) :
    (own c).flatten index = .error (.unresolvedSuperclass last.name superClass) := by
  rw [flatten_eq]
  dsimp only [own]
  rw [lost.inheritedFrom]
  rfl

theorem flattens_along_ancestors (index : ClassIndex) (c : ClassDecl) :
    c.FlattensAlong index (index.ancestors c) := by
  constructor
  case unresolved =>
    intro owner superClass
    constructor
    · intro failed
      by_contra kept
      by_cases resolved : index.Resolves c (index.ancestors c)
      · obtain ⟨s, -, other⟩ := (flatten_ends resolved).bad_of_error failed
        cases other
      · simp only [ClassIndex.Resolves, not_forall, not_not] at resolved
        obtain ⟨last, name, lost⟩ := resolved
        rw [flatten_of_lost lost] at failed
        cases failed
        exact kept ⟨last, lost, rfl⟩
    · rintro ⟨last, lost, rfl⟩
      exact flatten_of_lost lost
  case ambiguous =>
    intro resolved
    have ends := flatten_ends resolved
    constructor
    · rintro ⟨owner, property, failed⟩
      obtain ⟨s, ambiguous, -⟩ := ends.bad_of_error failed
      exact ⟨s, ambiguous⟩
    · rintro ⟨s, ambiguous⟩
      cases flattened : (own c).flatten index with
      | ok r => exact absurd ambiguous (ends.good_of_ok flattened s)
      | error e =>
        obtain ⟨s', -, rfl⟩ := ends.bad_of_error flattened
        exact ⟨_, _, rfl⟩
  case ambiguity =>
    intro owner property failed
    have resolved : index.Resolves c (index.ancestors c) := by
      intro last name lost
      rw [flatten_of_lost lost] at failed
      cases failed
    obtain ⟨s, ambiguous, same⟩ := (flatten_ends resolved).bad_of_error failed
    cases same
    exact ⟨rfl, s, ambiguous, rfl⟩
  case succeeds =>
    intro resolved single
    cases flattened : (own c).flatten index with
    | ok r => exact ⟨r, rfl⟩
    | error e =>
      obtain ⟨s, ambiguous, -⟩ := (flatten_ends resolved).bad_of_error flattened
      exact absurd ambiguous (single s)

end ClassMembers

/-- Whether the search for an override passes over what is kept makes no difference, and with or
without it the properties are those that `ClassMembers.flatten` finds. -/
theorem flatten_fails_exactly (graph : Graph) (c : ClassDecl) :
    ∃ chain, (ClassIndex.ofGraph graph).Chain c chain ∧
      c.FlattensAlong (.ofGraph graph) chain ∧
      ∀ (ι : Type) [DecidableEq ι] (ids : Identities ι),
        (∀ kept, ids.flatten true (.ofGraph graph) c kept =
          ids.flatten false (.ofGraph graph) c kept) ∧
        (ids.flatten false (.ofGraph graph) c (ids.registered c)).map (List.map ids.declaration) =
          ((ClassMembers.own c).flatten (.ofGraph graph)).map ClassMembers.properties := by
  refine ⟨_, ClassIndex.ancestors_chain _ c, ClassMembers.flattens_along_ancestors _ c, ?_⟩
  intro ι _ ids
  exact ⟨ids.flatten_apart _ c,
    ids.flatten_declarations (m := .own c) (ids.registered_declarations c) _⟩

namespace Sample

/-- `Lower` declares twice, without registering it, what `Upper` registers, and each of the two is
the superclass of the other. -/
def lower : ClassDecl where
  name := .parse "game.Lower"
  superClass := some (.parse "game.Upper")
  members := .listed [.property (health "game.Lower"), .property (health "game.Lower")]

def upper : ClassDecl where
  name := .parse "game.Upper"
  superClass := some (.parse "game.Lower")
  members := .listed [.property (health "game.Upper").registered]

def circle : ClassIndex := .ofGraph { classes := [lower, upper] }

end Sample

example : ((ClassMembers.own Sample.lower).flatten Sample.circle).map ClassMembers.names =
    .error (.ambiguousOverride (.parse "game.Lower") "health") := by
  decide +kernel

example : ((ClassMembers.own Sample.upper).flatten Sample.circle).map ClassMembers.names =
    .ok ([], [], ["game.Upper.health"]) := by
  decide +kernel

end ScriptRegistrar
