import ScriptRegistrar.Proofs.Inheritance.Flattening

/-!
# Declarations that are equal and not the same

Whoever looks for an override can pass over the declarations that are kept already, which takes
their identities and not only what they say. It makes no difference.
-/

namespace ScriptRegistrar

/-- What is declared under an identity, and the identities of each class's own properties. -/
structure Identities (ι : Type) where
  declaration : ι → PropertyDecl
  own : ClassDecl → List ι
  own_declarations : ∀ c, (own c).map declaration = c.members.properties

namespace Identities

/-- A property is known by its class and its place in there. -/
def places : Identities (ClassDecl × Nat) where
  declaration place := place.1.members.properties.getD place.2 default
  own c := (List.range c.members.properties.length).map fun i => (c, i)
  own_declarations c := by
    refine List.ext_getElem (by simp) fun i _ inside => ?_
    simp [List.getElem?_eq_getElem inside]

instance : Nonempty (Identities (ClassDecl × Nat)) := ⟨places⟩

section
variable {ι : Type} (ids : Identities ι)

def signature (i : ι) : PropertyDecl.Signature := (ids.declaration i).signature

def registered (c : ClassDecl) : List ι :=
  (ids.own c).filter fun i => (ids.declaration i).isRegisteredProperty

theorem registered_declarations (c : ClassDecl) :
    (ids.registered c).map ids.declaration = c.members.registeredProperties := by
  unfold registered Members.registeredProperties
  rw [← ids.own_declarations c, List.filter_map]
  rfl

end

variable {ι : Type} [DecidableEq ι] (ids : Identities ι)

/-- The class's own properties of a signature, but for those that are `passed` over. -/
def candidates (c : ClassDecl) (passed : List ι) (s : PropertyDecl.Signature) : List ι :=
  (ids.own c).filter fun i =>
    !(ids.declaration i).isRegisteredSignal && !passed.contains i && ids.signature i = s

/-- The class's own property in place of `inherited`. There must not be two of them. -/
def override? (c : ClassDecl) (passed : List ι) (inherited : ι) :
    Except InternalFault (Option ι) :=
  match ids.candidates c passed (ids.signature inherited) with
  | [] => .ok none
  | [i] => .ok (some i)
  | _ => .error (.ambiguousOverride c.name (ids.declaration inherited).name)

/-- Adds an inherited property, or the override in its place, unless its signature is there. With
`apart`, the search for the override passes over what is kept. -/
def addProperty (apart : Bool) (c : ClassDecl) (kept : List ι) (inherited : ι) :
    Except InternalFault (List ι) :=
  if kept.any fun i => ids.signature i = ids.signature inherited then .ok kept
  else do
    let override ← ids.override? c (if apart then kept else []) inherited
    return kept ++ [override.getD inherited]

def flatten (apart : Bool) (index : ClassIndex) (c : ClassDecl) (kept : List ι) :
    Except InternalFault (List ι) := do
  let ancestors ← index.inheritedFrom c
  (ancestors.flatMap ids.registered).foldlM (ids.addProperty apart c) kept

/-! ### With and without a look at what is kept -/

theorem candidates_apart {c : ClassDecl} {kept : List ι} {s : PropertyDecl.Signature}
    (absent : ∀ i ∈ kept, ids.signature i ≠ s) :
    ids.candidates c kept s = ids.candidates c [] s := by
  refine List.filter_congr fun i _ => ?_
  by_cases wanted : ids.signature i = s
  · have new : i ∉ kept := fun member => absent i member wanted
    simp [new]
  · simp [wanted]

theorem addProperty_apart (c : ClassDecl) :
    ids.addProperty true c = ids.addProperty false c := by
  funext kept inherited
  unfold addProperty
  split
  · rfl
  · next absent =>
    have absent : ∀ i ∈ kept, ids.signature i ≠ ids.signature inherited := by
      simpa using absent
    unfold override?
    rw [if_pos rfl, if_neg Bool.false_ne_true, ids.candidates_apart absent]

theorem flatten_apart (index : ClassIndex) (c : ClassDecl) (kept : List ι) :
    ids.flatten true index c kept = ids.flatten false index c kept := by
  unfold flatten
  rw [ids.addProperty_apart]

/-! ### What is declared -/

theorem candidates_declarations (c : ClassDecl) (s : PropertyDecl.Signature) :
    (ids.candidates c [] s).map ids.declaration = c.declared s := by
  unfold candidates ClassDecl.declared
  rw [← ids.own_declarations c, List.filter_map]
  simp only [List.contains_nil, Bool.not_false, Bool.and_true]
  rfl

theorem override?_declaration (c : ClassDecl) (inherited : ι) :
    (ids.override? c [] inherited).map (Option.map ids.declaration) =
      c.override? (ids.declaration inherited) := by
  have same := ids.candidates_declarations c (ids.signature inherited)
  rw [ClassDecl.declared, signature] at same
  unfold override? ClassDecl.override? signature
  rw [← same]
  rcases ids.candidates c [] (ids.declaration inherited).signature with _ | ⟨i, _ | ⟨j, rest⟩⟩
  · rfl
  · rfl
  · rfl

theorem addProperty_declarations (c : ClassDecl) (kept : List ι) (inherited : ι) :
    (ids.addProperty false c kept inherited).map (List.map ids.declaration) =
      ClassMembers.addProperty c (kept.map ids.declaration) (ids.declaration inherited) := by
  have present : (kept.map ids.declaration).any
      (fun p => p.signature = (ids.declaration inherited).signature) =
      kept.any fun i => ids.signature i = ids.signature inherited := List.any_map
  rw [addProperty, ClassMembers.addProperty, present, ← ids.override?_declaration]
  split
  · rfl
  · rw [if_neg Bool.false_ne_true]
    cases ids.override? c [] inherited with
    | error e => rfl
    | ok override => cases override <;> simp [Except.map]

theorem foldlM_addProperty (c : ClassDecl) (walk kept : List ι) :
    (walk.foldlM (ids.addProperty false c) kept).map (List.map ids.declaration) =
      (walk.map ids.declaration).foldlM (ClassMembers.addProperty c)
        (kept.map ids.declaration) := by
  induction walk generalizing kept with
  | nil => rfl
  | cons i walk ih =>
    rw [List.map_cons, List.foldlM_cons, List.foldlM_cons, ← ids.addProperty_declarations]
    cases ids.addProperty false c kept i with
    | error e => rfl
    | ok next => exact ih next

theorem flatten_declarations {m : ClassMembers} {kept : List ι}
    (same : kept.map ids.declaration = m.properties) (index : ClassIndex) :
    (ids.flatten false index m.owner kept).map (List.map ids.declaration) =
      (m.flatten index).map ClassMembers.properties := by
  unfold flatten ClassMembers.flatten
  cases index.inheritedFrom m.owner with
  | error e => rfl
  | ok ancestors =>
    have walk : (ancestors.flatMap ids.registered).map ids.declaration =
        ancestors.flatMap (·.members.registeredProperties) := by
      rw [List.map_flatMap]
      exact List.flatMap_congr fun a _ => ids.registered_declarations a
    rw [ok_bind, ok_bind, ids.foldlM_addProperty, walk, same]
    dsimp only
    cases List.foldlM (ClassMembers.addProperty m.owner) m.properties
        (ancestors.flatMap (·.members.registeredProperties)) with
    | error e => rfl
    | ok properties => rfl

end Identities

end ScriptRegistrar
