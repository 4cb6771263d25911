import ScriptRegistrar.Declaration.Graph
import ScriptRegistrar.Proofs.DottedName

namespace ScriptRegistrar

inductive Atom where
  | name (n : DottedName)
  | float (value : Float)

namespace Atom

/-- A name that was read from a text. -/
def Parsed : Atom → Prop
  | name n => ∃ text, n = .parse text
  | float _ => True

/-- The atom is what its text is read as. No floating-point number counts. -/
def Exact : Atom → Prop
  | name n => ∃ text, n = .parse text
  | float _ => False

def All (P : Atom → Prop) (atoms : List Atom) : Prop := ∀ a ∈ atoms, P a

end Atom

/-! ### The atoms of a declaration -/

namespace ResolvedType

mutual
def atoms : ResolvedType → List Atom
  | ⟨name, _, arguments, supertypes, _⟩ =>
    .name name :: (atomsOf arguments ++ supertypes.map .name)
def atomsOf : List ResolvedType → List Atom
  | [] => []
  | t :: ts => atoms t ++ atomsOf ts
end

end ResolvedType

namespace ArgumentValue

mutual
def atoms : ArgumentValue → List Atom
  | .double value => [.float value]
  | .enumEntry container _ => [.name container]
  | .array values => atomsOf values
  | _ => []
def atomsOf : List ArgumentValue → List Atom
  | [] => []
  | value :: values => atoms value ++ atomsOf values
end

end ArgumentValue

def AnnotationUse.atoms (a : AnnotationUse) : List Atom :=
  .name a.name :: a.arguments.values.flatMap ArgumentValue.atoms

def Annotations.atoms (annotations : Annotations) : List Atom :=
  annotations.flatMap AnnotationUse.atoms

def Constant.atoms : Constant → List Atom
  | .float value => [.float value]
  | .double value => [.float value]
  | _ => []

def Reference.atoms (r : Reference) : List Atom := [.name r.container]

namespace Expr

mutual
def atoms : Expr → List Atom
  | .constant value => value.atoms
  | .unary _ operand => atoms operand
  | .template _ => []
  | .member receiver selector target =>
    atoms receiver ++ atoms selector ++ target.toList.flatMap Reference.atoms
  | .call callee _ typeArguments arguments trailing =>
    .name callee :: (typeArguments.map .name ++ atomsOf arguments ++ atomsOfOption trailing)
  | .binary left op right => atoms left ++ atoms op ++ atoms right
  | .name _ target => target.toList.flatMap Reference.atoms
  | .operator _ => []
  | .lambda mapped _ => mapped.toList.map .name
def atomsOf : List Expr → List Atom
  | [] => []
  | e :: es => atoms e ++ atomsOf es
def atomsOfOption : Option Expr → List Atom
  | none => []
  | some e => atoms e
end

end Expr

def Parameter.atoms (p : Parameter) : List Atom := p.type.atoms

def FunctionDecl.atoms (f : FunctionDecl) : List Atom :=
  .name f.owner :: (f.parameters.flatMap Parameter.atoms ++
    f.returnType.toList.flatMap ResolvedType.atoms ++ f.annotations.atoms)

def PropertyDecl.atoms (p : PropertyDecl) : List Atom :=
  .name p.owner :: (p.type.atoms ++ p.annotations.atoms ++
    p.initializer.toList.flatMap Expr.atoms ++ p.delegate.toList.flatMap Expr.atoms)

def ConstructorDecl.atoms (c : ConstructorDecl) : List Atom := c.parameters.flatMap Parameter.atoms

def MemberDecl.atoms : MemberDecl → List Atom
  | .function f => f.atoms
  | .property p => p.atoms

def Members.atoms : Members → List Atom
  | .listed declarations => declarations.flatMap MemberDecl.atoms
  | .scoped scope =>
    scope.functions.values.flatMap (·.flatMap FunctionDecl.atoms) ++
      scope.properties.values.flatMap (·.flatMap PropertyDecl.atoms)

def ClassDecl.atoms (c : ClassDecl) : List Atom :=
  .name c.name :: (c.superClass.toList.map .name ++ c.interfaces.map .name ++
    c.annotations.atoms ++ c.constructors.flatMap ConstructorDecl.atoms ++ c.members.atoms)

def Graph.atoms (g : Graph) : List Atom :=
  g.classes.flatMap ClassDecl.atoms ++ g.dependencies.flatMap ClassDecl.atoms ++
    g.sourceClasses.map .name

theorem ResolvedType.atomsOf_eq_flatMap (ts : List ResolvedType) :
    atomsOf ts = ts.flatMap atoms := by
  induction ts with
  | nil => rfl
  | cons t ts ih => rw [atomsOf, ih, List.flatMap_cons]

theorem ArgumentValue.atomsOf_eq_flatMap (values : List ArgumentValue) :
    atomsOf values = values.flatMap atoms := by
  induction values with
  | nil => rfl
  | cons value values ih => rw [atomsOf, ih, List.flatMap_cons]

theorem Expr.atomsOf_eq_flatMap (es : List Expr) : atomsOf es = es.flatMap atoms := by
  induction es with
  | nil => rfl
  | cons e es ih => rw [atomsOf, ih, List.flatMap_cons]

theorem Expr.atomsOfOption_eq_flatMap (value : Option Expr) :
    atomsOfOption value = value.toList.flatMap atoms := by
  cases value <;> simp [atomsOfOption]

/-! ### Names that were read -/

namespace Atom

theorem exact_name_iff {n : DottedName} : Exact (.name n) ↔ DottedName.parse n.text = n := by
  constructor
  · rintro ⟨text, rfl⟩
    exact DottedName.parse_text_parse text
  · intro back
    exact ⟨n.text, back.symm⟩

instance : DecidablePred Exact
  | .name _ => decidable_of_iff _ exact_name_iff.symm
  | .float _ => .isFalse id

instance : DecidablePred (All Exact) := fun atoms =>
  inferInstanceAs (Decidable (∀ a ∈ atoms, a.Exact))

section
variable {α : Type} {P : Atom → Prop} {xs ys : List Atom}

@[simp]
theorem all_nil : All P [] := by simp [All]

@[simp]
theorem all_cons {a : Atom} : All P (a :: xs) ↔ P a ∧ All P xs := List.forall_mem_cons

@[simp]
theorem all_append : All P (xs ++ ys) ↔ All P xs ∧ All P ys := List.forall_mem_append

@[simp]
theorem all_flatMap {f : α → List Atom} {as : List α} :
    All P (as.flatMap f) ↔ ∀ a ∈ as, All P (f a) := by
  simp only [All, List.mem_flatMap]
  constructor
  · intro all a member x part
    exact all x ⟨a, member, part⟩
  · rintro all x ⟨a, member, part⟩
    exact all a member x part

@[simp]
theorem all_map {f : α → Atom} {as : List α} : All P (as.map f) ↔ ∀ a ∈ as, P (f a) :=
  List.forall_mem_map

end

theorem all_exact_iff {xs : List Atom} :
    All Exact xs ↔ All Parsed xs ∧ ∀ value, float value ∉ xs := by
  constructor
  · intro exact
    constructor
    · intro a member
      cases a with
      | name n => exact exact _ member
      | float value => trivial
    · intro value member
      exact exact _ member
  · rintro ⟨parsed, none⟩ a member
    cases a with
    | name n => exact parsed _ member
    | float value => exact none value member

end Atom

end ScriptRegistrar
