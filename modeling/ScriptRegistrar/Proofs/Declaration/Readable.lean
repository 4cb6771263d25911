import ScriptRegistrar.Proofs.Declaration.Atom
import ScriptRegistrar.Proofs.Json.Reading

namespace ScriptRegistrar

open Json (isReadable areReadable fieldsAreReadable)
open Atom (All Exact)

namespace Json

@[simp]
theorem isReadable_str (text : String) : isReadable (.str text) = true := rfl

@[simp]
theorem isReadable_bool (value : Bool) : isReadable (.bool value) = true := rfl

@[simp]
theorem isReadable_arr_map {α : Type} {encode : α → Json} {xs : List α} :
    isReadable (.arr (xs.map encode)) = true ↔ ∀ x ∈ xs, (encode x).isReadable = true := by
  rw [isReadable, areReadable_iff, List.forall_mem_map]

@[simp]
theorem isReadable_obj {fields : List (String × Json)} :
    isReadable (.obj fields) = true ↔ ∀ field ∈ fields, field.2.isReadable = true := by
  rw [isReadable, fieldsAreReadable_iff]

theorem isReadable_ofOption {α : Type} {encode : α → Json} {value : Option α}
    (each : ∀ a ∈ value, (encode a).isReadable = true) :
    (ofOption encode value).isReadable = true := by
  cases value with
  | none => rfl
  | some a => exact each a rfl

end Json

theorem DottedName.isReadable_encode (n : DottedName) : n.encode.isReadable = true := rfl

theorem DottedName.isReadable_encodeList (names : List DottedName) :
    (DottedName.encodeList names).isReadable = true := by
  rw [DottedName.encodeList, Json.isReadable_arr_map]
  exact fun n _ => n.isReadable_encode

theorem isReadable_tagged {tag : String} {value : Json} (h : value.isReadable = true) :
    (tagged tag value).isReadable = true := by
  simp [tagged, h]

namespace ResolvedType

mutual
theorem isReadable_encode : ∀ t : ResolvedType, t.encode.isReadable = true
  | ⟨name, nullable, arguments, supertypes, isEnum⟩ => by
    have listed : isReadable (.arr (encodeList arguments)) = true :=
      areReadable_encodeList arguments
    simp [encode, listed, name.isReadable_encode, DottedName.isReadable_encodeList]
theorem areReadable_encodeList : ∀ ts : List ResolvedType, areReadable (encodeList ts) = true
  | [] => rfl
  | t :: ts => by
    rw [encodeList, areReadable, isReadable_encode t, areReadable_encodeList ts, Bool.and_self]
end

end ResolvedType

namespace ArgumentValue

mutual
theorem isReadable_encode : ∀ value : ArgumentValue, All Exact value.atoms →
    value.encode.isReadable = true
  | .bool value, _ => isReadable_tagged rfl
  | .int value, _ => isReadable_tagged (Json.isReadable_int64 value)
  | .double value, exact => by simp [atoms, Exact] at exact
  | .string value, _ => isReadable_tagged rfl
  | .enumEntry container entry, _ => isReadable_tagged (by simp [container.isReadable_encode])
  | .array values, exact => by
    rw [encode]
    exact isReadable_tagged (areReadable_encodeList values exact)
theorem areReadable_encodeList : ∀ values : List ArgumentValue, All Exact (atomsOf values) →
    areReadable (encodeList values) = true
  | [], _ => rfl
  | value :: values, exact => by
    rw [atomsOf, Atom.all_append] at exact
    rw [encodeList, areReadable, isReadable_encode value exact.1,
      areReadable_encodeList values exact.2, Bool.and_self]
end

end ArgumentValue

theorem AnnotationUse.isReadable_encode {a : AnnotationUse} (exact : All Exact a.atoms) :
    a.encode.isReadable = true := by
  simp only [atoms, Dict.values, Atom.all_cons, Atom.all_flatMap,
    List.forall_mem_map] at exact
  obtain ⟨-, arguments⟩ := exact
  have listed : isReadable (.obj (a.arguments.entries.map fun e => (e.1, e.2.encode))) = true := by
    rw [Json.isReadable_obj, List.forall_mem_map]
    exact fun e member => e.2.isReadable_encode (arguments e member)
  rw [encode, Json.isReadable_obj, List.forall_mem_cons, List.forall_mem_singleton]
  exact ⟨a.name.isReadable_encode, listed⟩

theorem Annotations.isReadable_encode {annotations : Annotations}
    (exact : All Exact annotations.atoms) : annotations.encode.isReadable = true := by
  rw [encode, Json.isReadable_arr_map]
  rw [atoms, Atom.all_flatMap] at exact
  exact fun a member => AnnotationUse.isReadable_encode (exact a member)

theorem Constant.isReadable_encode {value : Constant} (exact : All Exact value.atoms) :
    value.encode.isReadable = true := by
  cases value with
  | int value => exact isReadable_tagged (Json.isReadable_int64 value)
  | long value => exact isReadable_tagged (Json.isReadable_int64 value)
  | float value => simp [atoms, Exact] at exact
  | double value => simp [atoms, Exact] at exact
  | bool value => exact isReadable_tagged rfl
  | char value => exact isReadable_tagged rfl
  | null => simp [encode]

theorem TemplatePart.isReadable_encode (part : TemplatePart) : part.encode.isReadable = true := by
  cases part with
  | literal text => exact isReadable_tagged rfl
  | interpolation text => exact isReadable_tagged rfl

theorem Reference.isReadable_encode (r : Reference) : r.encode.isReadable = true := by
  simp [encode, r.container.isReadable_encode]

namespace Expr

theorem isReadable_target (target : Option Reference) :
    (Json.ofOption Reference.encode target).isReadable = true :=
  Json.isReadable_ofOption fun r _ => r.isReadable_encode

mutual
theorem isReadable_encode : ∀ e : Expr, All Exact e.atoms → e.encode.isReadable = true
  | .constant value, exact => by
    rw [atoms] at exact
    simp [encode, value.isReadable_encode exact]
  | .unary sign operand, exact => by
    rw [atoms] at exact
    simp [encode, isReadable_encode operand exact]
  | .template parts, _ => by
    simp only [encode, Json.isReadable_obj, List.forall_mem_cons, Json.isReadable_arr_map]
    simp [TemplatePart.isReadable_encode]
  | .member receiver selector target, exact => by
    simp only [atoms, Atom.all_append] at exact
    simp [encode, isReadable_encode receiver exact.1.1, isReadable_encode selector exact.1.2,
      isReadable_target]
  | .call callee kind typeArguments arguments trailing, exact => by
    simp only [atoms, Atom.all_cons, Atom.all_append] at exact
    obtain ⟨-, ⟨-, inner⟩, last⟩ := exact
    have listed : isReadable (.arr (encodeList arguments)) = true :=
      areReadable_encodeList arguments inner
    simp [encode, listed, callee.isReadable_encode, isReadable_encodeOption trailing last,
      DottedName.isReadable_encodeList]
  | .binary left op right, exact => by
    simp only [atoms, Atom.all_append] at exact
    simp [encode, isReadable_encode left exact.1.1, isReadable_encode op exact.1.2,
      isReadable_encode right exact.2]
  | .name spelling target, _ => by simp [encode, isReadable_target]
  | .operator token, _ => by simp [encode]
  | .lambda mapped text, _ => by
    have named : (Json.ofOption DottedName.encode mapped).isReadable = true :=
      Json.isReadable_ofOption fun n _ => n.isReadable_encode
    simp [encode, named]
theorem areReadable_encodeList : ∀ es : List Expr, All Exact (atomsOf es) →
    areReadable (encodeList es) = true
  | [], _ => rfl
  | e :: es, exact => by
    rw [atomsOf, Atom.all_append] at exact
    rw [encodeList, areReadable, isReadable_encode e exact.1, areReadable_encodeList es exact.2,
      Bool.and_self]
theorem isReadable_encodeOption : ∀ value : Option Expr, All Exact (atomsOfOption value) →
    (encodeOption value).isReadable = true
  | none, _ => rfl
  | some e, exact => by
    rw [atomsOfOption] at exact
    rw [encodeOption, isReadable_encode e exact]
end

end Expr

/-! ### Members, classes and graphs -/

theorem Parameter.isReadable_encode (p : Parameter) : p.encode.isReadable = true := by
  simp [encode, p.type.isReadable_encode]

theorem FunctionDecl.areReadable_encodeFields {f : FunctionDecl} (exact : All Exact f.atoms) :
    ∀ field ∈ f.encodeFields, field.2.isReadable = true := by
  simp only [atoms, Atom.all_cons, Atom.all_append] at exact
  have returned : (Json.ofOption ResolvedType.encode f.returnType).isReadable = true :=
    Json.isReadable_ofOption fun t _ => t.isReadable_encode
  simp [encodeFields, f.owner.isReadable_encode, Parameter.isReadable_encode, returned,
    Annotations.isReadable_encode exact.2.2]

theorem FunctionDecl.isReadable_encode (f : FunctionDecl) (exact : All Exact f.atoms) :
    f.encode.isReadable = true :=
  Json.isReadable_obj.2 (areReadable_encodeFields exact)

theorem PropertyDecl.areReadable_encodeFields {p : PropertyDecl} (exact : All Exact p.atoms) :
    ∀ field ∈ p.encodeFields, field.2.isReadable = true := by
  simp only [atoms, Atom.all_cons, Atom.all_append, Atom.all_flatMap,
    Option.mem_toList] at exact
  obtain ⟨-, ⟨⟨-, annotated⟩, initial⟩, delegated⟩ := exact
  have initializer : (Json.ofOption Expr.encode p.initializer).isReadable = true :=
    Json.isReadable_ofOption fun e member => e.isReadable_encode (initial e member)
  have delegate : (Json.ofOption Expr.encode p.delegate).isReadable = true :=
    Json.isReadable_ofOption fun e member => e.isReadable_encode (delegated e member)
  have source : (Json.ofOption .str p.sourceText).isReadable = true :=
    Json.isReadable_ofOption fun text _ => Json.isReadable_str text
  simp [encodeFields, p.owner.isReadable_encode, p.type.isReadable_encode,
    Annotations.isReadable_encode annotated, initializer, delegate, source]

theorem PropertyDecl.isReadable_encode (p : PropertyDecl) (exact : All Exact p.atoms) :
    p.encode.isReadable = true :=
  Json.isReadable_obj.2 (areReadable_encodeFields exact)

theorem ConstructorDecl.isReadable_encode (c : ConstructorDecl) : c.encode.isReadable = true := by
  have source : (Json.ofOption .str c.sourceText).isReadable = true :=
    Json.isReadable_ofOption fun text _ => Json.isReadable_str text
  simp [encode, Parameter.isReadable_encode, source]

theorem MemberDecl.isReadable_encode {m : MemberDecl} (exact : All Exact m.atoms) :
    m.encode.isReadable = true := by
  cases m with
  | function f =>
    rw [encode, Json.isReadable_obj, List.forall_mem_cons]
    exact ⟨rfl, FunctionDecl.areReadable_encodeFields exact⟩
  | property p =>
    rw [encode, Json.isReadable_obj, List.forall_mem_cons]
    exact ⟨rfl, PropertyDecl.areReadable_encodeFields exact⟩

theorem isReadable_overloads {α : Type} {encode : α → Json} {atoms : α → List Atom}
    {d : Dict (List α)} (exact : All Exact (d.values.flatMap (·.flatMap atoms)))
    (each : ∀ a, All Exact (atoms a) → (encode a).isReadable = true) :
    isReadable (.obj (d.entries.map fun e => (e.1, .arr (e.2.map encode)))) = true := by
  simp only [Dict.values, Atom.all_flatMap, List.forall_mem_map] at exact
  rw [Json.isReadable_obj, List.forall_mem_map]
  exact fun e member => Json.isReadable_arr_map.2 fun a inner => each a (exact e member a inner)

theorem Members.isReadable_encode : ∀ {m : Members}, All Exact m.atoms →
    m.encode.isReadable = true
  | .listed declarations, exact => by
    rw [atoms, Atom.all_flatMap] at exact
    have listed : isReadable (.arr (declarations.map MemberDecl.encode)) = true :=
      Json.isReadable_arr_map.2 fun d member => MemberDecl.isReadable_encode (exact d member)
    simp [encode, listed]
  | .scoped scope, exact => by
    rw [atoms, Atom.all_append] at exact
    have functions := isReadable_overloads exact.1 FunctionDecl.isReadable_encode
    have properties := isReadable_overloads exact.2 PropertyDecl.isReadable_encode
    have both : scope.encode.isReadable = true := by
      rw [MemberScope.encode, Json.isReadable_obj, List.forall_mem_cons,
        List.forall_mem_singleton]
      exact ⟨functions, properties⟩
    simp [encode, both]

theorem ClassDecl.isReadable_encode {c : ClassDecl} (exact : All Exact c.atoms) :
    c.encode.isReadable = true := by
  simp only [atoms, Atom.all_cons, Atom.all_append] at exact
  obtain ⟨-, ⟨⟨-, annotated⟩, -⟩, inner⟩ := exact
  have above : (Json.ofOption DottedName.encode c.superClass).isReadable = true :=
    Json.isReadable_ofOption fun n _ => n.isReadable_encode
  simp [encode, c.name.isReadable_encode, above, DottedName.isReadable_encodeList,
    Annotations.isReadable_encode annotated, ConstructorDecl.isReadable_encode,
    Members.isReadable_encode inner]

theorem Graph.isReadable_encode {g : Graph} (exact : All Exact g.atoms) :
    g.encode.isReadable = true := by
  simp only [atoms, Atom.all_append, Atom.all_flatMap] at exact
  obtain ⟨⟨classes, dependencies⟩, -⟩ := exact
  have first : isReadable (.arr (g.classes.map ClassDecl.encode)) = true :=
    Json.isReadable_arr_map.2 fun c member => ClassDecl.isReadable_encode (classes c member)
  have second : isReadable (.arr (g.dependencies.map ClassDecl.encode)) = true :=
    Json.isReadable_arr_map.2 fun c member => ClassDecl.isReadable_encode (dependencies c member)
  rw [encode, Json.isReadable_obj, List.forall_mem_cons, List.forall_mem_cons,
    List.forall_mem_singleton]
  exact ⟨first, second, DottedName.isReadable_encodeList g.sourceClasses⟩

end ScriptRegistrar
