import ScriptRegistrar.Proofs.Source.Template
import ScriptRegistrar.Registration.DefaultValue

namespace ScriptRegistrar

open Source (ClassName MemberName Argument EmissionFault Fits Fragment)

/-- The grammar, inside the arguments of a call and outside of them. -/
inductive Expr.Supported : Bool → Expr → Prop
  | constant {inCall value} : Supported inCall (.constant value)
  | unary {inCall sign operand} (inner : Supported inCall operand) :
    Supported inCall (.unary sign operand)
  | template {inCall parts} (literal : ∀ part ∈ parts, ∃ text, part = .literal text) :
    Supported inCall (.template parts)
  | resolvedMember {inCall receiver selector target} (constant : target.kind.isConstant = true) :
    Supported inCall (.member receiver selector (some target))
  | classMember {inCall spelling owner name resolved target} (owned : owner.kind = .classObject) :
    Supported inCall (.member (.name spelling (some owner)) (.name name resolved) target)
  | call {inCall callee kind typeArguments arguments trailing}
    (each : ∀ e ∈ arguments, Supported true e) (closure : ∀ e ∈ trailing, Supported true e) :
    Supported inCall (.call callee kind typeArguments arguments trailing)
  | binary {inCall left operator right} (first : Supported inCall left)
    (middle : Supported inCall operator) (second : Supported inCall right) :
    Supported inCall (.binary left operator right)
  | name {inCall spelling target} (known : target.kind ≠ .other) :
    Supported inCall (.name spelling (some target))
  | operator {inCall token} : Supported inCall (.operator token)
  | lambda {mapped text} : Supported true (.lambda (some mapped) text)

/-! ### Fragments that are always written -/

section
variable {bad : EmissionFault → Prop}

theorem calleeFragment_succeeds (callee : DottedName) (kind : CallKind) :
    FailsOnly bad (calleeFragment callee kind) := by
  cases kind with
  | constructor => exact Fits.of ⟨_, rfl, by simp⟩
  | function => exact Fits.of ⟨_, rfl, by simp⟩

theorem addTypeArguments_succeeds (head : Fragment) (typeArguments : List DottedName) :
    FailsOnly bad (addTypeArguments head typeArguments) := by
  unfold addTypeArguments
  split
  · exact .ok trivial
  · have types : Ends (List.Forall₂ (fun _ _ => True) typeArguments) bad
        (typeArguments.mapM fun t => Fragment.of "%T" [ClassName.ofDotted t]) :=
      Ends.mapM fun t _ => Fits.of ⟨_, rfl, by simp⟩
    exact types.bind fun _ _ => Fits.append? ⟨_, rfl, by simp⟩ head

end

section
variable {fault : DefaultFault} {format : String} {arguments : List Argument}

theorem decides_of_emission {α : Type} {x : Except EmissionFault α}
    (h : FailsOnly (fun _ => False) x) :
    Decides True fault (liftM x : Except DefaultFault α) :=
  .total (h.lift _) trivial

theorem Source.Fits.of_decides (h : Fits format arguments) :
    Decides True fault (liftM (Fragment.of format arguments) : Except DefaultFault Fragment) :=
  decides_of_emission h.of

end

/-! ### The parts of the grammar -/

theorem Reference.fragment_decides (r : Reference) :
    Decides (r.kind ≠ .other) DefaultFault.unsupported r.fragment := by
  unfold Reference.fragment
  split
  · next kind => exact (Fits.of_decides ⟨_, rfl, by simp⟩).congr (by simp [kind])
  · next kind => exact (Fits.of_decides ⟨_, rfl, by simp⟩).congr (by simp [kind])
  · next kind => exact (Fits.of_decides ⟨_, rfl, by simp⟩).congr (by simp [kind])
  · next kind => exact (Fits.of_decides ⟨_, rfl, by simp⟩).congr (by simp [kind])
  · next kind => exact .error (by simp [kind])

theorem literalText?_isSome_iff {parts : List TemplatePart} :
    (literalText? parts).isSome ↔ ∀ part ∈ parts, ∃ text, part = .literal text := by
  induction parts with
  | nil => simp [literalText?]
  | cons part parts ih =>
    cases part with
    | literal text => simp [literalText?, ih]
    | interpolation text => simp [literalText?]

theorem isConstant_ne_other {kind : ReferenceKind} (h : kind.isConstant = true) :
    kind ≠ .other := by
  rintro rfl
  cases h

namespace Expr

section
variable {inCall : Bool}

theorem supported_unary_iff {sign : String} {operand : Expr} :
    Supported inCall (.unary sign operand) ↔ Supported inCall operand :=
  ⟨fun | .unary inner => inner, .unary⟩

theorem supported_template_iff {parts : List TemplatePart} :
    Supported inCall (.template parts) ↔ (literalText? parts).isSome := by
  rw [literalText?_isSome_iff]
  exact ⟨fun | .template literal => literal, .template⟩

theorem supported_member_iff {receiver selector : Expr} {target : Option Reference} :
    Supported inCall (.member receiver selector target) ↔
      (resolvedConstant? target).isSome ∨ (classMember? receiver selector).isSome := by
  constructor
  · intro supported
    cases supported with
    | resolvedMember constant => exact .inl (by simp [resolvedConstant?, Option.filter, constant])
    | classMember owned => exact .inr (by simp [classMember?, owned])
  · rintro (resolved | owned)
    · obtain ⟨known, found⟩ := Option.isSome_iff_exists.1 resolved
      obtain ⟨rfl, constant⟩ := Option.filter_eq_some_iff.1 found
      exact .resolvedMember constant
    · unfold classMember? at owned
      split at owned
      · split at owned
        · next kind => exact .classMember kind
        · cases owned
      · cases owned

theorem supported_call_iff {callee : DottedName} {kind : CallKind} {typeArguments : List DottedName}
    {arguments : List Expr} {trailing : Option Expr} :
    Supported inCall (.call callee kind typeArguments arguments trailing) ↔
      (∀ e ∈ arguments, Supported true e) ∧ ∀ e ∈ trailing, Supported true e :=
  ⟨fun | .call each closure => ⟨each, closure⟩, fun ⟨each, closure⟩ => .call each closure⟩

theorem supported_binary_iff {left op right : Expr} :
    Supported inCall (.binary left op right) ↔
      Supported inCall left ∧ Supported inCall op ∧ Supported inCall right :=
  ⟨fun | .binary first middle second => ⟨first, middle, second⟩,
    fun ⟨first, middle, second⟩ => .binary first middle second⟩

theorem supported_name_iff {spelling : String} {target : Reference} :
    Supported inCall (.name spelling (some target)) ↔ target.kind ≠ .other :=
  ⟨fun | .name known => known, .name⟩

theorem supported_lambda_iff {mapped : DottedName} {text : String} :
    Supported inCall (.lambda (some mapped) text) ↔ inCall = true :=
  ⟨fun | .lambda => rfl, by rintro rfl; exact .lambda⟩

end

/-! ### Writing an expression -/

-- One case for each form: the parts by recursion, and then a template that fits them.
mutual
theorem fragment_decides (inCall : Bool) : ∀ e : Expr,
    Decides (Supported inCall e) DefaultFault.unsupported (e.fragment inCall)
  | .constant value => by
    rw [fragment]
    exact (Fits.of_decides ⟨_, rfl, by simp⟩).congr (iff_of_true trivial .constant)
  | .unary sign operand => by
    rw [fragment]
    refine ((fragment_decides inCall operand).bind fun inner =>
      Fits.of_decides ⟨_, rfl, by simp⟩).congr ?_
    rw [supported_unary_iff, and_true]
  | .template parts => by
    rw [fragment]
    split
    · next text literal =>
      exact (Fits.of_decides ⟨_, rfl, by simp⟩).congr (by simp [supported_template_iff, literal])
    · next interpolated => exact .error (by simp [supported_template_iff, interpolated])
  | .member receiver selector target => by
    rw [fragment]
    split
    · next known resolved =>
      have constant : known.kind.isConstant = true := (Option.filter_eq_some_iff.1 resolved).2
      refine known.fragment_decides.congr (iff_of_true (isConstant_ne_other constant) ?_)
      exact supported_member_iff.2 (.inl (by rw [resolved]; rfl))
    · next owned =>
      exact (Fits.of_decides ⟨_, rfl, by simp⟩).congr (by simp [supported_member_iff, owned])
    · next unresolved unowned =>
      exact .error (by simp [supported_member_iff, unresolved, unowned])
  | .call callee kind typeArguments arguments trailing => by
    rw [fragment]
    refine ((decides_of_emission (calleeFragment_succeeds callee kind)).bind fun name =>
      (decides_of_emission (addTypeArguments_succeeds name typeArguments)).bind fun head =>
      (fragments_decides arguments).bind fun written =>
      (decides_of_emission (Fits.append? ⟨_, rfl, by simp⟩ head)).bind fun call =>
      (trailingFragment_decides trailing).bind (Q := True) fun closure => ?_).congr ?_
    · cases closure with
      | none => exact .ok trivial
      | some closure => exact decides_of_emission (Fits.append? ⟨_, rfl, by simp⟩ call)
    · simp only [supported_call_iff, true_and, and_true]
  | .binary left op right => by
    rw [fragment]
    refine ((fragment_decides inCall left).bind fun first =>
      (fragment_decides inCall op).bind fun middle =>
      (fragment_decides inCall right).bind fun second =>
      Fits.of_decides ⟨_, rfl, by simp⟩).congr ?_
    rw [supported_binary_iff, and_true]
  | .name _ (some target) => by
    rw [fragment]
    exact target.fragment_decides.congr supported_name_iff.symm
  | .name _ none => by
    rw [fragment]
    exact .error nofun
  | .operator token => by
    rw [fragment]
    exact .ok .operator
  | .lambda (some mapped) _ => by
    rw [fragment]
    split
    · next inside =>
      exact (Fits.of_decides ⟨_, rfl, by simp⟩).congr
        (iff_of_true trivial (supported_lambda_iff.2 inside))
    · next outside => exact .error (mt supported_lambda_iff.1 outside)
  | .lambda none _ => by
    rw [fragment]
    exact .error nofun
theorem fragments_decides : ∀ es : List Expr,
    Decides (∀ e ∈ es, Supported true e) DefaultFault.unsupported (fragments es)
  | [] => by
    rw [fragments]
    exact .ok nofun
  | e :: es => by
    rw [fragments]
    refine ((fragment_decides true e).bind fun first =>
      (fragments_decides es).bind (Q := True) fun rest => .ok trivial).congr ?_
    rw [List.forall_mem_cons, and_true]
theorem trailingFragment_decides : ∀ t : Option Expr,
    Decides (∀ e ∈ t, Supported true e) DefaultFault.unsupported (trailingFragment t)
  | none => by
    rw [trailingFragment]
    exact .ok nofun
  | some e => by
    rw [trailingFragment]
    refine ((fragment_decides true e).bind (Q := True) fun closure => .ok trivial).congr ?_
    simp only [Option.mem_some, forall_eq', and_true]
end

end Expr

/-! ### The default value of a property -/

namespace PropertyDecl

/-- The editor needs no value of the property, or one is given that can be written. -/
def HasDefault (p : PropertyDecl) : Prop :=
  p.isLateinit = true ∨ p.isVisible = false ∨ ∃ e, p.assignment = some e ∧ e.Supported false

theorem defaultValue_of_misused {p : PropertyDecl} {fault : DeclarationFault}
    (misused : p.checkUsage = .error fault) : p.defaultValue = .error (.declaration fault) := by
  unfold defaultValue
  rw [misused]
  rfl

theorem defaultValue_of_used {p : PropertyDecl} (used : p.checkUsage = .ok ()) :
    p.defaultValue =
      if p.isLateinit || !p.isVisible then .ok (.literal "null")
      else match p.assignment with
        | some value => (value.fragment false).mapError p.defaultError
        | none => .error (p.defaultError .unsupported) := by
  unfold defaultValue
  rw [used]
  rfl

theorem defaultValue_decides {p : PropertyDecl} (used : p.checkUsage = .ok ()) :
    Decides p.HasDefault (p.defaultError .unsupported) p.defaultValue := by
  rw [defaultValue_of_used used]
  split
  · next unneeded =>
    refine .ok ?_
    rw [Bool.or_eq_true, Bool.not_eq_true'] at unneeded
    exact unneeded.imp_right .inl
  · next needed =>
    rw [Bool.or_eq_true, Bool.not_eq_true', not_or] at needed
    split
    · next value assigned =>
      refine ((Expr.fragment_decides false value).mapError p.defaultError).congr ?_
      simp [HasDefault, needed, assigned]
    · next missing => exact .error (by simp [HasDefault, needed, missing])

/-- A default value is found exactly in the grammar. Outside of it the error shows the declaration,
however deep the part lies that does not belong there. -/
theorem default_found_iff (p : PropertyDecl) :
    ((∃ value, p.defaultValue = .ok value) ↔ p.checkUsage = .ok () ∧ p.HasDefault) ∧
      (p.checkUsage = .ok () → ¬ p.HasDefault →
        p.defaultValue = .error (.declaration (.unsupportedDefault p.qualifiedName p.describe))) ∧
      ∀ fault, p.checkUsage = .error fault → p.defaultValue = .error (.declaration fault) := by
  refine ⟨?_, fun used missing => (defaultValue_decides used).eq_error missing,
    fun fault => defaultValue_of_misused⟩
  cases usage : p.checkUsage with
  | ok accepted => exact (defaultValue_decides usage).ok_iff.trans (by simp)
  | error fault => simp [defaultValue_of_misused usage]

end PropertyDecl

namespace Sample

/-- `-first(second)`, where `second` resolved to a declaration of this kind. -/
def nestedReference (kind : ReferenceKind) : PropertyDecl :=
  let second := Expr.name "second" (some ⟨.parse "game", "second", kind⟩)
  { PropertyDecl.mutable (.parse "game.Player") "health" (.simple (.parse "kotlin.Int")) with
    initializer := some (.unary "-" (.call (.parse "game.first") .function [] [second] none)) }

end Sample

example : (Sample.nestedReference .topLevelConstant).defaultValue.toOption.isSome := by
  decide +kernel

example : (Sample.nestedReference .other).defaultValue.map Fragment.text = .error (.declaration
    (.unsupportedDefault (.parse "game.Player.health")
      "var health: Int = -first(second)")) := by
  decide +kernel

end ScriptRegistrar
