import ScriptRegistrar.Proofs.Registration.DefaultValue
import ScriptRegistrar.Registration.Member

namespace ScriptRegistrar

open Source (ClassName MemberName Argument EmissionFault Fits Slot Fragment)

/-- Neither an emission fault nor a superclass that the walk lost. -/
def GenerationError.Foreseen : GenerationError → Prop
  | .emission _ => False
  | .internal (.unresolvedSuperclass _ _) => False
  | _ => True

section
variable {bad : EmissionFault → Prop}

theorem memberReference_succeeds (owner : DottedName) (name : String) :
    FailsOnly bad (memberReference owner name) :=
  Fits.of ⟨_, rfl, by simp⟩

theorem castFromAny_succeeds (t : ResolvedType) : FailsOnly bad t.castFromAny := by
  unfold ResolvedType.castFromAny
  split
  · exact Fits.of ⟨_, rfl, by simp⟩
  · split
    · exact Fits.of ⟨_, rfl, by simp⟩
    · exact Fits.of ⟨_, rfl, by simp⟩

end

/-! ### Members -/

section
variable {α : Type}

theorem foreseen_of_emission {good : α → Prop} {x : Except EmissionFault α}
    (h : Ends good (fun _ => False) x) :
    Ends good GenerationError.Foreseen (liftM x : Except GenerationError α) :=
  h.lift _

theorem foreseen_of_declaration (x : Except DeclarationFault α) :
    FailsOnly GenerationError.Foreseen (liftM x : Except GenerationError α) :=
  (failsOnly_any x).mapError fun _ _ => trivial

theorem foreseen_of_unmappable {good : α → Prop} {x : Except UnmappableType α}
    (h : Ends good (fun _ => True) x) :
    Ends good GenerationError.Foreseen (liftM x : Except GenerationError α) :=
  h.mapError fun _ _ => trivial

end

namespace PropertyDecl

theorem defaultValue_foreseen (p : PropertyDecl) :
    FailsOnly GenerationError.Foreseen p.defaultValue := by
  cases usage : p.checkUsage with
  | error fault =>
    rw [defaultValue_of_misused usage]
    exact .error trivial
  | ok accepted =>
    refine (defaultValue_decides usage).mono (fun _ _ => trivial) ?_
    rintro e ⟨-, rfl⟩
    trivial

theorem plainStatement_foreseen (p : PropertyDecl) (reference : Fragment) :
    FailsOnly GenerationError.Foreseen (p.plainStatement reference) := by
  unfold plainStatement
  refine (foreseen_of_declaration p.typeHint).bind fun hint _ => ?_
  refine (foreseen_of_emission (castFromAny_succeeds p.type)).bind fun cast _ => ?_
  refine (foreseen_of_unmappable (failsOnly_any (VariantTag.of p.type))).bind fun tag _ => ?_
  refine p.defaultValue_foreseen.bind fun value _ => ?_
  exact foreseen_of_emission (Fits.of ⟨_, rfl, by simp⟩)

theorem enumStatement_foreseen (p : PropertyDecl) (route : PropertyRoute) (reference : Fragment) :
    FailsOnly GenerationError.Foreseen (p.enumStatement route.registryFunction reference) := by
  unfold enumStatement
  refine p.defaultValue_foreseen.bind fun value _ => ?_
  have name : Fits route.registryFunction [] := by
    cases route <;> exact ⟨[], rfl, .nil⟩
  exact foreseen_of_emission (name.append ⟨_, rfl, by simp⟩).of

theorem referenceStatement_foreseen (p : PropertyDecl) (reference : Fragment) :
    FailsOnly GenerationError.Foreseen (p.referenceStatement reference) := by
  unfold referenceStatement
  refine (foreseen_of_declaration p.checkUsage).bind fun _ _ => ?_
  refine (foreseen_of_declaration p.checkReferenceDelegate).bind fun _ _ => ?_
  refine (foreseen_of_declaration p.typeHint).bind fun hint _ => ?_
  exact foreseen_of_emission (Fits.of ⟨_, rfl, by simp⟩)

theorem registration_foreseen (p : PropertyDecl) :
    FailsOnly GenerationError.Foreseen p.registration := by
  unfold registration
  refine (foreseen_of_emission (memberReference_succeeds p.owner p.name)).bind fun reference _ => ?_
  cases PropertyRoute.of p.type with
  | plain => exact p.plainStatement_foreseen reference
  | enum => exact p.enumStatement_foreseen .enum reference
  | enumList => exact p.enumStatement_foreseen .enumList reference
  | enumFlags => exact p.enumStatement_foreseen .enumFlags reference
  | reference => exact p.referenceStatement_foreseen reference

/-! ### Signals -/

theorem signalArgumentName_cases (e : Expr) :
    (∃ text, signalArgumentName e = .string text) ∨
      ∃ text, signalArgumentName e = .verbatim text := by
  unfold signalArgumentName
  split
  · split
    · exact .inl ⟨_, rfl⟩
    · exact .inr ⟨_, rfl⟩
  · exact .inr ⟨_, rfl⟩

theorem fits_nameSlot {p : PropertyDecl} {name : Argument} (h : name ∈ p.signalArgumentNames) :
    Fits (nameSlot name) [name] := by
  unfold signalArgumentNames at h
  split at h
  · obtain ⟨e, -, rfl⟩ := List.mem_map.1 h
    obtain ⟨text, spelled⟩ | ⟨text, spelled⟩ := signalArgumentName_cases e
    · rw [spelled]
      exact (⟨_, rfl, by simp⟩ : Fits "%S" [.string text])
    · rw [spelled]
      exact (⟨_, rfl, by simp⟩ : Fits "%L" [.verbatim text])
  · cases h

theorem signalArgument_fits (type : ResolvedType) {name : Argument}
    (fits : Fits (nameSlot name) [name]) :
    Ends (fun group => Fits group.1 group.2) (fun _ => True) (signalArgument type name) := by
  unfold signalArgument
  refine (failsOnly_any (VariantTag.of type)).bind fun tag _ => .ok ?_
  have opening : Fits ", %T(%T, %S, "
      [Vocabulary.functionArgument, tag.constant, .string type.simpleName] := ⟨_, rfl, by simp⟩
  have closing : Fits ")" [] := ⟨_, rfl, .nil⟩
  exact (opening.append fits).append closing

theorem signalArguments_fit (p : PropertyDecl) :
    Ends (fun groups => ∀ group ∈ groups, Fits group.1 group.2) GenerationError.Foreseen
      ((p.type.arguments.zip p.signalArgumentNames).mapM fun (type, name) =>
        (liftM (signalArgument type name) : Except GenerationError _)) :=
  Ends.mapM_forall fun (type, _) member => foreseen_of_unmappable
    (signalArgument_fits type (fits_nameSlot (List.of_mem_zip member).2))

theorem fits_signal {groups : List (String × List Argument)}
    (fit : ∀ group ∈ groups, Fits group.1 group.2) (reference : Fragment) :
    Fits ("signal(%L" ++ String.join (groups.map Prod.fst) ++ ")")
      (.fragment reference :: groups.flatMap Prod.snd) := by
  have opening : Fits "signal(%L" [reference] := ⟨_, rfl, by simp⟩
  have closing : Fits ")" [] := ⟨_, rfl, .nil⟩
  have all := (opening.append (Fits.join fit)).append closing
  rwa [List.append_nil] at all

theorem signalRegistration_foreseen (p : PropertyDecl) :
    FailsOnly GenerationError.Foreseen p.signalRegistration := by
  unfold signalRegistration
  refine (foreseen_of_declaration p.checkSignal).bind fun _ _ => ?_
  dsimp only
  split
  · exact .error trivial
  · refine (foreseen_of_emission (memberReference_succeeds p.owner p.name)).bind
      fun reference _ => ?_
    refine p.signalArguments_fit.bind fun groups fit => ?_
    exact foreseen_of_emission (fits_signal fit reference).of

end PropertyDecl

/-! ### Functions -/

theorem fits_tags (tags : List VariantTag) :
    Fits (String.join (tags.map fun _ => ", %T")) (tags.map fun tag => .type tag.constant) := by
  have arguments : (tags.map fun tag => Argument.type tag.constant) =
      tags.flatMap fun tag => [.type tag.constant] := List.map_eq_flatMap
  rw [arguments]
  exact Fits.join fun tag _ => ⟨_, rfl, by simp⟩

theorem fits_constructor (wrapper className : ClassName) (tags : List VariantTag) :
    Fits ("constructor(%T(::%T" ++ String.join (tags.map fun _ => ", %T") ++ "))")
      ([.type wrapper, .type className] ++ tags.map fun tag => .type tag.constant) := by
  have opening : Fits "constructor(%T(::%T" [.type wrapper, .type className] := ⟨_, rfl, by simp⟩
  have closing : Fits "))" [] := ⟨_, rfl, .nil⟩
  have all := (opening.append (fits_tags tags)).append closing
  rwa [List.append_nil] at all

/-- The loop over the parameters makes one part of the template for each pair. -/
theorem FunctionDecl.parameterFormats_eq {parameters : List Parameter} {tags : List VariantTag}
    (same : parameters.length = tags.length) :
    (parameters.map fun _ => ", %T(%T, %S, %S)") =
      (parameters.zip tags).map fun _ => ", %T(%T, %S, %S)" := by
  rw [List.map_const', List.map_const', List.length_zip, same, Nat.min_self]

theorem FunctionDecl.fits_parameterGroups {parameters : List Parameter} {tags : List VariantTag}
    (same : parameters.length = tags.length) :
    Fits (String.join (parameters.map fun _ => ", %T(%T, %S, %S)"))
      ((parameters.zip tags).flatMap fun (parameter, tag) => parameterGroup parameter tag) := by
  rw [parameterFormats_eq same]
  exact Fits.join fun (parameter, tag) _ => ⟨_, rfl, by simp [parameterGroup]⟩

theorem FunctionDecl.fits_registration {f : FunctionDecl} {tags : List VariantTag}
    (same : f.parameters.length = tags.length) (reference : Fragment) (returnType : ResolvedType)
    (returnTag : VariantTag) :
    Fits
      ("function(%L, %T" ++ String.join (tags.map fun _ => ", %T") ++
        String.join (f.parameters.map fun _ => ", %T(%T, %S, %S)") ++ ", %T(%T, %S), %T)")
      ([.fragment reference, .type returnTag.constant] ++
        tags.map (fun tag => .type tag.constant) ++
        (f.parameters.zip tags).flatMap (fun (parameter, tag) => parameterGroup parameter tag) ++
        [.type Vocabulary.functionArgument, .type returnTag.constant,
          .string returnType.name.text,
          .type (Vocabulary.rpcMode f.annotations AnnotationName.registerFunction)]) := by
  have opening : Fits "function(%L, %T" [reference, .type returnTag.constant] :=
    ⟨_, rfl, by simp⟩
  have closing : Fits ", %T(%T, %S), %T)"
      [.type Vocabulary.functionArgument, .type returnTag.constant,
        .string returnType.name.text,
        .type (Vocabulary.rpcMode f.annotations AnnotationName.registerFunction)] :=
    ⟨_, rfl, by simp⟩
  exact ((opening.append (fits_tags tags)).append (fits_parameterGroups same)).append closing

theorem FunctionDecl.registration_foreseen (f : FunctionDecl) :
    FailsOnly GenerationError.Foreseen f.registration := by
  unfold registration
  split
  · next returnType _ =>
    refine (foreseen_of_unmappable (failsOnly_any (VariantTag.of returnType))).bind
      fun returnTag _ => ?_
    refine (Ends.mapM fun p _ => foreseen_of_unmappable
      (failsOnly_any (VariantTag.of p.type))).bind fun tags each => ?_
    refine (foreseen_of_emission (memberReference_succeeds f.owner f.name)).bind
      fun reference _ => ?_
    exact foreseen_of_emission (fits_registration each.length_eq reference returnType returnTag).of
  · exact .error trivial

end ScriptRegistrar
