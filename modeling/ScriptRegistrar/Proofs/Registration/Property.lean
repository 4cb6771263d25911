import ScriptRegistrar.Proofs.Registration.Emission
import ScriptRegistrar.Proofs.Source.Written

namespace ScriptRegistrar

open Source (ClassName TypeName Argument Fragment EmissionFault Fits Imports Template callText
  stringLiteral)
open Source.Template (expand expand_append)

theorem succeeds_of_emission {α : Type} {x : Except EmissionFault α}
    (h : FailsOnly (fun _ => False) x) : Succeeds (liftM x : Except GenerationError α) := by
  obtain ⟨a, succeeded, -⟩ := h.exists_ok
  exact succeeds_mapError.2 ⟨a, succeeded⟩

/-! ### Usage -/

theorem Annotations.hint?_isSome_iff {annotations : Annotations} :
    annotations.hint?.isSome ↔ ∃ a ∈ annotations, a.hint?.isSome := by
  rw [hint?, List.findSome?_isSome_iff]
  simp

namespace PropertyDecl

/-- What a route needs besides a property that is used well. -/
def MeetsRoute (p : PropertyDecl) : PropertyRoute → Prop
  | .plain => Succeeds p.typeHint ∧ Succeeds (VariantTag.of p.type) ∧ Succeeds p.defaultValue
  | .enum | .enumList | .enumFlags => Succeeds p.defaultValue
  | .reference =>
    (∃ kind typeArguments arguments trailing, p.delegate =
      some (.call Vocabulary.referenceDelegate kind typeArguments arguments trailing)) ∧
    Succeeds p.typeHint

theorem checkUsage_of_defaultValue {p : PropertyDecl} (h : Succeeds p.defaultValue) :
    p.checkUsage = .ok () := by
  obtain ⟨value, h⟩ := h
  cases usage : p.checkUsage with
  | ok accepted => rfl
  | error fault =>
    rw [defaultValue_of_misused usage] at h
    cases h

theorem checkReferenceDelegate_succeeds_iff {p : PropertyDecl} :
    Succeeds p.checkReferenceDelegate ↔
      ∃ kind typeArguments arguments trailing, p.delegate =
        some (.call Vocabulary.referenceDelegate kind typeArguments arguments trailing) := by
  unfold checkReferenceDelegate
  constructor
  · rintro ⟨accepted, succeeded⟩
    split at succeeded
    · next callee kind typeArguments arguments trailing delegated =>
      split at succeeded
      · next named =>
        have proper : ∀ s ∈ Vocabulary.referenceDelegate.segments, '.' ∉ s.toList := by decide
        have same := DottedName.split_text proper
        rw [DottedName.is_eq_split, beq_iff_eq, same] at named
        rw [DottedName.segments_injective named, delegated]
        exact ⟨_, _, _, _, rfl⟩
      · cases succeeded
    · cases succeeded
  · rintro ⟨kind, typeArguments, arguments, trailing, delegated⟩
    rw [delegated]
    exact ⟨(), rfl⟩

/-! ### Success -/

theorem plainStatement_succeeds_iff {p : PropertyDecl} (reference : Fragment) :
    Succeeds (p.plainStatement reference) ↔ p.MeetsRoute .plain := by
  unfold plainStatement
  refine (succeeds_bind fun hint _ => succeeds_bind fun cast _ => succeeds_bind fun tag _ =>
    succeeds_bind fun value _ =>
      iff_true_intro (succeeds_of_emission (Fits.of ⟨_, rfl, by simp⟩))).trans ?_
  rw [MeetsRoute, and_true, and_iff_right (succeeds_of_emission (castFromAny_succeeds p.type))]
  exact and_congr succeeds_mapError (and_congr succeeds_mapError Iff.rfl)

theorem enumStatement_succeeds_iff {p : PropertyDecl} (route : PropertyRoute)
    (reference : Fragment) :
    Succeeds (p.enumStatement route.registryFunction reference) ↔ Succeeds p.defaultValue := by
  unfold enumStatement
  have name : Fits route.registryFunction [] := by
    cases route <;> exact ⟨[], rfl, .nil⟩
  exact (succeeds_bind fun value _ => iff_true_intro
    (succeeds_of_emission (name.append ⟨_, rfl, by simp⟩).of)).trans (and_true _).to_iff

theorem referenceStatement_succeeds_iff {p : PropertyDecl} (reference : Fragment) :
    Succeeds (p.referenceStatement reference) ↔
      Succeeds p.checkUsage ∧ p.MeetsRoute .reference := by
  unfold referenceStatement
  refine (succeeds_bind fun _ _ => succeeds_bind fun _ _ => succeeds_bind fun hint _ =>
    iff_true_intro (succeeds_of_emission (Fits.of ⟨_, rfl, by simp⟩))).trans ?_
  rw [MeetsRoute, and_true]
  exact and_congr succeeds_mapError
    (and_congr (succeeds_mapError.trans checkReferenceDelegate_succeeds_iff) succeeds_mapError)

theorem registration_succeeds_iff {p : PropertyDecl} :
    Succeeds p.registration ↔
      p.checkUsage = .ok () ∧ p.MeetsRoute (PropertyRoute.of p.type) := by
  have used : Succeeds p.checkUsage ↔ p.checkUsage = .ok () :=
    ⟨fun ⟨(), accepted⟩ => accepted, fun accepted => ⟨(), accepted⟩⟩
  unfold registration
  refine (succeeds_bind (Q := p.checkUsage = .ok () ∧ p.MeetsRoute (PropertyRoute.of p.type))
    fun reference _ => ?_).trans (and_iff_right (succeeds_of_emission
      (memberReference_succeeds p.owner p.name)))
  dsimp only
  cases PropertyRoute.of p.type with
  | plain =>
    refine (plainStatement_succeeds_iff reference).trans (and_iff_right_of_imp ?_).symm
    exact fun meets => checkUsage_of_defaultValue meets.2.2
  | enum =>
    exact (enumStatement_succeeds_iff .enum reference).trans
      (and_iff_right_of_imp checkUsage_of_defaultValue).symm
  | enumList =>
    exact (enumStatement_succeeds_iff .enumList reference).trans
      (and_iff_right_of_imp checkUsage_of_defaultValue).symm
  | enumFlags =>
    exact (enumStatement_succeeds_iff .enumFlags reference).trans
      (and_iff_right_of_imp checkUsage_of_defaultValue).symm
  | reference =>
    rw [← used]
    exact referenceStatement_succeeds_iff reference

/-! ### The text of the statement -/

theorem memberReference_written {owner : DottedName} {name : String} {reference : Fragment}
    (h : memberReference owner name = .ok reference) (imports : Imports) :
    reference.write imports = imports.classText (.ofDotted owner) ++ "::" ++ name := by
  rw [← String.toList_inj, Fragment.of_written h]
  simp [expand, Argument.text, Imports.typeText, TypeName.write]

section
variable {p : PropertyDecl} {reference f : Fragment}

/-- `f` calls `function` with `reference` first, and the visibility and remote call mode of the
property last. -/
def IsCallOf (p : PropertyDecl) (function reference : String) (imports : Imports) (f : Fragment) :
    Prop :=
  ∃ given, f.write imports =
    callText function (reference :: given ++ [boolText p.isVisible, imports.classText p.rpcMode])

theorem plainStatement_written (h : p.plainStatement reference = .ok f) (imports : Imports) :
    p.IsCallOf "property" (reference.write imports) imports f := by
  unfold plainStatement at h
  obtain ⟨hint, -, h⟩ := bind_ok h
  obtain ⟨cast, -, h⟩ := bind_ok h
  obtain ⟨tag, -, h⟩ := bind_ok h
  obtain ⟨value, -, h⟩ := bind_ok h
  refine ⟨["::" ++ imports.memberText Vocabulary.variantTypeOf,
    "\x7b any: Any -> " ++ cast.write imports ++ " \x7d", imports.classText tag.constant,
    stringLiteral p.type.name.text, imports.classText hint.hint.constant, stringLiteral hint.text,
    value.write imports], ?_⟩
  rw [← String.toList_inj, Fragment.of_written (mapError_ok h)]
  simp [expand, Argument.text, Imports.typeText, TypeName.write, callText]

theorem enumStatement_written (route : PropertyRoute)
    (h : p.enumStatement route.registryFunction reference = .ok f) (imports : Imports) :
    p.IsCallOf route.registryFunction (reference.write imports) imports f := by
  unfold enumStatement at h
  obtain ⟨value, -, h⟩ := bind_ok h
  refine ⟨[value.write imports], ?_⟩
  rw [← String.toList_inj, Fragment.of_written (mapError_ok h)]
  have name : Template.slots? route.registryFunction.toList = some [] := by
    cases route <;> rfl
  have plain : expand route.registryFunction.toList [] = route.registryFunction.toList := by
    cases route <;> rfl
  rw [String.toList_append, ← List.nil_append (List.map _ _), expand_append name rfl, plain]
  simp [expand, Argument.text, Imports.typeText, TypeName.write, callText]

theorem referenceStatement_written (h : p.referenceStatement reference = .ok f)
    (imports : Imports) :
    p.IsCallOf "referenceProperty" (reference.write imports) imports f := by
  unfold referenceStatement at h
  obtain ⟨-, -, h⟩ := bind_ok h
  obtain ⟨-, -, h⟩ := bind_ok h
  obtain ⟨hint, -, h⟩ := bind_ok h
  refine ⟨[imports.classText VariantTag.object.constant, stringLiteral p.type.name.text,
    imports.classText hint.hint.constant, stringLiteral hint.text], ?_⟩
  rw [← String.toList_inj, Fragment.of_written (mapError_ok h)]
  simp [expand, Argument.text, Imports.typeText, TypeName.write, callText]

theorem registration_written (h : p.registration = .ok f) (imports : Imports) :
    p.IsCallOf (PropertyRoute.of p.type).registryFunction
      (imports.classText (.ofDotted p.owner) ++ "::" ++ p.name) imports f := by
  unfold registration at h
  obtain ⟨reference, named, h⟩ := bind_ok h
  rw [← memberReference_written (mapError_ok named) imports]
  dsimp only at h
  cases route : PropertyRoute.of p.type with
  | plain =>
    rw [route] at h
    exact plainStatement_written h imports
  | enum =>
    rw [route] at h
    exact enumStatement_written .enum h imports
  | enumList =>
    rw [route] at h
    exact enumStatement_written .enumList h imports
  | enumFlags =>
    rw [route] at h
    exact enumStatement_written .enumFlags h imports
  | reference =>
    rw [route] at h
    exact referenceStatement_written h imports

end

end PropertyDecl

namespace Sample

end Sample

end ScriptRegistrar
