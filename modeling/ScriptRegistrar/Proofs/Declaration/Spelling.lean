import ScriptRegistrar.Declaration.Graph
import ScriptRegistrar.Proofs.Source.OneLine

namespace ScriptRegistrar

inductive Spelling where
  | name (n : DottedName)
  /-- A simple name, the entry of an enum, an operator, or the source text of a lambda or an
  interpolation. -/
  | text (text : String)
  | char (value : Char)
  | literal (text : String)
deriving DecidableEq

/-! ### The spellings of a declaration -/

def Constant.spellings : Constant → List Spelling
  | .char value => [.char value]
  | _ => []

def TemplatePart.spelling : TemplatePart → Spelling
  | .literal text => .literal text
  | .interpolation text => .text text

def Reference.spellings (r : Reference) : List Spelling := [.name r.container, .text r.name]

namespace Expr

mutual
def spellings : Expr → List Spelling
  | .constant value => value.spellings
  | .unary sign operand => .text sign :: spellings operand
  | .template parts => parts.map TemplatePart.spelling
  | .member receiver selector target =>
    spellings receiver ++ spellings selector ++ target.toList.flatMap Reference.spellings
  | .call callee _ typeArguments arguments trailing =>
    .name callee :: (typeArguments.map .name ++ spellingsOf arguments ++ spellingsOfOption trailing)
  | .binary left op right => spellings left ++ spellings op ++ spellings right
  | .name spelling target => .text spelling :: target.toList.flatMap Reference.spellings
  | .operator token => [.text token]
  | .lambda mapped source => .text source :: mapped.toList.map .name
def spellingsOf : List Expr → List Spelling
  | [] => []
  | e :: es => spellings e ++ spellingsOf es
def spellingsOfOption : Option Expr → List Spelling
  | none => []
  | some e => spellings e
end

theorem spellingsOf_eq_flatMap (es : List Expr) : spellingsOf es = es.flatMap spellings := by
  induction es with
  | nil => rfl
  | cons e es ih => rw [spellingsOf, ih, List.flatMap_cons]

end Expr

/-- Only entries of enums are written as they are. -/
def ArgumentValue.spellings : ArgumentValue → List Spelling
  | .enumEntry container entry => [.name container, .text entry]
  | _ => []

def Annotations.spellings (annotations : Annotations) : List Spelling :=
  annotations.flatMap fun a => a.arguments.values.flatMap ArgumentValue.spellings

def FunctionDecl.spellings (f : FunctionDecl) : List Spelling :=
  .name f.owner :: .text f.name :: f.annotations.spellings

def PropertyDecl.spellings (p : PropertyDecl) : List Spelling :=
  .name p.owner :: .text p.name :: .name p.type.name ::
    (p.annotations.spellings ++ p.initializer.toList.flatMap Expr.spellings ++
      p.delegate.toList.flatMap Expr.spellings)

def ClassDecl.spellings (c : ClassDecl) : List Spelling :=
  .name c.name :: (c.members.functions.flatMap FunctionDecl.spellings ++
    c.members.properties.flatMap PropertyDecl.spellings)

theorem ClassDecl.spellings_of_function {c : ClassDecl} {f : FunctionDecl}
    (h : f ∈ c.members.functions) : f.spellings ⊆ c.spellings := fun _ spelled =>
  List.mem_cons_of_mem _ (List.mem_append_left _ (List.mem_flatMap.2 ⟨f, h, spelled⟩))

theorem ClassDecl.spellings_of_property {c : ClassDecl} {p : PropertyDecl}
    (h : p ∈ c.members.properties) : p.spellings ⊆ c.spellings := fun _ spelled =>
  List.mem_cons_of_mem _ (List.mem_append_right _ (List.mem_flatMap.2 ⟨p, h, spelled⟩))

theorem Dict.mem_values_of_get? {α : Type} {d : Dict α} {key : String} {value : α}
    (h : d.get? key = some value) : value ∈ d.values := by
  obtain ⟨front, back, entries, -⟩ := List.lookup_eq_some_iff.1 h
  rw [values, entries]
  simp

theorem Annotations.spellings_of_value? {annotations : Annotations} {name argument : String}
    {value : ArgumentValue} (h : annotations.value? name argument = some value) :
    value.spellings ⊆ annotations.spellings := by
  obtain ⟨a, found, h⟩ := Option.bind_eq_some_iff.1 h
  intro s listed
  exact List.mem_flatMap.2 ⟨a, List.mem_of_find?_eq_some found,
    List.mem_flatMap.2 ⟨value, Dict.mem_values_of_get? h, listed⟩⟩

/-! ### Spellings on one line -/

namespace Spelling

/-- The names and source texts are on one line. Constants may be anything. -/
def Unbroken : Spelling → Prop
  | name n => OneLine n.text
  | text t => OneLine t
  | char _ | literal _ => True

instance : DecidablePred Unbroken
  | name n => inferInstanceAs (Decidable (OneLine n.text))
  | text t => inferInstanceAs (Decidable (OneLine t))
  | char _ | literal _ => .isTrue trivial

def literal? : Spelling → Option String
  | literal t => some t
  | _ => none

/-- What stays on one line in the source of an expression whose string literals are escaped. -/
def Kept : Spelling → Prop
  | char value => value ≠ '\r'
  | s => s.Unbroken

/-- What stays on one line in the text of an expression. -/
def KeptVerbatim : Spelling → Prop
  | literal t => OneLine t
  | s => s.Kept

@[simp]
theorem kept_name {n : DottedName} : (name n).Kept ↔ OneLine n.text := Iff.rfl

@[simp]
theorem kept_text {t : String} : (text t).Kept ↔ OneLine t := Iff.rfl

theorem Unbroken.kept {s : Spelling} (h : s.Unbroken) (h' : s ≠ char '\r') : s.Kept := by
  cases s with
  | char value =>
    rintro rfl
    exact h' rfl
  | name n => exact h
  | text t => exact h
  | literal t => trivial

theorem Kept.keptVerbatim {s : Spelling} (h : s.Kept) (h' : ∀ t, s.literal? = some t → OneLine t) :
    s.KeptVerbatim := by
  cases s with
  | literal t => exact h' t rfl
  | name n => exact h
  | text t => exact h
  | char value => exact h

theorem KeptVerbatim.kept {s : Spelling} (h : s.KeptVerbatim) : s.Kept := by
  cases s with
  | literal t => trivial
  | name n => exact h
  | text t => exact h
  | char value => exact h

end Spelling

theorem oneLine_charText_iff {c : Char} : OneLine (charText c) ↔ c ≠ '\r' := by
  unfold charText
  split
  · decide
  · decide
  · decide
  · decide
  · next noFeed _ =>
    have feed : c ≠ '\n' := noFeed
    simp [OneLine, feed]

theorem oneLine_literal_iff {text : String} :
    OneLine (TemplatePart.literal text).text ↔ OneLine text := by
  rw [TemplatePart.text, OneLine.ofList_iff, Unbroken.flatMap_iff]
  refine forall₂_congr fun c _ => ?_
  split
  · next escaped => rcases escaped with rfl | rfl <;> decide
  · simp

theorem Constant.oneLine_text {value : Constant} (h : ∀ s ∈ value.spellings, s.Kept) :
    OneLine value.text := by
  cases value with
  | int value => exact oneLine_toString _
  | long value => exact (oneLine_toString _).append (by decide)
  | float value => exact (Number.oneLine_doubleText value).append (by decide)
  | double value => exact Number.oneLine_doubleText value
  | bool value => cases value <;> decide
  | char value => exact oneLine_charText_iff.2 (h _ List.mem_cons_self)
  | null => decide

theorem TemplatePart.oneLine_text {part : TemplatePart} (h : part.spelling.KeptVerbatim) :
    OneLine part.text := by
  cases part with
  | literal text => exact oneLine_literal_iff.2 h
  | interpolation text => exact h

theorem DottedName.oneLine_parts {n : DottedName} (h : OneLine n.text) :
    OneLine n.packageText ∧ OneLine n.name := by
  have segments := (OneLine.intercalate_iff (by decide)).1 h
  rw [DottedName.segments, List.forall_mem_append, List.forall_mem_singleton] at segments
  exact ⟨(OneLine.intercalate_iff (by decide)).2 segments.1, segments.2⟩

namespace Expr

mutual
theorem oneLine_text : ∀ e : Expr, (∀ s ∈ e.spellings, s.KeptVerbatim) → OneLine e.text
  | .constant value, h => Constant.oneLine_text fun s listed => (h s listed).kept
  | .unary sign operand, h => by
    obtain ⟨first, inner⟩ := List.forall_mem_cons.1 h
    exact OneLine.append first (oneLine_text operand inner)
  | .template parts, h => by
    have each : ∀ part ∈ parts, OneLine part.text := fun part listed =>
      part.oneLine_text (h _ (List.mem_map_of_mem listed))
    rw [text]
    exact (OneLine.append (by decide) (OneLine.join_iff.2 (List.forall_mem_map.2 each))).append
      (by decide)
  | .member receiver selector target, h => by
    rw [spellings, List.forall_mem_append, List.forall_mem_append] at h
    rw [text]
    exact ((oneLine_text receiver h.1.1).append (by decide)).append (oneLine_text selector h.1.2)
  | .call callee kind typeArguments arguments trailing, h => by
    rw [spellings, List.forall_mem_cons, List.forall_mem_append, List.forall_mem_append,
      List.forall_mem_map] at h
    obtain ⟨called, ⟨types, given⟩, closure⟩ := h
    have typeNames : OneLine (", ".intercalate (typeArguments.map DottedName.name)) :=
      (OneLine.intercalate_iff (by decide)).2 (List.forall_mem_map.2 fun n listed =>
        (DottedName.oneLine_parts (types n listed)).2)
    have values : OneLine (", ".intercalate (texts arguments)) :=
      (OneLine.intercalate_iff (by decide)).2 (oneLine_texts arguments given)
    have typed : OneLine (if typeArguments.isEmpty then "" else
        "<" ++ ", ".intercalate (typeArguments.map DottedName.name) ++ ">") := by
      split
      · decide
      · exact (OneLine.append (by decide) typeNames).append (by decide)
    rw [text]
    exact (((((DottedName.oneLine_parts called).2.append typed).append (by decide)).append
      values).append (by decide)).append (oneLine_trailingText trailing closure)
  | .binary left op right, h => by
    rw [spellings, List.forall_mem_append, List.forall_mem_append] at h
    rw [text]
    exact ((((oneLine_text left h.1.1).append (by decide)).append (oneLine_text op h.1.2)).append
      (by decide)).append (oneLine_text right h.2)
  | .name spelling target, h => (List.forall_mem_cons.1 h).1
  | .operator token, h => h _ List.mem_cons_self
  | .lambda mapped source, h => (List.forall_mem_cons.1 h).1
theorem oneLine_texts : ∀ es : List Expr, (∀ s ∈ spellingsOf es, s.KeptVerbatim) →
    ∀ t ∈ texts es, OneLine t
  | [], _ => by
    rw [texts]
    exact List.forall_mem_nil _
  | e :: es, h => by
    rw [spellingsOf, List.forall_mem_append] at h
    rw [texts, List.forall_mem_cons]
    exact ⟨oneLine_text e h.1, oneLine_texts es h.2⟩
theorem oneLine_trailingText : ∀ trailing : Option Expr,
    (∀ s ∈ spellingsOfOption trailing, s.KeptVerbatim) → OneLine (trailingText trailing)
  | none, _ => by
    rw [trailingText]
    decide
  | some e, h => by
    rw [trailingText]
    exact OneLine.append (by decide) (oneLine_text e h)
end

end Expr

end ScriptRegistrar
