import ScriptRegistrar.Proofs.Declaration.Spelling
import ScriptRegistrar.Proofs.Registration.Layout

/-! Every line of a registrar's function is one line of the file. -/

namespace ScriptRegistrar

open Source (ClassName MemberName TypeName Argument Fragment EmissionFault FunctionText BodyLine
  placeLines_line)
open Source.Argument (isOneLine_type isOneLine_member)

/-- If a fragment comes out, it is on one line. -/
abbrev KeepsLine {ε : Type} (x : Except ε Fragment) : Prop :=
  Ends Fragment.IsOneLine (fun _ => True) x

theorem KeepsLine.lift {ε ε' : Type} {x : Except ε Fragment} (h : KeepsLine x) (g : ε → ε') :
    KeepsLine (x.mapError g) :=
  h.mapError fun _ _ => trivial

/-- A filled template, wherever its fault would go. -/
theorem keepsLine_of {ε : Type} {format : String} {arguments : List Argument}
    {g : EmissionFault → ε} (template : OneLine format) (each : ∀ a ∈ arguments, a.IsOneLine) :
    KeepsLine ((Fragment.of format arguments).mapError g) :=
  KeepsLine.lift (Fragment.of_isOneLine template each) g

/-! ### Vocabulary -/

theorem VariantTag.isOneLine_constant (tag : VariantTag) : tag.constant.IsOneLine :=
  ClassName.isOneLine_topLevel (by decide) (by cases tag <;> decide)

theorem EditorHint.isOneLine_constant (hint : EditorHint) : hint.constant.IsOneLine :=
  ClassName.isOneLine_topLevel (by decide)
    (OneLine.append (by decide) (by cases hint <;> decide))

theorem isOneLine_ofDotted {n : DottedName} (h : OneLine n.text) :
    (ClassName.ofDotted n).IsOneLine :=
  have ⟨package, name⟩ := DottedName.oneLine_parts h
  ⟨package, name, List.forall_mem_nil _⟩

theorem Vocabulary.isOneLine_rpcMode {annotations : Annotations}
    (h : ∀ s ∈ annotations.spellings, s.Kept) (registration : String) :
    (rpcMode annotations registration).IsOneLine := by
  unfold rpcMode
  split
  · next container entry chosen =>
    obtain ⟨value, given, isEntry⟩ := Option.bind_eq_some_iff.1 chosen
    have spelled := Annotations.spellings_of_value? given
    cases value with
    | enumEntry container' entry' =>
      cases isEntry
      exact ClassName.isOneLine_topLevel (h _ (spelled List.mem_cons_self))
        (h _ (spelled (List.mem_cons_of_mem _ List.mem_cons_self)))
    | _ => cases isEntry
  · decide

/-! ### Default values -/

theorem Reference.fragment_keepsLine {r : Reference} (h : ∀ s ∈ r.spellings, s.Kept) :
    KeepsLine r.fragment := by
  obtain ⟨container, name⟩ : OneLine r.container.text ∧ OneLine r.name := by
    simpa [spellings] using h
  have owner := isOneLine_type (isOneLine_ofDotted container)
  have topLevel := isOneLine_type (ClassName.isOneLine_topLevel container name)
  have constant := isOneLine_member container name
  unfold fragment
  split
  · exact keepsLine_of (by decide) (by simp [constant])
  · exact keepsLine_of (by decide) (by simp [owner, name])
  · exact keepsLine_of (by decide) (by simp [owner, name])
  · exact keepsLine_of (by decide) (by simp [topLevel])
  · exact .error trivial

theorem calleeFragment_keepsLine {callee : DottedName} (h : OneLine callee.text) (kind : CallKind) :
    KeepsLine (calleeFragment callee kind) := by
  obtain ⟨package, name⟩ := DottedName.oneLine_parts h
  cases kind with
  | constructor =>
    exact Fragment.of_isOneLine (by decide) (by simp [isOneLine_type (isOneLine_ofDotted h)])
  | function => exact Fragment.of_isOneLine (by decide) (by simp [isOneLine_member package name])

theorem addTypeArguments_keepsLine {head : Fragment} (h : head.IsOneLine)
    {typeArguments : List DottedName} (h' : ∀ n ∈ typeArguments, OneLine n.text) :
    KeepsLine (addTypeArguments head typeArguments) := by
  unfold addTypeArguments
  split
  · exact .ok h
  · refine (Ends.mapM_forall fun n listed => Fragment.of_isOneLine (by decide)
      (by simp [isOneLine_type (isOneLine_ofDotted (h' n listed))])).bind fun types each => ?_
    exact Fragment.append?_isOneLine h (by decide)
      (by simp [Fragment.join_isOneLine each])

namespace Expr

theorem classMember?_isOneLine {receiver selector : Expr} {owner : ClassName} {spelling : String}
    (h : ∀ s ∈ receiver.spellings, s.Kept) (h' : ∀ s ∈ selector.spellings, s.Kept)
    (found : classMember? receiver selector = some (owner, spelling)) :
    owner.IsOneLine ∧ OneLine spelling := by
  unfold classMember? at found
  split at found
  · split at found
    · cases found
      simp [spellings, Reference.spellings] at h h'
      exact ⟨ClassName.isOneLine_topLevel h.2.1 h.2.2, h'.1⟩
    · cases found
  · cases found

mutual
theorem fragment_keepsLine (inCall : Bool) : ∀ e : Expr, (∀ s ∈ e.spellings, s.Kept) →
    KeepsLine (e.fragment inCall)
  | .constant value, h => by
    rw [fragment]
    have text : OneLine value.text := Constant.oneLine_text h
    exact keepsLine_of (by decide) (by simp [text])
  | .unary sign operand, h => by
    obtain ⟨first, inner⟩ := List.forall_mem_cons.1 h
    rw [Spelling.kept_text] at first
    rw [fragment]
    refine (fragment_keepsLine inCall operand inner).bind fun f kept => ?_
    exact keepsLine_of (by decide) (by simp [first, kept])
  | .template parts, h => by
    rw [fragment]
    split
    · exact keepsLine_of (by decide) (by simp)
    · exact .error trivial
  | .member receiver selector target, h => by
    rw [spellings, List.forall_mem_append, List.forall_mem_append] at h
    obtain ⟨⟨ofReceiver, ofSelector⟩, ofTarget⟩ := h
    rw [fragment]
    split
    · next known resolved =>
      cases (Option.filter_eq_some_iff.1 resolved).1
      exact Reference.fragment_keepsLine (by simpa using ofTarget)
    · next owner spelling _ found =>
      obtain ⟨named, spelled⟩ := classMember?_isOneLine ofReceiver ofSelector found
      exact keepsLine_of (by decide) (by simp [isOneLine_type named, spelled])
    · exact .error trivial
  | .call callee kind typeArguments arguments trailing, h => by
    rw [spellings, List.forall_mem_cons, List.forall_mem_append, List.forall_mem_append,
      List.forall_mem_map] at h
    obtain ⟨called, ⟨types, given⟩, closing⟩ := h
    rw [fragment]
    refine ((calleeFragment_keepsLine called kind).lift _).bind fun name kept => ?_
    refine ((addTypeArguments_keepsLine kept types).lift _).bind fun head kept => ?_
    refine (fragments_keepLine arguments given).bind fun values each => ?_
    have call : KeepsLine (head.append? "(%L)" [Fragment.join ", " values]) :=
      Fragment.append?_isOneLine kept (by decide) (by simp [Fragment.join_isOneLine each])
    refine (call.lift _).bind fun call kept => ?_
    refine (trailingFragment_keepsLine trailing closing).bind fun closure each => ?_
    cases closure with
    | none => exact .ok kept
    | some closure =>
      exact KeepsLine.lift
        (Fragment.append?_isOneLine kept (by decide) (by simp [each closure rfl])) _
  | .binary left op right, h => by
    rw [spellings, List.forall_mem_append, List.forall_mem_append] at h
    rw [fragment]
    refine (fragment_keepsLine inCall left h.1.1).bind fun first kept => ?_
    refine (fragment_keepsLine inCall op h.1.2).bind fun middle kept' => ?_
    refine (fragment_keepsLine inCall right h.2).bind fun second kept'' => ?_
    exact keepsLine_of (by decide) (by simp [kept, kept', kept''])
  | .name spelling (some target), h => by
    rw [fragment]
    exact Reference.fragment_keepsLine (by simpa using (List.forall_mem_cons.1 h).2)
  | .name _ none, _ => by
    rw [fragment]
    exact .error trivial
  | .operator token, h => by
    rw [fragment]
    exact .ok (Fragment.isOneLine_literal (h _ List.mem_cons_self))
  | .lambda (some mapped) source, h => by
    have named : OneLine mapped.text := h _ (List.mem_cons_of_mem _ List.mem_cons_self)
    rw [fragment]
    split
    · exact keepsLine_of (by decide) (by simp [isOneLine_type (isOneLine_ofDotted named)])
    · exact .error trivial
  | .lambda none _, _ => by
    rw [fragment]
    exact .error trivial
theorem fragments_keepLine : ∀ es : List Expr, (∀ s ∈ spellingsOf es, s.Kept) →
    Ends (fun fs => ∀ f ∈ fs, f.IsOneLine) (fun _ => True) (fragments es)
  | [], _ => by
    rw [fragments]
    exact .ok (List.forall_mem_nil _)
  | e :: es, h => by
    rw [spellingsOf, List.forall_mem_append] at h
    rw [fragments]
    refine (fragment_keepsLine true e h.1).bind fun first kept => ?_
    refine (fragments_keepLine es h.2).bind fun rest each => ?_
    exact .ok (List.forall_mem_cons.2 ⟨kept, each⟩)
theorem trailingFragment_keepsLine : ∀ trailing : Option Expr,
    (∀ s ∈ spellingsOfOption trailing, s.Kept) →
    Ends (fun closure => ∀ f, closure = some f → f.IsOneLine) (fun _ => True)
      (trailingFragment trailing)
  | none, _ => by
    rw [trailingFragment]
    exact .ok nofun
  | some e, h => by
    rw [trailingFragment]
    refine (fragment_keepsLine true e h).bind fun closure kept => .ok ?_
    rintro _ ⟨⟩
    exact kept
end

end Expr

/-! ### Properties -/

theorem memberReference_keepsLine {owner : DottedName} {name : String} (h : OneLine owner.text)
    (h' : OneLine name) : KeepsLine (memberReference owner name) :=
  Fragment.of_isOneLine (by decide) (by simp [isOneLine_type (isOneLine_ofDotted h), h'])

theorem ResolvedType.castFromAny_keepsLine (t : ResolvedType) (h : OneLine t.name.text) :
    KeepsLine t.castFromAny := by
  have long := isOneLine_type (c := .topLevel "kotlin" "Long") (by decide)
  have double := isOneLine_type (c := .topLevel "kotlin" "Double") (by decide)
  unfold castFromAny
  split
  · exact Fragment.of_isOneLine (by decide) (by simp [long])
  split
  · exact Fragment.of_isOneLine (by decide) (by simp [double])
  · exact Fragment.of_isOneLine (by decide) (by simp [isOneLine_type (isOneLine_ofDotted h)])

theorem oneLine_boolText (b : Bool) : OneLine (boolText b) := by
  cases b <;> decide

namespace PropertyDecl

variable {p : PropertyDecl} {reference : Fragment}

theorem spellings_of_assignment {e : Expr} (h : p.assignment = some e) :
    e.spellings ⊆ p.spellings := by
  intro s listed
  unfold assignment at h
  rcases Option.or_eq_some_iff.1 h with given | ⟨-, given⟩
  · simp [spellings, given, listed]
  · simp [spellings, given, listed]

theorem kept_of_spellings (h : ∀ s ∈ p.spellings, s.Kept) :
    OneLine p.owner.text ∧ OneLine p.name ∧ OneLine p.type.name.text ∧
      ∀ s ∈ p.annotations.spellings, s.Kept := by
  rw [spellings, List.forall_mem_cons, List.forall_mem_cons, List.forall_mem_cons,
    List.forall_mem_append, List.forall_mem_append] at h
  obtain ⟨owner, name, typeName, ⟨annotations, -⟩, -⟩ := h
  exact ⟨owner, name, typeName, annotations⟩

theorem defaultValue_keepsLine (h : ∀ s ∈ p.spellings, s.Kept) : KeepsLine p.defaultValue := by
  unfold defaultValue
  refine (failsOnly_any _).bind fun _ _ => ?_
  split
  · exact .ok (Fragment.isOneLine_literal (by decide))
  · split
    · next value assigned =>
      exact KeepsLine.lift (Expr.fragment_keepsLine false value fun s listed =>
        h s (spellings_of_assignment assigned listed)) _
    · exact .error trivial

theorem registration_keepsLine (h : ∀ s ∈ p.spellings, s.Kept) : KeepsLine p.registration := by
  obtain ⟨owner, name, typeName, annotations⟩ := kept_of_spellings h
  have mode := isOneLine_type (Vocabulary.isOneLine_rpcMode annotations
    AnnotationName.registerProperty)
  have value := defaultValue_keepsLine h
  have visible := oneLine_boolText p.isVisible
  have enum {registryFunction : String} {reference : Fragment} (h' : OneLine registryFunction)
      (kept : reference.IsOneLine) : KeepsLine (p.enumStatement registryFunction reference) := by
    unfold enumStatement
    refine value.bind fun value kept' => ?_
    exact keepsLine_of (h'.append (by decide)) (by simp [kept, kept', visible, rpcMode, mode])
  have ofTag (tag : VariantTag) := isOneLine_type tag.isOneLine_constant
  have ofHint (hint : EditorHint) := isOneLine_type hint.isOneLine_constant
  unfold registration
  refine (KeepsLine.lift (memberReference_keepsLine owner name) _).bind fun reference kept => ?_
  dsimp only
  cases PropertyRoute.of p.type with
  | plain =>
    have variantType : (Argument.member Vocabulary.variantTypeOf).IsOneLine :=
      isOneLine_member (by decide) (by decide)
    unfold plainStatement
    refine (failsOnly_any _).bind fun hint _ => ?_
    refine (KeepsLine.lift (p.type.castFromAny_keepsLine typeName) _).bind fun cast kept' => ?_
    refine (failsOnly_any _).bind fun tag _ => ?_
    refine value.bind fun value kept'' => ?_
    exact keepsLine_of (by decide)
      (by simp [kept, variantType, kept', ofTag, ofHint, kept'', visible, rpcMode, mode])
  | enum => exact enum (by decide) kept
  | enumList => exact enum (by decide) kept
  | enumFlags => exact enum (by decide) kept
  | reference =>
    unfold referenceStatement
    refine (failsOnly_any _).bind fun _ _ => (failsOnly_any _).bind fun _ _ => ?_
    refine (failsOnly_any _).bind fun hint _ => ?_
    exact keepsLine_of (by decide) (by simp [kept, ofTag, ofHint, visible, rpcMode, mode])

end PropertyDecl

/-! ### Signals -/

/-- Whether the expression names an argument by its own source text. -/
def Expr.isSourceName : Expr → Bool
  | .template parts => (literalText? parts).isNone
  | _ => true

namespace PropertyDecl

variable {p : PropertyDecl}

/-- The expressions that name the arguments of a signal. -/
def argumentNames (p : PropertyDecl) : List Expr := p.assignment.toList.flatMap Expr.callArguments

def LiteralsOnOneLine (p : PropertyDecl) : Prop :=
  ∀ e ∈ p.argumentNames, e.isSourceName = true →
    ∀ t ∈ e.spellings.filterMap Spelling.literal?, OneLine t

instance : DecidablePred LiteralsOnOneLine := fun p =>
  inferInstanceAs (Decidable (∀ e ∈ p.argumentNames, e.isSourceName = true →
    ∀ t ∈ e.spellings.filterMap Spelling.literal?, OneLine t))

theorem signalArgumentNames_eq :
    p.signalArgumentNames = p.argumentNames.map signalArgumentName := by
  unfold signalArgumentNames argumentNames
  cases p.assignment <;> simp

theorem spellings_of_argumentNames {e : Expr} (h : e ∈ p.argumentNames) :
    e.spellings ⊆ p.spellings := by
  obtain ⟨value, assigned, argument⟩ := List.mem_flatMap.1 h
  intro s listed
  refine spellings_of_assignment (Option.mem_toList.1 assigned) ?_
  cases value with
  | call callee kind typeArguments arguments trailing =>
    rw [Expr.callArguments] at argument
    rw [Expr.spellings, Expr.spellingsOf_eq_flatMap]
    have given := List.mem_flatMap.2 ⟨e, argument, listed⟩
    simp only [List.mem_cons, List.mem_append]
    exact .inr (.inl (.inr given))
  | _ => cases argument

theorem signalArgumentName_isOneLine {e : Expr}
    (h : e.isSourceName = true → ∀ s ∈ e.spellings, s.KeptVerbatim) :
    (signalArgumentName e).IsOneLine := by
  unfold signalArgumentName
  split
  · next parts =>
    split
    · exact Argument.isOneLine_string _
    · next interpolated =>
      refine Argument.isOneLine_verbatim_iff.2 (Expr.oneLine_text _ (h ?_))
      rw [Expr.isSourceName, interpolated]
      rfl
  · next noTemplate =>
    refine Argument.isOneLine_verbatim_iff.2 (Expr.oneLine_text e (h ?_))
    unfold Expr.isSourceName
    split
    · exact absurd rfl (noTemplate _)
    · rfl

theorem signalArgument_keepsLine (type : ResolvedType) {name : Argument} (h : name.IsOneLine) :
    Ends (fun group => OneLine group.1 ∧ ∀ a ∈ group.2, a.IsOneLine) (fun _ => True)
      (signalArgument type name) := by
  have ofArgument := isOneLine_type (c := Vocabulary.functionArgument) (by decide)
  have slot : OneLine (nameSlot name) := by
    unfold nameSlot
    split <;> decide
  unfold signalArgument
  refine (failsOnly_any (VariantTag.of type)).bind fun tag _ => .ok ⟨?_, ?_⟩
  · exact (OneLine.append (by decide) slot).append (by decide)
  · simp [ofArgument, isOneLine_type tag.isOneLine_constant, h]

theorem signalRegistration_keepsLine (h : ∀ s ∈ p.spellings, s.Kept)
    (literals : p.LiteralsOnOneLine) : KeepsLine p.signalRegistration := by
  obtain ⟨owner, name, -, -⟩ := kept_of_spellings h
  have names : ∀ a ∈ p.signalArgumentNames, a.IsOneLine := by
    rw [signalArgumentNames_eq, List.forall_mem_map]
    intro e listed
    refine signalArgumentName_isOneLine fun source s spelled => ?_
    have kept := h s (spellings_of_argumentNames listed spelled)
    exact kept.keptVerbatim fun t same =>
      literals e listed source t (List.mem_filterMap.2 ⟨s, spelled, same⟩)
  unfold signalRegistration
  refine (failsOnly_any _).bind fun _ _ => ?_
  dsimp only
  split
  · exact .error trivial
  · refine (KeepsLine.lift (memberReference_keepsLine owner name) _).bind fun reference kept => ?_
    refine (Ends.mapM_forall fun (type, name) listed => Ends.mapError
      (signalArgument_keepsLine type (names name (List.of_mem_zip listed).2))
      fun _ _ => trivial).bind fun groups each => ?_
    refine keepsLine_of ((OneLine.append (by decide) (OneLine.join_iff.2 ?_)).append (by decide)) ?_
    · exact List.forall_mem_map.2 fun group listed => (each group listed).1
    · refine List.forall_mem_cons.2 ⟨kept, fun a listed => ?_⟩
      obtain ⟨group, member, part⟩ := List.mem_flatMap.1 listed
      exact (each group member).2 a part

end PropertyDecl

/-! ### Functions and constructors -/

theorem oneLine_join_const {α : Type} {part : String} (h : OneLine part) (xs : List α) :
    OneLine (String.join (xs.map fun _ => part)) :=
  OneLine.join_iff.2 (List.forall_mem_map.2 fun _ _ => h)

theorem isOneLine_tags (tags : List VariantTag) :
    ∀ a ∈ tags.map fun tag => Argument.type tag.constant, a.IsOneLine :=
  List.forall_mem_map.2 fun tag _ => isOneLine_type tag.isOneLine_constant

theorem FunctionDecl.registration_keepsLine {f : FunctionDecl} (h : ∀ s ∈ f.spellings, s.Kept) :
    KeepsLine f.registration := by
  rw [spellings, List.forall_mem_cons, List.forall_mem_cons] at h
  obtain ⟨owner, name, annotations⟩ := h
  have ofArgument := isOneLine_type (c := Vocabulary.functionArgument) (by decide)
  have ofTag (tag : VariantTag) := isOneLine_type tag.isOneLine_constant
  have mode := isOneLine_type (Vocabulary.isOneLine_rpcMode annotations
    AnnotationName.registerFunction)
  unfold registration
  split
  · next returnType _ =>
    refine (failsOnly_any _).bind fun returnTag _ => (failsOnly_any _).bind fun tags _ => ?_
    refine (KeepsLine.lift (memberReference_keepsLine owner name) _).bind fun reference kept => ?_
    refine keepsLine_of ?_ ?_
    · exact ((OneLine.append (by decide) (oneLine_join_const (by decide) tags)).append
        (oneLine_join_const (by decide) f.parameters)).append (by decide)
    · have group (parameter : Parameter) (tag : VariantTag) :
          ∀ a ∈ parameterGroup parameter tag, a.IsOneLine := by
        simp [parameterGroup, ofArgument, ofTag]
      simp only [List.forall_mem_append, List.forall_mem_flatMap]
      exact ⟨⟨⟨by simp [kept, ofTag], isOneLine_tags tags⟩, fun pair _ => group pair.1 pair.2⟩,
        by simp [ofArgument, ofTag, mode]⟩
  · exact .error trivial

theorem ConstructorDecl.registration_keepsLine {className : ClassName} (h : className.IsOneLine)
    (k : ConstructorDecl) : KeepsLine (k.registration className) := by
  have wrapper : (Vocabulary.constructorWrapper k.parameters.length).IsOneLine :=
    ClassName.isOneLine_topLevel (by decide) (OneLine.append (by decide) (oneLine_repr _))
  unfold registration
  refine (failsOnly_any _).bind fun tags _ => keepsLine_of ?_ ?_
  · exact (OneLine.append (by decide) (oneLine_join_const (by decide) tags)).append (by decide)
  · rw [List.forall_mem_append]
    exact ⟨by simp [isOneLine_type wrapper, isOneLine_type h], isOneLine_tags tags⟩

/-! ### Registrars -/

namespace Registrar

theorem heads_isOneLine {c : Candidate} (h : OneLine c.decl.name.text) {outer inner : Fragment}
    (opened : heads c = .ok (outer, inner)) : outer.IsOneLine ∧ inner.IsOneLine := by
  have named := isOneLine_type (isOneLine_ofDotted h)
  have tool := oneLine_boolText c.decl.isTool
  have first : KeepsLine (Fragment.of "with(registry)" []) :=
    Fragment.of_isOneLine (by decide) (List.forall_mem_nil _)
  have second : KeepsLine (Fragment.of
      "registerClass<%T>(%T::class.qualifiedName!!, %S, %L, %S, %S)" (headArguments c)) :=
    Fragment.of_isOneLine (by decide) (by simp [headArguments, named, tool])
  obtain ⟨f, made, opened⟩ := bind_ok opened
  obtain ⟨g, made', opened⟩ := bind_ok opened
  obtain ⟨rfl, rfl⟩ := Prod.mk.inj (pure_ok opened)
  exact ⟨first.good_of_ok made, second.good_of_ok made'⟩

theorem isOneLine_of_registers {α : Type} {statement : α → Except GenerationError Fragment}
    {xs : List α} {codes : List Fragment}
    (registered : List.Forall₂ (fun x code => statement x = .ok code) xs codes)
    (h : ∀ x ∈ xs, KeepsLine (statement x)) : ∀ code ∈ codes, code.IsOneLine := by
  induction registered with
  | nil => exact List.forall_mem_nil _
  | cons made _ ih =>
    obtain ⟨first, rest⟩ := List.forall_mem_cons.1 h
    exact List.forall_mem_cons.2 ⟨first.good_of_ok made, ih rest⟩

end Registrar

/-! ### Lines of the function -/

section
open Source (PlacedLine indent)

def Source.BodyLine.IsOneLine : BodyLine → Prop
  | .statement code => code.IsOneLine
  | .openFlow head => head.IsOneLine
  | .closeFlow => True

/-- The line ends with the only line break in it. -/
def EndsLine (text : String) : Prop := ∃ line, text = line ++ "\n" ∧ OneLine line

theorem endsLine_write {placed : PlacedLine} (h : placed.line.IsOneLine)
    (imports : Source.Imports) : EndsLine (placed.write imports) := by
  have front : OneLine (indent placed.level) := by
    rw [indent, OneLine.ofList_iff]
    intro c member
    rw [List.eq_of_mem_replicate member]
    decide
  unfold PlacedLine.write
  split
  · next code line =>
    rw [line] at h
    exact ⟨indent placed.level ++ code.write imports, (String.append_assoc).symm,
      front.append (h imports)⟩
  · next head line =>
    rw [line] at h
    refine ⟨indent placed.level ++ head.write imports ++ " \x7b", ?_,
      (front.append (h imports)).append (by decide)⟩
    simp [String.append_assoc]
  · exact ⟨indent placed.level ++ "\x7d", by simp [String.append_assoc], front.append (by decide)⟩

end

namespace Registrar

variable {index : ClassIndex} {ledger ledger' : NameLedger} {c : ClassDecl} {registrar : Registrar}

theorem statements_isOneLine {m : ClassMembers} {s : Statements} (h : s.Registers m)
    (owner : OneLine m.owner.name.text) (functions : ∀ f ∈ m.functions, ∀ s ∈ f.spellings, s.Kept)
    (signals : ∀ p ∈ m.signals, (∀ s ∈ p.spellings, s.Kept) ∧ p.LiteralsOnOneLine)
    (properties : ∀ p ∈ m.properties, ∀ s ∈ p.spellings, s.Kept) :
    ∀ code ∈ s.all, code.IsOneLine := by
  rw [Statements.all, List.forall_mem_append, List.forall_mem_append, List.forall_mem_append]
  refine ⟨⟨⟨?_, ?_⟩, ?_⟩, ?_⟩
  · exact isOneLine_of_registers h.constructors fun k _ =>
      k.registration_keepsLine (isOneLine_ofDotted owner)
  · exact isOneLine_of_registers h.functions fun f listed =>
      FunctionDecl.registration_keepsLine (functions f listed)
  · exact isOneLine_of_registers h.signals fun p listed =>
      PropertyDecl.signalRegistration_keepsLine (signals p listed).1 (signals p listed).2
  · exact isOneLine_of_registers h.properties fun p listed =>
      PropertyDecl.registration_keepsLine (properties p listed)

theorem registerText_isOneLine {outer inner : Fragment} {codes : List Fragment}
    (h : outer.IsOneLine) (h' : inner.IsOneLine) (each : ∀ code ∈ codes, code.IsOneLine) :
    ∀ line ∈ (registerText outer inner codes).body, line.IsOneLine := by
  have statements : ∀ line ∈ codes.map BodyLine.statement, line.IsOneLine :=
    List.forall_mem_map.2 each
  simp only [registerText, List.cons_append, List.forall_mem_cons, List.forall_mem_append]
  exact ⟨h, h', statements, trivial, trivial, List.forall_mem_nil _⟩

/-- Each line of the function is one line of the file, if names and source texts are. -/
theorem lines_unbroken (generated : generate index ledger c = (ledger', .ok registrar))
    (names : ∀ d ∈ c :: index.userAncestors c, ∀ s ∈ d.spellings, s.Unbroken)
    (returns : ∀ d ∈ c :: index.userAncestors c, .char '\r' ∉ d.spellings)
    (literals : ∀ d ∈ c :: index.userAncestors c, ∀ p ∈ d.members.registeredSignals,
      p.LiteralsOnOneLine) :
    ∀ text ∈ registrar.file.classes, ∀ f ∈ text.functions, ∀ imports level,
      ∀ placed ∈ Source.placeLines level f.body, EndsLine (placed.write imports) := by
  have kept : ∀ d ∈ c :: index.userAncestors c, ∀ s ∈ d.spellings, s.Kept :=
    fun d higher s spelled => (names d higher s spelled).kept fun same =>
      returns d higher (same ▸ spelled)
  obtain ⟨candidate, outer, inner, s, found, opened, each, functions⟩ := generate_lays_out generated
  have owner : OneLine candidate.decl.name.text := by
    rw [candidate_decl found]
    exact kept c List.mem_cons_self _ List.mem_cons_self
  obtain ⟨ofOuter, ofInner⟩ := heads_isOneLine owner opened
  -- What is flattened into the class is declared by it or above it, so its spellings are kept.
  obtain ⟨inFunctions, inSignals, inProperties⟩ :=
    (ClassMembers.registers_of_flatten ((candidate_ok found).2)).declared
  have codes : ∀ code ∈ s.all, code.IsOneLine := by
    refine statements_isOneLine (registers_of_statements each) owner ?_ ?_ ?_
    · intro f member s spelled
      obtain ⟨d, higher, declared⟩ := inFunctions f member
      exact kept d higher s (ClassDecl.spellings_of_function declared spelled)
    · intro p member
      obtain ⟨d, higher, declared⟩ := inSignals p member
      have property := List.mem_of_mem_filter declared
      exact ⟨fun s spelled => kept d higher s (ClassDecl.spellings_of_property property spelled),
        literals d higher p declared⟩
    · intro p member s spelled
      obtain ⟨d, higher, declared⟩ := inProperties p member
      exact kept d higher s (ClassDecl.spellings_of_property declared spelled)
  intro text listed f member imports level placed inBody
  have only : text.functions ∈ [[registerText outer inner s.all]] :=
    functions ▸ List.mem_map_of_mem listed
  rw [List.mem_singleton.1 only, List.mem_singleton] at member
  have line : placed.line ∈ f.body := by
    rw [← placeLines_line level f.body]
    exact List.mem_map_of_mem inBody
  rw [member] at line
  exact endsLine_write (registerText_isOneLine ofOuter ofInner codes _ line) imports

end Registrar

namespace Sample

/-- The mark that belongs to `value`. -/
def mark (value : Expr) : PropertyDecl where
  owner := .parse "game.Scribe"
  name := "mark"
  type := ResolvedType.asEnum (.simple (.parse "game.Mark"))
  annotations := [.plain AnnotationName.registerProperty]
  isVar := true
  initializer := some (.call (.parse "game.markOf") .function [] [value] none)

def written (argument : Expr) : PropertyDecl :=
  PropertyDecl.registeredSignal {
    owner := .parse "game.Scribe"
    name := "signalWritten"
    type := { name := .parse "godot.Signal1", arguments := [.simple (.parse "kotlin.String")] }
    delegate := some (.call (.parse "godot.signal") .function [] [argument] none) }

def scribe (properties : List PropertyDecl) : ClassDecl :=
  ClassDecl.registeredAs {
    name := .parse "game.Scribe"
    superClass := some (.parse "godot.Node")
    members := .listed (properties.map .property) } "Sc\nribe"

def scribes (c : ClassDecl) : ClassIndex := .ofGraph { classes := [c], dependencies := [node] }

/-- With line breaks in a character, in a literal and in the name. -/
def neatScribe : ClassDecl :=
  scribe [mark (.constant (.char '\n')), written (.string "one\r\ntwo")]

/-- With a carriage return as a character. -/
def messyScribe : ClassDecl :=
  scribe [mark (.constant (.char '\r'))]

end Sample

theorem neatScribe_lines :
    ∃ ledger registrar,
      Registrar.generate (Sample.scribes Sample.neatScribe) {} Sample.neatScribe =
        (ledger, .ok registrar) ∧
      ∀ text ∈ registrar.file.classes, ∀ f ∈ text.functions, ∀ imports level,
        ∀ placed ∈ Source.placeLines level f.body, EndsLine (placed.write imports) := by
  obtain ⟨registrar, succeeded⟩ :
      Succeeds (Registrar.generate (Sample.scribes Sample.neatScribe) {} Sample.neatScribe).2 :=
    succeeds_of_isSome (by decide +kernel)
  have generated := Registrar.generate_eq succeeded
  exact ⟨_, registrar, generated, Registrar.lines_unbroken generated (by decide +kernel)
    (by decide +kernel) (by decide +kernel)⟩

/-- A carriage return as a character is not escaped. -/
theorem return_breaks_line :
    ¬ ∀ (index : ClassIndex) (ledger ledger' : NameLedger) (c : ClassDecl) (registrar : Registrar),
      Registrar.generate index ledger c = (ledger', .ok registrar) →
      (∀ d ∈ index.declarations, ∀ s ∈ d.spellings, s.Unbroken) →
      ∀ text ∈ registrar.file.classes, ∀ f ∈ text.functions, ∀ imports level,
        ∀ placed ∈ Source.placeLines level f.body, EndsLine (placed.write imports) := by
  intro unbroken
  obtain ⟨registrar, succeeded, broken⟩ := exists_ok_of_map
    (x := (Registrar.generate (Sample.scribes Sample.messyScribe) {} Sample.messyScribe).2)
    (f := fun r => r.file.classes.any fun text => text.functions.any fun f =>
      (Source.placeLines 0 f.body).any fun placed =>
        (placed.write .qualified).toList.contains '\r') (v := true) (by decide +kernel)
  have generated := Registrar.generate_eq succeeded
  have lines := unbroken _ _ _ _ registrar generated (by decide +kernel)
  simp only [List.any_eq_true] at broken
  obtain ⟨text, listed, f, member, placed, inBody, broken⟩ := broken
  obtain ⟨line, written, oneLine⟩ := lines text listed f member .qualified 0 placed inBody
  rw [written, List.contains_iff_mem, String.toList_append, List.mem_append] at broken
  rcases broken with inLine | atEnd
  · exact (oneLine _ inLine).2 rfl
  · exact absurd atEnd (by decide)

end ScriptRegistrar
