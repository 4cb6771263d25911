import ScriptRegistrar.Proofs.Registration.Lines

namespace ScriptRegistrar

open Source (ClassName Argument Fragment FunctionText Fits Imports TypeName callText filledText
  intercalate_cons stringLiteral)
open Source.Template (expand)

/-- The group for a parameter or a returned value: its tag, and texts that describe it. -/
def groupText (imports : Imports) (tag : VariantTag) (described : List String) : String :=
  callText (imports.classText Vocabulary.functionArgument)
    (imports.classText tag.constant :: described)

/-- What is made of each element by some choice is made of all elements by a list of choices. -/
theorem exists_zipWith_of_forall₂ {α β γ : Type} {P : α → γ → Prop} {g : α → γ → β} {xs : List α}
    {ys : List β} (h : List.Forall₂ (fun x y => ∃ c, P x c ∧ y = g x c) xs ys) :
    ∃ cs, List.Forall₂ P xs cs ∧ ys = List.zipWith g xs cs := by
  induction h with
  | nil => exact ⟨[], .nil, rfl⟩
  | cons first _ ih =>
    obtain ⟨c, holds, rfl⟩ := first
    obtain ⟨cs, all, rfl⟩ := ih
    exact ⟨c :: cs, .cons holds all, rfl⟩

/-! ### Functions -/

namespace FunctionDecl

variable {f : FunctionDecl} {code : Fragment}

/-- The statement refers to the function, and lists the tag of the returned value, the tags of the
parameters, a group for each parameter, a group for the returned value and the remote call mode. -/
def IsWrittenAs (f : FunctionDecl) (code : Fragment) : Prop :=
  ∃ returnType returnTag tags, f.returnType = some returnType ∧
    VariantTag.of returnType = .ok returnTag ∧
    List.Forall₂ (fun p tag => VariantTag.of p.type = .ok tag) f.parameters tags ∧
    ∀ imports : Imports, code.write imports = callText "function"
      ((imports.classText (.ofDotted f.owner) ++ "::" ++ f.name) ::
        imports.classText returnTag.constant ::
        tags.map (fun tag => imports.classText tag.constant) ++
        List.zipWith (fun p tag => groupText imports tag
          [stringLiteral p.type.name.text, stringLiteral p.name]) f.parameters tags ++
        [groupText imports returnTag [stringLiteral returnType.name.text],
          imports.classText (Vocabulary.rpcMode f.annotations AnnotationName.registerFunction)])

theorem registration_succeeds_iff :
    Succeeds f.registration ↔
      (∃ returnType, f.returnType = some returnType ∧ Succeeds (VariantTag.of returnType)) ∧
        ∀ p ∈ f.parameters, Succeeds (VariantTag.of p.type) := by
  unfold registration
  cases f.returnType with
  | none => exact iff_of_false (fun ⟨_, h⟩ => nomatch h) fun ⟨⟨_, h, _⟩, _⟩ => nomatch h
  | some returnType =>
    refine (succeeds_bind fun returnTag _ => succeeds_bind fun tags each =>
      succeeds_bind fun reference _ => iff_true_intro (succeeds_of_emission
        (fits_registration (mapM_ok each).length_eq reference returnType returnTag).of)).trans ?_
    rw [and_true, and_iff_left (succeeds_of_emission (memberReference_succeeds f.owner f.name)),
      succeeds_mapM]
    refine and_congr ?_ (forall₂_congr fun p _ => succeeds_mapError)
    exact succeeds_mapError.trans ⟨fun mapped => ⟨_, rfl, mapped⟩, fun ⟨_, same, mapped⟩ =>
      Option.some.inj same ▸ mapped⟩

theorem filledText_parameterGroups (imports : Imports) {parameters : List Parameter}
    {tags : List VariantTag} (same : parameters.length = tags.length) :
    filledText imports (String.join (parameters.map fun _ => ", %T(%T, %S, %S)"))
        ((parameters.zip tags).flatMap fun (p, tag) => parameterGroup p tag) =
      String.join (List.zipWith (fun p tag => ", " ++ groupText imports tag
        [stringLiteral p.type.name.text, stringLiteral p.name]) parameters tags) := by
  have fit : ∀ pair ∈ parameters.zip tags,
      Fits ", %T(%T, %S, %S)" (parameterGroup pair.1 pair.2) :=
    fun (p, tag) _ => ⟨_, rfl, by simp [parameterGroup]⟩
  rw [parameterFormats_eq same, Fits.filledText_join fit, ← List.map_uncurry_zip_eq_zipWith]
  refine congrArg String.join (List.map_congr_left fun (p, tag) _ => ?_)
  rw [← String.toList_inj]
  simp [filledText, parameterGroup, groupText, callText, expand, Argument.text, Imports.typeText,
    TypeName.write]

theorem registration_written (h : f.registration = .ok code) : f.IsWrittenAs code := by
  unfold registration at h
  split at h
  · next returnType known =>
    obtain ⟨returnTag, returned, h⟩ := bind_ok h
    obtain ⟨tags, each, h⟩ := bind_ok h
    obtain ⟨reference, referred, h⟩ := bind_ok h
    have tagged := (mapM_ok each).imp fun p tag => mapError_ok
    refine ⟨returnType, returnTag, tags, known, mapError_ok returned, tagged, fun imports => ?_⟩
    have opening : Fits "function(%L, %T" [reference, .type returnTag.constant] :=
      ⟨_, rfl, by simp⟩
    have listed := opening.append (fits_tags tags)
    have grouped := listed.append (fits_parameterGroups tagged.length_eq)
    rw [Fragment.write_of (mapError_ok h), grouped.filledText_append, listed.filledText_append,
      opening.filledText_append, filledText_tags, filledText_parameterGroups _ tagged.length_eq,
      List.cons_append, List.cons_append, callText, intercalate_cons, ← String.toList_inj]
    have reads := PropertyDecl.memberReference_written (mapError_ok referred) imports
    simp [filledText, groupText, callText, expand, Argument.text, Imports.typeText, TypeName.write,
      reads, List.map_zipWith, Function.comp_def]
  · cases h

end FunctionDecl

/-! ### Signals -/

theorem literalText?_eq_some_iff {parts : List TemplatePart} {text : String} :
    literalText? parts = some text ↔
      ∃ texts : List String, parts = texts.map .literal ∧ text = String.join texts := by
  induction parts generalizing text with
  | nil =>
    constructor
    · intro h
      cases h
      exact ⟨[], rfl, rfl⟩
    · rintro ⟨texts, none, rfl⟩
      cases List.map_eq_nil_iff.1 none.symm
      rfl
  | cons part parts ih =>
    cases part with
    | literal first =>
      rw [literalText?, Option.map_eq_some_iff]
      constructor
      · rintro ⟨rest, read, rfl⟩
        obtain ⟨texts, rfl, rfl⟩ := ih.1 read
        exact ⟨first :: texts, rfl, (String.join_cons).symm⟩
      · rintro ⟨texts, same, rfl⟩
        cases texts with
        | nil => cases same
        | cons first' texts =>
          obtain ⟨rfl, rest⟩ : first = first' ∧ parts = texts.map .literal := by simpa using same
          exact ⟨String.join texts, ih.2 ⟨texts, rest, rfl⟩, (String.join_cons).symm⟩
    | interpolation source =>
      rw [literalText?]
      refine iff_of_false (Option.some_ne_none text).symm ?_
      rintro ⟨texts, same, -⟩
      cases texts <;> cases same

namespace PropertyDecl

/-- How an expression in the call of a signal names an argument. A text is quoted anew, anything
else stays as it is in the source. -/
inductive Names : Expr → String → Prop
  | text (texts : List String) :
    Names (.template (texts.map .literal)) (stringLiteral (String.join texts))
  | source {e : Expr} (other : ∀ texts : List String, e ≠ .template (texts.map .literal)) :
    Names e e.text

variable {p : PropertyDecl} {code : Fragment}

/-- The statement refers to the signal, and lists a group for each argument: the tag and the simple
name of its type, and its name. -/
def IsSignalWrittenAs (p : PropertyDecl) (code : Fragment) : Prop :=
  ∃ tags names, List.Forall₂ (fun type tag => VariantTag.of type = .ok tag) p.type.arguments tags ∧
    List.Forall₂ Names p.argumentNames names ∧
    ∀ imports : Imports, code.write imports = callText "signal"
      ((imports.classText (.ofDotted p.owner) ++ "::" ++ p.name) ::
        List.zipWith (fun (type, name) tag => groupText imports tag
          [stringLiteral type.simpleName, name]) (p.type.arguments.zip names) tags)

theorem names_signalArgumentName (e : Expr) (imports : Imports) :
    Names e ((signalArgumentName e).text imports) := by
  unfold signalArgumentName
  split
  · next parts =>
    split
    · next text read =>
      obtain ⟨texts, rfl, rfl⟩ := literalText?_eq_some_iff.1 read
      exact .text texts
    · next interpolated =>
      refine .source fun texts same => ?_
      rw [literalText?_eq_some_iff.2 ⟨texts, Expr.template.inj same, rfl⟩] at interpolated
      cases interpolated
  · next noTemplate => exact .source fun texts => noTemplate _

theorem text_signalArgumentName (e : Expr) (imports imports' : Imports) :
    (signalArgumentName e).text imports = (signalArgumentName e).text imports' := by
  obtain ⟨text, spelled⟩ | ⟨text, spelled⟩ := signalArgumentName_cases e
  · rw [spelled, Argument.text, Argument.text]
  · rw [spelled, Argument.text, Argument.text]

def signalGroup (type : ResolvedType) (name : Argument) (tag : VariantTag) :
    String × List Argument :=
  (", %T(%T, %S, " ++ nameSlot name ++ ")",
    [Vocabulary.functionArgument, tag.constant, .string type.simpleName, name])

theorem signalArgument_ok {type : ResolvedType} {name : Argument} {group : String × List Argument}
    (h : signalArgument type name = .ok group) :
    ∃ tag, VariantTag.of type = .ok tag ∧ group = signalGroup type name tag := by
  obtain ⟨tag, mapped, h⟩ := bind_ok h
  exact ⟨tag, mapped, pure_ok h⟩

/-- The groups are made of pairs of a type and an expression, and of tags for the types. -/
theorem exists_tags {types : List ResolvedType} {names : List Expr}
    {groups : List (String × List Argument)} (same : types.length = names.length)
    (made : List.Forall₂ (fun (pair : ResolvedType × Expr) group =>
      signalArgument pair.1 (signalArgumentName pair.2) = .ok group) (types.zip names) groups) :
    ∃ tags, List.Forall₂ (fun type tag => VariantTag.of type = .ok tag) types tags ∧
      groups = List.zipWith (fun pair tag => signalGroup pair.1 (signalArgumentName pair.2) tag)
        (types.zip names) tags := by
  have each : List.Forall₂ (fun (pair : ResolvedType × Expr) group =>
      ∃ tag, VariantTag.of pair.1 = .ok tag ∧
        group = signalGroup pair.1 (signalArgumentName pair.2) tag) (types.zip names) groups :=
    made.imp fun pair group => signalArgument_ok
  obtain ⟨tags, tagged, assembled⟩ := exists_zipWith_of_forall₂ each
  have typed : List.Forall₂ (fun type tag => VariantTag.of type = .ok tag)
      ((types.zip names).map Prod.fst) tags := List.forall₂_map_left_iff.2 tagged
  rw [List.map_fst_zip same.le] at typed
  exact ⟨tags, typed, assembled⟩

theorem filledText_signalGroup (imports : Imports) (type : ResolvedType) (e : Expr)
    (tag : VariantTag) :
    filledText imports (signalGroup type (signalArgumentName e) tag).1
        (signalGroup type (signalArgumentName e) tag).2 =
      ", " ++ groupText imports tag
        [stringLiteral type.simpleName, (signalArgumentName e).text imports] := by
  obtain ⟨text, spelled⟩ | ⟨text, spelled⟩ := signalArgumentName_cases e
  all_goals
    rw [spelled, ← String.toList_inj]
    simp [filledText, signalGroup, nameSlot, groupText, callText, expand, Argument.text,
      Imports.typeText, TypeName.write]

theorem filledText_signal (imports : Imports) (reference : Fragment)
    {groups : List (String × List Argument)} (fit : ∀ group ∈ groups, Fits group.1 group.2) :
    filledText imports ("signal(%L" ++ String.join (groups.map Prod.fst) ++ ")")
        (.fragment reference :: groups.flatMap Prod.snd) =
      "signal(" ++ reference.write imports ++
        String.join (groups.map fun group => filledText imports group.1 group.2) ++ ")" := by
  have opening : Fits "signal(%L" [reference] := ⟨_, rfl, by simp⟩
  have listed := opening.append (Fits.join fit)
  rw [← List.singleton_append, ← List.append_nil (_ ++ _), listed.filledText_append,
    opening.filledText_append, Fits.filledText_join fit, ← String.toList_inj]
  simp [filledText, expand, Argument.text]

theorem signalRegistration_succeeds_iff :
    Succeeds p.signalRegistration ↔
      Succeeds p.checkSignal ∧ p.argumentNames.length = p.type.arguments.length ∧
        ∀ type ∈ p.type.arguments, Succeeds (VariantTag.of type) := by
  have named : p.signalArgumentNames.length = p.argumentNames.length := by
    rw [signalArgumentNames_eq, List.length_map]
  unfold signalRegistration
  refine (succeeds_bind (Q := p.argumentNames.length = p.type.arguments.length ∧
    ∀ type ∈ p.type.arguments, Succeeds (VariantTag.of type)) fun _ _ => ?_).trans
      (and_congr_left' succeeds_mapError)
  dsimp only
  split
  · next differ =>
    exact iff_of_false (fun ⟨_, h⟩ => nomatch h)
      fun ⟨same, _⟩ => differ (same.symm.trans named.symm)
  · next same =>
    rw [not_not] at same
    have mapped (pair : ResolvedType × Argument) :
        Succeeds (signalArgument pair.1 pair.2) ↔ Succeeds (VariantTag.of pair.1) :=
      (succeeds_bind fun _ _ => iff_true_intro ⟨_, rfl⟩).trans (and_true _).to_iff
    have types : (p.type.arguments.zip p.signalArgumentNames).map Prod.fst = p.type.arguments :=
      List.map_fst_zip same.le
    have all := List.forall_mem_map (l := p.type.arguments.zip p.signalArgumentNames)
      (f := Prod.fst) (P := fun type => Succeeds (VariantTag.of type))
    rw [types] at all
    refine (succeeds_bind fun reference _ => succeeds_bind fun groups each => iff_true_intro
      (succeeds_of_emission (fits_signal
        (p.signalArguments_fit.good_of_ok each) reference).of)).trans ?_
    rw [and_true, and_iff_right (succeeds_of_emission (memberReference_succeeds p.owner p.name)),
      and_iff_right (named.symm.trans same.symm), succeeds_mapM, all]
    exact forall₂_congr fun pair _ => succeeds_mapError.trans (mapped pair)

theorem signalRegistration_written (h : p.signalRegistration = .ok code) :
    p.IsSignalWrittenAs code := by
  unfold signalRegistration at h
  obtain ⟨-, -, h⟩ := bind_ok h
  dsimp only at h
  split at h
  · cases h
  · next same =>
    obtain ⟨reference, referred, h⟩ := bind_ok h
    obtain ⟨groups, each, h⟩ := bind_ok h
    have fit := p.signalArguments_fit.good_of_ok each
    have pairs := mapM_ok each
    rw [not_not, signalArgumentNames_eq, List.length_map] at same
    rw [signalArgumentNames_eq, List.zip_map_right, List.forall₂_map_left_iff] at pairs
    obtain ⟨tags, tagged, rfl⟩ := exists_tags same (pairs.imp fun pair group => mapError_ok)
    refine ⟨tags, p.argumentNames.map fun e => (signalArgumentName e).text .qualified, tagged,
      List.forall₂_map_right_iff.2 (List.forall₂_same.2 fun e _ => names_signalArgumentName e _),
      fun imports => ?_⟩
    have spelled : (fun e => (signalArgumentName e).text .qualified) =
        fun e => (signalArgumentName e).text imports :=
      funext fun e => text_signalArgumentName e _ _
    rw [Fragment.write_of (mapError_ok h), filledText_signal imports reference fit,
      memberReference_written (mapError_ok referred), List.map_zipWith, spelled, List.zip_map_right,
      List.zipWith_map_left, callText, intercalate_cons, List.map_zipWith]
    simp only [filledText_signalGroup]
    simp [String.append_assoc]

end PropertyDecl

/-! ### Constructors -/

namespace Registrar

variable {className : ClassName} {register extended : FunctionText} {k : ConstructorDecl}

theorem constructorStatement_succeeds_iff :
    Succeeds (constructorStatement className register k) ↔
      ∀ p ∈ k.parameters, Succeeds (VariantTag.of p.type) := by
  rw [constructorStatement_eq]
  refine (succeeds_bind fun _ _ => iff_true_intro ⟨_, rfl⟩).trans ?_
  rw [and_true]
  exact ConstructorDecl.registration_succeeds_iff

theorem constructorStatement_written
    (h : constructorStatement className register k = .ok extended) :
    ∃ code, extended = register.addCode code ∧ k.IsWrittenAs className code := by
  rw [constructorStatement_eq] at h
  obtain ⟨code, registered, h⟩ := bind_ok h
  exact ⟨code, pure_ok h, ConstructorDecl.registration_written registered⟩

end Registrar

/-- Functions, signals and constructors can be registered exactly if all of their types have tags,
and a signal also needs a name for each argument. The statement then has the tags, the types and the
names in the order of the declaration. -/
theorem registered_by_position :
    (∀ f : FunctionDecl,
      (Succeeds f.registration ↔
        (∃ returnType, f.returnType = some returnType ∧ Succeeds (VariantTag.of returnType)) ∧
          ∀ p ∈ f.parameters, Succeeds (VariantTag.of p.type)) ∧
      ∀ code, f.registration = .ok code → f.IsWrittenAs code) ∧
    (∀ p : PropertyDecl,
      (Succeeds p.signalRegistration ↔
        Succeeds p.checkSignal ∧ p.argumentNames.length = p.type.arguments.length ∧
          ∀ type ∈ p.type.arguments, Succeeds (VariantTag.of type)) ∧
      ∀ code, p.signalRegistration = .ok code → p.IsSignalWrittenAs code) ∧
    ∀ (className : ClassName) (register : FunctionText) (k : ConstructorDecl),
      (Succeeds (Registrar.constructorStatement className register k) ↔
        ∀ p ∈ k.parameters, Succeeds (VariantTag.of p.type)) ∧
      ∀ extended, Registrar.constructorStatement className register k = .ok extended →
        ∃ code, extended = register.addCode code ∧ k.IsWrittenAs className code :=
  ⟨fun _ => ⟨FunctionDecl.registration_succeeds_iff, fun _ => FunctionDecl.registration_written⟩,
    fun _ => ⟨PropertyDecl.signalRegistration_succeeds_iff,
      fun _ => PropertyDecl.signalRegistration_written⟩,
    fun _ _ _ => ⟨Registrar.constructorStatement_succeeds_iff,
      fun _ => Registrar.constructorStatement_written⟩⟩

namespace Sample

def number : ResolvedType := .simple (.parse "kotlin.Int")

def word : ResolvedType := .simple (.parse "kotlin.String")

/-- A dollar sign in a name starts no interpolation. -/
def trade : FunctionDecl where
  owner := .parse "game.Hero"
  name := "trade"
  parameters := [⟨"us$", number⟩, ⟨"item", word⟩]
  returnType := some (.simple (.parse "kotlin.Boolean"))

def tradeStatement : String :=
  "function(game.Hero::trade, godot.core.VariantType.BOOL, godot.core.VariantType.LONG, " ++
    "godot.core.VariantType.STRING, " ++
    "godot.runtime.KtFunctionArgument(godot.core.VariantType.LONG, \"kotlin.Int\", " ++
    "\"us\\$\"), godot.runtime.KtFunctionArgument(godot.core.VariantType.STRING, " ++
    "\"kotlin.String\", \"item\"), " ++
    "godot.runtime.KtFunctionArgument(godot.core.VariantType.BOOL, \"kotlin.Boolean\"), " ++
    "godot.MultiplayerAPI.RPCMode.DISABLED)"

/-- One name is a text in two parts, the other one an interpolation. -/
def traded : PropertyDecl where
  owner := .parse "game.Hero"
  name := "signalTraded"
  type := { name := .parse "godot.Signal2", arguments := [number, word] }
  delegate := some (.call (.parse "godot.signals.signal") .function []
    [.template [.literal "us", .literal "$"], .template [.literal "the ", .interpolation "$item"]]
    none)

def tradedStatement : String :=
  "signal(game.Hero::signalTraded, " ++
    "godot.runtime.KtFunctionArgument(godot.core.VariantType.LONG, \"Int\", \"us\\$\"), " ++
    "godot.runtime.KtFunctionArgument(godot.core.VariantType.STRING, \"String\", " ++
    "\"the $item\"))"

def trader : ConstructorDecl where
  parameters := [⟨"us$", number⟩, ⟨"item", word⟩]

def traderStatement : String :=
  "constructor(godot.core.KtConstructor2(::game.Hero, godot.core.VariantType.LONG, " ++
    "godot.core.VariantType.STRING))"

end Sample

theorem trade_registered_by_position :
    (∃ code, Sample.trade.registration = .ok code ∧ Sample.trade.IsWrittenAs code ∧
      code.text = Sample.tradeStatement) ∧
    (∃ code, Sample.traded.signalRegistration = .ok code ∧ Sample.traded.IsSignalWrittenAs code ∧
      code.text = Sample.tradedStatement) ∧
    ∃ extended code, Registrar.constructorStatement (.ofDotted (.parse "game.Hero"))
        { name := "register" } Sample.trader = .ok extended ∧
      extended = FunctionText.addCode { name := "register" } code ∧
      Sample.trader.IsWrittenAs (.ofDotted (.parse "game.Hero")) code ∧
      extended.statementTexts = [Sample.traderStatement] := by
  obtain ⟨functions, signals, constructors⟩ := registered_by_position
  obtain ⟨code, made, text⟩ := exists_ok_of_map (x := Sample.trade.registration)
    (f := Fragment.text) (v := Sample.tradeStatement) (by decide +kernel)
  obtain ⟨code', made', text'⟩ := exists_ok_of_map (x := Sample.traded.signalRegistration)
    (f := Fragment.text) (v := Sample.tradedStatement) (by decide +kernel)
  obtain ⟨extended, made'', texts⟩ := exists_ok_of_map
    (x := Registrar.constructorStatement (.ofDotted (.parse "game.Hero")) { name := "register" }
      Sample.trader)
    (f := FunctionText.statementTexts) (v := [Sample.traderStatement]) (by decide +kernel)
  obtain ⟨code'', added, written⟩ := (constructors _ _ _).2 extended made''
  exact ⟨⟨code, made, (functions _).2 code made, text⟩,
    ⟨code', made', (signals _).2 code' made', text'⟩,
    extended, code'', made'', added, written, texts⟩

end ScriptRegistrar
