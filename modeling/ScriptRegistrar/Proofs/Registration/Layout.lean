import ScriptRegistrar.Proofs.Inheritance.Failure
import ScriptRegistrar.Proofs.Registration.Hierarchy
import ScriptRegistrar.Proofs.Registration.Property

namespace ScriptRegistrar

open Source (ClassName FunctionText BodyLine Argument Fragment EmissionFault Fits Imports TypeName
  callText filledText intercalate_cons stringLiteral)
open Source.Template (expand)

/-! ### Statements -/

def Source.FunctionText.addCodes (f : FunctionText) (codes : List Fragment) : FunctionText :=
  { f with body := f.body ++ codes.map .statement }

def ConstructorDecl.registration (k : ConstructorDecl) (className : ClassName) :
    Except GenerationError Fragment := do
  let tags ← k.parameters.mapM fun p => VariantTag.of p.type
  Fragment.of
    ("constructor(%T(::%T" ++ String.join (tags.map fun _ => ", %T") ++ "))")
    ([.type (Vocabulary.constructorWrapper k.parameters.length), .type className] ++
      tags.map fun tag => .type tag.constant)

namespace Registrar

theorem addStatements_eq {α : Type} (statement : α → Except GenerationError Fragment)
    (f : FunctionText) (xs : List α) :
    addStatements statement f xs = do return f.addCodes (← xs.mapM statement) := by
  unfold addStatements
  induction xs generalizing f with
  | nil => simp [FunctionText.addCodes]
  | cons x xs ih =>
    rw [List.foldlM_cons, List.mapM_cons]
    cases statement x with
    | error e => rfl
    | ok code =>
      rw [ok_bind, ok_bind, pure_bind, ih]
      cases xs.mapM statement with
      | error e => rfl
      | ok codes => simp [FunctionText.addCodes, FunctionText.addCode, Pure.pure, Except.pure]

theorem constructorStatement_eq (className : ClassName) (f : FunctionText) (k : ConstructorDecl) :
    constructorStatement className f k = do return f.addCode (← k.registration className) := by
  unfold constructorStatement ConstructorDecl.registration FunctionText.addStatement
  cases k.parameters.mapM fun p => (liftM (VariantTag.of p.type) : Except GenerationError _) with
  | error e => rfl
  | ok tags =>
    rw [ok_bind, ok_bind]
    cases Fragment.of ("constructor(%T(::%T" ++ String.join (tags.map fun _ => ", %T") ++ "))")
      ([.type (Vocabulary.constructorWrapper k.parameters.length), .type className] ++
        tags.map fun tag => .type tag.constant) with
    | error e => rfl
    | ok code => rfl

/-! ### The function -/

/-- The statements of a registrar: first those of the constructors, then those of the members. -/
structure Statements where
  constructors : List Fragment
  functions : List Fragment
  signals : List Fragment
  properties : List Fragment

namespace Statements

def all (s : Statements) : List Fragment :=
  s.constructors ++ s.functions ++ s.signals ++ s.properties

/-- Each statement is that of the constructor or member at the same place. -/
structure Registers (s : Statements) (m : ClassMembers) : Prop where
  constructors : List.Forall₂ (fun k code => k.registration (.ofDotted m.owner.name) = .ok code)
    m.owner.constructors s.constructors
  functions : List.Forall₂ (fun f code => f.registration = .ok code) m.functions s.functions
  signals : List.Forall₂ (fun p code => p.signalRegistration = .ok code) m.signals s.signals
  properties : List.Forall₂ (fun p code => p.registration = .ok code) m.properties s.properties

end Statements

def statements (m : ClassMembers) : Except GenerationError Statements := do
  let constructors ← m.owner.constructors.mapM (·.registration (.ofDotted m.owner.name))
  let functions ← m.functions.mapM FunctionDecl.registration
  let signals ← m.signals.mapM PropertyDecl.signalRegistration
  let properties ← m.properties.mapM PropertyDecl.registration
  return ⟨constructors, functions, signals, properties⟩

theorem statements_succeeds_iff (m : ClassMembers) :
    Succeeds (statements m) ↔
      (∀ k ∈ m.owner.constructors, Succeeds (k.registration (.ofDotted m.owner.name))) ∧
      (∀ f ∈ m.functions, Succeeds f.registration) ∧
      (∀ p ∈ m.signals, Succeeds p.signalRegistration) ∧
      ∀ p ∈ m.properties, Succeeds p.registration := by
  unfold statements
  refine (succeeds_bind fun _ _ => succeeds_bind fun _ _ => succeeds_bind fun _ _ =>
    succeeds_bind fun _ _ => iff_true_intro ⟨_, rfl⟩).trans ?_
  rw [and_true]
  exact and_congr succeeds_mapM (and_congr succeeds_mapM (and_congr succeeds_mapM succeeds_mapM))

theorem registers_of_statements {m : ClassMembers} {s : Statements} (h : statements m = .ok s) :
    s.Registers m := by
  obtain ⟨constructors, first, h⟩ := bind_ok h
  obtain ⟨functions, second, h⟩ := bind_ok h
  obtain ⟨signals, third, h⟩ := bind_ok h
  obtain ⟨properties, fourth, h⟩ := bind_ok h
  rw [pure_ok h]
  exact ⟨mapM_ok first, mapM_ok second, mapM_ok third, mapM_ok fourth⟩

theorem pure_eq_ok {ε α : Type} (a : α) : (pure a : Except ε α) = .ok a := rfl

theorem emission_ok {α : Type} (a : α) :
    (liftM (.ok a : Except EmissionFault α) : Except GenerationError α) = .ok a := rfl

theorem emission_bind {α β : Type} (x : Except EmissionFault α) (f : α → Except EmissionFault β) :
    (liftM (x >>= f) : Except GenerationError β) =
      (liftM x : Except GenerationError α) >>= fun a => liftM (f a) := by
  cases x with
  | error e => rfl
  | ok a => rfl

def registerText (outer inner : Fragment) (codes : List Fragment) : FunctionText :=
  { name := "register", modifiers := [.isOverride],
    parameters := [("registry", Vocabulary.classRegistry)],
    body := .openFlow outer :: .openFlow inner :: codes.map .statement ++ [.closeFlow, .closeFlow] }

def heads (c : Candidate) : Except EmissionFault (Fragment × Fragment) := do
  let outer ← Fragment.of "with(registry)" []
  let inner ← Fragment.of "registerClass<%T>(%T::class.qualifiedName!!, %S, %L, %S, %S)"
    (headArguments c)
  return (outer, inner)

theorem registerFunction_eq (c : Candidate) :
    registerFunction c = do
      let (outer, inner) ← heads c
      return registerText outer inner (← statements c.members).all := by
  have constructors (f : FunctionText) :
      c.decl.constructors.foldlM (constructorStatement (.ofDotted c.decl.name)) f =
        addStatements (·.registration (.ofDotted c.decl.name)) f c.decl.constructors := by
    unfold addStatements
    congr 1
    funext f k
    exact constructorStatement_eq _ f k
  simp only [registerFunction, heads, statements, constructors, addStatements_eq,
    FunctionText.beginFlow, emission_bind, emission_ok, bind_assoc, pure_eq_ok, ok_bind]
  refine bind_congr fun outer => bind_congr fun inner => bind_congr fun constructors =>
    bind_congr fun functions => bind_congr fun signals => bind_congr fun properties => ?_
  simp [FunctionText.endFlow, FunctionText.addCodes, registerText, Statements.all, emission_ok]

end Registrar

/-! ### Constructors -/

/-- A loop over the tags writes each of them behind a comma. -/
theorem filledText_tags (imports : Imports) (tags : List VariantTag) :
    filledText imports (String.join (tags.map fun _ => ", %T"))
        (tags.map fun tag => .type tag.constant) =
      String.join (tags.map fun tag => ", " ++ imports.classText tag.constant) := by
  have fit : ∀ tag ∈ tags, Fits ", %T" [.type tag.constant] := fun tag _ => ⟨_, rfl, by simp⟩
  have arguments : (tags.map fun tag => Argument.type tag.constant) =
      tags.flatMap fun tag => [.type tag.constant] := List.map_eq_flatMap
  rw [arguments, Fits.filledText_join fit]
  refine congrArg String.join (List.map_congr_left fun tag _ => ?_)
  rw [← String.toList_inj]
  simp [filledText, expand, Argument.text, Imports.typeText, TypeName.write]

namespace ConstructorDecl

variable {k : ConstructorDecl} {className : ClassName} {code : Fragment}

theorem registration_succeeds_iff :
    Succeeds (k.registration className) ↔ ∀ p ∈ k.parameters, Succeeds (VariantTag.of p.type) := by
  unfold registration
  refine (succeeds_bind fun tags _ =>
    iff_true_intro (succeeds_of_emission (fits_constructor _ _ tags).of)).trans ?_
  rw [and_true, succeeds_mapM]
  exact forall₂_congr fun p _ => succeeds_mapError

/-- `code` names the class in the wrapper for as many parameters, with the tag of each. -/
def IsWrittenAs (k : ConstructorDecl) (className : ClassName) (code : Fragment) : Prop :=
  ∃ tags, List.Forall₂ (fun p tag => VariantTag.of p.type = .ok tag) k.parameters tags ∧
    ∀ imports, code.write imports = callText "constructor"
      [callText (imports.classText (Vocabulary.constructorWrapper k.parameters.length))
        (("::" ++ imports.classText className) ::
          tags.map fun tag => imports.classText tag.constant)]

theorem registration_written (h : k.registration className = .ok code) :
    k.IsWrittenAs className code := by
  obtain ⟨tags, tagged, h⟩ := bind_ok h
  refine ⟨tags, (mapM_ok tagged).imp fun p tag => mapError_ok, fun imports => ?_⟩
  have opening : Fits "constructor(%T(::%T"
      [.type (Vocabulary.constructorWrapper k.parameters.length), .type className] :=
    ⟨_, rfl, by simp⟩
  rw [Fragment.write_of (mapError_ok h), ← List.append_nil (_ ++ _),
    (opening.append (fits_tags tags)).filledText_append, opening.filledText_append,
    filledText_tags, callText, callText, intercalate_cons, intercalate_cons, ← String.toList_inj]
  simp [filledText, expand, Argument.text, Imports.typeText, TypeName.write, Function.comp_def]

end ConstructorDecl

/-! ### Registrars -/

theorem ClassDecl.candidate_succeeds_iff {c : ClassDecl} {index : ClassIndex} :
    Succeeds (c.candidate index) ↔ (index.engineBase? c).isSome ∧
      (∀ k ∈ c.constructors, k.parameters.length ≤ maxConstructorParameters) ∧
      Succeeds ((ClassMembers.own c).flatten index) := by
  have arity : Succeeds c.checkConstructors ↔
      ∀ k ∈ c.constructors, k.parameters.length ≤ maxConstructorParameters := by
    unfold checkConstructors
    split
    · next k found =>
      have many := List.find?_some found
      refine iff_of_false (fun ⟨accepted, h⟩ => nomatch h) fun all => ?_
      exact absurd (all k (List.mem_of_find?_eq_some found)) (by simpa using many)
    · next none =>
      refine iff_of_true ⟨(), rfl⟩ fun k member => ?_
      simpa using List.find?_eq_none.1 none k member
  unfold candidate
  cases index.engineBase? c with
  | none => exact iff_of_false (fun ⟨_, h⟩ => nomatch h) fun ⟨base, _⟩ => nomatch base
  | some base =>
    refine (succeeds_bind fun _ _ => succeeds_bind fun m _ => iff_true_intro ⟨_, rfl⟩).trans ?_
    rw [and_true, and_iff_right Option.isSome_some]
    exact and_congr (succeeds_mapError.trans arity) succeeds_mapError

namespace Registrar

variable {index : ClassIndex} {ledger ledger' : NameLedger} {c : ClassDecl} {registrar : Registrar}

theorem heads_succeeds (c : Candidate) : Succeeds (heads c) := by
  have outer : FailsOnly (fun _ => False) (Fragment.of "with(registry)" []) :=
    Fits.of ⟨_, rfl, .nil⟩
  have inner : FailsOnly (fun _ => False)
      (Fragment.of "registerClass<%T>(%T::class.qualifiedName!!, %S, %L, %S, %S)"
        (headArguments c)) := Fits.of ⟨_, rfl, by simp [headArguments]⟩
  obtain ⟨f, made, -⟩ := outer.exists_ok
  obtain ⟨g, made', -⟩ := inner.exists_ok
  exact ⟨(f, g), by rw [heads, made, made']; rfl⟩

/-- The outer flow opens the registry, the inner one the class with what the engine has to know. -/
def Open (c : Candidate) (outer inner : Fragment) : Prop :=
  ∀ imports : Imports,
    outer.write imports = "with(registry)" ∧
    inner.write imports =
      callText ("registerClass<" ++ imports.classText (.ofDotted c.decl.name) ++ ">")
        [imports.classText (.ofDotted c.decl.name) ++ "::class.qualifiedName!!",
          stringLiteral (c.decl.superClass.elim "kotlin.Any" DottedName.text),
          boolText c.decl.isTool, stringLiteral c.engineBase.name.name,
          stringLiteral c.decl.registeredName]

theorem open_of_heads {c : Candidate} {outer inner : Fragment} (h : heads c = .ok (outer, inner)) :
    Open c outer inner := by
  intro imports
  obtain ⟨f, first, h⟩ := bind_ok h
  obtain ⟨g, second, h⟩ := bind_ok h
  obtain ⟨rfl, rfl⟩ := Prod.mk.inj (pure_ok h)
  constructor
  · rw [← String.toList_inj, Fragment.of_written first]
    rfl
  · rw [← String.toList_inj, Fragment.of_written second]
    simp [headArguments, expand, Argument.text, Imports.typeText, TypeName.write, callText]

theorem ofCandidate_succeeds_iff {candidate : Candidate} :
    Succeeds (ofCandidate index candidate) ↔ Succeeds (statements candidate.members) := by
  unfold ofCandidate
  rw [registerFunction_eq]
  refine (succeeds_bind fun _ _ => iff_true_intro ⟨_, rfl⟩).trans ((and_true _).to_iff.trans ?_)
  refine (succeeds_bind fun (outer, inner) _ => succeeds_bind fun s _ =>
    iff_true_intro ⟨_, rfl⟩).trans ?_
  rw [and_true]
  exact and_iff_right (succeeds_mapError.2 (heads_succeeds candidate))

theorem generate_succeeds_iff :
    Succeeds (generate index ledger c).2 ↔
      ∃ candidate, c.candidate index = .ok candidate ∧ Succeeds (statements candidate.members) := by
  unfold generate
  cases c.candidate index with
  | error e => exact iff_of_false (fun ⟨_, h⟩ => nomatch h) fun ⟨_, h, _⟩ => nomatch h
  | ok candidate =>
    refine ofCandidate_succeeds_iff.trans ⟨fun succeeds => ⟨candidate, rfl, succeeds⟩, ?_⟩
    rintro ⟨other, same, succeeds⟩
    cases same
    exact succeeds

/-- What becomes of the heads and the statements of the class. -/
theorem generate_lays_out (h : generate index ledger c = (ledger', .ok registrar)) :
    ∃ candidate outer inner s, c.candidate index = .ok candidate ∧
      heads candidate = .ok (outer, inner) ∧ statements candidate.members = .ok s ∧
      registrar.file.classes.map Source.ClassText.functions =
        [[registerText outer inner s.all]] := by
  obtain ⟨candidate, found, -, built⟩ := generate_ok h
  obtain ⟨register, made, built⟩ := bind_ok built
  rw [registerFunction_eq] at made
  obtain ⟨⟨outer, inner⟩, opened, made⟩ := bind_ok made
  obtain ⟨s, each, made⟩ := bind_ok made
  refine ⟨candidate, outer, inner, s, found, mapError_ok opened, each, ?_⟩
  rw [pure_ok built, pure_ok made]
  exact congrArg (fun functions => [functions]) (classText_functions _ _ _)

/-- What is registered is complete: a class has a registrar exactly if all of its constructors and
flattened members can be registered, and the function of the registrar has one statement for each of
them and no other. -/
theorem registers_completely (index : ClassIndex) (ledger : NameLedger) (c : ClassDecl) :
    (Succeeds (generate index ledger c).2 ↔
      (index.engineBase? c).isSome ∧
      (∀ k ∈ c.constructors, k.parameters.length ≤ maxConstructorParameters) ∧
      ∃ m, (ClassMembers.own c).flatten index = .ok m ∧
        (∀ k ∈ c.constructors, ∀ p ∈ k.parameters, Succeeds (VariantTag.of p.type)) ∧
        (∀ f ∈ m.functions, Succeeds f.registration) ∧
        (∀ p ∈ m.signals, Succeeds p.signalRegistration) ∧
        ∀ p ∈ m.properties, Succeeds p.registration) ∧
    ∀ ledger' registrar, generate index ledger c = (ledger', .ok registrar) →
      ledger'.records = ledger.records ++ [⟨c.name, c.registeredName⟩] ∧
      ∃ (base : ClassDecl) (m : ClassMembers) (outer inner : Fragment) (s : Statements),
        index.engineBase? c = some base ∧ (ClassMembers.own c).flatten index = .ok m ∧
        registrar.file.classes.map Source.ClassText.functions =
          [[registerText outer inner s.all]] ∧
        Open ⟨base, m⟩ outer inner ∧ s.Registers m ∧
        List.Forall₂ (fun k code => k.IsWrittenAs (.ofDotted c.name) code) c.constructors
          s.constructors := by
  constructor
  · have owner {candidate : Candidate} (found : c.candidate index = .ok candidate) :
        candidate.members.owner = c := candidate_decl found
    rw [generate_succeeds_iff]
    constructor
    · rintro ⟨candidate, found, each⟩
      obtain ⟨base, few, -⟩ := ClassDecl.candidate_succeeds_iff.1 ⟨candidate, found⟩
      obtain ⟨constructors, members⟩ := (statements_succeeds_iff _).1 each
      rw [owner found] at constructors
      refine ⟨base, few, candidate.members, (candidate_ok found).2, fun k member => ?_, members⟩
      exact ConstructorDecl.registration_succeeds_iff.1 (constructors k member)
    · rintro ⟨base, few, m, flattened, constructors, members⟩
      obtain ⟨candidate, found⟩ := ClassDecl.candidate_succeeds_iff.2 ⟨base, few, m, flattened⟩
      have same : candidate.members = m :=
        Except.ok.inj (((candidate_ok found).2).symm.trans flattened)
      refine ⟨candidate, found, (statements_succeeds_iff _).2 ⟨?_, ?_⟩⟩
      · rw [owner found]
        exact fun k member => ConstructorDecl.registration_succeeds_iff.2 (constructors k member)
      · rw [same]
        exact members
  · intro ledger' registrar generated
    obtain ⟨candidate, outer, inner, s, found, opened, each, functions⟩ :=
      generate_lays_out generated
    obtain ⟨candidate', found', recorded, -⟩ := generate_ok generated
    cases found.symm.trans found'
    have owner : candidate.members.owner = c := candidate_decl found
    have registers := registers_of_statements each
    refine ⟨by rw [recorded, NameLedger.record, Candidate.record, candidate_decl found],
      candidate.engineBase, candidate.members, outer, inner, s, candidate_engineBase found,
      (candidate_ok found).2, functions, open_of_heads opened, registers, ?_⟩
    have constructors := registers.constructors
    rw [owner] at constructors
    exact constructors.imp fun k code => ConstructorDecl.registration_written

end Registrar

namespace Sample

/-- Not registered, but with a function that is. -/
def creature : ClassDecl where
  name := .parse "game.Creature"
  superClass := some (.parse "godot.Node")
  members := .listed [action "game.Creature" "breathe"]

def hero : ClassDecl :=
  ClassDecl.registered {
    name := .parse "game.Hero"
    superClass := some (.parse "game.Creature")
    constructors := [{}, { parameters := [⟨"title", .simple (.parse "kotlin.String")⟩] }]
    members := .listed [
      .property (died "game.Hero").registeredSignal,
      .property (PropertyDecl.registered { health "game.Hero" with isLateinit := true }),
      action "game.Hero" "run"] }

def heroes : Graph where
  classes := [creature, hero]
  dependencies := [node]

def heroStatements : List String := [
  "constructor(godot.core.KtConstructor0(::game.Hero))",
  "constructor(godot.core.KtConstructor1(::game.Hero, godot.core.VariantType.STRING))",
  "function(game.Hero::run, godot.core.VariantType.NIL, godot.runtime.KtFunctionArgument(" ++
    "godot.core.VariantType.NIL, \"kotlin.Unit\"), godot.MultiplayerAPI.RPCMode.DISABLED)",
  "function(game.Creature::breathe, godot.core.VariantType.NIL, " ++
    "godot.runtime.KtFunctionArgument(godot.core.VariantType.NIL, \"kotlin.Unit\"), " ++
    "godot.MultiplayerAPI.RPCMode.DISABLED)",
  "signal(game.Hero::signalDied)",
  "property(game.Hero::health, ::godot.core.getVariantType, " ++
    "\x7b any: Any -> (any as kotlin.Long).toInt() \x7d, godot.core.VariantType.LONG, " ++
    "\"kotlin.Int\", godot.gdnative.godot_property_hint.GODOT_PROPERTY_HINT_NONE, \"\", null, " ++
    "true, godot.MultiplayerAPI.RPCMode.DISABLED)"]

end Sample

def Source.FunctionText.statementTexts (f : FunctionText) : List String :=
  f.body.filterMap fun
    | .statement code => some code.text
    | _ => none

theorem Registrar.statementTexts_registerText (outer inner : Fragment) (codes : List Fragment) :
    (registerText outer inner codes).statementTexts = codes.map Fragment.text := by
  simp [registerText, FunctionText.statementTexts]

theorem hero_registered_completely :
    ∃ ledger registrar,
      Registrar.generate (.ofGraph Sample.heroes) {} Sample.hero = (ledger, .ok registrar) ∧
      ledger.records = [⟨.parse "game.Hero", "game_Hero"⟩] ∧
      ∃ (m : ClassMembers) (outer inner : Fragment) (s : Registrar.Statements),
        registrar.file.classes.map Source.ClassText.functions =
          [[Registrar.registerText outer inner s.all]] ∧
        s.Registers m ∧ s.all.map Fragment.text = Sample.heroStatements := by
  obtain ⟨registrar, succeeded, texts⟩ := exists_ok_of_map
    (x := (Registrar.generate (.ofGraph Sample.heroes) {} Sample.hero).2)
    (f := fun r => r.file.classes.map fun c => c.functions.map FunctionText.statementTexts)
    (v := [[Sample.heroStatements]]) (by decide +kernel)
  have generated := Registrar.generate_eq succeeded
  obtain ⟨-, result⟩ := Registrar.registers_completely (.ofGraph Sample.heroes) {} Sample.hero
  obtain ⟨recorded, base, m, outer, inner, s, -, -, functions, -, registers, -⟩ :=
    result _ registrar generated
  refine ⟨_, registrar, generated, recorded.trans (by decide +kernel), m, outer, inner, s,
    functions, registers, ?_⟩
  have same := congrArg (List.map (List.map FunctionText.statementTexts)) functions
  rw [List.map_map] at same
  have laidOut := texts.symm.trans same
  rw [List.map_singleton, List.map_singleton, Registrar.statementTexts_registerText] at laidOut
  exact (List.singleton_inj.1 (List.singleton_inj.1 laidOut)).symm

end ScriptRegistrar
