import Mathlib.Control.Monad.Basic
import ScriptRegistrar.Pass.Basic
import ScriptRegistrar.Proofs.Inheritance.Failure
import ScriptRegistrar.Proofs.Output
import ScriptRegistrar.Proofs.Registration.Emission
import ScriptRegistrar.Proofs.Registration.Hierarchy

namespace ScriptRegistrar

theorem Progress.delete_error {p : Progress} {path : Path} {e : GenerationError}
    (h : (p.delete path).2 = some e) : ∃ blocked, e = .blocked blocked := by
  unfold delete at h
  split at h
  · cases h
  · cases h
    exact ⟨_, rfl⟩

theorem Progress.write_error {p : Progress} {path : Path} {contents : String} {e : GenerationError}
    (h : (p.write path contents).2 = some e) : ∃ blocked, e = .blocked blocked := by
  unfold write at h
  split at h
  · cases h
    exact ⟨_, rfl⟩
  · split at h
    · cases h
      exact ⟨_, rfl⟩
    · cases h

theorem Change.apply_error {p : Progress} {change : Change} {e : GenerationError}
    (h : (change.apply p).2 = some e) : ∃ blocked, e = .blocked blocked := by
  cases change with
  | deleteStale file => exact Progress.delete_error h
  | write base file => exact Progress.write_error h
  | cleanScripts directory => cases h

theorem Change.run_error {p : Progress} {changes : List Change} {e : GenerationError}
    (h : (run p changes).2 = some e) : ∃ blocked, e = .blocked blocked := by
  induction changes generalizing p with
  | nil => cases h
  | cons change rest ih =>
    rw [run] at h
    cases applied : change.apply p with
    | mk p' ended =>
      rw [applied] at h
      cases ended with
      | none => exact ih h
      | some e' =>
        cases h
        exact apply_error (congrArg Prod.snd applied)

namespace Pass

theorem run_error {pass : Pass} {disk : Disk} {e : GenerationError}
    (h : (pass.run disk).result = .error e) : ∃ blocked, e = .blocked blocked := by
  unfold run at h
  dsimp only at h
  split at h
  · cases h
  · next ended =>
    cases h
    exact Change.run_error (congrArg Prod.snd ended)

theorem execute_error_unchanged {planned : Except GenerationError Pass} {disk : Disk}
    {e : GenerationError} (failed : (execute planned disk).result = .error e)
    (free : ∀ path, e ≠ .blocked path) : (execute planned disk).disk = disk := by
  cases planned with
  | error e' => rfl
  | ok pass =>
    obtain ⟨path, blocked⟩ := run_error failed
    exact absurd blocked (free path)

/-- Once the disk is being changed, only something in the way of a change ends a pass. -/
theorem generate_error_unchanged {settings : Settings} {graph : Graph} {disk : Disk}
    {e : GenerationError} (failed : (generate settings graph disk).result = .error e)
    (free : ∀ path, e ≠ .blocked path) : (generate settings graph disk).disk = disk :=
  execute_error_unchanged failed free

end Pass

/-! ### A clash with a surviving class

Both players have the same name for the engine. The clash only shows after the disk was read. -/

namespace Sample

def clashing : Graph where
  classes := [
    ClassDecl.registeredAs
      { name := .parse "game.Player", superClass := some (.parse "godot.Node") } "Player"]
  dependencies := [
    ClassDecl.engineBase { name := .parse "godot.Node" },
    ClassDecl.registeredAs
      { name := .parse "lib.Player", superClass := some (.parse "godot.Node") } "Player"]
  sourceClasses := [.parse "game.Player", .parse "lib.Player"]

def cleaning : Settings where
  outputDir := .ofText "out"
  projectRoot := some (.ofText ".")
  scripts := some { libraryPath := "lib.gdnlib", outputDir := .ofText "out", clean := true }

def generatedBefore : Disk :=
  ⟨[(["out", "old.gdns"], .file ""), (["out", "godot", "lib", "PlayerEntry.kt"], .file ""),
    (["out", "godot", "OldEntry.kt"], .file ""), (["out", "godot", "lib"], .directory),
    (["out", "godot"], .directory), (["out"], .directory)]⟩

def clash : GenerationError :=
  .declaration (.duplicateNames [[⟨.parse "game.Player", "Player"⟩,
    ⟨.parse "lib.Player", "Player"⟩]])

end Sample

theorem clash_unchanged :
    (Pass.generate Sample.cleaning Sample.clashing Sample.generatedBefore).result =
        .error Sample.clash ∧
      (∀ path, Sample.clash ≠ .blocked path) ∧
      (Pass.generate Sample.cleaning Sample.clashing Sample.generatedBefore).disk =
        Sample.generatedBefore := by
  have failed : (Pass.generate Sample.cleaning Sample.clashing Sample.generatedBefore).result =
      .error Sample.clash := by
    decide +kernel
  have free : ∀ path, Sample.clash ≠ .blocked path := by
    intro path same
    cases same
  exact ⟨failed, free, Pass.generate_error_unchanged failed free⟩

/-! ### Errors that are foreseen -/

open Source (ClassName FunctionText FileText EmissionFault Fits)

/-! ### Flattening -/

def InternalFault.Ambiguous (e : InternalFault) : Prop :=
  ∃ className property, e = .ambiguousOverride className property

/-- Flattening a class below the engine can only meet an ambiguous override. -/
theorem ClassMembers.flatten_failsOnly {index : ClassIndex} {c base : ClassDecl}
    (found : index.engineBase? c = some base) :
    FailsOnly InternalFault.Ambiguous ((own c).flatten index) := by
  refine (flatten_ends (ClassIndex.resolves_of_engineBase? found)).mono (fun _ _ => trivial) ?_
  rintro e ⟨s, -, rfl⟩
  exact ⟨_, _, rfl⟩

theorem ClassDecl.candidate_foreseen (c : ClassDecl) (index : ClassIndex) :
    FailsOnly GenerationError.Foreseen (c.candidate index) := by
  unfold candidate
  split
  · next base found =>
    refine (foreseen_of_declaration c.checkConstructors).bind fun _ _ => ?_
    have flat : FailsOnly GenerationError.Foreseen
        (liftM ((ClassMembers.own c).flatten index) : Except GenerationError ClassMembers) := by
      refine (ClassMembers.flatten_failsOnly found).mapError fun e ambiguous => ?_
      obtain ⟨n, p, rfl⟩ := ambiguous
      trivial
    exact flat.bind fun _ _ => .ok trivial
  · exact .error trivial

/-! ### Registrars -/

namespace Registrar

theorem constructorStatement_flows (className : ClassName) {f : FunctionText} {n : Nat}
    (flows : f.openFlows = n) (k : ConstructorDecl) :
    Ends (·.openFlows = n) GenerationError.Foreseen (constructorStatement className f k) := by
  unfold constructorStatement
  refine (Ends.mapM fun p _ => foreseen_of_unmappable
    (failsOnly_any (VariantTag.of p.type))).bind fun tags each => ?_
  exact foreseen_of_emission (FunctionText.addStatement_of_fits (fits_constructor _ _ tags) flows)

theorem addStatements_flows {α : Type} {statement : α → Except GenerationError Source.Fragment}
    (ends : ∀ x, FailsOnly GenerationError.Foreseen (statement x)) {f : FunctionText} {n : Nat}
    (flows : f.openFlows = n) (xs : List α) :
    Ends (·.openFlows = n) GenerationError.Foreseen (addStatements statement f xs) :=
  Ends.foldlM flows fun _ x _ kept => (ends x).bind fun _ _ => .ok kept

theorem registerFunction_flows (c : Candidate) :
    Ends (·.openFlows = 0) GenerationError.Foreseen (registerFunction c) := by
  unfold registerFunction
  refine (foreseen_of_emission (FunctionText.beginFlow_of_fits ⟨_, rfl, .nil⟩ rfl)).bind
    fun f flows => ?_
  refine (foreseen_of_emission (FunctionText.beginFlow_of_fits
    ⟨_, rfl, by simp [headArguments]⟩ flows)).bind fun f flows => ?_
  -- Both flows stay open while the statements are added.
  have constructors : Ends (·.openFlows = 2) GenerationError.Foreseen
      (c.decl.constructors.foldlM (constructorStatement (.ofDotted c.decl.name)) f) :=
    Ends.foldlM flows fun _ k _ kept => constructorStatement_flows _ kept k
  refine constructors.bind fun f flows => ?_
  refine (addStatements_flows FunctionDecl.registration_foreseen flows _).bind fun f flows => ?_
  refine (addStatements_flows PropertyDecl.signalRegistration_foreseen flows _).bind
    fun f flows => ?_
  refine (addStatements_flows PropertyDecl.registration_foreseen flows _).bind fun f flows => ?_
  refine (foreseen_of_emission (FunctionText.endFlow_of_open flows)).bind fun f flows => ?_
  exact foreseen_of_emission (FunctionText.endFlow_of_open flows)

theorem generate_balanced (index : ClassIndex) (ledger : NameLedger) (c : ClassDecl) :
    Ends (·.file.Balanced) GenerationError.Foreseen (generate index ledger c).2 := by
  unfold generate
  split
  · next e failed => exact .error ((c.candidate_foreseen index).bad_of_error failed)
  · next candidate _ =>
    refine (registerFunction_flows candidate).bind fun register closed => .ok fun text single => ?_
    rw [List.mem_singleton.1 single, classText_functions]
    exact List.forall_mem_singleton.2 closed

end Registrar

/-! ### Passes -/

namespace Pass

theorem registrars_foreseen (index : ClassIndex) (ledger : NameLedger) (classes : List ClassDecl) :
    FailsOnly GenerationError.Foreseen (registrars index ledger classes) := by
  induction classes generalizing ledger with
  | nil => exact .ok trivial
  | cons c classes ih =>
    rw [registrars]
    refine (Registrar.generate_balanced index ledger c).bind fun registrar balanced => ?_
    refine (foreseen_of_emission balanced.render).bind fun file _ => ?_
    exact (ih _).bind fun _ _ => .ok trivial

theorem mainEntry_foreseen (settings : Settings) (classes : List DottedName) :
    FailsOnly GenerationError.Foreseen (mainEntry settings classes) :=
  (MainEntry.file_balanced classes settings.sourceDirs).bind fun _ balanced =>
    foreseen_of_emission balanced.render

theorem planGenerate_foreseen (settings : Settings) (graph : Graph) (disk : Disk) :
    FailsOnly GenerationError.Foreseen (planGenerate settings graph disk) := by
  unfold planGenerate
  refine (registrars_foreseen _ _ _).bind fun (ledger, files) _ => ?_
  refine (foreseen_of_declaration _).bind fun _ _ => ?_
  exact (mainEntry_foreseen settings _).bind fun _ _ => .ok trivial

theorem planRefresh_foreseen (settings : Settings) (sources : List DottedName) (disk : Disk) :
    FailsOnly GenerationError.Foreseen (planRefresh settings sources disk) :=
  (mainEntry_foreseen settings _).bind fun _ _ => .ok trivial

theorem execute_foreseen {planned : Except GenerationError Pass}
    (h : FailsOnly GenerationError.Foreseen planned) (disk : Disk) :
    FailsOnly GenerationError.Foreseen (execute planned disk).result := by
  cases h with
  | error foreseen => exact .error foreseen
  | @ok pass _ =>
    cases ended : (execute (.ok pass) disk).result with
    | ok report => exact .ok trivial
    | error e =>
      obtain ⟨path, rfl⟩ := run_error ended
      exact .error trivial

end Pass

/-- Whatever is declared and configured, neither a pass nor any of its steps ends with an emission
fault or a lost superclass. A registrar that exists can be written, and so can every main entry. -/
theorem errors_foreseen (settings : Settings) (disk : Disk) (graph : Graph) :
    (∀ e, (Pass.generate settings graph disk).result = .error e → e.Foreseen) ∧
      (∀ sources e, (Pass.refresh settings sources disk).result = .error e → e.Foreseen) ∧
      (∀ index ledger c e, (Registrar.generate index ledger c).2 = .error e → e.Foreseen) ∧
      (∀ index ledger c registrar, (Registrar.generate index ledger c).2 = .ok registrar →
        ∃ rendered, registrar.file.render = .ok rendered) ∧
      (∀ classes sourceDirs, ∃ file rendered,
        MainEntry.file classes sourceDirs = .ok file ∧ file.render = .ok rendered) ∧
      (∀ p e, PropertyDecl.registration p = .error e → e.Foreseen) ∧
      (∀ p e, PropertyDecl.signalRegistration p = .error e → e.Foreseen) ∧
      (∀ f e, FunctionDecl.registration f = .error e → e.Foreseen) ∧
      ∀ p e, PropertyDecl.defaultValue p = .error e → e.Foreseen := by
  refine ⟨?generate, ?refresh, ?registrar, ?rendered, ?mainEntry, ?property, ?signal, ?function,
    ?default⟩
  case generate =>
    intro e
    have planned := Pass.planGenerate_foreseen settings graph disk
    exact (Pass.execute_foreseen planned disk).bad_of_error
  case refresh =>
    intro sources e
    have planned := Pass.planRefresh_foreseen settings sources disk
    exact (Pass.execute_foreseen planned disk).bad_of_error
  case registrar =>
    intro index ledger c e
    exact (Registrar.generate_balanced index ledger c).bad_of_error
  case rendered =>
    intro index ledger c registrar ok
    have balanced := (Registrar.generate_balanced index ledger c).good_of_ok ok
    obtain ⟨rendered, written, -⟩ := balanced.render.exists_ok
    exact ⟨rendered, written⟩
  case mainEntry =>
    intro classes dirs
    obtain ⟨file, ok, balanced⟩ := (MainEntry.file_balanced classes dirs).exists_ok
    obtain ⟨rendered, written, -⟩ := balanced.render.exists_ok
    exact ⟨file, rendered, ok, written⟩
  case property => exact fun p e => p.registration_foreseen.bad_of_error
  case signal => exact fun p e => p.signalRegistration_foreseen.bad_of_error
  case function => exact fun f e => f.registration_foreseen.bad_of_error
  case default => exact fun p e => p.defaultValue_foreseen.bad_of_error

theorem clash_foreseen :
    (Pass.generate Sample.cleaning Sample.clashing Sample.generatedBefore).result =
        .error Sample.clash ∧
      Sample.clash.Foreseen := by
  have failed : (Pass.generate Sample.cleaning Sample.clashing Sample.generatedBefore).result =
      .error Sample.clash := by
    decide +kernel
  obtain ⟨generate, -⟩ := errors_foreseen Sample.cleaning Sample.generatedBefore Sample.clashing
  exact ⟨failed, generate _ failed⟩

end ScriptRegistrar
