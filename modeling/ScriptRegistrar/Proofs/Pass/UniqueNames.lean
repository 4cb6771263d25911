import ScriptRegistrar.Proofs.Pass.InputOrder
import ScriptRegistrar.Proofs.Pass.Scan
import ScriptRegistrar.Proofs.Registration.NameLedger

namespace ScriptRegistrar

open RegistrarFile (scan className)

/-! ### What the ledger holds -/

def ClassDecl.nameRecord (c : ClassDecl) : NameRecord := ⟨c.name, c.registeredName⟩

/-- What a survivor adds to the ledger. -/
def ClassIndex.record? (index : ClassIndex) (n : DottedName) : Option NameRecord :=
  (index.find? n).bind fun c => if c.isRegistered then some ⟨n, c.registeredName⟩ else none

theorem ClassIndex.record?_eq_some {index : ClassIndex} {n : DottedName} {r : NameRecord} :
    index.record? n = some r ↔
      ∃ c, index.find? n = some c ∧ c.isRegistered = true ∧ r = ⟨n, c.registeredName⟩ := by
  simp only [record?, Option.bind_eq_some_iff, Option.ite_none_right_eq_some, Option.some.injEq,
    eq_comm (b := r)]

theorem Registrar.generate_result (index : ClassIndex) (ledger ledger' : NameLedger)
    (c : ClassDecl) : (generate index ledger c).2 = (generate index ledger' c).2 := by
  unfold generate
  split
  · rfl
  · rfl

namespace Pass

theorem registrars_records {index : ClassIndex} {ledger ledger' : NameLedger}
    {classes : List ClassDecl} {files : List Source.RenderedFile}
    (h : registrars index ledger classes = .ok (ledger', files)) :
    ledger'.records = ledger.records ++ classes.map ClassDecl.nameRecord := by
  induction classes generalizing ledger ledger' files with
  | nil =>
    cases h
    simp
  | cons c classes ih =>
    rw [registrars] at h
    cases generated : Registrar.generate index ledger c with
    | mk next result =>
      rw [generated] at h
      obtain ⟨registrar, succeeded, h⟩ := bind_ok h
      obtain ⟨file, -, h⟩ := bind_ok h
      obtain ⟨⟨last, others⟩, rest, h⟩ := bind_ok h
      obtain ⟨rfl, -⟩ := Prod.mk.inj (pure_ok h)
      rw [succeeded] at generated
      obtain ⟨candidate, chosen, rfl, -⟩ := Registrar.generate_ok generated
      rw [ih rest, NameLedger.record, Candidate.record, Registrar.candidate_decl chosen]
      simp [ClassDecl.nameRecord]

/-- A registrar that exists can be written, so a pass gets past its registrars if each exists. -/
theorem registrars_succeed {index : ClassIndex} {classes : List ClassDecl}
    (generated : ∀ c ∈ classes, ∃ ledger registrar,
      (Registrar.generate index ledger c).2 = .ok registrar) (ledger : NameLedger) :
    ∃ ledger' files, registrars index ledger classes = .ok (ledger', files) := by
  induction classes generalizing ledger with
  | nil => exact ⟨ledger, [], rfl⟩
  | cons c classes ih =>
    obtain ⟨first, registrar, succeeded⟩ := generated c List.mem_cons_self
    rw [Registrar.generate_result index first ledger] at succeeded
    have balanced := (Registrar.generate_balanced index ledger c).good_of_ok succeeded
    obtain ⟨file, rendered, -⟩ := balanced.render.exists_ok
    obtain ⟨last, files, rest⟩ := ih (fun other member => generated other
      (List.mem_cons_of_mem _ member)) (Registrar.generate index ledger c).1
    refine ⟨last, file :: files, ?_⟩
    have written : (liftM registrar.file.render : Except GenerationError _) = .ok file := by
      rw [rendered]
      rfl
    rw [registrars]
    cases generated' : Registrar.generate index ledger c with
    | mk next result =>
      rw [generated'] at succeeded rest
      dsimp only at succeeded rest ⊢
      rw [succeeded, ok_bind, written, ok_bind, rest]
      rfl

theorem recordSurvivors_records (index : ClassIndex) (ledger : NameLedger)
    (survivors : List DottedName) :
    (recordSurvivors index ledger survivors).records =
      ledger.records ++ survivors.filterMap index.record? := by
  induction survivors generalizing ledger with
  | nil => simp [recordSurvivors]
  | cons n survivors ih =>
    have step : recordSurvivors index ledger (n :: survivors) =
        recordSurvivors index (recordSurvivors index ledger [n]) survivors := rfl
    have one : (recordSurvivors index ledger [n]).records =
        ledger.records ++ (index.record? n).toList := by
      unfold ClassIndex.record?
      simp only [recordSurvivors, List.foldl_cons, List.foldl_nil]
      cases index.find? n with
      | none => simp
      | some c => cases registered : c.isRegistered <;> simp [registered, NameLedger.record]
    rw [step, ih, one, List.filterMap_cons]
    cases index.record? n <;> simp

/-- The classes that a pass answers for, with their names for the engine: those that it regenerates,
and the survivors that the index knows as registered. -/
inductive Names (settings : Settings) (graph : Graph) (disk : Disk) : NameRecord → Prop
  | regenerated {c} (registered : c ∈ graph.registeredClasses) :
    Names settings graph disk ⟨c.name, c.registeredName⟩
  | survivor {n c} (there : n ∈ (scan disk settings.outputDir).map className)
    (source : n ∈ graph.sourceClassNames)
    (kept : n ∉ graph.registeredClasses.map ClassDecl.name)
    (known : (ClassIndex.ofGraph graph).find? n = some c) (registered : c.isRegistered = true) :
    Names settings graph disk ⟨n, c.registeredName⟩

section
variable {settings : Settings} {graph : Graph} {disk : Disk} {ledger : NameLedger}
  {files : List Source.RenderedFile}

def checked (settings : Settings) (graph : Graph) (disk : Disk) (ledger : NameLedger) :
    NameLedger :=
  recordSurvivors (.ofGraph graph) ledger (entryPlan settings disk graph.sourceClassNames
    (graph.registeredClasses.map ClassDecl.name)).survivors

theorem checked_records
    (generated : registrars (.ofGraph graph) {} graph.registeredClasses = .ok (ledger, files)) :
    (checked settings graph disk ledger).records =
      graph.registeredClasses.map ClassDecl.nameRecord ++
        (entryPlan settings disk graph.sourceClassNames
          (graph.registeredClasses.map ClassDecl.name)).survivors.filterMap
          (ClassIndex.ofGraph graph).record? := by
  rw [checked, recordSurvivors_records, registrars_records generated]
  rfl

theorem mem_checked
    (generated : registrars (.ofGraph graph) {} graph.registeredClasses = .ok (ledger, files))
    {r : NameRecord} :
    r ∈ (checked settings graph disk ledger).records ↔ Names settings graph disk r := by
  have survivors := @PassRequest.mem_survivors (.generate settings graph) disk
  rw [checked_records generated, List.mem_append, List.mem_map, List.mem_filterMap]
  constructor
  · rintro (⟨c, registered, rfl⟩ | ⟨n, survives, recorded⟩)
    · exact .regenerated registered
    · obtain ⟨c, known, registered, rfl⟩ := ClassIndex.record?_eq_some.1 recorded
      obtain ⟨there, source, kept⟩ := survivors.1 survives
      exact .survivor there source kept known registered
  · rintro (registered | ⟨there, source, kept, known, registered⟩)
    · exact .inl ⟨_, registered, rfl⟩
    · exact .inr ⟨_, survivors.2 ⟨there, source, kept⟩,
        ClassIndex.record?_eq_some.2 ⟨_, known, registered, rfl⟩⟩

theorem checked_classes_nodup
    (generated : registrars (.ofGraph graph) {} graph.registeredClasses = .ok (ledger, files))
    (distinct : (graph.classes.map ClassDecl.name).Nodup) (wf : disk.WellFormed)
    (inPlace : RegistrarFile.InPlace disk settings.outputDir) :
    ((checked settings graph disk ledger).records.map NameRecord.className).Nodup := by
  have named : ∀ n r, (ClassIndex.ofGraph graph).record? n = some r → r.className = n := by
    intro n r recorded
    obtain ⟨c, -, -, rfl⟩ := ClassIndex.record?_eq_some.1 recorded
    rfl
  rw [checked_records generated, List.map_append, List.nodup_append]
  refine ⟨?registered, ?survivors, ?apart⟩
  case registered =>
    rw [List.map_map]
    exact ((sortOn_perm _ _).map ClassDecl.name).nodup_iff.2
      ((List.filter_sublist.map ClassDecl.name).nodup distinct)
  case survivors =>
    have survivors := EntryPlan.survivors_nodup (RegistrarFile.scan_classes_nodup wf inPlace)
      graph.sourceClassNames (graph.registeredClasses.map ClassDecl.name)
    rw [List.map_filterMap]
    refine survivors.filterMap fun n n' name shown shown' => ?_
    obtain ⟨r, recorded, rfl⟩ := Option.map_eq_some_iff.1 shown
    obtain ⟨r', recorded', same⟩ := Option.map_eq_some_iff.1 shown'
    rw [← named n r recorded, ← named n' r' recorded', same]
  case apart =>
    intro name member name' member' same
    obtain ⟨r, recorded, rfl⟩ := List.mem_map.1 member'
    obtain ⟨n, survives, recorded⟩ := List.mem_filterMap.1 recorded
    rw [named n r recorded] at same
    obtain ⟨-, -, kept⟩ := (@PassRequest.mem_survivors (.generate settings graph) disk n).1 survives
    rw [List.map_map] at member
    exact kept (same ▸ member)

theorem planGenerate_checked {pass : Pass} (h : planGenerate settings graph disk = .ok pass) :
    ∃ ledger files,
      registrars (.ofGraph graph) {} graph.registeredClasses = .ok (ledger, files) ∧
        (checked settings graph disk ledger).validate = .ok () := by
  obtain ⟨⟨ledger, files⟩, generated, h⟩ := bind_ok h
  obtain ⟨⟨⟩, accepted, -⟩ := bind_ok h
  exact ⟨ledger, files, generated, mapError_ok accepted⟩

theorem planGenerate_refused
    (generated : registrars (.ofGraph graph) {} graph.registeredClasses = .ok (ledger, files))
    {fault : DeclarationFault}
    (refused : (checked settings graph disk ledger).validate = .error fault) :
    planGenerate settings graph disk = .error (.declaration fault) := by
  unfold checked at refused
  unfold planGenerate
  dsimp only
  rw [generated, ok_bind]
  dsimp only
  rw [refused]
  rfl

end

end Pass

/-- Two classes with one name for the engine are never both registered after a pass: it fails, and
its report groups the classes by the names that they share. -/
theorem registered_names_unique {settings : Settings} {graph : Graph} {disk : Disk}
    (distinct : (graph.classes.map ClassDecl.name).Nodup) (wf : disk.WellFormed)
    (inPlace : RegistrarFile.InPlace disk settings.outputDir) :
    (∀ report, (Pass.generate settings graph disk).result = .ok report →
      ∀ r other, Pass.Names settings graph disk r → Pass.Names settings graph disk other →
        ¬ r.Clashes other) ∧
    ((∀ c ∈ graph.registeredClasses, ∃ ledger registrar,
        (Registrar.generate (.ofGraph graph) ledger c).2 = .ok registrar) →
      (∃ r other, Pass.Names settings graph disk r ∧ Pass.Names settings graph disk other ∧
        r.Clashes other) →
      ∃ groups, (Pass.generate settings graph disk).result =
          .error (.declaration (.duplicateNames groups)) ∧
        NameLedger.Reports (Pass.Names settings graph disk) groups) := by
  refine ⟨?unique, ?reported⟩
  case unique =>
    intro report ok r other named named' clash
    unfold Pass.generate at ok
    cases planned : Pass.planGenerate settings graph disk with
    | error e =>
      rw [planned] at ok
      cases ok
    | ok pass =>
      obtain ⟨ledger, files, generated, accepted⟩ := Pass.planGenerate_checked planned
      have same := NameLedger.eq_of_validate accepted ((Pass.mem_checked generated).2 named)
        ((Pass.mem_checked generated).2 named') clash.2
      exact clash.1 (congrArg _ same)
  case reported =>
    rintro each ⟨r, other, named, named', clash⟩
    obtain ⟨ledger, files, generated⟩ := Pass.registrars_succeed each {}
    have refused := NameLedger.validate_of_clash ((Pass.mem_checked generated).2 named)
      ((Pass.mem_checked generated).2 named') clash
    have reports := NameLedger.clashes_reports
      (Pass.checked_classes_nodup generated distinct wf inPlace)
    refine ⟨(Pass.checked settings graph disk ledger).clashes, ?_, ?_⟩
    · unfold Pass.generate
      rw [Pass.planGenerate_refused generated refused]
      rfl
    · have records : (· ∈ (Pass.checked settings graph disk ledger).records) =
          Pass.Names settings graph disk :=
        funext fun r => propext (Pass.mem_checked generated)
      exact records ▸ reports

theorem generatedBefore_wellFormed : Sample.generatedBefore.WellFormed :=
  .of_properNames (by decide) (by decide)

/-- The new player takes the name of the one that survives. Of two classes with names of their own,
both are accepted. -/
theorem clash_reported :
    (Sample.clashing.classes.map ClassDecl.name).Nodup ∧ Sample.generatedBefore.WellFormed ∧
      RegistrarFile.InPlace Sample.generatedBefore Sample.cleaning.outputDir ∧
      (∀ c ∈ Sample.clashing.registeredClasses, ∃ ledger registrar,
        (Registrar.generate (.ofGraph Sample.clashing) ledger c).2 = .ok registrar) ∧
      Pass.Names Sample.cleaning Sample.clashing Sample.generatedBefore
        ⟨.parse "lib.Player", "Player"⟩ ∧
      (∃ groups, (Pass.generate Sample.cleaning Sample.clashing Sample.generatedBefore).result =
          .error (.declaration (.duplicateNames groups)) ∧
        NameLedger.Reports (Pass.Names Sample.cleaning Sample.clashing Sample.generatedBefore)
          groups) ∧
      ∃ report, (Pass.generate Sample.cleaning Sample.listed Sample.before).result = .ok report ∧
        ∀ r other, Pass.Names Sample.cleaning Sample.listed Sample.before r →
          Pass.Names Sample.cleaning Sample.listed Sample.before other → ¬ r.Clashes other := by
  have distinct : (Sample.clashing.classes.map ClassDecl.name).Nodup := by decide +kernel
  have distinct' : (Sample.listed.classes.map ClassDecl.name).Nodup := by decide +kernel
  have inPlace : RegistrarFile.InPlace Sample.generatedBefore Sample.cleaning.outputDir := by
    unfold RegistrarFile.InPlace
    decide +kernel
  have inPlace' : RegistrarFile.InPlace Sample.before Sample.cleaning.outputDir := by
    unfold RegistrarFile.InPlace
    decide +kernel
  have each : ∀ c ∈ Sample.clashing.registeredClasses, ∃ ledger registrar,
      (Registrar.generate (.ofGraph Sample.clashing) ledger c).2 = .ok registrar := by
    have succeeds : ∀ c ∈ Sample.clashing.registeredClasses,
        (Registrar.generate (.ofGraph Sample.clashing) {} c).2.toOption.map (fun _ => ()) =
          some () := by
      decide +kernel
    intro c registered
    obtain ⟨registrar, succeeded, -⟩ := exists_ok_of_map (succeeds c registered)
    exact ⟨{}, registrar, succeeded⟩
  have player : Pass.Names Sample.cleaning Sample.clashing Sample.generatedBefore
      ⟨.parse "game.Player", "Player"⟩ :=
    Pass.Names.regenerated (c := Sample.clashing.classes[0])
      (mem_sortOn.2 (List.mem_filter.2 ⟨List.getElem_mem _, rfl⟩))
  have survivor : Pass.Names Sample.cleaning Sample.clashing Sample.generatedBefore
      ⟨.parse "lib.Player", "Player"⟩ :=
    have there : .parse "lib.Player" ∈
        (scan Sample.generatedBefore Sample.cleaning.outputDir).map className := by
      decide +kernel
    have source : .parse "lib.Player" ∈ Sample.clashing.sourceClassNames := by decide +kernel
    have kept : .parse "lib.Player" ∉ Sample.clashing.registeredClasses.map ClassDecl.name := by
      decide +kernel
    have known : (ClassIndex.ofGraph Sample.clashing).find? (.parse "lib.Player") =
        some Sample.clashing.dependencies[1] := rfl
    .survivor there source kept known rfl
  obtain ⟨-, reported⟩ := registered_names_unique distinct generatedBefore_wellFormed inPlace
  obtain ⟨unique, -⟩ := registered_names_unique distinct' before_wellFormed inPlace'
  obtain ⟨report, ok, -⟩ := exists_ok_of_map
    (x := (Pass.generate Sample.cleaning Sample.listed Sample.before).result)
    (f := Report.classes) (v := 2) (by decide +kernel)
  exact ⟨distinct, generatedBefore_wellFormed, inPlace, each, survivor,
    reported each ⟨_, _, player, survivor, by decide, rfl⟩, report, ok, unique report ok⟩

end ScriptRegistrar
