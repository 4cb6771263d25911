import ScriptRegistrar.Proofs.Pass.Coherence
import ScriptRegistrar.Proofs.Pass.Failure

namespace ScriptRegistrar

/-! ### Indices that find the same classes -/

/-- Under distinct keys there is one element to find, wherever it stands. -/
theorem find?_eq_of_perm {α κ : Type} [DecidableEq κ] {key : α → κ} {xs ys : List α}
    (perm : xs.Perm ys) (k : κ) :
    (xs.map key).Nodup → xs.find? (key · = k) = ys.find? (key · = k) := by
  induction perm with
  | nil =>
    intro _
    rfl
  | cons x _ ih =>
    intro distinct
    rw [List.find?_cons, List.find?_cons, ih (List.nodup_cons.1 distinct).2]
  | swap x y rest =>
    intro distinct
    have apart : key y ≠ key x := by
      intro same
      simp [same] at distinct
    by_cases hx : key x = k
    · have hy : key y ≠ k := fun hy => apart (hy.trans hx.symm)
      simp [hx, hy]
    · simp [List.find?_cons, hx]
  | trans first _ ih ih' =>
    intro distinct
    rw [ih distinct, ih' ((first.map key).nodup_iff.1 distinct)]

namespace ClassIndex

variable {index other : ClassIndex}

theorem Walk.transfer (same : index.find? = other.find?) {met : List DottedName}
    {next : Option DottedName} {chain : List ClassDecl} (walk : index.Walk met next chain) :
    other.Walk met next chain := by
  induction walk with
  | unknown missing => exact .unknown (same ▸ missing)
  | closed found known => exact .closed (same ▸ found) known
  | step found fresh _ ih => exact .step (same ▸ found) fresh ih

theorem ancestors_congr (same : index.find? = other.find?) : index.ancestors = other.ancestors := by
  funext c
  exact Chain.eq_ancestors (Walk.transfer same (index.ancestors_chain c))

theorem engineBase?_congr (same : index.find? = other.find?) :
    index.engineBase? = other.engineBase? := by
  unfold engineBase?
  rw [ancestors_congr same]

theorem userAncestors_congr (same : index.find? = other.find?) :
    index.userAncestors = other.userAncestors := by
  unfold userAncestors
  rw [ancestors_congr same]

theorem registeredSuper?_congr (same : index.find? = other.find?) :
    index.registeredSuper? = other.registeredSuper? := by
  unfold registeredSuper?
  rw [userAncestors_congr same]

theorem inheritedFrom_congr (same : index.find? = other.find?) :
    index.inheritedFrom = other.inheritedFrom := by
  unfold inheritedFrom contains
  rw [ancestors_congr same, userAncestors_congr same, same]

end ClassIndex

theorem ClassMembers.flatten_congr {index other : ClassIndex} (same : index.find? = other.find?)
    (m : ClassMembers) : m.flatten index = m.flatten other := by
  unfold flatten
  rw [ClassIndex.inheritedFrom_congr same]

/-! ### Graphs in another order -/

/-- The same classes, dependencies and source classes, each in some other order. -/
structure Graph.Reorders (g g' : Graph) : Prop where
  classes : g.classes.Perm g'.classes
  dependencies : g.dependencies.Perm g'.dependencies
  sourceClasses : g.sourceClasses.Perm g'.sourceClasses

theorem Graph.Reorders.find? {g g' : Graph} (reorders : g.Reorders g')
    (classes : (g.classes.map ClassDecl.name).Nodup)
    (dependencies : (g.dependencies.map ClassDecl.name).Nodup) :
    (ClassIndex.ofGraph g).find? = (ClassIndex.ofGraph g').find? := by
  funext name
  have turned : ∀ {xs ys : List ClassDecl}, xs.Perm ys → (xs.map ClassDecl.name).Nodup →
      xs.reverse.find? (·.name = name) = ys.reverse.find? (·.name = name) := by
    intro xs ys perm distinct
    have perm' := (List.reverse_perm xs).trans (perm.trans (List.reverse_perm ys).symm)
    exact find?_eq_of_perm perm' name (((List.reverse_perm xs).map _).nodup_iff.2 distinct)
  unfold ClassIndex.find? ClassIndex.ofGraph
  rw [List.reverse_append, List.reverse_append, List.find?_append, List.find?_append,
    turned reorders.classes classes, turned reorders.dependencies dependencies]

/-! ### Through the index -/

section
variable {index other : ClassIndex}

theorem ClassDecl.candidate_congr (same : index.find? = other.find?) (c : ClassDecl) :
    c.candidate index = c.candidate other := by
  unfold candidate
  rw [ClassIndex.engineBase?_congr same, ClassMembers.flatten_congr same]

theorem Registrar.ofCandidate_congr (same : index.find? = other.find?) (candidate : Candidate) :
    ofCandidate index candidate = ofCandidate other candidate := by
  unfold ofCandidate classText
  rw [ClassIndex.registeredSuper?_congr same]

theorem Registrar.generate_congr (same : index.find? = other.find?) (ledger : NameLedger)
    (c : ClassDecl) : generate index ledger c = generate other ledger c := by
  unfold generate
  rw [c.candidate_congr same]
  split
  · rfl
  · rw [ofCandidate_congr same]

theorem Pass.registrars_congr (same : index.find? = other.find?) (ledger : NameLedger)
    (classes : List ClassDecl) :
    registrars index ledger classes = registrars other ledger classes := by
  induction classes generalizing ledger with
  | nil => rfl
  | cons c classes ih =>
    rw [registrars, registrars, Registrar.generate_congr same]
    simp only [ih]

theorem Pass.recordSurvivors_congr (same : index.find? = other.find?) (ledger : NameLedger)
    (survivors : List DottedName) :
    recordSurvivors index ledger survivors = recordSurvivors other ledger survivors := by
  unfold recordSurvivors
  rw [same]

end

/-! ### Through sorted and searched lists -/

namespace Graph.Reorders

variable {g g' : Graph}

theorem registeredClasses (reorders : g.Reorders g')
    (distinct : (g.classes.map ClassDecl.name).Nodup) :
    g.registeredClasses = g'.registeredClasses := by
  have kept : ((g.classes.filter (·.isRegistered)).map ClassDecl.name).Nodup :=
    (List.filter_sublist.map ClassDecl.name).nodup distinct
  exact sortOn_eq_of_perm (reorders.classes.filter _) kept

theorem sourceClassNames (reorders : g.Reorders g')
    (distinct : (g.classes.map ClassDecl.name).Nodup) :
    g.sourceClassNames.Perm g'.sourceClassNames := by
  unfold Graph.sourceClassNames
  rw [reorders.sourceClasses.isEmpty_eq, reorders.registeredClasses distinct]
  split
  · exact .rfl
  · exact reorders.sourceClasses

end Graph.Reorders

theorem EntryPlan.of_perm {sources sources' : List DottedName} (perm : sources.Perm sources')
    (existing : List RegistrarFile) (regenerated : List DottedName) :
    EntryPlan.of existing sources regenerated = EntryPlan.of existing sources' regenerated := by
  unfold EntryPlan.of
  simp only [perm.contains_eq]

theorem Pass.planGenerate_reordered {g g' : Graph} (reorders : g.Reorders g')
    (classes : (g.classes.map ClassDecl.name).Nodup)
    (dependencies : (g.dependencies.map ClassDecl.name).Nodup) (settings : Settings) (disk : Disk) :
    planGenerate settings g disk = planGenerate settings g' disk := by
  have same := reorders.find? classes dependencies
  have registered := reorders.registeredClasses classes
  have plan : entryPlan settings disk g.sourceClassNames =
      entryPlan settings disk g'.sourceClassNames := by
    funext regenerated
    exact EntryPlan.of_perm (reorders.sourceClassNames classes) _ regenerated
  unfold planGenerate
  simp only [registered, plan, registrars_congr same, recordSurvivors_congr same]

/-- Neither the report nor an error nor the disk tells in which order the graph was listed. -/
theorem generate_reordered {g g' : Graph} (reorders : g.Reorders g')
    (classes : (g.classes.map ClassDecl.name).Nodup)
    (dependencies : (g.dependencies.map ClassDecl.name).Nodup) (settings : Settings) (disk : Disk) :
    Pass.generate settings g disk = Pass.generate settings g' disk := by
  unfold Pass.generate
  rw [Pass.planGenerate_reordered reorders classes dependencies]

/-! ### Two classes, and a dependency that one of them shadows -/

namespace Sample

def listed : Graph where
  classes := [loopingPlayer, loopingBoss]
  dependencies := [node, { name := .parse "game.Player" }, loopingMob]
  sourceClasses := sources

def listedBackwards : Graph where
  classes := listed.classes.reverse
  dependencies := listed.dependencies.reverse
  sourceClasses := listed.sourceClasses.reverse

end Sample

theorem listed_reorders : Sample.listed.Reorders Sample.listedBackwards where
  classes := (List.reverse_perm _).symm
  dependencies := (List.reverse_perm _).symm
  sourceClasses := (List.reverse_perm _).symm

theorem listed_backwards_generated :
    Sample.listed.Reorders Sample.listedBackwards ∧
      (Sample.listed.classes.map ClassDecl.name).Nodup ∧
      (Sample.listed.dependencies.map ClassDecl.name).Nodup ∧
      (∃ report, (Pass.generate Sample.cleaning Sample.listed Sample.before).result = .ok report ∧
        report.classes = 2) ∧
      Pass.generate Sample.cleaning Sample.listed Sample.before =
        Pass.generate Sample.cleaning Sample.listedBackwards Sample.before := by
  have classes : (Sample.listed.classes.map ClassDecl.name).Nodup := by decide +kernel
  have dependencies : (Sample.listed.dependencies.map ClassDecl.name).Nodup := by decide +kernel
  refine ⟨listed_reorders, classes, dependencies, exists_ok_of_map (by decide +kernel), ?_⟩
  exact generate_reordered listed_reorders classes dependencies _ _

end ScriptRegistrar
