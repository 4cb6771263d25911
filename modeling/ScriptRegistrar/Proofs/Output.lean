import ScriptRegistrar.Output
import ScriptRegistrar.Proofs.Disk.WellFormed
import ScriptRegistrar.Proofs.Source.Template

namespace ScriptRegistrar

namespace DottedName

/-- Every segment can stand in the text of a name and in a path. -/
def Plain (n : DottedName) : Prop := ∀ s ∈ n.segments, s ≠ "" ∧ '.' ∉ s.toList ∧ '/' ∉ s.toList

instance : DecidablePred Plain := fun n => inferInstanceAs (Decidable (∀ s ∈ n.segments, _))

theorem Plain.proper {n : DottedName} (h : n.Plain) : n.Proper := fun s member =>
  ⟨(h s member).1, (h s member).2.1⟩

theorem Plain.properName {n : DottedName} (h : n.Plain) {s : String} (member : s ∈ n.segments) :
    Path.ProperName s := by
  obtain ⟨some, noDot, noSlash⟩ := h s member
  refine ⟨some, ?_, ?_, noSlash⟩
  · rintro rfl
    exact noDot (by decide)
  · rintro rfl
    exact noDot (by decide)

theorem Plain.file_properNames {n : DottedName} (h : n.Plain) (suffix : String)
    (long : 2 < suffix.length) (noSlash : '/' ∉ suffix.toList) :
    ∀ name ∈ n.package ++ [n.name ++ suffix], Path.ProperName name := by
  intro name member
  rcases List.mem_append.1 member with package | last
  · exact h.properName (List.mem_append_left _ package)
  · rw [List.mem_singleton.1 last]
    have other : ∀ short : String, short.length ≤ 2 → n.name ++ suffix ≠ short := by
      rintro short few rfl
      rw [String.length_append] at few
      omega
    refine ⟨other _ (by decide), other _ (by decide), other _ (by decide), ?_⟩
    rw [String.toList_append, List.mem_append, not_or]
    exact ⟨(h n.name (List.mem_append_right _ List.mem_cons_self)).2.2, noSlash⟩

/-- The package of a name can be read back from its text. -/
def PackageProper (n : DottedName) : Prop := ∀ s ∈ n.package, s ≠ "" ∧ '.' ∉ s.toList

theorem Plain.packageProper {n : DottedName} (h : n.Plain) : n.PackageProper := fun s member =>
  h.proper s (List.mem_append_left _ member)

theorem parse_packageProper (text : String) : (parse text).PackageProper := by
  intro s member
  have kept := List.dropLast_subset _ member
  obtain ⟨piece, some⟩ := List.mem_filter.1 kept
  exact ⟨by simpa using some, Text.notMem_split piece⟩

end DottedName

namespace Vocabulary

theorem generatedPackage_eq {n : DottedName} (h : n.PackageProper) :
    generatedPackage n = ".".intercalate (rootPackage :: n.package) := by
  unfold generatedPackage DottedName.packageText
  cases package : n.package with
  | nil => rfl
  | cons first rest =>
    have named : ".".intercalate (first :: rest) ≠ "" := by
      intro none
      have same := congrArg (Text.split '.') none
      rw [show "." = String.singleton '.' by rfl, Text.split_intercalate (List.cons_ne_nil _ _)
        fun s member => (h s (package ▸ member)).2] at same
      have some : first ≠ "" := (h first (package ▸ List.mem_cons_self)).1
      exact some (List.cons.inj same).1
    rw [if_neg named, String.intercalate_cons_cons]

theorem split_generatedPackage {n : DottedName} (h : n.PackageProper) :
    Text.split '.' (generatedPackage n) = rootPackage :: n.package := by
  rw [generatedPackage_eq h]
  refine Text.split_intercalate (List.cons_ne_nil _ _) ?_
  intro s member
  rcases List.mem_cons.1 member with rfl | member
  · decide
  · exact (h s member).2

theorem registrarClass_injective {a b : DottedName} (ha : a.PackageProper) (hb : b.PackageProper)
    (same : registrarClass a = registrarClass b) : a = b := by
  obtain ⟨packages, names, -⟩ := Source.ClassName.mk.inj same
  have split := congrArg (Text.split '.') packages
  rw [split_generatedPackage ha, split_generatedPackage hb] at split
  exact congrArg₂ DottedName.mk ((String.append_left_inj _).1 names) (List.cons.inj split).2

end Vocabulary

namespace RegistrarFile

/-- Where the registrar of a class is, below the directory of all generated files. -/
def place (n : DottedName) : Location := n.package ++ [n.name ++ fileSuffix]

theorem place_properName {n : DottedName} (plain : n.Plain) :
    ∀ name ∈ place n, Path.ProperName name :=
  plain.file_properNames fileSuffix (by decide) (by decide)

theorem rooted_properName {n : DottedName} (plain : n.Plain) :
    ∀ name ∈ Vocabulary.rootPackage :: place n, Path.ProperName name :=
  List.forall_mem_cons.2 ⟨by decide, place_properName plain⟩

theorem place_below {n : DottedName} (plain : n.Plain) : Disk.Below (place n) := by
  have proper := place_properName plain
  cases same : place n with
  | nil => exact absurd same (by simp [place])
  | cons name rest =>
    rw [same] at proper
    exact ⟨name, rest, rfl, (proper name List.mem_cons_self).not_fixed⟩

theorem className?_place {n : DottedName} (plain : n.Plain) : className? (place n) = some n := by
  have named := (plain n.name (List.mem_append_right _ List.mem_cons_self)).1
  have last : (place n).getLastD "" = n.name ++ fileSuffix := by simp [place]
  have other : n.name ++ fileSuffix ≠ fileSuffix := by
    intro same
    exact named (by simpa using same)
  unfold className?
  dsimp only
  rw [last, if_neg other, Text.dropEnd?_eq_some_iff.2 rfl, place, List.dropLast_concat]
  exact congrArg some (DottedName.parse_text plain.proper)

theorem eq_of_className?_place {m n : DottedName} (plain : m.Plain)
    (read : className? (place m) = some n) : m = n := by
  rw [className?_place plain] at read
  exact Option.some.inj read

theorem place_injective {a b : DottedName} (ha : a.Plain) (hb : b.Plain)
    (same : place a = place b) : a = b :=
  eq_of_className?_place ha (same ▸ className?_place hb)

theorem place_ne_fileSuffix {n : DottedName} (plain : n.Plain) : place n ≠ [fileSuffix] := by
  intro same
  have read := className?_place plain
  rw [same] at read
  cases read

theorem path_eq {n : DottedName} (plain : n.Plain) {file : Source.FileText}
    (package : file.package = Vocabulary.generatedPackage n)
    (name : file.name = Vocabulary.registrarFileName n) :
    file.path = ⟨Vocabulary.rootPackage :: place n⟩ := by
  have proper := plain.packageProper
  have kept : (Vocabulary.rootPackage :: n.package).filter (· ≠ "") =
      Vocabulary.rootPackage :: n.package := by
    rw [List.filter_eq_self]
    intro s member
    rcases List.mem_cons.1 member with rfl | member
    · decide
    · simpa using (proper s member).1
  unfold Source.FileText.path
  rw [package, name, Vocabulary.split_generatedPackage proper, kept, List.cons_append, place,
    Vocabulary.registrarFileName, String.append_assoc]
  rfl

theorem location_place (output : Path) {n : DottedName} (plain : n.Plain) :
    (output.join ⟨Vocabulary.rootPackage :: place n⟩).location =
      (root output).location ++ place n := by
  have below : (output.join ⟨[Vocabulary.rootPackage]⟩).location =
      output.location ++ [Vocabulary.rootPackage] :=
    Path.location_join_properNames output (by decide)
  rw [Path.location_join_properNames output (rooted_properName plain),
    show root output = output.join ⟨[Vocabulary.rootPackage]⟩ by rfl, below, List.append_assoc]
  rfl

/-! ### Files that are no registrars -/

/-- The file has a name like that of a registrar or of the main entry. -/
def EntryNamed (loc : Location) : Prop := ∃ simple, loc.getLastD "" = simple ++ fileSuffix

theorem entryNamed_of_className? {rel : Location} {n : DottedName} (h : className? rel = some n) :
    EntryNamed rel := by
  unfold className? at h
  dsimp only at h
  split at h
  · cases h
  · obtain ⟨simple, dropped, -⟩ := Option.map_eq_some_iff.1 h
    exact ⟨simple, Text.dropEnd?_eq_some_iff.1 dropped⟩

theorem EntryNamed.extension? {loc : Location} (h : EntryNamed loc) :
    ScriptResource.extension? (loc.getLastD "") ≠ some "gdns" := by
  obtain ⟨simple, last⟩ := h
  have pieces : Text.split '.' (simple ++ fileSuffix) =
      Text.split '.' (simple ++ "Entry") ++ ["kt"] := by
    have cut := Text.split_append '.' (simple ++ "Entry") "kt"
    rw [String.append_assoc, String.append_assoc] at cut
    exact cut
  rw [last, ScriptResource.extension?, pieces, List.reverse_append]
  cases (Text.split '.' (simple ++ "Entry")).reverse with
  | nil => decide
  | cons front rest =>
    change (if _ then _ else _) ≠ _
    split
    · exact (Option.some_ne_none _).symm
    · decide

theorem EntryNamed.getLast? {loc : Location} (h : EntryNamed loc) :
    (loc.getLastD "").toList.getLast? = some 't' := by
  obtain ⟨simple, last⟩ := h
  rw [last, String.toList_append, List.getLast?_append_of_ne_nil _ (by decide)]
  rfl

theorem scan_classes (disk : Disk) (output : Path) (n : DottedName) :
    n ∈ (scan disk output).map className ↔
      ∃ rel ∈ disk.filesUnder (root output), className? rel = some n := by
  simp only [scan, List.mem_map, mem_sortOn, List.mem_filterMap, Option.map_eq_some_iff]
  constructor
  · rintro ⟨file, ⟨rel, member, name, read, rfl⟩, rfl⟩
    exact ⟨rel, member, read⟩
  · rintro ⟨rel, member, read⟩
    exact ⟨_, ⟨rel, member, n, read, rfl⟩, rfl⟩

theorem scan_packageProper {disk : Disk} {output : Path} {n : DottedName}
    (h : n ∈ (scan disk output).map className) : n.PackageProper := by
  obtain ⟨rel, -, read⟩ := (scan_classes disk output n).1 h
  unfold className? at read
  dsimp only at read
  split at read
  · cases read
  · obtain ⟨simple, -, parsed⟩ := Option.map_eq_some_iff.1 read
    rw [← parsed]
    exact DottedName.parse_packageProper _

end RegistrarFile

/-! ### The main entry -/

open Source (ClassName FunctionText FileText BodyLine Fragment EmissionFault Fits)

def registrarCall? : BodyLine → Option ClassName
  | .statement ⟨[.type (.plain registrar), .text "().register(registry)"]⟩ => some registrar
  | _ => none

/-- The registrars that the `init` function of a file calls, in order. -/
def Source.FileText.registrarCalls (file : FileText) : List ClassName :=
  (file.classes.flatMap (·.functions.filter (·.name = "init"))).flatMap
    (·.body.filterMap registrarCall?)

namespace MainEntry

def callOf (n : DottedName) : BodyLine :=
  .statement ⟨[.type (.plain (Vocabulary.registrarClass n)), .text "().register(registry)"]⟩

theorem addStatement_call (f : FunctionText) (n : DottedName) :
    f.addStatement "%T().register(registry)" [.type (.plain (Vocabulary.registrarClass n))] =
      .ok { f with body := f.body ++ [callOf n] } :=
  rfl

theorem foldlM_addStatement (classes : List DottedName) (f : FunctionText) :
    classes.foldlM (fun (f : FunctionText) n =>
        f.addStatement "%T().register(registry)" [.type (.plain (Vocabulary.registrarClass n))]) f =
      .ok { f with body := f.body ++ classes.map callOf } := by
  induction classes generalizing f with
  | nil =>
    rw [List.foldlM_nil, List.map_nil, List.append_nil]
    rfl
  | cons n classes ih =>
    rw [List.foldlM_cons, addStatement_call, ok_bind, ih]
    simp

theorem registrarCall?_callOf (n : DottedName) :
    registrarCall? (callOf n) = some (Vocabulary.registrarClass n) :=
  rfl

theorem initFunction_eq (classes : List DottedName) :
    initFunction classes = .ok { contextFunction "init" with
      body := .openFlow (.literal "with(registry)") ::
        ((distinctSorted classes).map callOf ++ [.closeFlow]) } := by
  have opened : (contextFunction "init").beginFlow "with(registry)" [] =
      .ok { contextFunction "init" with
        body := [.openFlow (.literal "with(registry)")]
        openFlows := 1 } :=
    rfl
  unfold initFunction
  rw [opened, ok_bind, foldlM_addStatement, ok_bind]
  rfl

theorem initFunction_calls (classes : List DottedName) {f : FunctionText}
    (h : initFunction classes = .ok f) :
    f.name = "init" ∧ f.body.filterMap registrarCall? =
      (distinctSorted classes).map Vocabulary.registrarClass := by
  have calls : ((distinctSorted classes).map callOf).filterMap registrarCall? =
      (distinctSorted classes).map Vocabulary.registrarClass := by
    rw [List.filterMap_map, ← List.filterMap_eq_map]
    exact List.filterMap_congr fun n _ => registrarCall?_callOf n
  rw [initFunction_eq] at h
  cases h
  refine ⟨rfl, ?_⟩
  rw [List.filterMap_cons, List.filterMap_append, calls]
  exact List.append_nil _

theorem engineFunction_name {f : FunctionText} (h : engineFunction = .ok f) :
    f.name = "initEngineTypes" := by
  have built : ∃ g, engineFunction = .ok g ∧ g.name = "initEngineTypes" := ⟨_, rfl, rfl⟩
  obtain ⟨g, built, named⟩ := built
  rw [built] at h
  cases h
  exact named

theorem sourceDirsFunction_name {sourceDirs : List String} {f : FunctionText}
    (h : sourceDirsFunction sourceDirs = .ok f) : f.name = "provideSrcDirs" := by
  obtain ⟨code, -, h⟩ := bind_ok h
  rw [pure_ok h]
  rfl

/-- The main entry calls the registrar of every class once, in order. -/
theorem registrarCalls_file {classes : List DottedName} {sourceDirs : List String}
    {file : FileText} (h : MainEntry.file classes sourceDirs = .ok file) :
    file.registrarCalls = (distinctSorted classes).map Vocabulary.registrarClass := by
  obtain ⟨init, first, h⟩ := bind_ok h
  obtain ⟨engine, second, h⟩ := bind_ok h
  obtain ⟨dirs, third, h⟩ := bind_ok h
  obtain ⟨named, calls⟩ := initFunction_calls classes (mapError_ok first)
  have named' := engineFunction_name (mapError_ok second)
  have named'' := sourceDirsFunction_name (mapError_ok third)
  rw [pure_ok h]
  unfold Source.FileText.registrarCalls
  simp only [List.flatMap_cons, List.flatMap_nil, List.append_nil, List.filter_cons, named, named',
    named'']
  simpa using calls

/-! ### The file always exists -/

theorem initFunction_closed {bad : EmissionFault → Prop} (classes : List DottedName) :
    Ends (·.openFlows = 0) bad (initFunction classes) := by
  rw [initFunction_eq]
  exact .ok rfl

theorem engineFunction_closed {bad : EmissionFault → Prop} :
    Ends (·.openFlows = 0) bad engineFunction :=
  Ends.foldlM rfl fun _ _ _ flows => FunctionText.addStatement_of_fits ⟨_, rfl, by simp⟩ flows

theorem sourceDirsFunction_closed {bad : EmissionFault → Prop} (sourceDirs : List String) :
    Ends (·.openFlows = 0) bad (sourceDirsFunction sourceDirs) := by
  have opening : Fits "return listOf<%T>(" [.type stringClass] := ⟨_, rfl, by simp⟩
  have closing : Fits ")" [] := ⟨_, rfl, .nil⟩
  have dirs : Fits (", ".intercalate (sourceDirs.map fun _ => "%S"))
      (sourceDirs.flatMap fun dir => [.string dir]) :=
    Fits.intercalate ⟨_, rfl, .nil⟩ fun _ _ => ⟨_, rfl, by simp⟩
  have all := (opening.append dirs).append closing
  rw [List.append_nil, ← List.map_eq_flatMap] at all
  exact FunctionText.addStatement_of_fits all rfl

theorem file_balanced {bad : GenerationError → Prop} (classes : List DottedName)
    (sourceDirs : List String) :
    Ends FileText.Balanced bad (MainEntry.file classes sourceDirs) := by
  refine ((initFunction_closed classes).lift _).bind fun init closed => ?_
  refine (engineFunction_closed.lift _).bind fun engine closed' => ?_
  refine ((sourceDirsFunction_closed sourceDirs).lift _).bind fun dirs closed'' => ?_
  refine .ok fun c single g member => ?_
  rw [List.mem_singleton.1 single] at member
  simp only [List.mem_cons, List.not_mem_nil, or_false] at member
  rcases member with rfl | rfl | rfl
  · exact closed
  · exact closed'
  · exact closed''

/-- The main entry depends on which classes there are, not on how they are listed. -/
theorem file_congr {classes classes' : List DottedName}
    (same : distinctSorted classes = distinctSorted classes') (sourceDirs : List String) :
    MainEntry.file classes sourceDirs = MainEntry.file classes' sourceDirs := by
  unfold file initFunction
  rw [same]

end MainEntry

end ScriptRegistrar
