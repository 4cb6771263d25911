import ScriptRegistrar.Output
import ScriptRegistrar.Registration.Registrar

/-! A pass decides on all its changes before it makes the first. -/

namespace ScriptRegistrar

open Source (RenderedFile)

/-- With `clean`, script resources on disk are deleted before new ones are written. -/
structure ScriptSettings where
  libraryPath : String
  outputDir : Path
  clean : Bool := false
deriving DecidableEq, Repr, Inhabited

/-- The service file goes below the project root. Script resources are only written on demand. -/
structure Settings where
  outputDir : Path
  projectRoot : Option Path := none
  sourceDirs : List String := []
  scripts : Option ScriptSettings := none
deriving DecidableEq, Repr, Inhabited

/-! ### Changes to the disk -/

inductive Change where
  | deleteStale (file : RegistrarFile)
  | write (base : Path) (file : RenderedFile)
  | cleanScripts (directory : Path)
deriving DecidableEq, Repr, Inhabited

structure Report where
  classes : Nat := 0
  surviving : Nat := 0
  written : List Path := []
  deleted : List Path := []
deriving DecidableEq, Repr, Inhabited

namespace Report

def addWritten (r : Report) (path : Path) : Report := { r with written := r.written ++ [path] }

def addDeleted (r : Report) (paths : List Path) : Report :=
  { r with deleted := r.deleted ++ paths }

end Report

structure Progress where
  disk : Disk
  report : Report
deriving Inhabited

namespace Progress

def setDisk (p : Progress) (disk : Disk) : Progress := { p with disk }

def delete (p : Progress) (path : Path) : Progress × Option GenerationError :=
  match p.disk.removeFile? path.location with
  | some disk => (⟨disk, p.report.addDeleted [path]⟩, none)
  | none => (p, some (.blocked path))

/-- Writes a file, making the directories on the way to it. -/
def write (p : Progress) (path : Path) (contents : String) : Progress × Option GenerationError :=
  match p.disk.makeDirectories path.parent with
  | (disk, false) => (p.setDisk disk, some (.blocked path.parent.trimmed))
  | (disk, true) =>
    match disk.write? path.location contents with
    | none => (p.setDisk disk, some (.blocked path))
    | some disk => (⟨disk, p.report.addWritten path⟩, none)

end Progress

namespace Change

def apply (p : Progress) : Change → Progress × Option GenerationError
  | deleteStale file => p.delete file.path
  | write base file => p.write (base.join file.path) file.contents
  | cleanScripts directory =>
    let paths := ScriptResource.existing p.disk directory
    (⟨paths.foldl (fun disk path => disk.erase path.location) p.disk,
      p.report.addDeleted paths⟩, none)

def run (p : Progress) : List Change → Progress × Option GenerationError
  | [] => (p, none)
  | change :: rest =>
    match change.apply p with
    | (p, none) => run p rest
    | (p, some e) => (p, some e)

end Change

/-! ### Passes -/

structure Pass where
  classes : Nat
  surviving : Nat
  changes : List Change
deriving Inhabited

structure Outcome where
  result : Except GenerationError Report
  disk : Disk
deriving Inhabited

namespace Pass

def run (pass : Pass) (disk : Disk) : Outcome :=
  let start : Progress := ⟨disk, { classes := pass.classes, surviving := pass.surviving }⟩
  match Change.run start pass.changes with
  | (p, none) => ⟨.ok p.report, p.disk⟩
  | (p, some e) => ⟨.error e, p.disk⟩

def execute (planned : Except GenerationError Pass) (disk : Disk) : Outcome :=
  match planned with
  | .ok pass => pass.run disk
  | .error e => ⟨.error e, disk⟩

/-- The registrars of a list of classes, rendered, with the names they are registered under. The
first error ends it. -/
def registrars (index : ClassIndex) :
    NameLedger → List ClassDecl → Except GenerationError (NameLedger × List RenderedFile)
  | ledger, [] => .ok (ledger, [])
  | ledger, c :: classes => do
    let (ledger, result) := Registrar.generate index ledger c
    let registrar ← result
    let file ← registrar.file.render
    let (ledger, files) ← registrars index ledger classes
    return (ledger, file :: files)

/-- Surviving registrars take part in the check of names as far as their classes are known. -/
def recordSurvivors (index : ClassIndex) (ledger : NameLedger) (survivors : List DottedName) :
    NameLedger :=
  survivors.foldl (fun ledger name =>
    match index.find? name with
    | some c => if c.isRegistered then ledger.record ⟨name, c.registeredName⟩ else ledger
    | none => ledger) ledger

def mainEntry (settings : Settings) (classes : List DottedName) :
    Except GenerationError RenderedFile := do
  let file ← MainEntry.file classes settings.sourceDirs
  file.render

def writeService (settings : Settings) : List Change :=
  settings.projectRoot.toList.map fun root => .write root MainEntry.serviceFile

def writeScripts (settings : Settings) (classes : List ClassDecl) : List Change :=
  match settings.scripts with
  | none => []
  | some scripts =>
    (if scripts.clean then [.cleanScripts scripts.outputDir] else []) ++
      classes.map fun c => .write scripts.outputDir (ScriptResource.file c scripts.libraryPath)

def entryPlan (settings : Settings) (disk : Disk) (sources regenerated : List DottedName) :
    EntryPlan :=
  .of (RegistrarFile.scan disk settings.outputDir) sources regenerated

def planGenerate (settings : Settings) (graph : Graph) (disk : Disk) :
    Except GenerationError Pass := do
  let index := ClassIndex.ofGraph graph
  let classes := graph.registeredClasses
  let regenerated := classes.map ClassDecl.name
  let (ledger, files) ← registrars index {} classes
  let plan := entryPlan settings disk graph.sourceClassNames regenerated
  (recordSurvivors index ledger plan.survivors).validate
  let entry ← mainEntry settings (regenerated ++ plan.survivors)
  return {
    classes := classes.length
    surviving := plan.survivors.length
    changes :=
      plan.stale.map .deleteStale ++ (files ++ [entry]).map (.write settings.outputDir) ++
        writeService settings ++ writeScripts settings classes }

def planRefresh (settings : Settings) (sources : List DottedName) (disk : Disk) :
    Except GenerationError Pass := do
  let plan := entryPlan settings disk sources []
  let entry ← mainEntry settings plan.survivors
  return {
    classes := 0
    surviving := plan.survivors.length
    changes := plan.stale.map .deleteStale ++ [.write settings.outputDir entry] }

def generate (settings : Settings) (graph : Graph) (disk : Disk) : Outcome :=
  execute (planGenerate settings graph disk) disk

def refresh (settings : Settings) (sources : List DottedName) (disk : Disk) : Outcome :=
  execute (planRefresh settings sources disk) disk

end Pass

end ScriptRegistrar
