import ScriptRegistrar.CommandLine.Invocation
import ScriptRegistrar.Declaration.Decode
import ScriptRegistrar.Pass.Events

namespace ScriptRegistrar

open Json (str?)

def Path.encode (p : Path) : Json := .str p.text

def Path.decode? (j : Json) : Option Path := j.str?.map .ofText

namespace ScriptSettings

def encode (s : ScriptSettings) : Json := .obj [
  ("gdnlibPath", .str s.libraryPath), ("outputDir", s.outputDir.encode), ("clean", .bool s.clean)]

def decode? (j : Json) : Option ScriptSettings := do
  let libraryPath ← j.required? "gdnlibPath" str?
  let outputDir ← j.required? "outputDir" Path.decode?
  let clean ← j.flagField? "clean"
  return { libraryPath, outputDir, clean }

end ScriptSettings

namespace Settings

def encode (s : Settings) : Json := .obj [
  ("outputDir", s.outputDir.encode), ("projectRoot", Json.ofOption Path.encode s.projectRoot),
  ("srcDirs", .ofStrings s.sourceDirs), ("gdns", Json.ofOption ScriptSettings.encode s.scripts)]

def decode? (j : Json) : Option Settings := do
  let outputDir ← j.required? "outputDir" Path.decode?
  let projectRoot ← j.absent? "projectRoot" Path.decode?
  let sourceDirs ← j.listField? "srcDirs" str?
  let scripts ← j.absent? "gdns" ScriptSettings.decode?
  return { outputDir, projectRoot, sourceDirs, scripts }

def ofJson? (j : Json) : Option Settings := withinNesting? decode? j

end Settings

end ScriptRegistrar

namespace ScriptRegistrar.CommandLine

/-- A place with files in it. -/
structure Workplace (m : Type → Type) where
  read? : Path → m (Option String)
  /-- A disk on which at least the files below a directory can be found. -/
  survey : Path → m Disk
  change : Change → m (Except GenerationError Report)

inductive CommandError where
  | unreadableSettings (path : Path)
  | invalidSettings (path : Path)
  | noOutput
  | unreadableGraph (path : Path)
  | invalidGraph (path : Path)
  | pass (error : GenerationError)
deriving DecidableEq, Repr, Inhabited

namespace CommandError

def message : CommandError → String
  | unreadableSettings path => "failed to read config " ++ path.text ++ ": no text to be found"
  | invalidSettings path => "invalid config " ++ path.text ++ ": not in the form of one"
  | noOutput => "either --output or --config is required"
  | unreadableGraph path => "failed to read declarations " ++ path.text ++ ": no text to be found"
  | invalidGraph path => "invalid declaration graph " ++ path.text ++ ": not in the form of one"
  | pass error => error.message

end CommandError

/-! ### Settings -/

namespace OutputOptions

def base [Monad m] (place : Workplace m) (options : OutputOptions) :
    ExceptT CommandError m Settings := do
  match options.config, options.outputDir with
  | some path, _ =>
    let some text ← place.read? path | throw (.unreadableSettings path)
    let some settings := (Json.read? text).bind Settings.ofJson? | throw (.invalidSettings path)
    return settings
  | none, some outputDir => return { outputDir }
  | none, none => throw .noOutput

/-- The flag for cleaning also holds for the script resources of the settings file. -/
def scriptSettings (options : OutputOptions) (present : Option ScriptSettings) :
    Option ScriptSettings :=
  match options.scripts with
  | some target => some ⟨target.libraryPath, target.outputDir, options.cleanScripts⟩
  | none =>
    present.map fun scripts => { scripts with clean := scripts.clean || options.cleanScripts }

/-- Flags replace what the settings file says. Source directories are added to those in it. -/
def apply (options : OutputOptions) (settings : Settings) : Settings where
  outputDir := options.outputDir.getD settings.outputDir
  projectRoot := options.projectRoot.or settings.projectRoot
  sourceDirs := settings.sourceDirs ++ options.sourceDirs
  scripts := options.scriptSettings settings.scripts

end OutputOptions

/-! ### Passes with their log -/

/-- A pass that has everything it needs, together with what it tells. -/
structure Task where
  plan : Disk → Except GenerationError Pass
  planEvents : Disk → List LogEvent
  steps : Pass → List Step
  closing : Report → List LogEvent

namespace Task

def generate (settings : Settings) (graph : Graph) : Task where
  plan := Pass.planGenerate settings graph
  planEvents := Pass.generateEvents settings graph
  steps := Pass.generateSteps settings graph
  closing report := [Pass.finishedEvent report]

def refresh (settings : Settings) (classes : List DottedName) : Task where
  plan := Pass.planRefresh settings classes
  planEvents := Pass.refreshEvents settings classes
  steps pass := pass.changes.map .change
  closing _ := []

end Task

structure Result where
  log : List LogEvent
  report : Except CommandError Report
deriving Inhabited

/-- Takes the steps of a pass in order, up to the first that fails. -/
def takeSteps [Monad m] (place : Workplace m) (log : List LogEvent) (report : Report) :
    List Step → m Result
  | [] => return ⟨log, .ok report⟩
  | .note event :: rest => takeSteps place (log ++ [event]) report rest
  | .change change :: rest => do
    match ← place.change change with
    | .error e => return ⟨log, .error (.pass e)⟩
    | .ok made =>
      takeSteps place (log ++ change.events made.deleted)
        { report with
          written := report.written ++ made.written
          deleted := report.deleted ++ made.deleted }
        rest

namespace Task

def run [Monad m] (place : Workplace m) (outputDir : Path) (task : Task) : m Result := do
  let disk ← place.survey (RegistrarFile.root outputDir)
  let log := task.planEvents disk
  match task.plan disk with
  | .error e => return ⟨log, .error (.pass e)⟩
  | .ok pass =>
    let start : Report := { classes := pass.classes, surviving := pass.surviving }
    let result ← takeSteps place log start (task.steps pass)
    match result.report with
    | .ok report => return ⟨result.log ++ task.closing report, .ok report⟩
    | .error _ => return result

end Task

namespace Invocation

def readTask [Monad m] (place : Workplace m) (settings : Settings) :
    Command → ExceptT CommandError m Task
  | .refresh classes => return .refresh settings classes
  | .generate input => do
    let some text ← place.read? input | throw (.unreadableGraph input)
    let some graph := (Json.read? text).bind Graph.ofJson? | throw (.invalidGraph input)
    return .generate settings graph

def prepare [Monad m] (place : Workplace m) (invocation : Invocation) :
    ExceptT CommandError m (Path × Task) := do
  let settings := invocation.output.apply (← invocation.output.base place)
  return (settings.outputDir, ← readTask place settings invocation.command)

def run [Monad m] (place : Workplace m) (invocation : Invocation) : m Result := do
  match ← (invocation.prepare place).run with
  | .error e => return ⟨[], .error e⟩
  | .ok (outputDir, task) => task.run place outputDir

end Invocation

/-! ### Replies -/

structure Reply where
  code : UInt32
  output : String := ""
  log : List LogEvent := []
  logFormat : LogFormat := .text
  error : Option String := none
deriving Repr, Inhabited

def versionText : String := "godot-entry 0.1.0\n"

def helpText : String :=
  "Usage: godot-entry [--log-level LEVEL] [--log-format FORMAT] COMMAND\n\n" ++
    "Commands:\n" ++
    "  generate INPUT            write registrars, the main entry and the service file\n" ++
    "  refresh [--class NAME]... write the main entry anew from registrars on disk\n\n" ++
    "Options of both commands: --config FILE, -o/--output DIR, --project-root DIR,\n" ++
    "  --src-dir DIR (repeatable), --gdnlib PATH, --gdns-dir DIR, --clean-gdns\n"

def summary (r : Report) : String :=
  toString r.classes ++ " registrar(s) generated, " ++ toString r.surviving ++ " kept, " ++
    toString r.written.length ++ " file(s) written, " ++ toString r.deleted.length ++ " deleted\n"

namespace Reply

def ofStop : Stop → Reply
  | .misuse => { code := 2, error := some helpText }
  | .helpAsked => { code := 0, output := helpText }
  | .versionAsked => { code := 0, output := versionText }

/-- Only events of the chosen level and those above are logged. -/
def ofResult (options : LogOptions) (result : Result) : Reply :=
  let log := result.log.filter fun event => options.level.admits event.level
  match result.report with
  | .ok report => { code := 0, output := summary report, log, logFormat := options.format }
  | .error e =>
    { code := 1, log, logFormat := options.format, error := some ("error: " ++ e.message ++ "\n") }

def logLines (r : Reply) : List String :=
  r.log.map fun event =>
    match r.logFormat with
    | .text => event.line
    | .json => event.encode.render

end Reply

/-- The whole program, but for its input and output. -/
def answer [Monad m] (place : Workplace m) (environment : Environment) (arguments : List String) :
    m Reply := do
  match Invocation.ofArguments arguments with
  | .error stop => return .ofStop stop
  | .ok invocation =>
    let options :=
      (LogOptions.ofEnvironment environment).override invocation.logFormat invocation.logLevel
    return .ofResult options (← invocation.run place)

def diskWorkplace : Workplace (StateM Disk) where
  read? path := return (← get).readAt? path
  survey _ := get
  change change := do
    let (progress, fault) := change.apply ⟨← get, {}⟩
    set progress.disk
    return match fault with
      | none => .ok progress.report
      | some e => .error e

end ScriptRegistrar.CommandLine
