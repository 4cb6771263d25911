import ScriptRegistrar.Log
import ScriptRegistrar.Pass.Basic

namespace ScriptRegistrar

/-- What a part of the planning tells, and whether it succeeds. -/
structure Stage where
  events : List LogEvent := []
  succeeds : Bool := true
deriving DecidableEq, Repr, Inhabited

namespace Stage

def told (events : List LogEvent) : Stage := { events }

/-- Stages after each other, up to the first that fails. -/
def sequence : List Stage → Stage
  | [] => {}
  | stage :: rest =>
    if stage.succeeds then
      let later := sequence rest
      ⟨stage.events ++ later.events, later.succeeds⟩
    else stage

end Stage

def passEvent (level : LogLevel) (message : String) (values : List (String × LogValue)) :
    LogEvent :=
  ⟨level, "pipeline", message, values⟩

namespace DottedName

def logValue (n : DottedName) : LogValue := .text n.text

end DottedName

/-! ### Registration -/

def FunctionDecl.stage (f : FunctionDecl) : Stage where
  events :=
    if f.returnType.isSome then
      [passEvent .trace "registering function" [("function", f.qualifiedName.logValue)]]
    else []
  succeeds := f.registration.isOk

namespace PropertyDecl

/-- A signal is told once it is known to be one and all its arguments have names. -/
def signalStage (p : PropertyDecl) : Stage where
  events :=
    if p.checkSignal.isOk && p.type.arguments.length = p.signalArgumentNames.length then
      [passEvent .trace "registering signal" [
        ("signal", p.qualifiedName.logValue), ("arguments", .number p.type.arguments.length)]]
    else []
  succeeds := p.signalRegistration.isOk

def stage (p : PropertyDecl) : Stage where
  events :=
    [passEvent .trace "registering property" [
      ("property", p.qualifiedName.logValue), ("strategy", .text (PropertyRoute.of p.type).name)]]
  succeeds := p.registration.isOk

end PropertyDecl

def ConstructorDecl.stage (k : ConstructorDecl) : Stage where
  succeeds := (k.parameters.mapM fun p => VariantTag.of p.type).isOk

namespace Candidate

def flattenedEvent (c : Candidate) : LogEvent :=
  passEvent .trace "flattened hierarchy" [
    ("class", c.decl.name.logValue), ("own", .number (ClassMembers.own c.decl).count),
    ("flattened", .number c.members.count)]

def generatedEvent (c : Candidate) : LogEvent :=
  passEvent .debug "generated registrar" [
    ("class", c.decl.name.logValue), ("registered_name", .text c.decl.registeredName),
    ("functions", .number c.members.functions.length),
    ("signals", .number c.members.signals.length),
    ("properties", .number c.members.properties.length)]

def stage (c : Candidate) : Stage :=
  .sequence ([.told [c.flattenedEvent]] ++ c.decl.constructors.map ConstructorDecl.stage ++
    c.members.functions.map FunctionDecl.stage ++ c.members.signals.map PropertyDecl.signalStage ++
    c.members.properties.map PropertyDecl.stage ++ [.told [c.generatedEvent]])

end Candidate

def ClassDecl.stage (index : ClassIndex) (c : ClassDecl) : Stage :=
  match c.candidate index with
  | .ok candidate => candidate.stage
  | .error _ => ⟨[], false⟩

namespace Pass

/-! ### Planning -/

/-- Members of a class that is not registered itself are easily forgotten. -/
def unregisteredEvents (graph : Graph) : List LogEvent :=
  (graph.classes.filter fun c => !c.isRegistered && c.hasAnnotatedMembers).map fun c =>
    passEvent .warn
      ("class is not registered; its annotated members are only registered through registered " ++
        "subclasses")
      [("class", c.name.logValue)]

def plannedEvent (plan : EntryPlan) : LogEvent :=
  passEvent .debug "planned existing registrars" [
    ("stale", .number plan.stale.length), ("surviving", .number plan.survivors.length)]

def generateEvents (settings : Settings) (graph : Graph) (disk : Disk) : List LogEvent :=
  let index := ClassIndex.ofGraph graph
  let classes := graph.registeredClasses
  let opening :=
    passEvent .info "starting generation pass" [
      ("classes", .number graph.classes.length),
      ("dependencies", .number graph.dependencies.length),
      ("output", .text settings.outputDir.text)]
  let plan := entryPlan settings disk graph.sourceClassNames (classes.map ClassDecl.name)
  (Stage.sequence ([.told (opening :: unregisteredEvents graph)] ++
    classes.map (ClassDecl.stage index) ++ [.told [plannedEvent plan]])).events

def refreshEvents (settings : Settings) (sources : List DottedName) (disk : Disk) :
    List LogEvent := [
  passEvent .info "refreshing main entry" [
    ("sources", .number sources.length), ("output", .text settings.outputDir.text)],
  plannedEvent (entryPlan settings disk sources [])]

def finishedEvent (report : Report) : LogEvent :=
  passEvent .info "generation pass finished" [
    ("classes", .number report.classes), ("surviving", .number report.surviving),
    ("written", .number report.written.length), ("deleted", .number report.deleted.length)]

end Pass

/-! ### Changes -/

/-- Told about a change that was made, with the files that it deleted. -/
def Change.events (deleted : List Path) : Change → List LogEvent
  | .deleteStale file =>
    [passEvent .warn "deleted registrar of a class that no longer exists" [
      ("class", file.className.logValue), ("path", .text file.path.text)]]
  | .write base file =>
    [⟨.debug, "codegen", "wrote file", [
      ("path", .text (base.join file.path).text),
      ("bytes", .number file.contents.utf8ByteSize)]⟩]
  | .cleanScripts _ =>
    deleted.map fun path => passEvent .debug "deleted gdns file" [("path", .text path.text)]

/-- A change, or something to tell between two changes. -/
inductive Step where
  | change (change : Change)
  | note (event : LogEvent)
deriving DecidableEq, Repr, Inhabited

namespace Pass

def skippedServiceEvent : LogEvent :=
  passEvent .debug "no project root configured; skipping service file" []

/-- The changes of a full pass. Where no service file is written, that is told before the script
resources. -/
def generateSteps (settings : Settings) (graph : Graph) (pass : Pass) : List Step :=
  let scripts := writeScripts settings graph.registeredClasses
  let front := pass.changes.length - scripts.length
  (pass.changes.take front).map .change ++
    (if settings.projectRoot.isNone then [.note skippedServiceEvent] else []) ++
    (pass.changes.drop front).map .change

end Pass

end ScriptRegistrar
