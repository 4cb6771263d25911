import ScriptRegistrar.Declaration.Graph
import ScriptRegistrar.Registration.Vocabulary
import ScriptRegistrar.Source.File

namespace ScriptRegistrar

open Source (ClassName TypeName FunctionText ClassText FileText RenderedFile EmissionFault)

structure RegistrarFile where
  className : DottedName
  path : Path
deriving DecidableEq, Repr, Inhabited

namespace RegistrarFile

/-- The end of every registrar file's name, and the whole name of the main entry. -/
def fileSuffix : String := "Entry.kt"

/-- The directory below the output directory that holds all generated files. -/
def root (output : Path) : Path := output.child Vocabulary.rootPackage

/-- The class of a registrar file, from the names on the way to it. -/
def className? (relative : Location) : Option DottedName :=
  let fileName := relative.getLastD ""
  if fileName = fileSuffix then none
  else (Text.dropEnd? fileSuffix fileName).map fun simple =>
    .parse (".".intercalate (relative.dropLast ++ [simple]))

def scan (disk : Disk) (output : Path) : List RegistrarFile :=
  sortOn className <| (disk.filesUnder (root output)).filterMap fun relative =>
    (className? relative).map fun name => ⟨name, (root output).join ⟨relative⟩⟩

end RegistrarFile

/-- What becomes of the registrar files on disk. -/
structure EntryPlan where
  stale : List RegistrarFile
  survivors : List DottedName
deriving DecidableEq, Repr, Inhabited

namespace EntryPlan

/-- A file is stale when its class is no source class any more. Of the others, those survive whose
class is not generated again. -/
def of (existing : List RegistrarFile) (sources regenerated : List DottedName) : EntryPlan where
  stale := existing.filter fun file => !sources.contains file.className
  survivors := (existing.map RegistrarFile.className).filter fun name =>
    sources.contains name && !regenerated.contains name

end EntryPlan

/-! ### Script resources -/

namespace ScriptResource

/-- The text after the last dot of a file name, unless that dot is the first character. -/
def extension? (fileName : String) : Option String :=
  match (Text.split '.' fileName).reverse with
  | last :: front :: rest => if rest.isEmpty && front = "" then none else some last
  | _ => none

def contents (simpleName registeredName libraryPath : String) : String :=
  "[gd_resource type=\"NativeScript\" load_steps=2 format=2]\n\n" ++
    "[ext_resource path=\"" ++ libraryPath ++ "\" type=\"GDNativeLibrary\" id=1]\n\n" ++
    "[resource]\n\n" ++
    "resource_name = \"" ++ simpleName ++ "\"\n" ++
    "class_name = \"" ++ registeredName ++ "\"\n" ++
    "library = ExtResource( 1 )\n"

def file (c : ClassDecl) (libraryPath : String) : RenderedFile where
  path := ⟨c.name.package ++ [c.name.name ++ ".gdns"]⟩
  contents := contents c.name.name c.registeredName libraryPath

def existing (disk : Disk) (directory : Path) : List Path :=
  (disk.filesUnder directory).filterMap fun relative =>
    if extension? (relative.getLastD "") = some "gdns" then some (directory.join ⟨relative⟩)
    else none

end ScriptResource

/-! ### The main entry -/

namespace MainEntry

def name : String := "Entry"

def stringClass : ClassName := .topLevel "kotlin" "String"

/-- A function that overrides one of the runtime's, for the runtime's context. -/
def contextFunction (name : String) : FunctionText :=
  { name, modifiers := [.isOverride], receiver := some Vocabulary.entryContext }

def initFunction (classes : List DottedName) : Except EmissionFault FunctionText := do
  let f ← (contextFunction "init").beginFlow "with(registry)" []
  let f ← (distinctSorted classes).foldlM (fun (f : FunctionText) name =>
    f.addStatement "%T().register(registry)" [Vocabulary.registrarClass name]) f
  f.endFlow

def engineFunction : Except EmissionFault FunctionText :=
  Vocabulary.engineSetup.foldlM
    (fun (f : FunctionText) (call : Source.MemberName) => f.addStatement "%M()" [call])
    (contextFunction "initEngineTypes")

def sourceDirsFunction (sourceDirs : List String) : Except EmissionFault FunctionText :=
  let start : FunctionText :=
    { name := "provideSrcDirs", modifiers := [.isOverride],
      returns := some (.generic (.topLevel "kotlin.collections" "List") [stringClass]) }
  start.addStatement
    ("return listOf<%T>(" ++ ", ".intercalate (sourceDirs.map fun _ => "%S") ++ ")")
    (.type stringClass :: sourceDirs.map .string)

def file (classes : List DottedName) (sourceDirs : List String) :
    Except GenerationError FileText := do
  let init ← initFunction classes
  let engine ← engineFunction
  let dirs ← sourceDirsFunction sourceDirs
  return {
    package := Vocabulary.rootPackage
    name
    comment := [Vocabulary.generatedComment]
    classes := [
      { name, superClass := some Vocabulary.runtimeEntry, functions := [init, engine, dirs] }] }

def serviceFile : RenderedFile where
  path := .ofText "src/main/resources/META-INF/services/godot.runtime.Entry"
  contents := "godot.Entry"

end MainEntry

end ScriptRegistrar
