import ScriptRegistrar.Inheritance
import ScriptRegistrar.Registration.Member
import ScriptRegistrar.Source.File

namespace ScriptRegistrar

open Source (ClassName FunctionText ClassText FileText Argument EmissionFault)

structure NameLedger where
  records : List NameRecord := []
deriving DecidableEq, Repr, Inhabited

namespace NameLedger

def record (ledger : NameLedger) (entry : NameRecord) : NameLedger :=
  ⟨ledger.records ++ [entry]⟩

def names (ledger : NameLedger) : List String :=
  distinctSorted (ledger.records.map NameRecord.registeredName)

def group (ledger : NameLedger) (name : String) : List NameRecord :=
  sortOn NameRecord.className (ledger.records.filter (·.registeredName = name))

def clashes (ledger : NameLedger) : List (List NameRecord) :=
  (ledger.names.map ledger.group).filter (1 < ·.length)

def validate (ledger : NameLedger) : Except DeclarationFault Unit :=
  if ledger.clashes.isEmpty then .ok () else .error (.duplicateNames ledger.clashes)

end NameLedger

/-! ### Registrars -/

structure Registrar where
  className : DottedName
  registeredName : String
  registrar : ClassName
  file : FileText
deriving Repr, Inhabited

def maxConstructorParameters : Nat := 5

/-- A class that can be registered as far as its place in the hierarchy goes. -/
structure Candidate where
  engineBase : ClassDecl
  members : ClassMembers

namespace Candidate

def decl (c : Candidate) : ClassDecl := c.members.owner

def record (c : Candidate) : NameRecord := ⟨c.decl.name, c.decl.registeredName⟩

end Candidate

namespace ClassDecl

def checkConstructors (c : ClassDecl) : Except DeclarationFault Unit :=
  match c.constructors.find? (maxConstructorParameters < ·.parameters.length) with
  | some k => .error (.constructorArity c.name k.parameters.length k.describe)
  | none => .ok ()

def candidate (c : ClassDecl) (index : ClassIndex) : Except GenerationError Candidate := do
  let some engineBase := index.engineBase? c
    | throw (.declaration (.missingEngineBase c.name))
  c.checkConstructors
  let members ← (ClassMembers.own c).flatten index
  return ⟨engineBase, members⟩

end ClassDecl

namespace Registrar

def constructorStatement (className : ClassName) (f : FunctionText) (k : ConstructorDecl) :
    Except GenerationError FunctionText := do
  let tags ← k.parameters.mapM fun p => VariantTag.of p.type
  f.addStatement
    ("constructor(%T(::%T" ++ String.join (tags.map fun _ => ", %T") ++ "))")
    ([.type (Vocabulary.constructorWrapper k.parameters.length), .type className] ++
      tags.map fun tag => .type tag.constant)

def addStatements (statement : α → Except GenerationError Source.Fragment) (f : FunctionText)
    (xs : List α) : Except GenerationError FunctionText :=
  xs.foldlM (fun f x => do return f.addCode (← statement x)) f

def headArguments (c : Candidate) : List Argument :=
  let className : ClassName := .ofDotted c.decl.name
  [className, className, .string (c.decl.superClass.elim "kotlin.Any" DottedName.text),
    .verbatim (boolText c.decl.isTool), .string c.engineBase.name.name,
    .string c.decl.registeredName]

def registerFunction (c : Candidate) : Except GenerationError FunctionText := do
  let start : FunctionText :=
    { name := "register", modifiers := [.isOverride],
      parameters := [("registry", Vocabulary.classRegistry)] }
  let f ← start.beginFlow "with(registry)" []
  let f ← f.beginFlow "registerClass<%T>(%T::class.qualifiedName!!, %S, %L, %S, %S)"
    (headArguments c)
  let f ← c.decl.constructors.foldlM (constructorStatement (.ofDotted c.decl.name)) f
  let f ← addStatements FunctionDecl.registration f c.members.functions
  let f ← addStatements PropertyDecl.signalRegistration f c.members.signals
  let f ← addStatements PropertyDecl.registration f c.members.properties
  let f ← f.endFlow
  f.endFlow

/-- The registrar extends that of the nearest registered superclass. -/
def classText (index : ClassIndex) (c : ClassDecl) (register : FunctionText) : ClassText :=
  let base : ClassText :=
    { name := (Vocabulary.registrarClass c.name).simpleName, modifiers := [.isOpen],
      functions := [register] }
  match index.registeredSuper? c with
  | some parent => { base with superClass := some (Vocabulary.registrarClass parent.name) }
  | none => { base with interfaces := [Vocabulary.classRegistrar] }

def ofCandidate (index : ClassIndex) (c : Candidate) : Except GenerationError Registrar := do
  let register ← registerFunction c
  return {
    className := c.decl.name
    registeredName := c.decl.registeredName
    registrar := Vocabulary.registrarClass c.decl.name
    file := {
      package := Vocabulary.generatedPackage c.decl.name
      name := Vocabulary.registrarFileName c.decl.name
      comment := [Vocabulary.generatedComment]
      classes := [classText index c.decl register] } }

/-- The registrar of a class. Its name is recorded as soon as the class has its place in the
hierarchy, whatever becomes of its members. -/
def generate (index : ClassIndex) (ledger : NameLedger) (c : ClassDecl) :
    NameLedger × Except GenerationError Registrar :=
  match c.candidate index with
  | .error e => (ledger, .error e)
  | .ok candidate => (ledger.record candidate.record, ofCandidate index candidate)

end Registrar

end ScriptRegistrar
