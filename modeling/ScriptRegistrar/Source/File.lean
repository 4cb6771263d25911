import ScriptRegistrar.Disk
import ScriptRegistrar.Source.Fragment

namespace ScriptRegistrar.Source

inductive Modifier where
  | isPublic
  | isPrivate
  | isInternal
  | isOpen
  | isAbstract
  | isOverride
deriving DecidableEq, Repr, Inhabited

namespace Modifier

def keyword : Modifier → String
  | .isPublic => "public"
  | .isPrivate => "private"
  | .isInternal => "internal"
  | .isOpen => "open"
  | .isAbstract => "abstract"
  | .isOverride => "override"

def all : List Modifier := [.isPublic, .isPrivate, .isInternal, .isOpen, .isAbstract, .isOverride]

def keywords (modifiers : List Modifier) : String :=
  String.join ((all.filter modifiers.contains).map fun m => m.keyword ++ " ")

end Modifier

inductive BodyLine where
  | statement (code : Fragment)
  | openFlow (head : Fragment)
  | closeFlow
deriving Repr, Inhabited

structure FunctionText where
  name : String
  modifiers : List Modifier := []
  receiver : Option TypeName := none
  parameters : List (String × TypeName) := []
  returns : Option TypeName := none
  body : List BodyLine := []
  openFlows : Nat := 0
deriving Repr, Inhabited

def indent (level : Nat) : String := String.ofList (List.replicate (2 * level) ' ')

structure PlacedLine where
  level : Nat
  line : BodyLine
deriving Repr, Inhabited

/-- The lines of a body at their levels. The first one stands at `level`. -/
def placeLines (level : Nat) : List BodyLine → List PlacedLine
  | [] => []
  | .statement code :: rest => ⟨level, .statement code⟩ :: placeLines level rest
  | .openFlow head :: rest => ⟨level, .openFlow head⟩ :: placeLines (level + 1) rest
  | .closeFlow :: rest => ⟨level - 1, .closeFlow⟩ :: placeLines (level - 1) rest

def PlacedLine.write (imports : Imports) (placed : PlacedLine) : String :=
  indent placed.level ++
    match placed.line with
    | .statement code => code.write imports ++ "\n"
    | .openFlow head => head.write imports ++ " \x7b\n"
    | .closeFlow => "\x7d\n"

namespace FunctionText

def addCode (f : FunctionText) (code : Fragment) : FunctionText :=
  { f with body := f.body ++ [.statement code] }

def addStatement (f : FunctionText) (format : String) (arguments : List Argument) :
    Except EmissionFault FunctionText := do
  return f.addCode (← Fragment.of format arguments)

def beginFlow (f : FunctionText) (format : String) (arguments : List Argument) :
    Except EmissionFault FunctionText := do
  let head ← Fragment.of format arguments
  return { f with body := f.body ++ [.openFlow head], openFlows := f.openFlows + 1 }

def endFlow (f : FunctionText) : Except EmissionFault FunctionText :=
  if f.openFlows = 0 then .error (.unbalancedFlow f.name)
  else .ok { f with body := f.body ++ [.closeFlow], openFlows := f.openFlows - 1 }

def statementCount (f : FunctionText) : Nat :=
  f.body.countP fun
    | .statement _ => true
    | _ => false

def lineReferences : BodyLine → List Importable
  | .statement code => code.references
  | .openFlow head => head.references
  | .closeFlow => []

def signatureTypes (f : FunctionText) : List TypeName :=
  f.receiver.toList ++ f.parameters.map Prod.snd ++ f.returns.toList

def references (f : FunctionText) : List Importable :=
  (f.signatureTypes.flatMap TypeName.classes).map ClassName.importable ++
    f.body.flatMap lineReferences

def heading (imports : Imports) (f : FunctionText) : String :=
  Modifier.keywords f.modifiers ++ "fun " ++
    (f.receiver.elim "" fun t => imports.typeText t ++ ".") ++ f.name ++ "(" ++
    ", ".intercalate (f.parameters.map fun p => p.1 ++ ": " ++ imports.typeText p.2) ++ ")" ++
    (f.returns.elim "" fun t => ": " ++ imports.typeText t)

def write (imports : Imports) (level : Nat) (f : FunctionText) : Except EmissionFault String :=
  if f.openFlows = 0 then
    .ok (indent level ++ f.heading imports ++ " \x7b\n" ++
      String.join ((placeLines (level + 1) f.body).map (PlacedLine.write imports)) ++
      indent level ++ "\x7d\n")
  else .error (.unbalancedFlow f.name)

end FunctionText

/-! ### Classes and files -/

/-- The superclass is called with no arguments. -/
structure ClassText where
  name : String
  modifiers : List Modifier := []
  superClass : Option TypeName := none
  interfaces : List TypeName := []
  functions : List FunctionText := []
deriving Repr, Inhabited

structure FileText where
  package : String
  name : String
  comment : List String := []
  classes : List ClassText := []
deriving Repr, Inhabited

structure RenderedFile where
  path : Path
  contents : String
deriving DecidableEq, Repr, Inhabited

namespace ClassText

def references (c : ClassText) : List Importable :=
  ((c.superClass.toList ++ c.interfaces).flatMap TypeName.classes).map ClassName.importable ++
    c.functions.flatMap FunctionText.references

def supertypes (imports : Imports) (c : ClassText) : List String :=
  (c.superClass.toList.map fun t => imports.typeText t ++ "()") ++
    c.interfaces.map imports.typeText

def heading (imports : Imports) (c : ClassText) : String :=
  Modifier.keywords c.modifiers ++ "class " ++ c.name ++
    if (c.supertypes imports).isEmpty then "" else " : " ++ ", ".intercalate (c.supertypes imports)

def write (imports : Imports) (c : ClassText) : Except EmissionFault String := do
  let functions ← c.functions.mapM (FunctionText.write imports 1)
  return c.heading imports ++ " \x7b\n" ++ "\n".intercalate functions ++ "\x7d\n"

end ClassText

namespace FileText

/-- The package as directories, and the file in it. -/
def path (f : FileText) : Path :=
  ⟨(Text.split '.' f.package).filter (· ≠ "") ++ [f.name ++ ".kt"]⟩

def references (f : FileText) : List Importable := f.classes.flatMap ClassText.references

def imports (f : FileText) : Imports :=
  .resolve f.package (f.classes.map ClassText.name) f.references

/-- Lines with an empty line after them, or nothing at all. -/
def block (lines : List String) : String :=
  if lines.isEmpty then "" else String.join (lines.map (· ++ "\n")) ++ "\n"

def write (f : FileText) : Except EmissionFault String := do
  let classes ← f.classes.mapM (ClassText.write f.imports)
  return block (f.comment.map ("// " ++ ·)) ++
    (if f.package = "" then "" else "package " ++ f.package ++ "\n\n") ++
    block (f.imports.lines.map ("import " ++ ·)) ++ "\n".intercalate classes

def render (f : FileText) : Except EmissionFault RenderedFile := do
  return ⟨f.path, ← f.write⟩

end FileText

end ScriptRegistrar.Source
