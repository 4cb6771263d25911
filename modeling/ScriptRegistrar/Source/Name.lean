import ScriptRegistrar.DottedName
import ScriptRegistrar.Sorting

namespace ScriptRegistrar.Source

/-- `outer` is the top-level class, `inner` the classes nested in it, outermost first. -/
structure ClassName where
  package : String
  outer : String
  inner : List String := []
deriving DecidableEq, Repr, Inhabited

def qualify (package name : String) : String :=
  if package = "" then name else package ++ "." ++ name

namespace ClassName

def topLevel (package name : String) : ClassName := ⟨package, name, []⟩

/-- The last segment is the class, the rest its package. -/
def ofDotted (n : DottedName) : ClassName := ⟨n.packageText, n.name, []⟩

def nested (c : ClassName) (name : String) : ClassName := { c with inner := c.inner ++ [name] }

def simpleName (c : ClassName) : String := c.inner.getLastD c.outer

def relative (c : ClassName) : String := ".".intercalate (c.outer :: c.inner)

def canonical (c : ClassName) : String := qualify c.package c.relative

end ClassName

inductive TypeName where
  | plain (raw : ClassName)
  | generic (raw : ClassName) (arguments : List TypeName)
deriving Repr, Inhabited

instance : Coe ClassName TypeName := ⟨.plain⟩

namespace TypeName

mutual
def classes : TypeName → List ClassName
  | .plain raw => [raw]
  | .generic raw arguments => raw :: classesOf arguments
def classesOf : List TypeName → List ClassName
  | [] => []
  | t :: ts => classes t ++ classesOf ts
end

mutual
/-- The type with every class written by `classText`. -/
def write (classText : ClassName → String) : TypeName → String
  | .plain raw => classText raw
  | .generic raw arguments =>
    classText raw ++ "<" ++ ", ".intercalate (writeList classText arguments) ++ ">"
def writeList (classText : ClassName → String) : List TypeName → List String
  | [] => []
  | t :: ts => write classText t :: writeList classText ts
end

end TypeName

/-- A function or property, at top level or inside a class. -/
inductive MemberName where
  | topLevel (package name : String)
  | inClass (owner : ClassName) (name : String)
deriving DecidableEq, Repr, Inhabited

namespace MemberName

def package : MemberName → String
  | .topLevel package _ => package
  | .inClass owner _ => owner.package

def name : MemberName → String
  | .topLevel _ name => name
  | .inClass _ name => name

def owner? : MemberName → Option ClassName
  | .topLevel _ _ => none
  | .inClass owner _ => some owner

def canonical : MemberName → String
  | .topLevel package name => qualify package name
  | .inClass owner name => owner.canonical ++ "." ++ name

end MemberName

/-! ### Imports -/

/-- What an import line can name: the outermost class, or a top-level member. -/
structure Importable where
  package : String
  name : String
deriving DecidableEq, Repr, Inhabited

def ClassName.importable (c : ClassName) : Importable := ⟨c.package, c.outer⟩

def MemberName.importable (m : MemberName) : Importable := ⟨m.package, m.name⟩

def defaultPackages : List String :=
  ["kotlin", "kotlin.annotation", "kotlin.collections", "kotlin.comparisons", "kotlin.io",
    "kotlin.ranges", "kotlin.sequences", "kotlin.text"]

/-- `short` holds what is written by its simple name. `lines` holds what is imported, in order. -/
structure Imports where
  short : List Importable
  lines : List String
deriving Repr, Inhabited

namespace Imports

def qualified : Imports := ⟨[], []⟩

/-- Whether `r` is the only one of its simple name. -/
def unambiguous (package : String) (declared : List String) (references : List Importable)
    (r : Importable) : Bool :=
  references.all (fun other => other.name ≠ r.name || other.package = r.package) &&
    (!declared.contains r.name || r.package = package)

def needsLine (package : String) (r : Importable) : Bool :=
  r.package ≠ package && !defaultPackages.contains r.package

/-- Import decisions for a file of the package that declares these types. -/
def resolve (package : String) (declared : List String) (references : List Importable) : Imports :=
  let short := references.filter (unambiguous package declared references)
  { short
    lines := distinctSorted
      ((short.filter (needsLine package)).map fun r => qualify r.package r.name) }

def classText (imports : Imports) (c : ClassName) : String :=
  if imports.short.contains c.importable then c.relative else c.canonical

def typeText (imports : Imports) (t : TypeName) : String := t.write imports.classText

def memberText (imports : Imports) : MemberName → String
  | .topLevel package name =>
    if imports.short.contains ⟨package, name⟩ then name else qualify package name
  | .inClass owner name => imports.classText owner ++ "." ++ name

end Imports

end ScriptRegistrar.Source
