import ScriptRegistrar.Declaration.Annotations
import ScriptRegistrar.Declaration.Expr
import ScriptRegistrar.Declaration.ResolvedType

namespace ScriptRegistrar

structure Parameter where
  name : String
  type : ResolvedType
deriving DecidableEq, Inhabited

/-- The return type is only missing when the compiler could not infer it. -/
structure FunctionDecl where
  owner : DottedName
  name : String
  parameters : List Parameter := []
  returnType : Option ResolvedType := none
  annotations : Annotations := []
deriving BEq, Inhabited

structure PropertyDecl where
  owner : DottedName
  name : String
  type : ResolvedType
  annotations : Annotations := []
  isVar : Bool := false
  isLateinit : Bool := false
  initializer : Option Expr := none
  delegate : Option Expr := none
  sourceText : Option String := none
deriving BEq, Inhabited

structure ConstructorDecl where
  parameters : List Parameter := []
  sourceText : Option String := none
deriving DecidableEq, Inhabited

namespace FunctionDecl

def qualifiedName (f : FunctionDecl) : DottedName := f.owner.child f.name

def isRegistered (f : FunctionDecl) : Bool := f.annotations.has AnnotationName.registerFunction

/-- What an overriding function has in common with the one that it overrides. -/
structure Signature where
  name : String
  parameterTypes : List ResolvedType
deriving DecidableEq

def signature (f : FunctionDecl) : Signature := ⟨f.name, f.parameters.map Parameter.type⟩

def unit (owner : DottedName) (name : String) : FunctionDecl :=
  { owner, name, returnType := some (.simple (.parse "kotlin.Unit")) }

def withParameter (f : FunctionDecl) (parameter : Parameter) : FunctionDecl :=
  { f with parameters := f.parameters ++ [parameter] }

def withReturnType (f : FunctionDecl) (type : ResolvedType) : FunctionDecl :=
  { f with returnType := some type }

def annotate (f : FunctionDecl) (applied : AnnotationUse) : FunctionDecl :=
  { f with annotations := f.annotations ++ [applied] }

def registered (f : FunctionDecl) : FunctionDecl :=
  f.annotate (.plain AnnotationName.registerFunction)

end FunctionDecl

namespace PropertyDecl

def qualifiedName (p : PropertyDecl) : DottedName := p.owner.child p.name

def isRegisteredProperty (p : PropertyDecl) : Bool :=
  p.annotations.has AnnotationName.registerProperty

def isRegisteredSignal (p : PropertyDecl) : Bool := p.annotations.has AnnotationName.registerSignal

/-- A registered property is shown in the editor unless its annotation says otherwise. -/
def isVisible (p : PropertyDecl) : Bool :=
  p.annotations.boolD AnnotationName.registerProperty "visibleInEditor" true

/-- What an overriding property has in common with the one that it overrides. -/
structure Signature where
  name : String
  type : ResolvedType
deriving DecidableEq

def signature (p : PropertyDecl) : Signature := ⟨p.name, p.type⟩

def assignment (p : PropertyDecl) : Option Expr := p.initializer.or p.delegate

/-- The declaration for diagnostics, written anew where its source text is missing. -/
def describe (p : PropertyDecl) : String :=
  match p.sourceText with
  | some text => text
  | none =>
    (if p.isVar then "var " else "val ") ++ p.name ++ ": " ++ p.type.displayName ++
      match p.initializer, p.delegate with
      | some value, _ => " = " ++ value.text
      | none, some delegate => " by " ++ delegate.text
      | none, none => ""

def mutable (owner : DottedName) (name : String) (type : ResolvedType) : PropertyDecl :=
  { owner, name, type, isVar := true }

def annotate (p : PropertyDecl) (applied : AnnotationUse) : PropertyDecl :=
  { p with annotations := p.annotations ++ [applied] }

def registered (p : PropertyDecl) : PropertyDecl :=
  p.annotate (.plain AnnotationName.registerProperty)

def registeredSignal (p : PropertyDecl) : PropertyDecl :=
  p.annotate (.plain AnnotationName.registerSignal)

end PropertyDecl

namespace ConstructorDecl

def describe (c : ConstructorDecl) : String :=
  match c.sourceText with
  | some text => text
  | none =>
    "constructor(" ++
      ", ".intercalate (c.parameters.map fun p => p.name ++ ": " ++ p.type.displayName) ++ ")"

end ConstructorDecl

end ScriptRegistrar
