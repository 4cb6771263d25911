import ScriptRegistrar.Declaration.Member

namespace ScriptRegistrar

inductive MemberDecl where
  | function (function : FunctionDecl)
  | property (property : PropertyDecl)
deriving BEq, Inhabited

/-- Members by name, and overloads in order. A key need not be the name of what it holds. -/
structure MemberScope where
  functions : Dict (List FunctionDecl) := ∅
  properties : Dict (List PropertyDecl) := ∅
deriving BEq, Inhabited

/-- As the current compilation lists them, or as a compiled dependency has them. -/
inductive Members where
  | listed (declarations : List MemberDecl)
  | scoped (scope : MemberScope)
deriving BEq

instance : Inhabited Members := ⟨.listed []⟩

namespace MemberDecl

def function? : MemberDecl → Option FunctionDecl
  | .function f => some f
  | .property _ => none

def property? : MemberDecl → Option PropertyDecl
  | .property p => some p
  | .function _ => none

end MemberDecl

namespace MemberScope

def add (scope : MemberScope) : MemberDecl → MemberScope
  | .function f =>
    { scope with functions := scope.functions.upsert f.name fun fs => fs.getD [] ++ [f] }
  | .property p =>
    { scope with properties := scope.properties.upsert p.name fun ps => ps.getD [] ++ [p] }

def functionsNamed (scope : MemberScope) (name : String) : List FunctionDecl :=
  (scope.functions.get? name).getD []

def propertiesNamed (scope : MemberScope) (name : String) : List PropertyDecl :=
  (scope.properties.get? name).getD []

def ofList (declarations : List MemberDecl) : MemberScope := declarations.foldl add {}

end MemberScope

namespace Members

def isCompiled : Members → Bool
  | .listed _ => false
  | .scoped _ => true

/-- Declaration order, or name order and then overload order. -/
def functions : Members → List FunctionDecl
  | .listed declarations => declarations.filterMap MemberDecl.function?
  | .scoped scope => scope.functions.values.flatten

def properties : Members → List PropertyDecl
  | .listed declarations => declarations.filterMap MemberDecl.property?
  | .scoped scope => scope.properties.values.flatten

def registeredFunctions (m : Members) : List FunctionDecl := m.functions.filter (·.isRegistered)

def registeredProperties (m : Members) : List PropertyDecl :=
  m.properties.filter (·.isRegisteredProperty)

def registeredSignals (m : Members) : List PropertyDecl :=
  m.properties.filter (·.isRegisteredSignal)

def add : Members → MemberDecl → Members
  | .listed declarations, member => .listed (declarations ++ [member])
  | .scoped scope, member => .scoped (scope.add member)

end Members

structure ClassDecl where
  name : DottedName
  superClass : Option DottedName := none
  interfaces : List DottedName := []
  annotations : Annotations := []
  constructors : List ConstructorDecl := []
  members : Members := .listed []
deriving BEq, Inhabited

namespace ClassDecl

def isRegistered (c : ClassDecl) : Bool := c.annotations.has AnnotationName.registerClass

def isEngineBase (c : ClassDecl) : Bool := c.annotations.has AnnotationName.baseType

def isTool (c : ClassDecl) : Bool :=
  c.annotations.boolD AnnotationName.registerClass "isTool" false

/-- `game.Player` becomes `game_Player`. One underscore in front is dropped. -/
def defaultRegisteredName (name : DottedName) : String :=
  let joined := Text.replaceChar '.' "_" name.packageText ++ "_" ++ name.name
  (Text.dropStart? "_" joined).getD joined

def registeredName (c : ClassDecl) : String :=
  let chosen := c.annotations.stringD AnnotationName.registerClass "className" ""
  if chosen = "" then defaultRegisteredName c.name else chosen

def hasAnnotatedMembers (c : ClassDecl) : Bool :=
  !c.members.registeredFunctions.isEmpty || !c.members.registeredProperties.isEmpty ||
    !c.members.registeredSignals.isEmpty

/-! ### Building classes -/

def annotate (c : ClassDecl) (applied : AnnotationUse) : ClassDecl :=
  { c with annotations := c.annotations ++ [applied] }

def registered (c : ClassDecl) : ClassDecl :=
  c.annotate (.plain AnnotationName.registerClass)

def registeredAs (c : ClassDecl) (name : String) : ClassDecl :=
  c.annotate
    ((AnnotationUse.plain AnnotationName.registerClass).withArgument "className" (.string name))

def engineBase (c : ClassDecl) : ClassDecl := c.annotate (.plain AnnotationName.baseType)

def withMember (c : ClassDecl) (member : MemberDecl) : ClassDecl :=
  { c with members := c.members.add member }

end ClassDecl

/-! ### The graph -/

/-- An empty list of source classes stands for the registered classes. -/
structure Graph where
  classes : List ClassDecl := []
  dependencies : List ClassDecl := []
  sourceClasses : List DottedName := []
deriving BEq, Inhabited

namespace Graph

def registeredClasses (g : Graph) : List ClassDecl :=
  sortOn ClassDecl.name (g.classes.filter (·.isRegistered))

def sourceClassNames (g : Graph) : List DottedName :=
  if g.sourceClasses.isEmpty then g.registeredClasses.map ClassDecl.name else g.sourceClasses

end Graph

end ScriptRegistrar
