import ScriptRegistrar.Registration.DefaultValue
import ScriptRegistrar.Registration.EditorHint

namespace ScriptRegistrar

open Source (ClassName Fragment Argument EmissionFault)

/-- `Owner::name`. -/
def memberReference (owner : DottedName) (name : String) : Except EmissionFault Fragment :=
  Fragment.of "%T::%L" [ClassName.ofDotted owner, .verbatim name]

/-! ### Properties -/

inductive PropertyRoute where
  | plain
  | enum
  | enumList
  | enumFlags
  | reference
deriving DecidableEq, Repr, Inhabited

namespace PropertyRoute

def of (t : ResolvedType) : PropertyRoute :=
  if t.isReference then reference
  else if t.isEnum then enum
  else if t.isEngineArray && t.firstArgumentIsEnum then enumList
  else if t.isSet && t.firstArgumentIsEnum then enumFlags
  else plain

def registryFunction : PropertyRoute → String
  | plain => "property"
  | enum => "enumProperty"
  | enumList => "enumListProperty"
  | enumFlags => "enumFlagProperty"
  | reference => "referenceProperty"

def name : PropertyRoute → String
  | plain => "Plain"
  | enum => "Enum"
  | enumList => "EnumList"
  | enumFlags => "EnumFlagSet"
  | reference => "Reference"

end PropertyRoute

namespace PropertyDecl

/-- A property of a reference type is declared `by ref(...)`. -/
def checkReferenceDelegate (p : PropertyDecl) : Except DeclarationFault Unit :=
  let missing : DeclarationFault :=
    .missingReferenceDelegate p.qualifiedName Vocabulary.referenceDelegate.name p.describe
  match p.delegate with
  | some (.call callee _ _ _ _) =>
    if callee.is Vocabulary.referenceDelegate.text then .ok () else .error missing
  | _ => .error missing

def rpcMode (p : PropertyDecl) : ClassName :=
  Vocabulary.rpcMode p.annotations AnnotationName.registerProperty

def plainStatement (p : PropertyDecl) (reference : Fragment) :
    Except GenerationError Fragment := do
  let hint ← p.typeHint
  let cast ← p.type.castFromAny
  let tag ← VariantTag.of p.type
  let value ← p.defaultValue
  Fragment.of "property(%L, ::%M, \x7b any: Any -> %L \x7d, %T, %S, %T, %S, %L, %L, %T)"
    [reference, Vocabulary.variantTypeOf, cast, tag.constant, .string p.type.name.text,
      hint.hint.constant, .string hint.text, value, .verbatim (boolText p.isVisible), p.rpcMode]

def enumStatement (p : PropertyDecl) (registryFunction : String) (reference : Fragment) :
    Except GenerationError Fragment := do
  let value ← p.defaultValue
  Fragment.of (registryFunction ++ "(%L, %L, %L, %T)")
    [reference, value, .verbatim (boolText p.isVisible), p.rpcMode]

def referenceStatement (p : PropertyDecl) (reference : Fragment) :
    Except GenerationError Fragment := do
  p.checkUsage
  p.checkReferenceDelegate
  let hint ← p.typeHint
  Fragment.of "referenceProperty(%L, %T, %S, %T, %S, %L, %T)"
    [reference, VariantTag.object.constant, .string p.type.name.text, hint.hint.constant,
      .string hint.text, .verbatim (boolText p.isVisible), p.rpcMode]

def registration (p : PropertyDecl) : Except GenerationError Fragment := do
  let reference ← memberReference p.owner p.name
  let route := PropertyRoute.of p.type
  match route with
  | .plain => p.plainStatement reference
  | .enum | .enumList | .enumFlags => p.enumStatement route.registryFunction reference
  | .reference => p.referenceStatement reference

/-! ### Signals -/

/-- The number that a text of decimal digits spells, with a plus sign allowed in front. -/
def arity? (text : String) : Option Nat :=
  let digits := match text.toList with
    | '+' :: cs => cs
    | cs => cs
  if digits.isEmpty || !digits.all Char.isDigit then none
  else
    let value := digits.foldl (fun n c => 10 * n + (c.toNat - '0'.toNat)) 0
    if value < UInt32.size then some value else none

/-- A signal is named `signal...`, and its type is `SignalN`. -/
def checkSignal (p : PropertyDecl) : Except DeclarationFault Unit :=
  if "signal".toList.isPrefixOf p.name.toList then
    let typeName := p.type.displayName
    match (Text.dropStart? "Signal" typeName).bind fun rest =>
        arity? ((Text.split '<' rest).headD "") with
    | some _ => .ok ()
    | none => .error (.notASignal p.qualifiedName typeName)
  else .error (.invalidSignalName p.qualifiedName)

/-- A plain text is a string literal again. Any other argument keeps its source text. -/
def signalArgumentName (e : Expr) : Argument :=
  match e with
  | .template parts =>
    match literalText? parts with
    | some text => .string text
    | none => .verbatim e.text
  | e => .verbatim e.text

def signalArgumentNames (p : PropertyDecl) : List Argument :=
  match p.assignment with
  | some e => e.callArguments.map signalArgumentName
  | none => []

/-- The slot that an argument name goes into. -/
def nameSlot : Argument → String
  | .string _ => "%S"
  | _ => "%L"

/-- One argument of a signal: its part of the template, and what goes into it. -/
def signalArgument (type : ResolvedType) (name : Argument) :
    Except UnmappableType (String × List Argument) := do
  let tag ← VariantTag.of type
  return (", %T(%T, %S, " ++ nameSlot name ++ ")",
    [Vocabulary.functionArgument, tag.constant, .string type.simpleName, name])

def signalRegistration (p : PropertyDecl) : Except GenerationError Fragment := do
  p.checkSignal
  let types := p.type.arguments
  let names := p.signalArgumentNames
  if types.length ≠ names.length then
    throw (.internal (.signalArgumentCount p.qualifiedName types.length names.length))
  let reference ← memberReference p.owner p.name
  let groups ← (types.zip names).mapM fun (type, name) => signalArgument type name
  Fragment.of ("signal(%L" ++ String.join (groups.map Prod.fst) ++ ")")
    (.fragment reference :: groups.flatMap Prod.snd)

end PropertyDecl

/-! ### Functions -/

namespace FunctionDecl

/-- A parameter with its tag, as the second mention of the parameter in the statement. -/
def parameterGroup (parameter : Parameter) (tag : VariantTag) : List Argument :=
  [Vocabulary.functionArgument, tag.constant, .string parameter.type.name.text,
    .string parameter.name]

/-- The statement that registers the function: its return tag, the tags of its parameters, each
parameter, the return value and the remote call mode. -/
def registration (f : FunctionDecl) : Except GenerationError Fragment := do
  let some returnType := f.returnType
    | throw (.internal (.missingReturnType f.qualifiedName))
  let returnTag ← VariantTag.of returnType
  let tags ← f.parameters.mapM fun p => VariantTag.of p.type
  let reference ← memberReference f.owner f.name
  let format :=
    "function(%L, %T" ++ String.join (tags.map fun _ => ", %T") ++
      String.join (f.parameters.map fun _ => ", %T(%T, %S, %S)") ++ ", %T(%T, %S), %T)"
  Fragment.of format
    ([.fragment reference, .type returnTag.constant] ++
      tags.map (fun tag => .type tag.constant) ++
      (f.parameters.zip tags).flatMap (fun (parameter, tag) => parameterGroup parameter tag) ++
      [.type Vocabulary.functionArgument, .type returnTag.constant, .string returnType.name.text,
        .type (Vocabulary.rpcMode f.annotations AnnotationName.registerFunction)])

end FunctionDecl

end ScriptRegistrar
