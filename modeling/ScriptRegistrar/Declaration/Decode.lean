import ScriptRegistrar.Declaration.Encode

namespace ScriptRegistrar

open Json (str? bool? list? nullable?)

def maxNesting : Nat := 127

def withinNesting? (read : Json → Option α) (j : Json) : Option α := read (j.within maxNesting)

namespace DottedName

def decode? (j : Json) : Option DottedName := j.str?.map parse

end DottedName

def ResolvedType.decode? : Nat → Json → Option ResolvedType
  | 0, _ => none
  | levels + 1, j => do
    let name ← j.required? "fq_name" DottedName.decode?
    let nullable ← j.flagField? "nullable"
    let arguments ← j.listField? "arguments" (decode? levels)
    let supertypes ← j.listField? "supertypes" DottedName.decode?
    let isEnum ← j.flagField? "is_enum"
    return { name, nullable, arguments, supertypes, isEnum }

def decodeEnumEntry? (j : Json) : Option ArgumentValue := do
  let container ← j.required? "class" DottedName.decode?
  let entry ← j.required? "entry" str?
  return .enumEntry container entry

def ArgumentValue.read? : Arrival → Nat → Json → Option ArgumentValue
  | _, 0, _ => none
  | arrival, levels + 1, j => do
    let name ← j.required? "kind" arrival.name?
    let value ← j.field? "value"
    let inner := arrival.ofContent "kind" "value" j
    guard (inner = arrival ∨ value.isWhole)
    match name with
    | "bool" => value.bool?.map .bool
    | "int" => value.int64?.map .int
    | "double" => value.double?.map .double
    | "string" => value.str?.map .string
    | "enum_entry" => decodeEnumEntry? value
    | "array" => (value.list? (read? inner levels)).map .array
    | _ => none

def ArgumentValue.decode? (j : Json) : Option ArgumentValue := read? .direct (maxNesting + 1) j

def decodeDict? (read : Json → Option α) : Json → Option (Dict α)
  | .obj fields =>
    (fields.mapM fun field => (read field.2).map (field.1, ·)).map Dict.ofList
  | _ => none

def AnnotationUse.read? (arrival : Arrival) (j : Json) : Option AnnotationUse := do
  let name ← j.required? "fq_name" DottedName.decode?
  let arguments ← j.optional? "arguments" ∅
    (decodeDict? (ArgumentValue.read? arrival (maxNesting + 1)))
  return ⟨name, arguments⟩

def AnnotationUse.decode? (j : Json) : Option AnnotationUse := read? .direct j

def Annotations.decode? (j : Json) : Option Annotations := j.list? AnnotationUse.decode?

def readAnnotations? (arrival : Arrival) (j : Json) : Option Annotations :=
  j.listField? "annotations" (AnnotationUse.read? arrival)

/-- The null constant has no value, or null for one. -/
def decodeNull? (j : Json) : Option Constant :=
  match j.field "value" with
  | .null => some .null
  | _ => none

def Constant.read? (arrival : Arrival) (j : Json) : Option Constant := do
  let name ← j.required? "kind" arrival.name?
  match name with
  | "int" => j.required? "value" fun value => value.int64?.map .int
  | "long" => j.required? "value" fun value => value.int64?.map .long
  | "float" => j.required? "value" fun value => value.double?.map .float
  | "double" => j.required? "value" fun value => value.double?.map .double
  | "bool" => j.required? "value" fun value => value.bool?.map .bool
  | "char" => j.required? "value" fun value => value.char?.map .char
  | "null" => decodeNull? j
  | _ => none

def Constant.decode? (j : Json) : Option Constant := read? .direct j

def TemplatePart.decode? (j : Json) : Option TemplatePart := do
  let name ← j.required? "kind" (Arrival.name? .held)
  let text ← j.required? "value" str?
  match name with
  | "literal" => some (.literal text)
  | "interpolation" => some (.interpolation text)
  | _ => none

def ReferenceKind.all : List ReferenceKind :=
  [.topLevelConstant, .objectConstant, .enumEntry, .classObject, .other]

def ReferenceKind.read? (arrival : Arrival) (j : Json) : Option ReferenceKind :=
  arrival.choose? all tag j

def Reference.decode? (j : Json) : Option Reference := do
  let container ← j.required? "container" DottedName.decode?
  let name ← j.required? "name" str?
  let kind ← j.required? "kind" (ReferenceKind.read? .held)
  return { container, name, kind }

def CallKind.all : List CallKind := [.constructor, .function]

def CallKind.read? (arrival : Arrival) (j : Json) : Option CallKind := arrival.choose? all tag j

def decodeTarget? (j : Json) : Option (Option Reference) := j.absent? "resolved" Reference.decode?

/-- The tags of expressions, in the order of their numbers. -/
def Expr.tags : List String := [
  "constant", "prefix", "string_template", "dot_qualified", "call", "binary", "name_reference",
  "operation_reference", "lambda"]

def Expr.read? : Arrival → Nat → Json → Option Expr
  | _, 0, _ => none
  | arrival, levels + 1, j => do
    guard (arrival.canHold j)
    let tag ← j.required? "kind" (arrival.tag? tags)
    match tag with
    | "constant" => return .constant (← j.required? "value" (Constant.read? .held))
    | "prefix" => do
      let sign ← j.required? "operator" str?
      let operand ← j.required? "operand" (read? .held levels)
      return .unary sign operand
    | "string_template" => return .template (← j.required? "entries" (list? TemplatePart.decode?))
    | "dot_qualified" => do
      let receiver ← j.required? "receiver" (read? .held levels)
      let selector ← j.required? "selector" (read? .held levels)
      let target ← decodeTarget? j
      return .member receiver selector target
    | "call" => do
      let callee ← j.required? "callee" DottedName.decode?
      let kind ← j.required? "call_kind" (CallKind.read? .held)
      let typeArguments ← j.listField? "type_arguments" DottedName.decode?
      let arguments ← j.listField? "arguments" (read? .held levels)
      let trailing ← j.absent? "trailing_lambda" (read? .held levels)
      return .call callee kind typeArguments arguments trailing
    | "binary" => do
      let left ← j.required? "left" (read? .held levels)
      let op ← j.required? "operator" (read? .held levels)
      let right ← j.required? "right" (read? .held levels)
      return .binary left op right
    | "name_reference" => do
      let spelling ← j.required? "name" str?
      let target ← decodeTarget? j
      return .name spelling target
    | "operation_reference" => return .operator (← j.required? "token" str?)
    | "lambda" => do
      let mapped ← j.absent? "mapped_enum" DottedName.decode?
      let text ← j.required? "text" str?
      return .lambda mapped text
    | _ => none

def Expr.decode? (j : Json) : Option Expr := read? .direct (maxNesting + 1) j

def readExpr? (arrival : Arrival) (j : Json) (name : String) : Option (Option Expr) :=
  j.absent? name (Expr.read? arrival (maxNesting + 1))

def Parameter.decode? (j : Json) : Option Parameter := do
  let name ← j.required? "name" str?
  let type ← j.required? "type" (ResolvedType.decode? maxNesting)
  return { name, type }

def FunctionDecl.read? (arrival : Arrival) (j : Json) : Option FunctionDecl := do
  let owner ← j.required? "owner" DottedName.decode?
  let name ← j.required? "name" str?
  let parameters ← j.listField? "parameters" Parameter.decode?
  let returnType ← j.absent? "return_type" (ResolvedType.decode? maxNesting)
  let annotations ← readAnnotations? arrival j
  return { owner, name, parameters, returnType, annotations }

def FunctionDecl.decode? (j : Json) : Option FunctionDecl := read? .direct j

def PropertyDecl.read? (arrival : Arrival) (j : Json) : Option PropertyDecl := do
  let owner ← j.required? "owner" DottedName.decode?
  let name ← j.required? "name" str?
  let type ← j.required? "type" (ResolvedType.decode? maxNesting)
  let annotations ← readAnnotations? arrival j
  let isVar ← j.flagField? "is_var"
  let isLateinit ← j.flagField? "is_lateinit"
  let initializer ← readExpr? arrival j "initializer"
  let delegate ← readExpr? arrival j "delegate"
  let sourceText ← j.absent? "source_text" str?
  return {
    owner, name, type, annotations, isVar, isLateinit, initializer, delegate, sourceText }

def PropertyDecl.decode? (j : Json) : Option PropertyDecl := read? .direct j

def ConstructorDecl.decode? (j : Json) : Option ConstructorDecl := do
  guard j.isObject
  let parameters ← j.listField? "parameters" Parameter.decode?
  let sourceText ← j.absent? "source_text" str?
  return { parameters, sourceText }

/-- Members are only read as a part of all members of a class, which are held. -/
def MemberDecl.decode? (j : Json) : Option MemberDecl := do
  let tag ← j.required? "member" (Arrival.tag? .held ["function", "property"])
  match tag with
  | "function" => return .function (← FunctionDecl.read? .held j)
  | "property" => return .property (← PropertyDecl.read? .held j)
  | _ => none

def MemberScope.decode? (j : Json) : Option MemberScope := do
  guard j.isObject
  let functions ← j.optional? "functions" ∅ (decodeDict? (list? (FunctionDecl.read? .held)))
  let properties ← j.optional? "properties" ∅ (decodeDict? (list? (PropertyDecl.read? .held)))
  return { functions, properties }

def Members.decode? (j : Json) : Option Members := do
  guard j.isWhole
  let tag ← j.required? "representation" str?
  match tag with
  | "source" => return .listed (← j.required? "declarations" (list? MemberDecl.decode?))
  | "compiled" => return .scoped (← j.required? "scope" MemberScope.decode?)
  | _ => none

def ClassDecl.decode? (j : Json) : Option ClassDecl := do
  let name ← j.required? "fq_name" DottedName.decode?
  let superClass ← j.absent? "super_class" DottedName.decode?
  let interfaces ← j.listField? "interfaces" DottedName.decode?
  let annotations ← readAnnotations? .direct j
  let constructors ← j.listField? "constructors" ConstructorDecl.decode?
  let members ← j.optional? "members" (.listed []) Members.decode?
  return { name, superClass, interfaces, annotations, constructors, members }

def Graph.decode? (j : Json) : Option Graph := do
  guard j.isObject
  let classes ← j.listField? "classes" ClassDecl.decode?
  let dependencies ← j.listField? "dependencies" ClassDecl.decode?
  let sourceClasses ← j.listField? "source_classes" DottedName.decode?
  return { classes, dependencies, sourceClasses }

def Graph.ofJson? (j : Json) : Option Graph := withinNesting? decode? j

end ScriptRegistrar
