import ScriptRegistrar.Declaration.Graph
import ScriptRegistrar.Json.Field

namespace ScriptRegistrar

open Json (ofOption)

namespace DottedName

def encode (n : DottedName) : Json := .str n.text

def encodeList (names : List DottedName) : Json := .arr (names.map encode)

end DottedName

def tagged (tag : String) (value : Json) : Json := .obj [("kind", .str tag), ("value", value)]

namespace ResolvedType

mutual
def encode : ResolvedType → Json
  | ⟨name, nullable, arguments, supertypes, isEnum⟩ => .obj [
    ("fq_name", name.encode), ("nullable", .bool nullable),
    ("arguments", .arr (encodeList arguments)),
    ("supertypes", DottedName.encodeList supertypes), ("is_enum", .bool isEnum)]
def encodeList : List ResolvedType → List Json
  | [] => []
  | t :: ts => encode t :: encodeList ts
end

end ResolvedType

namespace ArgumentValue

mutual
def encode : ArgumentValue → Json
  | .bool value => tagged "bool" (.bool value)
  | .int value => tagged "int" (.int value.toInt)
  | .double value => tagged "double" (.ofDouble value)
  | .string value => tagged "string" (.str value)
  | .enumEntry container entry =>
    tagged "enum_entry" (.obj [("class", container.encode), ("entry", .str entry)])
  | .array values => tagged "array" (.arr (encodeList values))
def encodeList : List ArgumentValue → List Json
  | [] => []
  | value :: values => encode value :: encodeList values
end

end ArgumentValue

def AnnotationUse.encode (a : AnnotationUse) : Json := .obj [
  ("fq_name", a.name.encode),
  ("arguments", .obj (a.arguments.entries.map fun entry => (entry.1, entry.2.encode)))]

def Annotations.encode (annotations : Annotations) : Json :=
  .arr (annotations.map AnnotationUse.encode)

def Constant.encode : Constant → Json
  | .int value => tagged "int" (.int value.toInt)
  | .long value => tagged "long" (.int value.toInt)
  | .float value => tagged "float" (.ofDouble value)
  | .double value => tagged "double" (.ofDouble value)
  | .bool value => tagged "bool" (.bool value)
  | .char value => tagged "char" (.str value.toString)
  | .null => .obj [("kind", .str "null")]

def TemplatePart.encode : TemplatePart → Json
  | .literal text => tagged "literal" (.str text)
  | .interpolation text => tagged "interpolation" (.str text)

def ReferenceKind.tag : ReferenceKind → String
  | .topLevelConstant => "top_level_constant"
  | .objectConstant => "object_constant"
  | .enumEntry => "enum_entry"
  | .classObject => "class"
  | .other => "other"

def Reference.encode (r : Reference) : Json := .obj [
  ("container", r.container.encode), ("name", .str r.name), ("kind", .str r.kind.tag)]

def CallKind.tag : CallKind → String
  | .constructor => "constructor"
  | .function => "function"

namespace Expr

mutual
def encode : Expr → Json
  | .constant value => .obj [("kind", .str "constant"), ("value", value.encode)]
  | .unary sign operand =>
    .obj [("kind", .str "prefix"), ("operator", .str sign), ("operand", encode operand)]
  | .template parts => .obj [
    ("kind", .str "string_template"), ("entries", .arr (parts.map TemplatePart.encode))]
  | .member receiver selector target => .obj [
    ("kind", .str "dot_qualified"), ("receiver", encode receiver), ("selector", encode selector),
    ("resolved", ofOption Reference.encode target)]
  | .call callee kind typeArguments arguments trailing => .obj [
    ("kind", .str "call"), ("callee", callee.encode), ("call_kind", .str kind.tag),
    ("type_arguments", DottedName.encodeList typeArguments),
    ("arguments", .arr (encodeList arguments)), ("trailing_lambda", encodeOption trailing)]
  | .binary left op right => .obj [
    ("kind", .str "binary"), ("left", encode left), ("operator", encode op),
    ("right", encode right)]
  | .name spelling target => .obj [
    ("kind", .str "name_reference"), ("name", .str spelling),
    ("resolved", ofOption Reference.encode target)]
  | .operator token => .obj [("kind", .str "operation_reference"), ("token", .str token)]
  | .lambda mapped text => .obj [
    ("kind", .str "lambda"), ("mapped_enum", ofOption DottedName.encode mapped),
    ("text", .str text)]
def encodeList : List Expr → List Json
  | [] => []
  | e :: es => encode e :: encodeList es
def encodeOption : Option Expr → Json
  | none => .null
  | some e => encode e
end

end Expr

def Parameter.encode (p : Parameter) : Json :=
  .obj [("name", .str p.name), ("type", p.type.encode)]

namespace FunctionDecl

def encodeFields (f : FunctionDecl) : List (String × Json) := [
  ("owner", f.owner.encode), ("name", .str f.name),
  ("parameters", .arr (f.parameters.map Parameter.encode)),
  ("return_type", ofOption ResolvedType.encode f.returnType),
  ("annotations", f.annotations.encode)]

def encode (f : FunctionDecl) : Json := .obj f.encodeFields

end FunctionDecl

namespace PropertyDecl

def encodeFields (p : PropertyDecl) : List (String × Json) := [
  ("owner", p.owner.encode), ("name", .str p.name), ("type", p.type.encode),
  ("annotations", p.annotations.encode), ("is_var", .bool p.isVar),
  ("is_lateinit", .bool p.isLateinit), ("initializer", ofOption Expr.encode p.initializer),
  ("delegate", ofOption Expr.encode p.delegate), ("source_text", ofOption .str p.sourceText)]

def encode (p : PropertyDecl) : Json := .obj p.encodeFields

end PropertyDecl

def ConstructorDecl.encode (c : ConstructorDecl) : Json := .obj [
  ("parameters", .arr (c.parameters.map Parameter.encode)),
  ("source_text", ofOption .str c.sourceText)]

def MemberDecl.encode : MemberDecl → Json
  | .function f => .obj (("member", .str "function") :: f.encodeFields)
  | .property p => .obj (("member", .str "property") :: p.encodeFields)

def MemberScope.encode (scope : MemberScope) : Json := .obj [
  ("functions", .obj (scope.functions.entries.map fun entry =>
    (entry.1, .arr (entry.2.map FunctionDecl.encode)))),
  ("properties", .obj (scope.properties.entries.map fun entry =>
    (entry.1, .arr (entry.2.map PropertyDecl.encode))))]

def Members.encode : Members → Json
  | .listed declarations => .obj [
    ("representation", .str "source"), ("declarations", .arr (declarations.map MemberDecl.encode))]
  | .scoped scope => .obj [("representation", .str "compiled"), ("scope", scope.encode)]

def ClassDecl.encode (c : ClassDecl) : Json := .obj [
  ("fq_name", c.name.encode), ("super_class", ofOption DottedName.encode c.superClass),
  ("interfaces", DottedName.encodeList c.interfaces), ("annotations", c.annotations.encode),
  ("constructors", .arr (c.constructors.map ConstructorDecl.encode)),
  ("members", c.members.encode)]

def Graph.encode (g : Graph) : Json := .obj [
  ("classes", .arr (g.classes.map ClassDecl.encode)),
  ("dependencies", .arr (g.dependencies.map ClassDecl.encode)),
  ("source_classes", DottedName.encodeList g.sourceClasses)]

end ScriptRegistrar
