import ScriptRegistrar.DottedName
import ScriptRegistrar.Number

namespace ScriptRegistrar

inductive Constant where
  | int (value : Int64)
  | long (value : Int64)
  | float (value : Float)
  | double (value : Float)
  | bool (value : Bool)
  | char (value : Char)
  | null
deriving BEq, Inhabited

/-- An interpolation is kept as source text. -/
inductive TemplatePart where
  | literal (text : String)
  | interpolation (text : String)
deriving DecidableEq, Inhabited

inductive ReferenceKind where
  | topLevelConstant
  | objectConstant
  | enumEntry
  /-- A class or object used as a value. -/
  | classObject
  /-- A local, a property that is no constant, a member of an instance. -/
  | other
deriving DecidableEq, Inhabited

/-- `container` is the package of a top-level declaration, and the owning class of any other. -/
structure Reference where
  container : DottedName
  name : String
  kind : ReferenceKind
deriving DecidableEq, Inhabited

def ReferenceKind.isConstant : ReferenceKind → Bool
  | .topLevelConstant | .objectConstant | .enumEntry => true
  | .classObject | .other => false

inductive CallKind where
  | constructor
  | function
deriving DecidableEq, Inhabited

inductive Expr where
  | constant (value : Constant)
  | unary (operator : String) (operand : Expr)
  | template (parts : List TemplatePart)
  | member (receiver selector : Expr) (target : Option Reference)
  | call (callee : DottedName) (kind : CallKind) (typeArguments : List DottedName)
      (arguments : List Expr) (trailing : Option Expr)
  | binary (left operator right : Expr)
  | name (name : String) (target : Option Reference)
  | operator (token : String)
  /-- `mappedEnum` is the enum of an int-to-enum mapping `{ E.values()[it] }`. -/
  | lambda (mappedEnum : Option DottedName) (text : String)
deriving BEq, Inhabited

/-! ### Source text -/

def charText (c : Char) : String :=
  match c with
  | '\'' => "'\\''"
  | '\\' => "'\\\\'"
  | '\n' => "'\\n'"
  | '\t' => "'\\t'"
  | c => "'" ++ c.toString ++ "'"

def boolText (b : Bool) : String := if b then "true" else "false"

def Constant.text : Constant → String
  | .int value => toString value.toInt
  | .long value => toString value.toInt ++ "L"
  | .float value => Number.doubleText value ++ "f"
  | .double value => Number.doubleText value
  | .bool value => boolText value
  | .char value => charText value
  | .null => "null"

def TemplatePart.text : TemplatePart → String
  | .literal text =>
    String.ofList (text.toList.flatMap fun c => if c = '\\' ∨ c = '"' then ['\\', c] else [c])
  | .interpolation text => text

def literalText? : List TemplatePart → Option String
  | [] => some ""
  | .literal text :: parts => (literalText? parts).map (text ++ ·)
  | .interpolation _ :: _ => none

namespace Expr

mutual
def text : Expr → String
  | .constant value => value.text
  | .unary sign operand => sign ++ text operand
  | .template parts => "\"" ++ String.join (parts.map TemplatePart.text) ++ "\""
  | .member receiver selector _ => text receiver ++ "." ++ text selector
  | .call callee _ typeArguments arguments trailing =>
    callee.name ++
      (if typeArguments.isEmpty then ""
        else "<" ++ ", ".intercalate (typeArguments.map DottedName.name) ++ ">") ++
      "(" ++ ", ".intercalate (texts arguments) ++ ")" ++ trailingText trailing
  | .binary left op right => text left ++ " " ++ text op ++ " " ++ text right
  | .name spelling _ => spelling
  | .operator token => token
  | .lambda _ source => source
def texts : List Expr → List String
  | [] => []
  | e :: es => text e :: texts es
def trailingText : Option Expr → String
  | none => ""
  | some e => " " ++ text e
end

def callArguments : Expr → List Expr
  | .call _ _ _ arguments _ => arguments
  | _ => []

def int (value : Int64) : Expr := .constant (.int value)

def string (text : String) : Expr := .template [.literal text]

end Expr

end ScriptRegistrar
