import ScriptRegistrar.Declaration.Annotations
import ScriptRegistrar.Declaration.ResolvedType
import ScriptRegistrar.Fault

namespace ScriptRegistrar

open Source (ClassName MemberName Fragment EmissionFault)

namespace Vocabulary

def generatedComment : String :=
  "THIS FILE IS GENERATED! DO NOT EDIT IT MANUALLY! ALL CHANGES TO IT WILL BE OVERWRITTEN ON " ++
    "EACH BUILD"

def rootPackage : String := "godot"

def classRegistrar : ClassName := .topLevel "godot.runtime" "ClassRegistrar"

def classRegistry : ClassName := .topLevel "godot.runtime" "ClassRegistry"

def runtimeEntry : ClassName := .topLevel "godot.runtime" "Entry"

def entryContext : ClassName := runtimeEntry.nested "Context"

def functionArgument : ClassName := .topLevel "godot.runtime" "KtFunctionArgument"

def constructorWrapper (arity : Nat) : ClassName :=
  .topLevel "godot.core" ("KtConstructor" ++ toString arity)

def variantTypeOf : MemberName := .topLevel "godot.core" "getVariantType"

/-- What the main entry calls to set up the engine's own types. -/
def engineSetup : List MemberName :=
  [.topLevel rootPackage "registerVariantMapping", .topLevel rootPackage "registerEngineTypes",
    .topLevel rootPackage "registerEngineTypeMethods"]

def hintConstant (name : String) : ClassName :=
  .topLevel "godot.gdnative.godot_property_hint" ("GODOT_PROPERTY_HINT_" ++ name)

def defaultRpcMode : ClassName := .topLevel "godot.MultiplayerAPI.RPCMode" "DISABLED"

def rpcMode (annotations : Annotations) (registration : String) : ClassName :=
  match (annotations.value? registration "rpcMode").bind ArgumentValue.enumEntry? with
  | some (container, entry) => .topLevel container.text entry
  | none => defaultRpcMode

def referenceDelegate : DottedName := ⟨"ref", ["godot", "core"]⟩

/-- `godot.game` for `game.Player`. -/
def generatedPackage (n : DottedName) : String :=
  if n.packageText = "" then rootPackage else rootPackage ++ "." ++ n.packageText

/-- `godot.game.PlayerRegistrar` for `game.Player`. -/
def registrarClass (n : DottedName) : ClassName :=
  .topLevel (generatedPackage n) (n.name ++ "Registrar")

/-- `PlayerEntry` for `game.Player`. -/
def registrarFileName (n : DottedName) : String := n.name ++ "Entry"

end Vocabulary

/-! ### Variant tags -/

inductive VariantTag where
  | nil
  | long
  | double
  | string
  | bool
  | array
  | rid
  | object
  | vector2
  | rect2
  | vector3
  | transform2D
  | plane
  | quat
  | aabb
  | basis
  | transform
  | color
  | nodePath
  | dictionary
  | poolByteArray
  | poolIntArray
  | poolRealArray
  | poolStringArray
  | poolColorArray
  | poolVector2Array
  | poolVector3Array
  | objectArray
  | enumArray
  | boolVariantArray
  | intVariantArray
  | realVariantArray
  | stringVariantArray
  | aabbArray
  | basisArray
  | colorArray
  | nodePathArray
  | planeArray
  | quatArray
  | rect2Array
  | ridArray
  | transform2DArray
  | transformArray
  | vector2Array
  | vector3Array
deriving DecidableEq, Repr, Inhabited

namespace VariantTag

def text : VariantTag → String
  | nil => "NIL"
  | long => "LONG"
  | double => "DOUBLE"
  | string => "STRING"
  | bool => "BOOL"
  | array => "ARRAY"
  | rid => "_RID"
  | object => "OBJECT"
  | vector2 => "VECTOR2"
  | rect2 => "RECT2"
  | vector3 => "VECTOR3"
  | transform2D => "TRANSFORM2D"
  | plane => "PLANE"
  | quat => "QUAT"
  | aabb => "AABB"
  | basis => "BASIS"
  | transform => "TRANSFORM"
  | color => "COLOR"
  | nodePath => "NODEPATH"
  | dictionary => "DICTIONARY"
  | poolByteArray => "POOLBYTEARRAY"
  | poolIntArray => "POOLINTARRAY"
  | poolRealArray => "POOLREALARRAY"
  | poolStringArray => "POOLSTRINGARRAY"
  | poolColorArray => "POOLCOLORARRAY"
  | poolVector2Array => "POOLVECTOR2ARRAY"
  | poolVector3Array => "POOLVECTOR3ARRAY"
  | objectArray => "OBJECTARRAY"
  | enumArray => "ENUMARRAY"
  | boolVariantArray => "BOOLVARIANTARRAY"
  | intVariantArray => "INTVARIANTARRAY"
  | realVariantArray => "REALVARIANTARRAY"
  | stringVariantArray => "STRINGVARIANTARRAY"
  | aabbArray => "AABBARRAY"
  | basisArray => "BASISARRAY"
  | colorArray => "COLORARRAY"
  | nodePathArray => "NODEPATHARRAY"
  | planeArray => "PLANEARRAY"
  | quatArray => "QUATARRAY"
  | rect2Array => "RECT2ARRAY"
  | ridArray => "RIDARRAY"
  | transform2DArray => "TRANSFORM2DARRAY"
  | transformArray => "TRANSFORMARRAY"
  | vector2Array => "VECTOR2ARRAY"
  | vector3Array => "VECTOR3ARRAY"

def coreTypes : List (String × VariantTag) := [
  ("godot.core.Vector2", vector2),
  ("godot.core.Rect2", rect2),
  ("godot.core.Vector3", vector3),
  ("godot.core.Transform2D", transform2D),
  ("godot.core.Plane", plane),
  ("godot.core.Quat", quat),
  ("godot.core.AABB", aabb),
  ("godot.core.Basis", basis),
  ("godot.core.Transform", transform),
  ("godot.core.Color", color),
  ("godot.core.NodePath", nodePath),
  ("godot.core.RID", rid),
  ("godot.Object", object),
  ("godot.core.Dictionary", dictionary),
  ("godot.core.PoolByteArray", poolByteArray),
  ("godot.core.PoolIntArray", poolIntArray),
  ("godot.core.PoolRealArray", poolRealArray),
  ("godot.core.PoolStringArray", poolStringArray),
  ("godot.core.PoolColorArray", poolColorArray),
  ("godot.core.PoolVector2Array", poolVector2Array),
  ("godot.core.PoolVector3Array", poolVector3Array),
  ("godot.core.VariantArray", array),
  ("godot.core.ObjectArray", objectArray),
  ("godot.core.EnumArray", enumArray),
  ("godot.core.BoolVariantArray", boolVariantArray),
  ("godot.core.IntVariantArray", intVariantArray),
  ("godot.core.RealVariantArray", realVariantArray),
  ("godot.core.StringVariantArray", stringVariantArray),
  ("godot.core.AABBArray", aabbArray),
  ("godot.core.BasisArray", basisArray),
  ("godot.core.ColorArray", colorArray),
  ("godot.core.NodePathArray", nodePathArray),
  ("godot.core.PlaneArray", planeArray),
  ("godot.core.QuatArray", quatArray),
  ("godot.core.Rect2Array", rect2Array),
  ("godot.core.RIDArray", ridArray),
  ("godot.core.Transform2DArray", transform2DArray),
  ("godot.core.TransformArray", transformArray),
  ("godot.core.Vector2Array", vector2Array),
  ("godot.core.Vector3Array", vector3Array)]

def ofCore? (t : ResolvedType) : Option VariantTag :=
  (coreTypes.find? fun entry => t.hasClass entry.1).map Prod.snd

/-- Nullable numbers fit none of the rules for numbers and are objects. -/
def of (t : ResolvedType) : Except UnmappableType VariantTag :=
  if t.isUnit then .ok nil
  else if t.isInt || t.isLong then .ok long
  else if t.isFloat || t.isDouble then .ok double
  else if t.isString then .ok string
  else if t.isBoolean then .ok bool
  else
    match ofCore? t with
    | some tag => .ok tag
    | none => if t.isAny || t.hasAnySupertype then .ok object else .error ⟨t.text⟩

def constant (tag : VariantTag) : ClassName := .topLevel "godot.core.VariantType" tag.text

end VariantTag

namespace ResolvedType

def isCore (t : ResolvedType) : Bool := (VariantTag.ofCore? t).isSome

/-- Whether the engine counts references to values of the type. -/
def isReference (t : ResolvedType) : Bool := t.isOfType "godot.Reference"

def isEngineArray (t : ResolvedType) : Bool :=
  t.isOfType "godot.core.GodotArray" || t.isOfType "godot.core.VariantArray"

/-- Converts a value of the engine back to the type. Integers and floats arrive widened. -/
def castFromAny (t : ResolvedType) : Except EmissionFault Fragment :=
  if t.isInt then Fragment.of "(any as %T).toInt()" [ClassName.topLevel "kotlin" "Long"]
  else if t.isFloat then Fragment.of "(any as %T).toFloat()" [ClassName.topLevel "kotlin" "Double"]
  else Fragment.of "any as %T" [ClassName.ofDotted t.name]

end ResolvedType

end ScriptRegistrar
