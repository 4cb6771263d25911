import ScriptRegistrar.DottedName
import ScriptRegistrar.Number
import ScriptRegistrar.Sorting

namespace ScriptRegistrar

inductive ArgumentValue where
  | bool (value : Bool)
  | int (value : Int64)
  | double (value : Float)
  | string (value : String)
  | enumEntry (container : DottedName) (entry : String)
  | array (values : List ArgumentValue)
deriving BEq, Inhabited

namespace ArgumentValue

def bool? : ArgumentValue → Option Bool
  | .bool value => some value
  | _ => none

def string? : ArgumentValue → Option String
  | .string value => some value
  | _ => none

def numberText? : ArgumentValue → Option String
  | .int value => some (toString value.toInt)
  | .double value => some (Number.doubleText value)
  | _ => none

def enumEntry? : ArgumentValue → Option (DottedName × String)
  | .enumEntry container entry => some (container, entry)
  | _ => none

/-- The strings of an array. Other elements are skipped, and a lone string counts as an array. -/
def strings : ArgumentValue → List String
  | .array values => values.filterMap string?
  | .string value => [value]
  | _ => []

end ArgumentValue

/-- An argument that was not written is absent, so whoever reads one supplies the default. -/
structure AnnotationUse where
  name : DottedName
  arguments : Dict ArgumentValue
deriving BEq, Inhabited

abbrev Annotations := List AnnotationUse

/-! ### The annotations of the registration library -/

namespace AnnotationName

def baseType : String := "godot.annotation.GodotBaseType"

def registerClass : String := "godot.annotation.RegisterClass"

def registerFunction : String := "godot.annotation.RegisterFunction"

def registerProperty : String := "godot.annotation.RegisterProperty"

def registerSignal : String := "godot.annotation.RegisterSignal"

end AnnotationName

inductive HintRequest where
  | intFlag
  | multilineText
  | placeholderText
  | intRange
  | doubleRange
  | expEasing
  | file
  | dir
  | colorNoAlpha
deriving DecidableEq, Repr

namespace HintRequest

def all : List HintRequest :=
  [intFlag, multilineText, placeholderText, intRange, doubleRange, expEasing, file, dir,
    colorNoAlpha]

def name : HintRequest → String
  | intFlag => "godot.annotation.IntFlag"
  | multilineText => "godot.annotation.MultilineText"
  | placeholderText => "godot.annotation.PlaceHolderText"
  | intRange => "godot.annotation.IntRange"
  | doubleRange => "godot.annotation.DoubleRange"
  | expEasing => "godot.annotation.ExpEasing"
  | file => "godot.annotation.File"
  | dir => "godot.annotation.Dir"
  | colorNoAlpha => "godot.annotation.ColorNoAlpha"

end HintRequest

namespace AnnotationUse

def plain (name : String) : AnnotationUse := ⟨.parse name, ∅⟩

def withArgument (a : AnnotationUse) (name : String) (value : ArgumentValue) : AnnotationUse :=
  { a with arguments := a.arguments.insert name value }

def argument? (a : AnnotationUse) (name : String) : Option ArgumentValue := a.arguments.get? name

def flag (a : AnnotationUse) (name : String) : Bool :=
  ((a.argument? name).bind ArgumentValue.bool?).getD false

def hint? (a : AnnotationUse) : Option HintRequest :=
  HintRequest.all.find? fun hint => a.name.is hint.name

end AnnotationUse

namespace Annotations

def get? (annotations : Annotations) (name : String) : Option AnnotationUse :=
  annotations.find? (·.name.is name)

def has (annotations : Annotations) (name : String) : Bool := (annotations.get? name).isSome

def value? (annotations : Annotations) (name argument : String) : Option ArgumentValue :=
  (annotations.get? name).bind (·.argument? argument)

def boolD (annotations : Annotations) (name argument : String) (default : Bool) : Bool :=
  ((annotations.value? name argument).bind ArgumentValue.bool?).getD default

def stringD (annotations : Annotations) (name argument default : String) : String :=
  ((annotations.value? name argument).bind ArgumentValue.string?).getD default

def hint? (annotations : Annotations) : Option (AnnotationUse × HintRequest) :=
  annotations.findSome? fun a => a.hint?.map (a, ·)

end Annotations

end ScriptRegistrar
