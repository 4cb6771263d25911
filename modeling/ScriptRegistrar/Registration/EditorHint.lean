import ScriptRegistrar.Declaration.Member
import ScriptRegistrar.Registration.Vocabulary
import ScriptRegistrar.Text.LowerCase

namespace ScriptRegistrar

inductive EditorHint where
  | none
  | range
  | expEasing
  | flags
  | file
  | globalFile
  | dir
  | globalDir
  | resourceType
  | multilineText
  | placeholderText
  | colorNoAlpha
deriving DecidableEq, Repr, Inhabited

namespace EditorHint

def name : EditorHint → String
  | .none => "NONE"
  | .range => "RANGE"
  | .expEasing => "EXP_EASING"
  | .flags => "FLAGS"
  | .file => "FILE"
  | .globalFile => "GLOBAL_FILE"
  | .dir => "DIR"
  | .globalDir => "GLOBAL_DIR"
  | .resourceType => "RESOURCE_TYPE"
  | .multilineText => "MULTILINE_TEXT"
  | .placeholderText => "PLACEHOLDER_TEXT"
  | .colorNoAlpha => "COLOR_NO_ALPHA"

def constant (hint : EditorHint) : Source.ClassName := Vocabulary.hintConstant hint.name

end EditorHint

inductive HintRow where
  | int
  | long
  | real
  | string
  | boolean
  | core (isColor : Bool)
  | reference
  | object
deriving DecidableEq, Repr, Inhabited

namespace HintRow

def of? (t : ResolvedType) : Option HintRow :=
  if t.isInt then some int
  else if t.isLong then some long
  else if t.isFloat || t.isDouble then some real
  else if t.isString then some string
  else if t.isBoolean then some boolean
  else if t.isCore && !t.isEngineArray then some (core (t.hasClass "godot.core.Color"))
  else if t.isReference then some reference
  else if t.isEngineArray || t.isOfType "godot.Object" then some object
  else Option.none

def plainHint : HintRow → EditorHint
  | reference => .resourceType
  | _ => .none

/-- The hint that follows from an annotation, if the row takes it. `isGlobal` is what the
annotation says about paths outside the project. -/
def hint? (row : HintRow) (request : HintRequest) (isGlobal : Bool) : Option EditorHint :=
  match row, request with
  | int, .intFlag => some .flags
  | int, .intRange => some .range
  | long, .intRange => some .range
  | real, .doubleRange => some .range
  | real, .expEasing => some .expEasing
  | string, .multilineText => some .multilineText
  | string, .placeholderText => some .placeholderText
  | string, .file => some (if isGlobal then .globalFile else .file)
  | string, .dir => some (if isGlobal then .globalDir else .dir)
  | core true, .colorNoAlpha => some .colorNoAlpha
  | _, _ => Option.none

end HintRow

structure TypeHint where
  hint : EditorHint
  text : String
deriving DecidableEq, Repr, Inhabited

namespace PropertyDecl

def selectHint (p : PropertyDecl) : Except DeclarationFault EditorHint :=
  match HintRow.of? p.type, p.annotations.hint? with
  | Option.none, _ => .error (.noHint p.qualifiedName p.type.text)
  | some row, Option.none => .ok row.plainHint
  | some row, some (applied, kind) =>
    match row.hint? kind (applied.flag "global") with
    | some hint => .ok hint
    | Option.none => .error (.wrongHint p.qualifiedName applied.name p.type.text)

def hintArgument? (p : PropertyDecl) (name : String) : Option ArgumentValue :=
  p.annotations.hint?.bind fun (applied, _) => applied.argument? name

def hintNumber (p : PropertyDecl) (name default : String) : String :=
  ((p.hintArgument? name).bind ArgumentValue.numberText?).getD default

def hintFlag (p : PropertyDecl) (name : String) : Bool :=
  ((p.hintArgument? name).bind ArgumentValue.bool?).getD false

def hintStrings (p : PropertyDecl) (name : String) : List String :=
  ((p.hintArgument? name).map ArgumentValue.strings).getD []

/-- Whether a range is open at one end: `or_greater`, `or_lesser` or nothing. -/
def rangeEnd (p : PropertyDecl) : List String :=
  match (p.hintArgument? "or").bind ArgumentValue.enumEntry? with
  | some (_, entry) => if entry = "NONE" then [] else [Text.lowercase entry]
  | Option.none => []

/-- A range is `start,end,step` and its open end, an easing lists its flags, a file its extensions,
flags their names, and a resource is named by its class. -/
def hintText (p : PropertyDecl) : EditorHint → String
  | .range =>
    let step := if p.type.isFloat || p.type.isDouble then "1.0" else "1"
    ",".intercalate
      ([p.hintNumber "start" "0", p.hintNumber "end" "0", p.hintNumber "step" step] ++ p.rangeEnd)
  | .expEasing => ",".intercalate (["attenuation", "inout"].filter p.hintFlag)
  | .file | .globalFile => ",".intercalate (p.hintStrings "extensions")
  | .flags => ",".intercalate (p.hintStrings "names")
  | .resourceType => p.type.simpleName
  | _ => ""

def typeHint (p : PropertyDecl) : Except DeclarationFault TypeHint := do
  let hint ← p.selectHint
  return ⟨hint, p.hintText hint⟩

end PropertyDecl

end ScriptRegistrar
