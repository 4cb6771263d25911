import ScriptRegistrar.Json.Basic
import ScriptRegistrar.Number

namespace ScriptRegistrar

namespace Json

/-- The value for a reader that goes so many levels down. -/
def within : Nat → Json → Json
  | _, .int value => if value.natAbs < Number.doubleLimit then .int value else .unreadable
  | _, .decimal value =>
    if Number.inDoubleRange value.digits value.exponent then .decimal value else .unreadable
  | levels + 1, .arr items => .arr (items.map (within levels))
  | levels + 1, .obj fields => .obj (fields.map fun field => (field.1, within levels field.2))
  | 0, .arr _ => .unreadable
  | 0, .obj _ => .unreadable
  | _, j => j

mutual
def isWhole : Json → Bool
  | .unreadable => false
  | .arr items => areWhole items
  | .obj fields => fieldsAreWhole fields
  | _ => true
def areWhole : List Json → Bool
  | [] => true
  | item :: items => isWhole item && areWhole items
def fieldsAreWhole : List (String × Json) → Bool
  | [] => true
  | (_, value) :: fields => isWhole value && fieldsAreWhole fields
end

/-! ### Values and fields -/

def bool? : Json → Option Bool
  | .bool value => some value
  | _ => none

def str? : Json → Option String
  | .str text => some text
  | _ => none

/-- An integer of 64 bits. A decimal is none, whatever its value. -/
def int64? : Json → Option Int64
  | .int value =>
    if Int64.minValue.toInt ≤ value ∧ value ≤ Int64.maxValue.toInt then some (.ofInt value)
    else none
  | _ => none

/-- The double next to a number. One beyond the range of doubles is none. -/
def double? : Json → Option Float
  | .int value => Number.nearestDouble? (value < 0) value.natAbs 0
  | .decimal value => Number.nearestDouble? value.negative value.digits value.exponent
  | _ => none

def ofDouble (value : Float) : Json :=
  match Number.DoubleValue.ofBits value.toBits.toNat with
  | .zero negative => .decimal ⟨negative, 0, 0⟩
  | .finite negative x => .decimal ⟨negative, x.shortest.digits, x.shortest.exponent⟩
  | .notANumber | .infinite _ => .null

def char? : Json → Option Char
  | .str text =>
    match text.toList with
    | [c] => some c
    | _ => none
  | _ => none

def list? (read : Json → Option α) : Json → Option (List α)
  | .arr items => items.mapM read
  | _ => none

def isObject : Json → Bool
  | .obj _ => true
  | _ => false

def nullable? (read : Json → Option α) : Json → Option (Option α)
  | .null => some none
  | j => (read j).map some

def required? (j : Json) (name : String) (read : Json → Option α) : Option α :=
  (j.field? name).bind read

/-- A field that may be missing. -/
def optional? (j : Json) (name : String) (default : α) (read : Json → Option α) : Option α :=
  match j.field? name with
  | none => some default
  | some value => read value

/-- A field that may be missing or null. -/
def absent? (j : Json) (name : String) (read : Json → Option α) : Option (Option α) :=
  j.optional? name none (nullable? read)

def listField? (j : Json) (name : String) (read : Json → Option α) : Option (List α) :=
  j.optional? name [] (list? read)

def flagField? (j : Json) (name : String) : Option Bool := j.optional? name false bool?

end Json

/-! ### Alternatives -/

/-- How a value comes to its reader: directly, or as a part of something that is held. -/
inductive Arrival where
  | direct
  | held
deriving DecidableEq, Repr, Inhabited

namespace Arrival

def isNothing : Arrival → Json → Bool
  | _, .null => true
  | .held, .obj [] => true
  | _, _ => false

/-- The name of an alternative: a text, or the only field of an object, with nothing in it. -/
def name? (arrival : Arrival) : Json → Option String
  | .str text => some text
  | .obj [(name, content)] => if arrival.isNothing content then some name else none
  | _ => none

def choose? (arrival : Arrival) (all : List α) (name : α → String) (j : Json) : Option α := do
  let text ← arrival.name? j
  all.find? (name · = text)

/-- The tag of an object that is to be held. In what is held already it may be given by number. -/
def tag? (arrival : Arrival) (tags : List String) : Json → Option String
  | .str text => some text
  | .int value => if arrival = .held ∧ 0 ≤ value then tags[value.toNat]? else none
  | _ => none

def canHold (arrival : Arrival) (j : Json) : Bool := arrival = .held || j.isWhole

/-- How the content of an alternative arrives: it is held if it stands in front of the name. -/
def ofContent (arrival : Arrival) (name content : String) : Json → Arrival
  | .obj fields =>
    match fields.find? fun field => field.1 = name || field.1 = content with
    | some field => if field.1 = content then .held else arrival
    | none => arrival
  | _ => arrival

end Arrival

end ScriptRegistrar
