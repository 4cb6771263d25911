import ScriptRegistrar.DottedName

namespace ScriptRegistrar

/-- `supertypes` holds every supertype, nearest first, without the type's own class. -/
structure ResolvedType where
  name : DottedName
  nullable : Bool := false
  arguments : List ResolvedType := []
  supertypes : List DottedName := []
  isEnum : Bool := false
deriving Inhabited, Repr

namespace ResolvedType

mutual
def decEq : (a b : ResolvedType) → Decidable (a = b)
  | ⟨name, nullable, arguments, supertypes, isEnum⟩,
    ⟨name', nullable', arguments', supertypes', isEnum'⟩ =>
    if rest : name = name' ∧ nullable = nullable' ∧ supertypes = supertypes' ∧ isEnum = isEnum' then
      match decEqList arguments arguments' with
      | isTrue (same : arguments = arguments') => isTrue (by simp [rest, same])
      | isFalse (differ : ¬ arguments = arguments') => isFalse (by simp [differ])
    else isFalse (by rintro ⟨⟩; exact rest ⟨rfl, rfl, rfl, rfl⟩)
def decEqList : (a b : List ResolvedType) → Decidable (a = b)
  | [], [] => isTrue rfl
  | [], _ :: _ => isFalse (by simp)
  | _ :: _, [] => isFalse (by simp)
  | a :: as, b :: bs =>
    match decEq a b with
    | isFalse (differ : ¬ a = b) => isFalse (by simp [differ])
    | isTrue (same : a = b) =>
      match decEqList as bs with
      | isTrue (rest : as = bs) => isTrue (by rw [same, rest])
      | isFalse (differ : ¬ as = bs) => isFalse (by simp [differ])
end

instance : DecidableEq ResolvedType := decEq

def simple (name : DottedName) : ResolvedType := ⟨name, false, [], [], false⟩

def simpleName (t : ResolvedType) : String := t.name.name

def hasClass (t : ResolvedType) (name : String) : Bool := t.name.is name

def isOfType (t : ResolvedType) (name : String) : Bool :=
  t.hasClass name || t.supertypes.any (·.is name)

def isNonNull (t : ResolvedType) (name : String) : Bool := !t.nullable && t.hasClass name

def isUnit (t : ResolvedType) : Bool := t.hasClass "kotlin.Unit"

def isInt (t : ResolvedType) : Bool := t.isNonNull "kotlin.Int"

def isLong (t : ResolvedType) : Bool := t.isNonNull "kotlin.Long"

def isFloat (t : ResolvedType) : Bool := t.isNonNull "kotlin.Float"

def isDouble (t : ResolvedType) : Bool := t.isNonNull "kotlin.Double"

def isString (t : ResolvedType) : Bool := t.hasClass "kotlin.String"

def isBoolean (t : ResolvedType) : Bool := t.hasClass "kotlin.Boolean"

def isAny (t : ResolvedType) : Bool := t.hasClass "kotlin.Any"

def hasAnySupertype (t : ResolvedType) : Bool := t.supertypes.any (·.is "kotlin.Any")

def isSet (t : ResolvedType) : Bool :=
  t.hasClass "kotlin.collections.Set" || t.hasClass "kotlin.collections.MutableSet"

def firstArgumentIsEnum (t : ResolvedType) : Bool := t.arguments.head?.any (·.isEnum)

mutual
/-- `List<Int>?`, each class name written by `nameText`. -/
def write (nameText : DottedName → String) : ResolvedType → String
  | ⟨name, nullable, arguments, _, _⟩ =>
    nameText name ++
      (if arguments.isEmpty then ""
        else "<" ++ ", ".intercalate (writeList nameText arguments) ++ ">") ++
      (if nullable then "?" else "")
def writeList (nameText : DottedName → String) : List ResolvedType → List String
  | [] => []
  | t :: ts => write nameText t :: writeList nameText ts
end

def text (t : ResolvedType) : String := t.write DottedName.text

def displayName (t : ResolvedType) : String := t.write DottedName.name

/-! ### Building types -/

def asNullable (t : ResolvedType) : ResolvedType := { t with nullable := true }

def asEnum (t : ResolvedType) : ResolvedType := { t with isEnum := true }

def withArgument (t argument : ResolvedType) : ResolvedType :=
  { t with arguments := t.arguments ++ [argument] }

def withSupertype (t : ResolvedType) (name : DottedName) : ResolvedType :=
  { t with supertypes := t.supertypes ++ [name] }

end ResolvedType

end ScriptRegistrar
