import ScriptRegistrar.Disk
import ScriptRegistrar.Source.Fragment

namespace ScriptRegistrar

structure NameRecord where
  className : DottedName
  registeredName : String
deriving DecidableEq, Repr, Inhabited

inductive DeclarationFault where
  | invalidSignalName (signal : DottedName)
  | notASignal (property : DottedName) (typeName : String)
  | immutableProperty (property : DottedName)
  | hintWithoutVisibility (property hint : DottedName)
  | wrongHint (property hint : DottedName) (typeName : String)
  | missingReferenceDelegate (property : DottedName) (delegate source : String)
  | constructorArity (className : DottedName) (count : Nat) (source : String)
  | duplicateNames (groups : List (List NameRecord))
  | unsupportedDefault (property : DottedName) (source : String)
  | missingEngineBase (className : DottedName)
  | noHint (property : DottedName) (typeName : String)
deriving DecidableEq, Repr, Inhabited

inductive InternalFault where
  | ambiguousOverride (className : DottedName) (property : String)
  | signalArgumentCount (signal : DottedName) (typeArguments names : Nat)
  | missingReturnType (function : DottedName)
  | unresolvedSuperclass (className superClass : DottedName)
deriving DecidableEq, Repr, Inhabited

structure UnmappableType where
  typeName : String
deriving DecidableEq, Repr, Inhabited

def NameRecord.line (r : NameRecord) : String :=
  "RegisteredName: " ++ r.registeredName ++ ", ActualClass: " ++ r.className.text ++ "\n"

def DeclarationFault.message : DeclarationFault → String
  | .invalidSignalName signal =>
    "All signals must be prefixed with \"signal\"! Ex: signalButtonPressed. The signal " ++
      signal.text ++ " does not fulfill this criteria."
  | .notASignal property typeName =>
    "You annotated " ++ property.text ++ " with @RegisterSignal but its type " ++ typeName ++
      " is no signal! Use \"by signal\" to define signals."
  | .immutableProperty property =>
    "You try to register the immutable property " ++ property.text ++
      " with @RegisterProperty. This is not supported! Each property that you register has to " ++
      "be mutable. Use var or lateinit var."
  | .hintWithoutVisibility property hint =>
    "You added the type hint annotation " ++ hint.text ++ " to the property " ++ property.text ++
      ". But the @RegisterProperty annotation is either not present or the visibleInEditor " ++
      "flag is not set to true"
  | .wrongHint property hint typeName =>
    "The annotation " ++ hint.text ++ " cannot be used on the property " ++ property.text ++
      " of type " ++ typeName
  | .missingReferenceDelegate property delegate source =>
    "The reference property " ++ property.text ++ " must be declared with a delegate (`by " ++
      delegate ++ "(...)`) so the engine can manage its reference count:\n" ++ source
  | .constructorArity className _ source =>
    "A constructor cannot have more than 5 params in Godot! Reduce the param count for " ++
      "constructor of " ++ className.text ++ ":\n" ++ source
  | .duplicateNames groups =>
    "There are classes registered with the same name. Check your className argument for the " ++
      "annotation @RegisterClass:\n" ++
      "---\n".intercalate (groups.map fun group => String.join (group.map NameRecord.line))
  | .unsupportedDefault property source =>
    "No default value could be extracted for the property " ++ property.text ++
      " with the expression:\n" ++ source ++ "\nOnly constants, constructor and function calls, " ++
      "enum entries, flag combinations and const references are supported."
  | .missingEngineBase className =>
    "The registered class " ++ className.text ++ " does not inherit from any Godot type"
  | .noHint property typeName =>
    "There is no type hint for the property " ++ property.text ++ " of type " ++ typeName

def InternalFault.message : InternalFault → String
  | .ambiguousOverride className property =>
    "Found multiple candidates of overridden but not annotated properties named " ++ property ++
      " in " ++ className.text ++ "! This should never happen! To work around this, register " ++
      "the overridden property explicitly in the child class and please report it."
  | .signalArgumentCount signal typeArguments names =>
    "Signal type arguments count (" ++ toString typeArguments ++
      ") does not match signal argument name count (" ++ toString names ++ ") for " ++
      signal.text ++ "! This should never happen! Please report it with a minimal " ++
      "reproduction sample."
  | .missingReturnType function =>
    "Return type of " ++ function.text ++ " cannot be null. Usually this means there was an " ++
      "error in the kotlin compilation. Try a clean build and please report it if this does " ++
      "not help."
  | .unresolvedSuperclass className superClass =>
    "Superclass " ++ superClass.text ++ " of " ++ className.text ++
      " is not part of the declaration graph. This should never happen! Please report it."

def UnmappableType.message (t : UnmappableType) : String :=
  "Type " ++ t.typeName ++ " cannot be handled by godot"

/-! ### Errors of a pass -/

inductive GenerationError where
  | declaration (fault : DeclarationFault)
  | internal (fault : InternalFault)
  | unmappable (type : UnmappableType)
  | emission (fault : Source.EmissionFault)
  /-- A file or directory stands in the way of `path`. -/
  | blocked (path : Path)
deriving DecidableEq, Repr, Inhabited

namespace GenerationError

def message : GenerationError → String
  | .declaration fault => fault.message
  | .internal fault => fault.message
  | .unmappable type => type.message
  | .emission fault => "code emission failed: " ++ fault.message
  | .blocked path => "failed to write " ++ path.text ++ ": something stands in the way"

def isUserError : GenerationError → Bool
  | .declaration _ | .unmappable _ => true
  | .internal _ | .emission _ | .blocked _ => false

end GenerationError

instance : MonadLift (Except DeclarationFault) (Except GenerationError) :=
  ⟨Except.mapError .declaration⟩

instance : MonadLift (Except InternalFault) (Except GenerationError) :=
  ⟨Except.mapError .internal⟩

instance : MonadLift (Except UnmappableType) (Except GenerationError) :=
  ⟨Except.mapError .unmappable⟩

instance : MonadLift (Except Source.EmissionFault) (Except GenerationError) :=
  ⟨Except.mapError .emission⟩

end ScriptRegistrar
