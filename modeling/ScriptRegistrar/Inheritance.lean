import ScriptRegistrar.Declaration.Graph
import ScriptRegistrar.Fault

/-!
# Inherited members

The engine only exposes what is registered for a class directly, so a class registers the members
of its user-defined superclasses again.
-/

namespace ScriptRegistrar

/-- Where several declarations share a name, the last one counts. -/
structure ClassIndex where
  declarations : List ClassDecl

namespace ClassIndex

/-- Classes of the current compilation shadow dependencies of the same name. -/
def ofGraph (g : Graph) : ClassIndex := ⟨g.dependencies ++ g.classes⟩

def find? (index : ClassIndex) (name : DottedName) : Option ClassDecl :=
  index.declarations.reverse.find? (·.name = name)

def contains (index : ClassIndex) (name : DottedName) : Bool := (index.find? name).isSome

def names (index : ClassIndex) : List DottedName :=
  (index.declarations.map ClassDecl.name).eraseDups

def size (index : ClassIndex) : Nat := index.names.length

def superClass? (index : ClassIndex) (c : ClassDecl) : Option ClassDecl :=
  c.superClass.bind index.find?

/-- Follows superclasses from `next`. Each step adds a name of the index to `met`, so as many steps
as the index has declarations are enough. -/
def climb (index : ClassIndex) : Nat → List DottedName → Option DottedName → List ClassDecl
  | 0, _, _ => []
  | steps + 1, met, next =>
    match next.bind index.find? with
    | none => []
    | some c => if c.name ∈ met then [] else c :: climb index steps (c.name :: met) c.superClass

/-- The superclasses of a class, nearest first. -/
def ancestors (index : ClassIndex) (c : ClassDecl) : List ClassDecl :=
  index.climb index.declarations.length [c.name] c.superClass

def engineBase? (index : ClassIndex) (c : ClassDecl) : Option ClassDecl :=
  (index.ancestors c).find? (·.isEngineBase)

def userAncestors (index : ClassIndex) (c : ClassDecl) : List ClassDecl :=
  (index.ancestors c).takeWhile (!·.isEngineBase)

/-- The nearest superclass below the engine's own classes that is registered itself. -/
def registeredSuper? (index : ClassIndex) (c : ClassDecl) : Option ClassDecl :=
  (index.userAncestors c).find? (·.isRegistered)

end ClassIndex

/-! ### Flattening -/

structure ClassMembers where
  owner : ClassDecl
  functions : List FunctionDecl
  signals : List PropertyDecl
  properties : List PropertyDecl

/-- `kept` and every element of `added` whose key is not there yet. -/
def addMissing [DecidableEq κ] (key : α → κ) (kept added : List α) : List α :=
  added.foldl (fun acc x => if acc.any (key · = key x) then acc else acc ++ [x]) kept

namespace ClassMembers

def own (c : ClassDecl) : ClassMembers where
  owner := c
  functions := c.members.registeredFunctions
  signals := c.members.registeredSignals
  properties := c.members.registeredProperties

def count (m : ClassMembers) : Nat :=
  m.functions.length + m.signals.length + m.properties.length

end ClassMembers

/-- The superclasses whose members a class inherits. Where the walk reaches no class of the engine,
it must not have ended at an unknown name. -/
def ClassIndex.inheritedFrom (index : ClassIndex) (c : ClassDecl) :
    Except InternalFault (List ClassDecl) :=
  let chain := index.ancestors c
  if chain.any (·.isEngineBase) then .ok (index.userAncestors c)
  else
    let last := chain.getLastD c
    match last.superClass with
    | some name =>
      if index.contains name then .ok chain else .error (.unresolvedSuperclass last.name name)
    | none => .ok chain

/-- The class's own property in place of `inherited`. There must not be two of them. -/
def ClassDecl.override? (c : ClassDecl) (inherited : PropertyDecl) :
    Except InternalFault (Option PropertyDecl) :=
  match c.members.properties.filter fun p =>
      !p.isRegisteredSignal && p.signature = inherited.signature with
  | [] => .ok none
  | [p] => .ok (some p)
  | _ => .error (.ambiguousOverride c.name inherited.name)

namespace ClassMembers

/-- Adds an inherited property, or the override in its place, unless its signature is there. -/
def addProperty (owner : ClassDecl) (kept : List PropertyDecl) (inherited : PropertyDecl) :
    Except InternalFault (List PropertyDecl) :=
  if kept.any (·.signature = inherited.signature) then .ok kept
  else do
    let override ← owner.override? inherited
    return kept ++ [override.getD inherited]

def flatten (m : ClassMembers) (index : ClassIndex) : Except InternalFault ClassMembers := do
  let ancestors ← index.inheritedFrom m.owner
  let functions := ancestors.flatMap (·.members.registeredFunctions)
  let signals := ancestors.flatMap (·.members.registeredSignals)
  let properties := ancestors.flatMap (·.members.registeredProperties)
  let allProperties ← properties.foldlM (addProperty m.owner) m.properties
  return {
    owner := m.owner
    functions := addMissing FunctionDecl.signature m.functions functions
    signals := addMissing PropertyDecl.signature m.signals signals
    properties := allProperties }

end ClassMembers

end ScriptRegistrar
