import ScriptRegistrar.Declaration.Member
import ScriptRegistrar.Fault

namespace ScriptRegistrar

open Source (ClassName MemberName Fragment EmissionFault)

inductive DefaultFault where
  | unsupported
  | emission (fault : EmissionFault)
deriving DecidableEq, Repr, Inhabited

instance : MonadLift (Except EmissionFault) (Except DefaultFault) :=
  ⟨Except.mapError .emission⟩

/-- A reference written so that its names can be imported. -/
def Reference.fragment (r : Reference) : Except DefaultFault Fragment :=
  match r.kind with
  | .topLevelConstant => Fragment.of "%M" [MemberName.topLevel r.container.text r.name]
  | .objectConstant | .enumEntry =>
    Fragment.of "%T.%L" [ClassName.ofDotted r.container, .verbatim r.name]
  | .classObject => Fragment.of "%T" [ClassName.topLevel r.container.text r.name]
  | .other => .error .unsupported

def calleeFragment (callee : DottedName) : CallKind → Except EmissionFault Fragment
  | .constructor => Fragment.of "%T" [ClassName.ofDotted callee]
  | .function => Fragment.of "%M" [MemberName.topLevel callee.packageText callee.name]

def addTypeArguments (head : Fragment) (typeArguments : List DottedName) :
    Except EmissionFault Fragment :=
  if typeArguments.isEmpty then .ok head
  else do
    let types ← typeArguments.mapM fun t => Fragment.of "%T" [ClassName.ofDotted t]
    head.append? "<%L>" [Fragment.join ", " types]

/-- `Class.name` for a member of a class that is used as a value. -/
def classMember? (receiver selector : Expr) : Option (ClassName × String) :=
  match receiver, selector with
  | .name _ (some r), .name name _ =>
    if r.kind = .classObject then some (.topLevel r.container.text r.name, name) else none
  | _, _ => none

/-- The constant that a dotted expression resolved to. -/
def resolvedConstant? (target : Option Reference) : Option Reference :=
  target.filter (·.kind.isConstant)

namespace Expr

mutual
/-- `inCall` is set inside the arguments of a call, and nowhere else. -/
def fragment (inCall : Bool) : Expr → Except DefaultFault Fragment
  | .constant value => Fragment.of "%L" [.verbatim value.text]
  | .unary sign operand => do
    let inner ← fragment inCall operand
    Fragment.of "%L%L" [.verbatim sign, inner]
  | .template parts =>
    match literalText? parts with
    | some text => Fragment.of "%S" [.string text]
    | none => .error .unsupported
  | .member receiver selector target =>
    match resolvedConstant? target, classMember? receiver selector with
    | some known, _ => known.fragment
    | none, some (owner, spelling) => Fragment.of "%T.%L" [owner, .verbatim spelling]
    | none, none => .error .unsupported
  | .call callee kind typeArguments arguments trailing => do
    let head ← addTypeArguments (← calleeFragment callee kind) typeArguments
    let arguments ← fragments arguments
    let call ← head.append? "(%L)" [Fragment.join ", " arguments]
    match ← trailingFragment trailing with
    | none => return call
    | some closure => call.append? " %L" [closure]
  | .binary left op right => do
    let left ← fragment inCall left
    let op ← fragment inCall op
    let right ← fragment inCall right
    Fragment.of "%L %L %L" [left, op, right]
  | .name _ (some target) => target.fragment
  | .name _ none => .error .unsupported
  | .operator token => .ok (.literal token)
  | .lambda (some mapped) _ =>
    if inCall then Fragment.of "\x7b %T.values()[it] \x7d" [ClassName.ofDotted mapped]
    else .error .unsupported
  | .lambda none _ => .error .unsupported
def fragments : List Expr → Except DefaultFault (List Fragment)
  | [] => .ok []
  | e :: es => do
    let first ← fragment true e
    let rest ← fragments es
    return first :: rest
def trailingFragment : Option Expr → Except DefaultFault (Option Fragment)
  | none => .ok none
  | some e => do return some (← fragment true e)
end

end Expr

namespace PropertyDecl

/-- A hint needs a property that the editor shows, and only a mutable property can be registered. -/
def checkUsage (p : PropertyDecl) : Except DeclarationFault Unit :=
  match p.annotations.hint?.filter fun _ => !p.isVisible with
  | some (hint, _) => .error (.hintWithoutVisibility p.qualifiedName hint.name)
  | none => if p.isVar then .ok () else .error (.immutableProperty p.qualifiedName)

def defaultError (p : PropertyDecl) : DefaultFault → GenerationError
  | .unsupported => .declaration (.unsupportedDefault p.qualifiedName p.describe)
  | .emission fault => .emission fault

/-- Properties that are set later or that the editor does not show have no value to show. -/
def defaultValue (p : PropertyDecl) : Except GenerationError Fragment := do
  p.checkUsage
  if p.isLateinit || !p.isVisible then return .literal "null"
  match p.assignment with
  | some value => (value.fragment false).mapError p.defaultError
  | none => throw (p.defaultError .unsupported)

end PropertyDecl

end ScriptRegistrar
