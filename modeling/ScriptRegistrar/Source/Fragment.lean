import ScriptRegistrar.Source.Name

/-!
# Source fragments

Pieces of generated source whose names are still references. Arguments are checked while a template
is filled, so a fragment that exists can always be written.
-/

namespace ScriptRegistrar.Source

/-! ### Templates -/

inductive Slot where
  | type
  | member
  | literal
  | verbatim
deriving DecidableEq, Repr, Inhabited

namespace Slot

def letter : Slot → Char
  | type => 'T'
  | member => 'M'
  | literal => 'S'
  | verbatim => 'L'

def ofLetter? (c : Char) : Option Slot :=
  if c = 'T' then some type
  else if c = 'M' then some member
  else if c = 'S' then some literal
  else if c = 'L' then some verbatim
  else none

end Slot

/-- A placeholder with the text in front of it, and the whole unread template in front of it. -/
structure Segment where
  text : List Char
  slot : Slot
  before : List Char
deriving DecidableEq, Repr, Inhabited

inductive Ending where
  | text (chars : List Char)
  /-- A percent sign that starts no placeholder, after so many bytes. -/
  | invalid (position : Nat)
deriving DecidableEq, Repr, Inhabited

structure Template where
  segments : List Segment
  ending : Ending
deriving DecidableEq, Repr, Inhabited

namespace Template

/-- Reads on after `before`, of which `text` follows the last placeholder. Both are kept last
character first. -/
def scan (before text : List Char) : List Char → Template
  | [] => ⟨[], .text text.reverse⟩
  | ['%'] => ⟨[], .invalid (String.ofList before.reverse).utf8ByteSize⟩
  | '%' :: c :: cs =>
    if c = '%' then scan ('%' :: '%' :: before) ('%' :: text) cs
    else
      match Slot.ofLetter? c with
      | none => ⟨[], .invalid (String.ofList before.reverse).utf8ByteSize⟩
      | some slot =>
        let rest := scan (c :: '%' :: before) [] cs
        { rest with segments := ⟨text.reverse, slot, before.reverse⟩ :: rest.segments }
  | c :: cs => scan (c :: before) (c :: text) cs

def read (format : String) : Template := scan [] [] format.toList

/-- How many times two percent signs stand together, read from the left without overlap. -/
def percentPairs : List Char → Nat
  | '%' :: '%' :: cs => percentPairs cs + 1
  | _ :: cs => percentPairs cs
  | [] => 0

/-- The number of placeholders in a text, counted by its percent signs. -/
def placeholderCount (cs : List Char) : Nat := cs.count '%' - 2 * percentPairs cs

end Template

/-! ### String literals -/

def escapeChar (c : Char) : List Char :=
  match c with
  | '\\' => ['\\', '\\']
  | '"' => ['\\', '"']
  | '\n' => ['\\', 'n']
  | '\t' => ['\\', 't']
  | '\r' => ['\\', 'r']
  | '$' => ['\\', '$']
  | c => [c]

def literalChars (text : List Char) : List Char := '"' :: (text.flatMap escapeChar ++ ['"'])

def stringLiteral (text : String) : String := String.ofList (literalChars text.toList)

/-! ### Fragments -/

inductive EmissionFault where
  | missingArgument (format : String) (index : Nat)
  | unusedArguments (format : String) (unused : Nat)
  | wrongArgumentKind (format : String) (slot : Slot) (index : Nat) (found : String)
  | invalidPlaceholder (format : String) (position : Nat)
  | unbalancedFlow (function : String)
deriving DecidableEq, Repr, Inhabited

def EmissionFault.message : EmissionFault → String
  | .missingArgument format index =>
    "format \"" ++ format ++ "\" has no argument for placeholder #" ++ toString index
  | .unusedArguments format unused =>
    "format \"" ++ format ++ "\" has " ++ toString unused ++ " unused argument(s)"
  | .wrongArgumentKind format slot index found =>
    "format \"" ++ format ++ "\": placeholder %" ++ slot.letter.toString ++
      " cannot take argument #" ++ toString index ++ " (" ++ found ++ ")"
  | .invalidPlaceholder format position =>
    "format \"" ++ format ++ "\" contains an invalid placeholder at byte " ++ toString position
  | .unbalancedFlow function =>
    "function " ++ function ++ " closes more control flows than it opens"

inductive Part where
  | text (text : String)
  | type (type : TypeName)
  | member (member : MemberName)
  | literal (value : String)
  | nested (parts : List Part)
deriving Repr, Inhabited

structure Fragment where
  parts : List Part
deriving Repr, Inhabited

inductive Argument where
  | type (type : TypeName)
  | member (member : MemberName)
  | string (value : String)
  | verbatim (text : String)
  | fragment (fragment : Fragment)
deriving Repr, Inhabited

instance : Coe ClassName Argument := ⟨fun c => .type c⟩

instance : Coe MemberName Argument := ⟨.member⟩

instance : Coe Fragment Argument := ⟨.fragment⟩

def Argument.kind : Argument → String
  | .type _ => "type"
  | .member _ => "member"
  | .string _ => "string"
  | .verbatim _ => "literal"
  | .fragment _ => "code"

def Slot.part? : Slot → Argument → Option Part
  | .type, .type t => some (.type t)
  | .member, .member m => some (.member m)
  | .literal, .string value => some (.literal value)
  | .verbatim, .verbatim text => some (.text text)
  | .verbatim, .fragment f => some (.nested f.parts)
  | _, _ => none

namespace Fragment

def empty : Fragment := ⟨[]⟩

def isEmpty (f : Fragment) : Bool := f.parts.isEmpty

def literal (text : String) : Fragment := ⟨[.text text]⟩

/-- Neighbouring texts become one. -/
def push (f : Fragment) (part : Part) : Fragment :=
  match part, f.parts.getLast? with
  | .text more, some (.text last) => ⟨f.parts.dropLast ++ [.text (last ++ more)]⟩
  | part, _ => ⟨f.parts ++ [part]⟩

def pushText (f : Fragment) (text : List Char) : Fragment :=
  if text.isEmpty then f else f.push (.text (String.ofList text))

/-- Fills a template from its `index`-th placeholder on. What was put in before a fault stays. -/
def fill (format : String) (ending : Ending) :
    Nat → List Segment → List Argument → Fragment → Fragment × Option EmissionFault
  | _, [], arguments, f =>
    match ending with
    | .invalid position => (f, some (.invalidPlaceholder format position))
    | .text text =>
      (f.pushText text,
        if arguments.isEmpty then none else some (.unusedArguments format arguments.length))
  | _, segment :: _, [], f =>
    (f, some (.missingArgument format (Template.placeholderCount segment.before)))
  | index, segment :: segments, argument :: arguments, f =>
    match segment.slot.part? argument with
    | some part => fill format ending (index + 1) segments arguments
        ((f.pushText segment.text).push part)
    | none => (f.pushText segment.text,
        some (.wrongArgumentKind format segment.slot index argument.kind))

def append (f : Fragment) (format : String) (arguments : List Argument) :
    Fragment × Option EmissionFault :=
  let template := Template.read format
  f.fill format template.ending 0 template.segments arguments

/-- Puts a filled template at the end, or nothing if it has a fault. -/
def append? (f : Fragment) (format : String) (arguments : List Argument) :
    Except EmissionFault Fragment :=
  match f.append format arguments with
  | (extended, none) => .ok extended
  | (_, some fault) => .error fault

def of (format : String) (arguments : List Argument) : Except EmissionFault Fragment :=
  empty.append? format arguments

def join (separator : String) : List Fragment → Fragment
  | [] => empty
  | first :: rest =>
    rest.foldl (fun joined f => ⟨(joined.push (.text separator)).parts ++ f.parts⟩) first

mutual
/-- Everything that a part would have imported. A member of a class is reached through the class. -/
def referencesOf : Part → List Importable
  | .text _ => []
  | .literal _ => []
  | .type t => t.classes.map ClassName.importable
  | .member m => [(m.owner?.map ClassName.importable).getD m.importable]
  | .nested parts => referencesOfAll parts
def referencesOfAll : List Part → List Importable
  | [] => []
  | part :: parts => referencesOf part ++ referencesOfAll parts
end

def references (f : Fragment) : List Importable := referencesOfAll f.parts

mutual
def writePart (imports : Imports) : Part → String
  | .text text => text
  | .type t => imports.typeText t
  | .member m => imports.memberText m
  | .literal value => stringLiteral value
  | .nested parts => writeParts imports parts
def writeParts (imports : Imports) : List Part → String
  | [] => ""
  | part :: parts => writePart imports part ++ writeParts imports parts
end

def write (imports : Imports) (f : Fragment) : String := writeParts imports f.parts

def text (f : Fragment) : String := f.write .qualified

end Fragment

end ScriptRegistrar.Source
