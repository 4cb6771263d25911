namespace ScriptRegistrar

/-- The value `± digits * 10 ^ exponent`. -/
structure SignedDecimal where
  negative : Bool
  digits : Nat
  exponent : Int
deriving DecidableEq, Repr, Inhabited

inductive Json where
  | null
  | bool (value : Bool)
  | int (value : Int)
  /-- Anything with a fraction, an exponent or a negative zero. -/
  | decimal (value : SignedDecimal)
  | str (text : String)
  | arr (items : List Json)
  | obj (fields : List (String × Json))
  /-- Something that can be skipped but not read. -/
  | unreadable
deriving Inhabited, Repr, BEq

namespace Json

mutual
def depth : Json → Nat
  | .arr items => depthItems items + 1
  | .obj fields => depthFields fields + 1
  | _ => 0
def depthItems : List Json → Nat
  | [] => 0
  | item :: items => max (depth item) (depthItems items)
def depthFields : List (String × Json) → Nat
  | [] => 0
  | (_, value) :: fields => max (depth value) (depthFields fields)
end

def field? : Json → String → Option Json
  | .obj fields, name => fields.lookup name
  | _, _ => none

def field (j : Json) (name : String) : Json := (j.field? name).getD .null

def ofStrings (texts : List String) : Json := .arr (texts.map .str)

/-- Null for nothing. -/
def ofOption (encode : α → Json) : Option α → Json
  | none => .null
  | some a => encode a

/-! ### Writing -/

def hexDigits (value width : Nat) : List Char :=
  let digits := Nat.toDigits 16 value
  List.replicate (width - digits.length) '0' ++ digits

def escapeChar (c : Char) : List Char :=
  match c with
  | '"' => ['\\', '"']
  | '\\' => ['\\', '\\']
  | '\n' => ['\\', 'n']
  | '\r' => ['\\', 'r']
  | '\t' => ['\\', 't']
  | c => if c.toNat < 0x20 then '\\' :: 'u' :: hexDigits c.toNat 4 else [c]

def quote (text : String) : String :=
  "\"" ++ String.ofList (text.toList.flatMap escapeChar) ++ "\""

def decimalText (d : SignedDecimal) : String :=
  (if d.negative then "-" else "") ++ toString d.digits ++ "e" ++ toString d.exponent

mutual
def render : Json → String
  | .null | .unreadable => "null"
  | .bool value => if value then "true" else "false"
  | .int value => toString value
  | .decimal value => decimalText value
  | .str text => quote text
  | .arr items => "[" ++ ",".intercalate (renderItems items) ++ "]"
  | .obj fields => "\x7b" ++ ",".intercalate (renderFields fields) ++ "\x7d"
def renderItems : List Json → List String
  | [] => []
  | item :: items => render item :: renderItems items
def renderFields : List (String × Json) → List String
  | [] => []
  | (name, value) :: fields => (quote name ++ ":" ++ render value) :: renderFields fields
end

/-! ### Reading

Two machines that take one step per character and one step per token: the first cuts the text into
tokens, the second builds the value on a stack of open arrays and objects. -/

inductive Token where
  | openArray
  | closeArray
  | openObject
  | closeObject
  | comma
  | colon
  | text (value : String)
  | scalar (value : Json)

/-! ### Numbers -/

def digitValue (c : Char) : Nat := c.toNat - '0'.toNat

def ofDigits (digits : List Char) : Nat := digits.foldl (fun n c => 10 * n + digitValue c) 0

def digits? (cs : List Char) : Option (List Char × List Char) :=
  match cs.takeWhile Char.isDigit with
  | [] => none
  | ds => some (ds, cs.dropWhile Char.isDigit)

/-- The digits in front of the point: one zero, or no zero in front. -/
def wholePart? (cs : List Char) : Option (List Char × List Char) :=
  match digits? cs with
  | some ('0' :: _ :: _, _) => none
  | part => part

def fraction? : List Char → Option (List Char × List Char)
  | '.' :: cs => digits? cs
  | cs => some ([], cs)

def exponent? : List Char → Option (Int × List Char)
  | [] => some (0, [])
  | mark :: cs =>
    if mark = 'e' ∨ mark = 'E' then
      match cs with
      | '-' :: cs => (digits? cs).map fun (ds, rest) => (-(ofDigits ds : Int), rest)
      | '+' :: cs => (digits? cs).map fun (ds, rest) => ((ofDigits ds : Int), rest)
      | cs => (digits? cs).map fun (ds, rest) => ((ofDigits ds : Int), rest)
    else none

def number? (word : List Char) : Option Json := do
  let negative := word.head? = some '-'
  let (whole, rest) ← wholePart? (if negative then word.tail else word)
  let (fraction, rest') ← fraction? rest
  let (exponent, rest'') ← exponent? rest'
  if rest''.isEmpty then
    let value := ofDigits (whole ++ fraction)
    if rest.isEmpty ∧ ¬ (negative ∧ value = 0) then
      some (.int (if negative then -(value : Int) else value))
    else some (.decimal ⟨negative, value, exponent - (fraction.length : Int)⟩)
  else none

def scalar? (word : List Char) : Option Json :=
  if word = "null".toList then some .null
  else if word = "true".toList then some (.bool true)
  else if word = "false".toList then some (.bool false)
  else number? word

/-! ### Texts -/

/-- A character of a text, or half of a surrogate pair. -/
inductive TextUnit where
  | char (c : Char)
  | half (value : Nat)

def isHighHalf (value : Nat) : Bool := 0xD800 ≤ value && value < 0xDC00

def isLowHalf (value : Nat) : Bool := 0xDC00 ≤ value && value < 0xE000

def TextUnit.ofCode (value : Nat) : TextUnit :=
  if isHighHalf value || isLowHalf value then .half value else .char (Char.ofNat value)

def pairedChar (high low : Nat) : Char :=
  Char.ofNat (0x10000 + (high - 0xD800) * 0x400 + (low - 0xDC00))

/-- The characters that units spell, last unit first, in front of `chars`. Halves must form
pairs. -/
def joinUnits? (chars : List Char) : List TextUnit → Option (List Char)
  | [] => some chars
  | .char c :: units => joinUnits? (c :: chars) units
  | .half low :: .half high :: units =>
    if isHighHalf high && isLowHalf low then joinUnits? (pairedChar high low :: chars) units
    else none
  | .half _ :: _ => none

/-- The token of a whole text. One with half of a pair cannot be read. -/
def textToken (units : List TextUnit) : Token :=
  match joinUnits? [] units with
  | some chars => .text (String.ofList chars)
  | none => .scalar .unreadable

def hexValue? (c : Char) : Option Nat :=
  if c.isDigit then some (digitValue c)
  else if 'a' ≤ c ∧ c ≤ 'f' then some (c.toNat - 'a'.toNat + 10)
  else if 'A' ≤ c ∧ c ≤ 'F' then some (c.toNat - 'A'.toNat + 10)
  else none

def unescape? (c : Char) : Option Char :=
  match c with
  | '"' => some '"'
  | '\\' => some '\\'
  | '/' => some '/'
  | 'b' => some '\x08'
  | 'f' => some '\x0c'
  | 'n' => some '\n'
  | 'r' => some '\r'
  | 't' => some '\t'
  | _ => none

/-! ### Tokens -/

/-- What the token machine is in the middle of. What it holds is kept last one first. -/
inductive Mode where
  | plain
  | word (chars : List Char)
  | text (units : List TextUnit)
  | escape (units : List TextUnit)
  /-- Inside `\uXXXX`, with the value of the digits so far and their number. -/
  | unicode (units : List TextUnit) (value count : Nat)

structure Scan where
  tokens : List Token
  mode : Mode

def isSpace (c : Char) : Bool := c = ' ' || c = '\n' || c = '\t' || c = '\r'

def isWordChar (c : Char) : Bool := c.isAlphanum || c = '-' || c = '+' || c = '.'

def Scan.plainStep (tokens : List Token) (c : Char) : Option Scan :=
  if isSpace c then some ⟨tokens, .plain⟩
  else if c = '"' then some ⟨tokens, .text []⟩
  else if isWordChar c then some ⟨tokens, .word [c]⟩
  else
    let token : Option Token :=
      match c with
      | '[' => some .openArray
      | ']' => some .closeArray
      | '\x7b' => some .openObject
      | '\x7d' => some .closeObject
      | ',' => some .comma
      | ':' => some .colon
      | _ => none
    token.map fun token => ⟨token :: tokens, .plain⟩

def Scan.step (scan : Scan) (c : Char) : Option Scan :=
  match scan.mode with
  | .plain => Scan.plainStep scan.tokens c
  | .word chars =>
    if isWordChar c then some { scan with mode := .word (c :: chars) }
    else do
      let value ← scalar? chars.reverse
      Scan.plainStep (.scalar value :: scan.tokens) c
  | .text units =>
    if c = '"' then some ⟨textToken units :: scan.tokens, .plain⟩
    else if c = '\\' then some { scan with mode := .escape units }
    else if c.toNat < 0x20 then none
    else some { scan with mode := .text (.char c :: units) }
  | .escape units =>
    if c = 'u' then some { scan with mode := .unicode units 0 0 }
    else (unescape? c).map fun c => { scan with mode := .text (.char c :: units) }
  | .unicode units value count => do
    let value := 16 * value + (← hexValue? c)
    if count = 3 then return { scan with mode := .text (.ofCode value :: units) }
    else return { scan with mode := .unicode units value (count + 1) }

def Scan.finish (scan : Scan) : Option (List Token) :=
  match scan.mode with
  | .plain => some scan.tokens.reverse
  | .word chars => (scalar? chars.reverse).map fun value => (.scalar value :: scan.tokens).reverse
  | _ => none

def tokens? (text : String) : Option (List Token) := do
  let scan ← text.toList.foldlM Scan.step ⟨[], .plain⟩
  scan.finish

/-! ### Values -/

/-- An open array or object, with what it holds so far, last one first. -/
inductive Frame where
  | array (items : List Json)
  | object (fields : List (String × Json))
  | member (fields : List (String × Json)) (key : String)

/-- What may come next. -/
inductive Phase where
  | value
  /-- A value or the end of the array just opened. -/
  | firstItem
  /-- A key or the end of the object just opened. -/
  | firstKey
  | key
  | colon (key : String)
  /-- A comma or the end of the innermost array or object. -/
  | separator
  | done (value : Json)

structure Build where
  stack : List Frame
  phase : Phase

/-- Puts a finished value where it belongs. -/
def Build.deliver (value : Json) : List Frame → Option Build
  | [] => some ⟨[], .done value⟩
  | .array items :: stack => some ⟨.array (value :: items) :: stack, .separator⟩
  | .member fields key :: stack => some ⟨.object ((key, value) :: fields) :: stack, .separator⟩
  | .object _ :: _ => none

def Build.startValue (stack : List Frame) : Token → Option Build
  | .openArray => some ⟨.array [] :: stack, .firstItem⟩
  | .openObject => some ⟨.object [] :: stack, .firstKey⟩
  | .text value => deliver (.str value) stack
  | .scalar value => deliver value stack
  | _ => none

def Build.step (build : Build) (token : Token) : Option Build :=
  match build.phase, token, build.stack with
  | .firstItem, .closeArray, .array items :: stack => deliver (.arr items.reverse) stack
  | .firstItem, token, stack => startValue stack token
  | .value, token, stack => startValue stack token
  | .firstKey, .closeObject, .object fields :: stack => deliver (.obj fields.reverse) stack
  | .firstKey, .text key, stack => some ⟨stack, .colon key⟩
  | .key, .text key, stack => some ⟨stack, .colon key⟩
  | .colon key, .colon, .object fields :: stack => some ⟨.member fields key :: stack, .value⟩
  | .separator, .comma, .array items :: stack => some ⟨.array items :: stack, .value⟩
  | .separator, .comma, .object fields :: stack => some ⟨.object fields :: stack, .key⟩
  | .separator, .closeArray, .array items :: stack => deliver (.arr items.reverse) stack
  | .separator, .closeObject, .object fields :: stack => deliver (.obj fields.reverse) stack
  | _, _, _ => none

def read? (text : String) : Option Json := do
  let tokens ← tokens? text
  let build ← tokens.foldlM Build.step ⟨[], .value⟩
  match build.phase with
  | .done value => some value
  | _ => none

end Json

end ScriptRegistrar
