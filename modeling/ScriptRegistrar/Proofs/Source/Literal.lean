import Mathlib.Logic.Function.Defs
import ScriptRegistrar.Source.Fragment

namespace ScriptRegistrar.Source

/-- The character that a backslash and this character stand for. -/
def unescape? : Char → Option Char
  | '\\' => some '\\'
  | '"' => some '"'
  | 'n' => some '\n'
  | 't' => some '\t'
  | 'r' => some '\r'
  | '$' => some '$'
  | _ => none

/-- A line break would break the literal, and a dollar sign starts an interpolation. -/
def standsAlone (c : Char) : Bool := c ≠ '\n' && c ≠ '\r' && c ≠ '$'

/-- Reads on behind the opening quote: the characters of the value, and what follows the literal. -/
def readValue? : List Char → Option (List Char × List Char)
  | [] => none
  | '"' :: rest => some ([], rest)
  | ['\\'] => none
  | '\\' :: c :: cs => do
    let first ← unescape? c
    let (value, rest) ← readValue? cs
    return (first :: value, rest)
  | c :: cs =>
    if standsAlone c then (readValue? cs).map fun (value, rest) => (c :: value, rest) else none

/-- The value of the literal at the start of a text, and what follows the literal. -/
def readLiteral? (text : String) : Option (String × String) :=
  match text.toList with
  | '"' :: cs => (readValue? cs).map fun (value, rest) => (String.ofList value, String.ofList rest)
  | _ => none

theorem readValue?_escapeChar (c : Char) (cs : List Char) :
    readValue? (escapeChar c ++ cs) =
      (readValue? cs).map fun (value, rest) => (c :: value, rest) := by
  have decoded (name : Char) (h : unescape? name = some c) :
      readValue? ('\\' :: name :: cs) =
        (readValue? cs).map fun (value, rest) => (c :: value, rest) := by
    rw [readValue?, h]
    cases readValue? cs <;> rfl
  unfold escapeChar
  split
  · exact decoded '\\' rfl
  · exact decoded '"' rfl
  · exact decoded 'n' rfl
  · exact decoded 't' rfl
  · exact decoded 'r' rfl
  · exact decoded '$' rfl
  · next noBackslash noQuote noFeed noTab noReturn noDollar =>
    have alone : standsAlone c = true := by
      simpa [standsAlone] using And.intro (And.intro noFeed noReturn) noDollar
    rw [List.singleton_append, readValue?.eq_5 c cs noQuote (fun same _ => noBackslash same)
      (fun _ _ same _ => noBackslash same), if_pos alone]

theorem readValue?_escaped (value rest : List Char) :
    readValue? (value.flatMap escapeChar ++ '"' :: rest) = some (value, rest) := by
  induction value with
  | nil => rfl
  | cons c value ih =>
    rw [List.flatMap_cons, List.append_assoc, readValue?_escapeChar, ih]
    rfl

theorem readLiteral?_stringLiteral (value rest : String) :
    readLiteral? (stringLiteral value ++ rest) = some (value, rest) := by
  have chars : (stringLiteral value ++ rest).toList =
      '"' :: (value.toList.flatMap escapeChar ++ '"' :: rest.toList) := by
    simp [stringLiteral, literalChars]
  rw [readLiteral?, chars]
  change (readValue? _).map _ = _
  rw [readValue?_escaped]
  simp

/-- A literal is read back as its value and ends where it was written to end, so the value and what
follows it can be told apart. -/
theorem literal_delimits_value (value rest : String) :
    readLiteral? (stringLiteral value ++ rest) = some (value, rest) ∧
      Function.Injective stringLiteral ∧
      ∀ value' rest', stringLiteral value ++ rest = stringLiteral value' ++ rest' →
        value = value' ∧ rest = rest' := by
  have delimited {value rest value' rest' : String}
      (same : stringLiteral value ++ rest = stringLiteral value' ++ rest') :
      value = value' ∧ rest = rest' := by
    have read := readLiteral?_stringLiteral value rest
    rw [same, readLiteral?_stringLiteral] at read
    exact Prod.mk.inj (Option.some.inj read.symm)
  refine ⟨readLiteral?_stringLiteral value rest, fun value value' same => ?_,
    fun value' rest' => delimited⟩
  exact (delimited (congrArg (· ++ "") same)).1

example : readLiteral? "\"cost: $price\"" = none := by decide +kernel

end ScriptRegistrar.Source
