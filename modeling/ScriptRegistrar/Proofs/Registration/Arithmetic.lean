import Mathlib.Tactic.Ring
import ScriptRegistrar.Registration.DefaultValue

/-!
# Arithmetic in default values

Initializers are written again without any parentheses. The text determines the number as long as
no operand needs them.
-/

namespace ScriptRegistrar

inductive ArithmeticOperator where
  | plus
  | minus
  | times
deriving DecidableEq

inductive Arithmetic where
  | int (value : Int64)
  | neg (operand : Arithmetic)
  | binary (op : ArithmeticOperator) (left right : Arithmetic)

namespace ArithmeticOperator

def token : ArithmeticOperator → String
  | plus => "+"
  | minus => "-"
  | times => "*"

def ofToken? (word : String) : Option ArithmeticOperator :=
  [plus, minus, times].find? (·.token = word)

theorem ofToken?_token (op : ArithmeticOperator) : ofToken? op.token = some op := by
  cases op <;> decide

def apply : ArithmeticOperator → Int → Int → Int
  | plus, a, b => a + b
  | minus, a, b => a - b
  | times, a, b => a * b

end ArithmeticOperator

namespace Arithmetic

def expr : Arithmetic → Expr
  | int value => .int value
  | neg operand => .unary "-" operand.expr
  | binary op left right => .binary left.expr (.operator op.token) right.expr

def value : Arithmetic → Int
  | int value => value.toInt
  | neg operand => -operand.value
  | binary op left right => op.apply left.value right.value

def text : Arithmetic → String
  | int value => toString value.toInt
  | neg operand => "-" ++ operand.text
  | binary op left right => left.text ++ " " ++ op.token ++ " " ++ right.text

/-! ### What is written -/

/-- Everything is supported, and names no class that would have to be imported. -/
theorem fragment_text (inCall : Bool) (e : Arithmetic) :
    ∃ f, e.expr.fragment inCall = .ok f ∧ ∀ imports, f.write imports = e.text := by
  induction e with
  | int value => exact ⟨⟨[.text (toString value.toInt)]⟩, rfl, fun _ => String.append_empty⟩
  | neg operand ih =>
    obtain ⟨f, ok, written⟩ := ih
    refine ⟨⟨[.text "-", .nested f.parts]⟩, ?_, fun imports => ?_⟩
    · rw [expr, Expr.fragment, ok]
      rfl
    · simp [Source.Fragment.write, Source.Fragment.writeParts, Source.Fragment.writePart, text,
        ← written imports]
  | binary op left right ihl ihr =>
    obtain ⟨l, okl, writtenl⟩ := ihl
    obtain ⟨r, okr, writtenr⟩ := ihr
    refine ⟨⟨[.nested l.parts, .text " ", .nested [.text op.token], .text " ",
      .nested r.parts]⟩, ?_, fun imports => ?_⟩
    · rw [expr, Expr.fragment, okl, okr]
      rfl
    · simp [Source.Fragment.write, Source.Fragment.writeParts, Source.Fragment.writePart, text,
        ← writtenl imports, ← writtenr imports, String.append_assoc]

/-! ### Reading it back -/

/-- The number that a word spells: decimal digits, with any number of minus signs in front. -/
def signed? : List Char → Option Int
  | '-' :: word => (signed? word).map (- ·)
  | word =>
    if word ≠ [] ∧ word.all Char.isDigit then some (Nat.ofDigitChars 10 word 0) else none

/-- What has been read of a sum: the total of its finished terms, and the product of the factors of
the last one with its sign. -/
structure Sum where
  total : Int
  product : Int

namespace Sum

def value (s : Sum) : Int := s.total + s.product

def factor (s : Sum) (n : Int) : Sum := { s with product := s.product * n }

theorem value_factor (s : Sum) (first : s.product = 1) (n : Int) :
    (s.factor n).value = s.total + n := by
  rw [value, factor, first, Int.one_mul]

/-- Goes on after an operator. Only a product continues the last term. -/
def operator (s : Sum) : ArithmeticOperator → Sum
  | .plus => ⟨s.value, 1⟩
  | .minus => ⟨s.value, -1⟩
  | .times => s

end Sum

mutual
def operand? (s : Sum) : List String → Option Int
  | [] => none
  | word :: words => (signed? word.toList).bind fun n => operator? (s.factor n) words
def operator? (s : Sum) : List String → Option Int
  | [] => some s.value
  | word :: words =>
    (ArithmeticOperator.ofToken? word).bind fun op => operand? (s.operator op) words
end

/-- The number that a text means when products bind stronger than sums. -/
def read? (text : String) : Option Int := operand? ⟨0, 1⟩ (Text.split ' ' text)

/-- The sum that has been read after an expression. -/
def readAfter (s : Sum) : Arithmetic → Sum
  | int value => s.factor value.toInt
  | neg operand => operand.readAfter (s.factor (-1))
  | binary op left right => right.readAfter ((left.readAfter s).operator op)

theorem signed?_digits {word : List Char} (nonempty : word ≠ [])
    (digits : ∀ c ∈ word, c.isDigit) :
    signed? word = some (Nat.ofDigitChars 10 word 0 : Int) := by
  unfold signed?
  split
  · next rest =>
    have minus := digits '-' List.mem_cons_self
    exact absurd minus (by decide)
  · exact if_pos ⟨nonempty, List.all_eq_true.2 digits⟩

theorem isDigit_of_mem_repr {n : Nat} {c : Char} (member : c ∈ n.repr.toList) : c.isDigit := by
  rw [Nat.repr_eq_ofList_toDigits, String.toList_ofList] at member
  exact Nat.isDigit_of_mem_toDigits (by decide) (by decide) member

theorem signed?_repr (n : Nat) : signed? n.repr.toList = some (n : Int) := by
  have digits : n.repr.toList = Nat.toDigits 10 n := by
    rw [Nat.repr_eq_ofList_toDigits, String.toList_ofList]
  rw [signed?_digits (digits ▸ Nat.toDigits_ne_nil) fun _ => isDigit_of_mem_repr, digits,
    Nat.ofDigitChars_ten_toDigits]

theorem signed?_neg (word : String) :
    signed? ("-" ++ word).toList = (signed? word.toList).map (- ·) := by
  rw [String.toList_append]
  rfl

theorem signed?_toString (n : Int) : signed? (toString n).toList = some n := by
  cases n with
  | ofNat n => exact signed?_repr n
  | negSucc n => exact (signed?_neg _).trans (congrArg (Option.map _) (signed?_repr _))

theorem blank_notMem_toString (n : Int) : ' ' ∉ (toString n).toList := by
  have noBlank : ∀ n : Nat, ' ' ∉ n.repr.toList := fun n member =>
    absurd (isDigit_of_mem_repr member) (by decide)
  cases n with
  | ofNat n => exact noBlank n
  | negSucc n =>
    intro member
    have signed : toString (Int.negSucc n) = "-" ++ (n + 1).repr := rfl
    rw [signed, String.toList_append] at member
    rcases List.mem_append.1 member with minus | digit
    · exact absurd minus (by decide)
    · exact noBlank (n + 1) digit

theorem split_neg (text : String) :
    Text.split ' ' ("-" ++ text) = (Text.split ' ' text).modifyHead ("-" ++ ·) := by
  rw [Text.split, Text.split, String.toList_append,
    show "-".toList ++ text.toList = '-' :: text.toList from rfl, Text.splitChars,
    if_neg (by decide)]
  cases pieces : Text.splitChars ' ' text.toList with
  | nil => exact absurd pieces (Text.splitChars_ne_nil ' ' text.toList)
  | cons piece pieces =>
    have signed : String.ofList ('-' :: piece) = "-" ++ String.ofList piece := by
      rw [← List.singleton_append, String.ofList_append]
    rw [List.map_cons, List.map_cons, List.modifyHead_cons, signed]

theorem split_binary (op : ArithmeticOperator) (left right : Arithmetic) :
    Text.split ' ' (binary op left right).text =
      Text.split ' ' left.text ++ op.token :: Text.split ' ' right.text := by
  have token : Text.split ' ' op.token = [op.token] := by
    cases op <;> decide
  rw [text, show " " = String.singleton ' ' from rfl, Text.split_append, Text.split_append, token,
    List.append_assoc, List.singleton_append]

theorem operand?_neg (s : Sum) (word : String) (words : List String) :
    operand? s (("-" ++ word) :: words) = operand? (s.factor (-1)) (word :: words) := by
  have sign (n : Int) : s.factor (-n) = (s.factor (-1)).factor n := by
    simp [Sum.factor]
  rw [operand?, operand?, signed?_neg, Option.bind_map]
  exact congrArg (Option.bind _) (funext fun n => congrArg (operator? · words) (sign n))

/-- Reading the words of an expression leaves the sum that its structure gives. -/
theorem operand?_text (e : Arithmetic) (s : Sum) (words : List String) :
    operand? s (Text.split ' ' e.text ++ words) = operator? (e.readAfter s) words := by
  induction e generalizing s words with
  | int value =>
    rw [text, Text.split, Text.splitChars_of_notMem (blank_notMem_toString _), List.map_singleton,
      String.ofList_toList, List.singleton_append, operand?, signed?_toString]
    rfl
  | neg operand ih =>
    -- The sign belongs to the first word only, and so to the first factor.
    have read := ih (s.factor (-1)) words
    rw [text, split_neg]
    cases split : Text.split ' ' operand.text with
    | nil => exact absurd split (Text.split_ne_nil ' ' operand.text)
    | cons word rest =>
      rw [split] at read
      exact (operand?_neg s word (rest ++ words)).trans read
  | binary op left right ihl ihr =>
    rw [split_binary, List.append_assoc, List.cons_append, ihl, operator?,
      ArithmeticOperator.ofToken?_token, Option.bind_some, ihr]
    rfl

theorem read?_text (e : Arithmetic) : read? e.text = some (e.readAfter ⟨0, 1⟩).value := by
  have all := operand?_text e ⟨0, 1⟩ []
  rw [List.append_nil] at all
  rw [read?, all, operator?]

/-! ### Grouping -/

def isSum : Arithmetic → Bool
  | binary .plus _ _ | binary .minus _ _ => true
  | _ => false

/-- No operand needs parentheses: no sum stands behind a sign, as a factor or to the right of a
minus. -/
def isGrouped : Arithmetic → Bool
  | int _ => true
  | neg operand => !operand.isSum && operand.isGrouped
  | binary .plus left right => left.isGrouped && right.isGrouped
  | binary .minus left right => left.isGrouped && !right.isSum && right.isGrouped
  | binary .times left right =>
    !left.isSum && left.isGrouped && !right.isSum && right.isGrouped

theorem readAfter_of_not_isSum {e : Arithmetic} (grouped : e.isGrouped) (single : e.isSum = false)
    (s : Sum) : e.readAfter s = s.factor e.value := by
  induction e generalizing s with
  | int value => rfl
  | neg operand ih =>
    simp only [isGrouped, Bool.and_eq_true, Bool.not_eq_true'] at grouped
    rw [readAfter, ih grouped.2 grouped.1]
    simp [Sum.factor, value]
  | binary op left right ihl ihr =>
    cases op with
    | plus => cases single
    | minus => cases single
    | times =>
      simp only [isGrouped, Bool.and_eq_true, Bool.not_eq_true'] at grouped
      obtain ⟨⟨⟨notSuml, groupedl⟩, notSumr⟩, groupedr⟩ := grouped
      rw [readAfter, ihl groupedl notSuml, Sum.operator, ihr groupedr notSumr]
      simp [Sum.factor, value, ArithmeticOperator.apply, Int.mul_assoc]

theorem readAfter_value {e : Arithmetic} (grouped : e.isGrouped) (s : Sum) (first : s.product = 1) :
    (e.readAfter s).value = s.total + e.value := by
  induction e generalizing s with
  | int value => exact s.value_factor first value.toInt
  | neg operand => rw [readAfter_of_not_isSum grouped rfl, s.value_factor first]
  | binary op left right ihl ihr =>
    cases op with
    | times => rw [readAfter_of_not_isSum grouped rfl, s.value_factor first]
    | plus =>
      obtain ⟨groupedl, groupedr⟩ := Bool.and_eq_true_iff.1 grouped
      rw [readAfter, Sum.operator, ihr groupedr _ rfl, ihl groupedl s first, Int.add_assoc]
      rfl
    | minus =>
      -- Of a sum on the right, only the first term would be subtracted.
      simp only [isGrouped, Bool.and_eq_true, Bool.not_eq_true'] at grouped
      obtain ⟨⟨groupedl, notSumr⟩, groupedr⟩ := grouped
      rw [readAfter, Sum.operator, readAfter_of_not_isSum groupedr notSumr, Sum.factor, Sum.value,
        ihl groupedl s first, value, ArithmeticOperator.apply]
      ring

theorem read?_grouped {e : Arithmetic} (grouped : e.isGrouped) : read? e.text = some e.value := by
  rw [read?_text, readAfter_value grouped _ rfl, Int.zero_add]

end Arithmetic

/-! ### Default values -/

/-- The property is registered with the value of an expression. -/
structure PropertyDecl.Shows (p : PropertyDecl) (e : Expr) : Prop where
  mutable : p.isVar = true
  early : p.isLateinit = false
  visible : p.isVisible = true
  assigned : p.assignment = some e

theorem PropertyDecl.Shows.defaultValue {p : PropertyDecl} {e : Expr} (h : p.Shows e) :
    p.defaultValue = (e.fragment false).mapError p.defaultError := by
  have noHint : p.annotations.hint?.filter (fun _ => !p.isVisible) = none := by
    simp [h.visible]
  have usage : p.checkUsage = .ok () := by
    rw [checkUsage, noHint, h.mutable]
    rfl
  unfold PropertyDecl.defaultValue
  rw [usage, h.early, h.visible, h.assigned]
  rfl

/-- Where no operand needs parentheses, the text of a default value determines the number. -/
theorem default_text_determines_value {p q : PropertyDecl} {e e' : Arithmetic}
    (shows : p.Shows e.expr) (shows' : q.Shows e'.expr) (grouped : e.isGrouped)
    (grouped' : e'.isGrouped) :
    ∃ f f', p.defaultValue = .ok f ∧ q.defaultValue = .ok f' ∧
      ∀ imports imports', f.write imports = f'.write imports' → e.value = e'.value := by
  obtain ⟨f, ok, written⟩ := e.fragment_text false
  obtain ⟨f', ok', written'⟩ := e'.fragment_text false
  refine ⟨f, f', by rw [shows.defaultValue, ok]; rfl, by rw [shows'.defaultValue, ok']; rfl, ?_⟩
  intro imports imports' same
  rw [written, written'] at same
  have read := Arithmetic.read?_grouped grouped
  rw [same, Arithmetic.read?_grouped grouped'] at read
  exact (Option.some.inj read).symm

namespace Sample

def initialized (e : Arithmetic) : PropertyDecl :=
  { PropertyDecl.mutable (.parse "game.Player") "health" (.simple (.parse "kotlin.Int")) with
    initializer := some e.expr }

/-- `(-2) * 3 + 4` -/
def signedFactor : Arithmetic := .binary .plus (.binary .times (.neg (.int 2)) (.int 3)) (.int 4)

/-- `-(2 * 3) + 4` -/
def signedProduct : Arithmetic := .binary .plus (.neg (.binary .times (.int 2) (.int 3))) (.int 4)

/-- `(1 + 2) * 3` -/
def sumAsFactor : Arithmetic := .binary .times (.binary .plus (.int 1) (.int 2)) (.int 3)

/-- `1 + 2 * 3` -/
def productInSum : Arithmetic := .binary .plus (.int 1) (.binary .times (.int 2) (.int 3))

end Sample

theorem initialized_shows (e : Arithmetic) : (Sample.initialized e).Shows e.expr where
  mutable := rfl
  early := rfl
  visible := by rfl
  assigned := rfl

theorem defaultText_initialized (e : Arithmetic) :
    ∃ f, (Sample.initialized e).defaultValue = .ok f ∧ f.text = e.text := by
  obtain ⟨f, ok, written⟩ := e.fragment_text false
  exact ⟨f, by rw [(initialized_shows e).defaultValue, ok]; rfl, written .qualified⟩

theorem signed_product_text_determines_value :
    (Sample.initialized Sample.signedFactor).Shows Sample.signedFactor.expr ∧
      (Sample.initialized Sample.signedProduct).Shows Sample.signedProduct.expr ∧
      Sample.signedFactor.isGrouped ∧ Sample.signedProduct.isGrouped ∧
      ∃ f f', (Sample.initialized Sample.signedFactor).defaultValue = .ok f ∧
        (Sample.initialized Sample.signedProduct).defaultValue = .ok f' ∧
        f.text = f'.text ∧ Sample.signedFactor.value = Sample.signedProduct.value := by
  have shows := initialized_shows Sample.signedFactor
  have shows' := initialized_shows Sample.signedProduct
  obtain ⟨f, f', ok, ok', determined⟩ :=
    default_text_determines_value shows shows' (by decide) (by decide)
  have same : f.text = f'.text := by
    obtain ⟨g, okg, text⟩ := defaultText_initialized Sample.signedFactor
    obtain ⟨g', okg', text'⟩ := defaultText_initialized Sample.signedProduct
    rw [ok] at okg
    rw [ok'] at okg'
    rw [Except.ok.inj okg, Except.ok.inj okg', text, text']
    decide
  exact ⟨shows, shows', by decide, by decide, f, f', ok, ok', same, determined _ _ same⟩

/-- Nine is written like seven, because the sum loses its parentheses. -/
theorem sum_as_factor_written_as_sum :
    ∃ f f', (Sample.initialized Sample.sumAsFactor).defaultValue = .ok f ∧
      (Sample.initialized Sample.productInSum).defaultValue = .ok f' ∧
      f.text = "1 + 2 * 3" ∧ f'.text = "1 + 2 * 3" ∧
      Sample.sumAsFactor.value = 9 ∧ Sample.productInSum.value = 7 := by
  obtain ⟨f, ok, text⟩ := defaultText_initialized Sample.sumAsFactor
  obtain ⟨f', ok', text'⟩ := defaultText_initialized Sample.productInSum
  exact ⟨f, f', ok, ok', text.trans (by decide), text'.trans (by decide), by decide, by decide⟩

end ScriptRegistrar
