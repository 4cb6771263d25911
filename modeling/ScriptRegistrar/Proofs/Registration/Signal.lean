import Mathlib.Data.List.Basic
import ScriptRegistrar.Proofs.Except
import ScriptRegistrar.Registration.Member

/-!
# Signals by the class of their type

The class is read off the printed type, up to the first angle bracket. The mark of a nullable type
comes behind that bracket unless there are no arguments. Then it is taken for a part of the number.
-/

namespace ScriptRegistrar

/-! ### Numbers -/

/-- The text spells the number in decimal digits. A plus sign may stand in front of them. -/
def Spells (text : String) (n : Nat) : Prop :=
  ∃ digits, (text.toList = digits ∨ text.toList = '+' :: digits) ∧ digits ≠ [] ∧
    (∀ c ∈ digits, c.isDigit = true) ∧ Nat.ofDigitChars 10 digits 0 = n

def withoutPlus : List Char → List Char
  | '+' :: cs => cs
  | cs => cs

theorem eq_withoutPlus_or (cs : List Char) : cs = withoutPlus cs ∨ cs = '+' :: withoutPlus cs := by
  unfold withoutPlus
  split
  · exact .inr rfl
  · exact .inl rfl

theorem withoutPlus_digits {digits : List Char} (all : ∀ c ∈ digits, c.isDigit = true) :
    withoutPlus digits = digits := by
  unfold withoutPlus
  split
  · exact absurd (all '+' List.mem_cons_self) (by decide)
  · rfl

theorem PropertyDecl.arity?_eq (text : String) :
    arity? text =
      if (withoutPlus text.toList).isEmpty || !(withoutPlus text.toList).all Char.isDigit then none
      else if Nat.ofDigitChars 10 (withoutPlus text.toList) 0 < UInt32.size then
        some (Nat.ofDigitChars 10 (withoutPlus text.toList) 0)
      else none := rfl

theorem PropertyDecl.arity?_eq_some_iff {text : String} {n : Nat} :
    arity? text = some n ↔ Spells text n ∧ n < UInt32.size := by
  rw [arity?_eq]
  constructor
  · intro found
    split at found
    · cases found
    · next accepted =>
      obtain ⟨some, all⟩ : withoutPlus text.toList ≠ [] ∧
          ∀ c ∈ withoutPlus text.toList, c.isDigit = true := by simpa using accepted
      split at found
      · next small =>
        obtain rfl := Option.some.inj found
        exact ⟨⟨_, eq_withoutPlus_or text.toList, some, all, rfl⟩, small⟩
      · cases found
  · rintro ⟨⟨digits, spelled, some, all, rfl⟩, small⟩
    have unsigned : withoutPlus text.toList = digits := by
      rcases spelled with plain | signed
      · rw [plain, withoutPlus_digits all]
      · rw [signed, withoutPlus]
    have accepted : (digits.isEmpty || !digits.all Char.isDigit) = false := by
      rw [Bool.or_eq_false_iff, Bool.not_eq_false', List.all_eq_true]
      exact ⟨by simpa using some, all⟩
    rw [unsigned, accepted, if_neg (by decide), if_pos small]

/-- The text spells a number of 32 bits. -/
def SpellsUInt32 (text : String) : Prop := ∃ n < UInt32.size, Spells text n

theorem PropertyDecl.arity?_isSome_iff {text : String} :
    (arity? text).isSome ↔ SpellsUInt32 text := by
  rw [Option.isSome_iff_exists]
  exact exists_congr fun n => arity?_eq_some_iff.trans and_comm

theorem SpellsUInt32.digit_or_plus {text : String} (h : SpellsUInt32 text) {c : Char}
    (member : c ∈ text.toList) : c.isDigit = true ∨ c = '+' := by
  obtain ⟨n, -, digits, spelled, -, all, -⟩ := h
  rcases spelled with plain | signed
  · exact .inl (all c (plain ▸ member))
  · rw [signed, List.mem_cons] at member
    exact member.symm.imp_left (all c)

/-! ### The printed type -/

/-- The mark of a nullable type stands right behind the class, as there are no arguments. -/
def ResolvedType.BareMark (t : ResolvedType) : Prop := t.nullable = true ∧ t.arguments = []

theorem ResolvedType.displayName_of_bareMark {t : ResolvedType} (h : t.BareMark) :
    t.displayName = t.simpleName ++ "?" := by
  obtain ⟨name, nullable, arguments, supertypes, isEnum⟩ := t
  obtain ⟨rfl, rfl⟩ : nullable = true ∧ arguments = [] := h
  rw [displayName, write, simpleName]
  simp

/-- Otherwise a bracket stands behind the class, or nothing. -/
theorem ResolvedType.displayName_of_not_bareMark {t : ResolvedType} (h : ¬ t.BareMark) :
    ∃ tail, t.displayName = t.simpleName ++ tail ∧ ∀ c ∈ tail.toList.head?, c = '<' := by
  obtain ⟨name, nullable, arguments, supertypes, isEnum⟩ := t
  rw [displayName, write, simpleName]
  cases arguments with
  | nil =>
    have unmarked : nullable = false := by
      by_contra marked
      exact h ⟨by simpa using marked, rfl⟩
    exact ⟨"", by simp [unmarked], by simp⟩
  | cons argument arguments =>
    refine ⟨_, String.append_assoc, fun c first => ?_⟩
    simpa using first.symm

theorem Text.headD_split {sep : Char} {piece tail : String} (h : sep ∉ piece.toList)
    (separated : ∀ c ∈ tail.toList.head?, c = sep) :
    (split sep (piece ++ tail)).headD "" = piece := by
  rw [split, String.toList_append]
  cases chars : tail.toList with
  | nil => simp [splitChars_of_notMem h]
  | cons c rest =>
    obtain rfl : c = sep := separated c (by rw [chars]; rfl)
    simp [splitChars_append_sep h]

/-- A text starts the same with a tail behind it, if the tail cannot be part of the start. -/
theorem append_eq_append_of_head {text tail pre rest : String}
    (apart : ∀ c ∈ tail.toList.head?, c ∉ pre.toList) :
    text ++ tail = pre ++ rest ↔ ∃ more, text = pre ++ more ∧ rest = more ++ tail := by
  constructor
  · intro same
    rw [← String.toList_inj, String.toList_append, String.toList_append,
      List.append_eq_append_iff] at same
    rcases same with ⟨cs, start, later⟩ | ⟨cs, start, later⟩
    · cases cs with
      | nil =>
        refine ⟨"", ?_, ?_⟩
        · rw [← String.toList_inj]
          simpa using start.symm
        · rw [← String.toList_inj]
          simpa using later.symm
      | cons c cs =>
        refine absurd ?_ (apart c (by simp [later]))
        simp [start]
    · refine ⟨String.ofList cs, ?_, ?_⟩
      · rw [← String.toList_inj, start]
        simp
      · rw [← String.toList_inj, later]
        simp
  · rintro ⟨more, rfl, rfl⟩
    exact String.append_assoc

/-! ### The check -/

namespace PropertyDecl

/-- The class is called `Signal` and a number of 32 bits. -/
def HasSignalClass (p : PropertyDecl) : Prop :=
  ∃ count, p.type.simpleName = "Signal" ++ count ∧ SpellsUInt32 count

theorem succeeds_checkSignal_iff {p : PropertyDecl} :
    Succeeds p.checkSignal ↔ (∃ rest, p.name = "signal" ++ rest) ∧
      ∃ rest, p.type.displayName = "Signal" ++ rest ∧
        SpellsUInt32 ((Text.split '<' rest).headD "") := by
  have named : "signal".toList.isPrefixOf p.name.toList = true ↔
      ∃ rest, p.name = "signal" ++ rest := by
    rw [List.isPrefixOf_iff_prefix]
    constructor
    · rintro ⟨cs, h⟩
      exact ⟨String.ofList cs, by rw [← String.toList_inj, ← h]; simp⟩
    · rintro ⟨rest, h⟩
      exact ⟨rest.toList, by simp [h]⟩
  have typed : ((Text.dropStart? "Signal" p.type.displayName).bind fun rest =>
        arity? ((Text.split '<' rest).headD "")).isSome ↔
      ∃ rest, p.type.displayName = "Signal" ++ rest ∧
        SpellsUInt32 ((Text.split '<' rest).headD "") := by
    simp only [Option.isSome_bind, Option.any_eq_true, Text.dropStart?_eq_some_iff,
      arity?_isSome_iff]
  rw [← named, ← typed, checkSignal]
  split
  · next prefixed =>
    rw [and_iff_right prefixed]
    dsimp only
    split
    · next found => exact iff_of_true ⟨(), rfl⟩ (by rw [found]; rfl)
    · next missing =>
      refine iff_of_false (fun ⟨_, succeeded⟩ => nomatch succeeded) ?_
      rw [missing]
      exact Bool.false_ne_true
  · next other =>
    exact iff_of_false (fun ⟨_, succeeded⟩ => nomatch succeeded) fun accepted => other accepted.1

/-- A bracket or nothing behind the class: what stands in front of it is the class. -/
theorem printed_of_not_bareMark {p : PropertyDecl} (noBracket : '<' ∉ p.type.simpleName.toList)
    (h : ¬ p.type.BareMark) :
    (∃ rest, p.type.displayName = "Signal" ++ rest ∧
      SpellsUInt32 ((Text.split '<' rest).headD "")) ↔ p.HasSignalClass := by
  obtain ⟨tail, printed, bracket⟩ := ResolvedType.displayName_of_not_bareMark h
  have apart : ∀ c ∈ tail.toList.head?, c ∉ "Signal".toList := fun c first => by
    rw [bracket c first]
    decide
  have count {more : String} (named : p.type.simpleName = "Signal" ++ more) :
      (Text.split '<' (more ++ tail)).headD "" = more := by
    refine Text.headD_split (fun member => noBracket ?_) bracket
    rw [named, String.toList_append]
    exact List.mem_append_right _ member
  simp only [printed, append_eq_append_of_head apart, HasSignalClass]
  constructor
  · rintro ⟨_, ⟨more, named, rfl⟩, spells⟩
    exact ⟨more, named, count named ▸ spells⟩
  · rintro ⟨more, named, spells⟩
    exact ⟨_, ⟨more, named, rfl⟩, (count named).symm ▸ spells⟩

theorem not_printed_of_bareMark {p : PropertyDecl} (noBracket : '<' ∉ p.type.simpleName.toList)
    (h : p.type.BareMark) {rest : String} (printed : p.type.displayName = "Signal" ++ rest) :
    ¬ SpellsUInt32 ((Text.split '<' rest).headD "") := by
  rw [ResolvedType.displayName_of_bareMark h, append_eq_append_of_head (by simp)] at printed
  obtain ⟨more, named, rfl⟩ := printed
  have whole : (Text.split '<' (more ++ "?" ++ "")).headD "" = more ++ "?" := by
    refine Text.headD_split (fun member => ?_) (by simp)
    rw [String.toList_append, List.mem_append] at member
    rcases member with inCount | mark
    · refine noBracket ?_
      rw [named, String.toList_append]
      exact List.mem_append_right _ inCount
    · exact absurd mark (by decide)
  rw [String.append_empty] at whole
  intro spells
  rw [whole] at spells
  have mark : '?' ∈ (more ++ "?").toList := by simp
  rcases spells.digit_or_plus mark with digit | plus
  · exact absurd digit (by decide)
  · exact absurd plus (by decide)

/-- A signal is recognised by its name and by the class of its type, unless the mark of a nullable
type stands right behind the class. Then it is refused. -/
theorem signal_recognised_by_class (p : PropertyDecl)
    (noBracket : '<' ∉ p.type.simpleName.toList) :
    (Succeeds p.checkSignal ↔
      (∃ rest, p.name = "signal" ++ rest) ∧ p.HasSignalClass ∧ ¬ p.type.BareMark) ∧
    ∀ nullable arguments, ¬ p.type.BareMark →
      ¬ ResolvedType.BareMark { p.type with nullable, arguments } →
        (Succeeds (checkSignal { p with type := { p.type with nullable, arguments } }) ↔
          Succeeds p.checkSignal) := by
  -- Of any other type with the same class too, for the second part.
  have recognised : ∀ q : PropertyDecl, q.type.simpleName = p.type.simpleName →
      (Succeeds q.checkSignal ↔
        (∃ rest, q.name = "signal" ++ rest) ∧ q.HasSignalClass ∧ ¬ q.type.BareMark) := by
    intro q same
    rw [← same] at noBracket
    rw [succeeds_checkSignal_iff, and_congr_right_iff]
    intro _
    by_cases bare : q.type.BareMark
    · refine iff_of_false ?_ fun accepted => accepted.2 bare
      rintro ⟨rest, printed, spells⟩
      exact not_printed_of_bareMark noBracket bare printed spells
    · rw [printed_of_not_bareMark noBracket bare, and_iff_left bare]
  refine ⟨recognised p rfl, fun nullable arguments bare bare' => ?_⟩
  rw [recognised p rfl, recognised { p with type := { p.type with nullable, arguments } } rfl,
    and_iff_left bare, and_iff_left bare']
  rfl

end PropertyDecl

namespace Sample

def signal (name : String) (type : ResolvedType) : PropertyDecl where
  owner := .parse "game.Player"
  name
  type

/-- `Signal2<Array<Int?>, Int>?`. -/
def signalType : ResolvedType where
  name := .parse "godot.signals.Signal2"
  nullable := true
  arguments :=
    [.withArgument (.simple (.parse "kotlin.Array")) (.asNullable (.simple (.parse "kotlin.Int"))),
      .simple (.parse "kotlin.Int")]

/-- `Signal0?`. -/
def emptySignalType : ResolvedType where
  name := .parse "godot.signals.Signal0"
  nullable := true

end Sample

/-- With and without arguments. -/
theorem signalHit_recognised :
    Succeeds (Sample.signal "signalHit" Sample.signalType).checkSignal ∧
      Succeeds (Sample.signal "signalHit"
        { Sample.signalType with nullable := false, arguments := [] }).checkSignal := by
  obtain ⟨recognised, change⟩ :=
    (Sample.signal "signalHit" Sample.signalType).signal_recognised_by_class (by decide +kernel)
  have bare : ¬ Sample.signalType.BareMark := fun bare => nomatch bare.2
  have count : SpellsUInt32 "2" := ⟨2, by decide, ['2'], .inl rfl, by simp, by simp, rfl⟩
  have checked := recognised.2 ⟨⟨"Hit", by decide +kernel⟩, ⟨"2", by decide +kernel, count⟩, bare⟩
  exact ⟨checked, (change false [] bare fun bare => nomatch bare.1).2 checked⟩

/-- A nullable signal without arguments is refused, although its class is a signal's and a nullable
one with arguments is accepted. -/
theorem nullable_signal_refused :
    ¬ ∀ p : PropertyDecl, '<' ∉ p.type.simpleName.toList → '?' ∉ p.type.simpleName.toList →
      (Succeeds p.checkSignal ↔ (∃ rest, p.name = "signal" ++ rest) ∧ p.HasSignalClass) := by
  intro recognised
  have count : SpellsUInt32 "0" := ⟨0, by decide, ['0'], .inl rfl, by simp, by simp, rfl⟩
  obtain ⟨_, accepted⟩ := (recognised (Sample.signal "signalReady" Sample.emptySignalType)
    (by decide +kernel) (by decide +kernel)).2
      ⟨⟨"Ready", by decide +kernel⟩, "0", by decide +kernel, count⟩
  have refused : (Sample.signal "signalReady" Sample.emptySignalType).checkSignal.isOk = false := by
    decide +kernel
  rw [accepted] at refused
  cases refused

end ScriptRegistrar
