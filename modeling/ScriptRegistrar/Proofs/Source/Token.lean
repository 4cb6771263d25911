import ScriptRegistrar.Proofs.Source.Written

/-!
# Templates, token by token

A template is filled exactly if it is spelled by tokens and its slots take the arguments one by one.
`Template.Defect` says what the fault is otherwise: the first thing wrong from the left.
-/

namespace ScriptRegistrar.Source

namespace Slot

/-- The kinds of arguments that can be put into the slot. -/
def kinds : Slot → List String
  | type => ["type"]
  | member => ["member"]
  | literal => ["string"]
  | verbatim => ["literal", "code"]

def Accepts (slot : Slot) (argument : Argument) : Prop := argument.kind ∈ slot.kinds

instance (slot : Slot) (argument : Argument) : Decidable (slot.Accepts argument) :=
  inferInstanceAs (Decidable (argument.kind ∈ slot.kinds))

theorem accepts_iff_takes {slot : Slot} {argument : Argument} :
    slot.Accepts argument ↔ slot.Takes argument := by
  cases slot <;> cases argument <;> simp [Accepts, kinds, Argument.kind]

theorem letter_ne_percent (slot : Slot) : slot.letter ≠ '%' := by
  cases slot <;> decide

theorem ofLetter?_eq_some_iff {c : Char} {slot : Slot} :
    ofLetter? c = some slot ↔ c = slot.letter := by
  unfold ofLetter?
  cases slot <;> grind [letter]

theorem ofLetter?_eq_none_iff {c : Char} : ofLetter? c = none ↔ ∀ slot : Slot, c ≠ slot.letter := by
  rw [Option.eq_none_iff_forall_ne_some]
  exact forall_congr' fun slot => not_congr ofLetter?_eq_some_iff

end Slot

open Template (expand expand_cons)

namespace Template

inductive Token where
  | char (c : Char) (plain : c ≠ '%')
  | percent
  | slot (slot : Slot)

namespace Token

def spelled : Token → List Char
  | char c _ => [c]
  | percent => ['%', '%']
  | slot s => ['%', s.letter]

def slot? : Token → Option Slot
  | char _ _ => none
  | percent => none
  | slot s => some s

end Token

def spell (tokens : List Token) : List Char := tokens.flatMap Token.spelled

def slots (tokens : List Token) : List Slot := tokens.filterMap Token.slot?

section
variable (tokens rest : List Token)

@[simp]
theorem spell_nil : spell [] = [] := rfl

@[simp]
theorem spell_cons (token : Token) : spell (token :: tokens) = token.spelled ++ spell tokens := rfl

@[simp]
theorem spell_append : spell (tokens ++ rest) = spell tokens ++ spell rest := List.flatMap_append

@[simp]
theorem slots_nil : slots [] = [] := rfl

@[simp]
theorem slots_char (c : Char) (plain : c ≠ '%') : slots (.char c plain :: tokens) = slots tokens :=
  rfl

@[simp]
theorem slots_percent : slots (.percent :: tokens) = slots tokens := rfl

@[simp]
theorem slots_slot (slot : Slot) : slots (.slot slot :: tokens) = slot :: slots tokens := rfl

@[simp]
theorem slots_append : slots (tokens ++ rest) = slots tokens ++ slots rest :=
  List.filterMap_append

end

def substitute : List Token → List String → String
  | [], _ => ""
  | .char c _ :: tokens, texts => c.toString ++ substitute tokens texts
  | .percent :: tokens, texts => "%" ++ substitute tokens texts
  | .slot _ :: tokens, [] => substitute tokens []
  | .slot _ :: tokens, text :: texts => text ++ substitute tokens texts

/-- The template is spelled by tokens, and their slots take the arguments one by one. -/
def Suits (format : String) (arguments : List Argument) : Prop :=
  ∃ tokens, format.toList = spell tokens ∧ List.Forall₂ Slot.Accepts (slots tokens) arguments

/-- A template that is read up to `cs`: its first tokens have used some arguments up, and `rest` is
left of them. -/
structure Reading (format : String) (arguments : List Argument) (tokens : List Token)
    (used : List Argument) (cs : List Char) (rest : List Argument) : Prop where
  spelled : format.toList = spell tokens ++ cs
  given : arguments = used ++ rest
  taken : List.Forall₂ Slot.Accepts (slots tokens) used

/-- Behind a percent sign, what is neither another one nor the letter of a slot. -/
def Stray (cs : List Char) : Prop := ∀ c ∈ cs.head?, c ≠ '%' ∧ ∀ slot : Slot, c ≠ slot.letter

/-- The first thing wrong with a template and its arguments. -/
inductive Defect (format : String) (arguments : List Argument) : EmissionFault → Prop
  | stray {tokens used cs rest} (reading : Reading format arguments tokens used ('%' :: cs) rest)
    (stray : Stray cs) :
    Defect format arguments
      (.invalidPlaceholder format (String.ofList (spell tokens)).utf8ByteSize)
  | missing {tokens used cs} {slot : Slot}
    (reading : Reading format arguments tokens used ('%' :: slot.letter :: cs) []) :
    Defect format arguments (.missingArgument format used.length)
  | refused {tokens used cs argument rest} {slot : Slot}
    (reading : Reading format arguments tokens used ('%' :: slot.letter :: cs) (argument :: rest))
    (other : ¬ slot.Accepts argument) :
    Defect format arguments (.wrongArgumentKind format slot used.length argument.kind)
  | surplus {tokens used rest} (reading : Reading format arguments tokens used [] rest)
    (some : rest ≠ []) :
    Defect format arguments (.unusedArguments format rest.length)

/-! ### Reading on -/

namespace Reading

variable {format : String} {arguments used rest : List Argument} {tokens : List Token}
  {cs : List Char}

theorem start (format : String) (arguments : List Argument) :
    Reading format arguments [] [] format.toList arguments :=
  ⟨rfl, rfl, .nil⟩

theorem char {c : Char} (reading : Reading format arguments tokens used (c :: cs) rest)
    (plain : c ≠ '%') :
    Reading format arguments (tokens ++ [.char c plain]) used cs rest where
  spelled := by simpa [Token.spelled] using reading.spelled
  given := reading.given
  taken := by simpa using reading.taken

theorem percent (reading : Reading format arguments tokens used ('%' :: '%' :: cs) rest) :
    Reading format arguments (tokens ++ [.percent]) used cs rest where
  spelled := by simpa [Token.spelled] using reading.spelled
  given := reading.given
  taken := by simpa using reading.taken

theorem slot {slot : Slot} {argument : Argument}
    (reading : Reading format arguments tokens used ('%' :: slot.letter :: cs) (argument :: rest))
    (accepted : slot.Accepts argument) :
    Reading format arguments (tokens ++ [.slot slot]) (used ++ [argument]) cs rest where
  spelled := by simpa [Token.spelled] using reading.spelled
  given := by simpa using reading.given
  taken := by
    rw [slots_append]
    exact List.rel_append reading.taken (.cons accepted .nil)

/-- Reading comes to the end of both the template and the arguments, or to a defect. -/
theorem ends (reading : Reading format arguments tokens used cs rest) :
    Suits format arguments ∨ ∃ fault, Defect format arguments fault := by
  induction cs using slots?.induct generalizing tokens used rest with
  | case1 =>
    by_cases all : rest = []
    · obtain ⟨spelled, given, taken⟩ := reading
      rw [List.append_nil] at spelled
      rw [all, List.append_nil] at given
      exact .inl ⟨tokens, spelled, given ▸ taken⟩
    · exact .inr ⟨_, .surplus reading all⟩
  | case2 => exact .inr ⟨_, .stray reading (by simp [Stray])⟩
  | case3 cs ih => exact ih reading.percent
  | case4 c cs other ih =>
    cases letter : Slot.ofLetter? c with
    | none =>
      refine .inr ⟨_, .stray reading fun c' first => ?_⟩
      obtain rfl : c = c' := by simpa using first
      exact ⟨other, Slot.ofLetter?_eq_none_iff.1 letter⟩
    | some slot =>
      obtain rfl := Slot.ofLetter?_eq_some_iff.1 letter
      cases rest with
      | nil => exact .inr ⟨_, .missing reading⟩
      | cons argument rest =>
        by_cases accepted : slot.Accepts argument
        · exact ih (reading.slot accepted)
        · exact .inr ⟨_, .refused reading accepted⟩
  | case5 c cs notLast notPercent ih =>
    exact ih (reading.char (ne_percent notLast notPercent))

end Reading

/-! ### Counting placeholders -/

theorem count_percent_spell (tokens : List Token) :
    (spell tokens).count '%' = (slots tokens).length + 2 * percentPairs (spell tokens) := by
  induction tokens with
  | nil => rfl
  | cons token tokens ih =>
    cases token with
    | char c plain =>
      have pairs : percentPairs (c :: spell tokens) = percentPairs (spell tokens) :=
        percentPairs.eq_2 c _ fun _ percent _ => plain percent
      simpa [Token.spelled, plain, pairs] using ih
    | percent =>
      have pairs : percentPairs ('%' :: '%' :: spell tokens) = percentPairs (spell tokens) + 1 :=
        rfl
      simp [Token.spelled, pairs, ih]
      omega
    | slot slot =>
      have letter := slot.letter_ne_percent
      have pairs : percentPairs ('%' :: slot.letter :: spell tokens) =
          percentPairs (spell tokens) := by
        cases slot <;> rfl
      simp [Token.spelled, pairs, ih, letter]
      omega

theorem placeholderCount_spell (tokens : List Token) :
    placeholderCount (spell tokens) = (slots tokens).length := by
  rw [placeholderCount, count_percent_spell, Nat.add_sub_cancel]

theorem expand_spell (tokens : List Token) (texts : List String) :
    expand (spell tokens) texts = (substitute tokens texts).toList := by
  induction tokens generalizing texts with
  | nil => rfl
  | cons token tokens ih =>
    cases token with
    | char c plain =>
      rw [spell_cons, Token.spelled, List.singleton_append, expand_cons plain, ih, substitute]
      simp
    | percent =>
      simp [Token.spelled, expand, substitute, ih]
    | slot slot =>
      cases texts with
      | nil => simp [Token.spelled, expand, substitute, ih, slot.letter_ne_percent]
      | cons text texts => simp [Token.spelled, expand, substitute, ih, slot.letter_ne_percent]

/-! ### Scanning -/

section
variable {before text cs : List Char}

theorem scan_char {c : Char} (plain : c ≠ '%') :
    scan before text (c :: cs) = scan (c :: before) (c :: text) cs :=
  scan.eq_4 before text c cs (fun percent _ => plain percent) fun _ _ percent _ => plain percent

theorem scan_percent : scan before text ('%' :: '%' :: cs) =
    scan ('%' :: '%' :: before) ('%' :: text) cs := by
  rw [scan, if_pos rfl]

theorem scan_slot {slot : Slot} : scan before text ('%' :: slot.letter :: cs) =
    ⟨⟨text.reverse, slot, before.reverse⟩ :: (scan (slot.letter :: '%' :: before) [] cs).segments,
      (scan (slot.letter :: '%' :: before) [] cs).ending⟩ := by
  rw [scan, if_neg slot.letter_ne_percent, Slot.ofLetter?_eq_some_iff.2 rfl]

end

end Template

/-! ### Filling -/

namespace Fragment

open Template

/-- Fills a template from `cs` on, of which `before` has been read and `text` not been put in. -/
def fillFrom (format : String) (before text cs : List Char) (index : Nat)
    (arguments : List Argument) (f : Fragment) : Fragment × Option EmissionFault :=
  fill format (scan before text cs).ending index (scan before text cs).segments arguments f

section
variable {format : String} {before text cs : List Char} {index : Nat} {argument : Argument}
  {arguments : List Argument} {f : Fragment} {slot : Slot}

theorem fillFrom_char {c : Char} (plain : c ≠ '%') :
    fillFrom format before text (c :: cs) index arguments f =
      fillFrom format (c :: before) (c :: text) cs index arguments f := by
  rw [fillFrom, scan_char plain, fillFrom]

theorem fillFrom_percent :
    fillFrom format before text ('%' :: '%' :: cs) index arguments f =
      fillFrom format ('%' :: '%' :: before) ('%' :: text) cs index arguments f := by
  rw [fillFrom, scan_percent, fillFrom]

theorem fillFrom_stray (stray : Stray cs) :
    (fillFrom format before text ('%' :: cs) index arguments f).2 =
      some (.invalidPlaceholder format (String.ofList before.reverse).utf8ByteSize) := by
  unfold fillFrom
  cases cs with
  | nil => rfl
  | cons c cs =>
    obtain ⟨other, noLetter⟩ := stray c rfl
    rw [scan, if_neg other, Slot.ofLetter?_eq_none_iff.2 noLetter]
    rfl

theorem fillFrom_missing :
    (fillFrom format before text ('%' :: slot.letter :: cs) index [] f).2 =
      some (.missingArgument format (placeholderCount before.reverse)) := by
  rw [fillFrom, scan_slot, fill]

theorem fillFrom_refused (other : ¬ slot.Accepts argument) :
    (fillFrom format before text ('%' :: slot.letter :: cs) index (argument :: arguments) f).2 =
      some (.wrongArgumentKind format slot index argument.kind) := by
  have refused : slot.part? argument = none := by
    rwa [Slot.accepts_iff_takes, Slot.Takes, Option.not_isSome_iff_eq_none] at other
  rw [fillFrom, scan_slot, fill, refused]

theorem fillFrom_slot (accepted : slot.Accepts argument) :
    ∃ f', fillFrom format before text ('%' :: slot.letter :: cs) index (argument :: arguments) f =
      fillFrom format (slot.letter :: '%' :: before) [] cs (index + 1) arguments f' := by
  obtain ⟨part, into⟩ := Option.isSome_iff_exists.1 (Slot.accepts_iff_takes.1 accepted)
  refine ⟨(f.pushText text.reverse).push part, ?_⟩
  rw [fillFrom, scan_slot, fill, into]
  rfl

theorem fillFrom_nil : (fillFrom format before text [] index arguments f).2 =
    if arguments.isEmpty then none else some (.unusedArguments format arguments.length) := rfl

end

/-- Tokens are filled one by one, until something else is met. -/
theorem fillFrom_spell {tokens : List Token} {used : List Argument}
    (taken : List.Forall₂ Slot.Accepts (slots tokens) used) (format : String)
    (before text cs : List Char) (index : Nat) (rest : List Argument) (f : Fragment) :
    ∃ text' f', fillFrom format before text (spell tokens ++ cs) index (used ++ rest) f =
      fillFrom format ((spell tokens).reverse ++ before) text' cs (index + used.length) rest
        f' := by
  induction tokens generalizing used before text index f with
  | nil =>
    cases taken
    exact ⟨text, f, rfl⟩
  | cons token tokens ih =>
    cases token with
    | char c plain =>
      obtain ⟨text', f', filled⟩ := ih taken (c :: before) (c :: text) index f
      refine ⟨text', f', (fillFrom_char plain).trans (filled.trans ?_)⟩
      simp [Token.spelled]
    | percent =>
      obtain ⟨text', f', filled⟩ := ih taken ('%' :: '%' :: before) ('%' :: text) index f
      refine ⟨text', f', fillFrom_percent.trans (filled.trans ?_)⟩
      simp [Token.spelled]
    | slot slot =>
      cases taken with
      | cons accepted taken =>
        obtain ⟨f₁, first⟩ := fillFrom_slot accepted
        obtain ⟨text', f', filled⟩ := ih taken (slot.letter :: '%' :: before) [] (index + 1) f₁
        refine ⟨text', f', first.trans (filled.trans ?_)⟩
        simp [Token.spelled, Nat.add_assoc, Nat.add_comm 1]

variable {format : String} {arguments used rest : List Argument} {tokens : List Token}
  {cs : List Char}

theorem append_of_reading (reading : Reading format arguments tokens used cs rest) (f : Fragment) :
    ∃ text f', f.append format arguments =
      fillFrom format (spell tokens).reverse text cs used.length rest f' := by
  obtain ⟨spelled, rfl, taken⟩ := reading
  obtain ⟨text, f', filled⟩ := fillFrom_spell taken format [] [] cs 0 rest f
  rw [← spelled, List.append_nil, Nat.zero_add] at filled
  exact ⟨text, f', filled⟩

theorem append_of_suits (suits : Suits format arguments) (f : Fragment) :
    (f.append format arguments).2 = none := by
  obtain ⟨tokens, spelled, taken⟩ := suits
  have reading : Reading format arguments tokens arguments [] [] :=
    ⟨by rw [spelled, List.append_nil], (List.append_nil _).symm, taken⟩
  obtain ⟨text, f', filled⟩ := append_of_reading reading f
  rw [filled, fillFrom_nil]
  rfl

theorem append_of_defect {fault : EmissionFault} (defect : Defect format arguments fault)
    (f : Fragment) : (f.append format arguments).2 = some fault := by
  cases defect with
  | stray reading stray =>
    obtain ⟨text, f', filled⟩ := append_of_reading reading f
    rw [filled, fillFrom_stray stray, List.reverse_reverse]
  | missing reading =>
    obtain ⟨text, f', filled⟩ := append_of_reading reading f
    rw [filled, fillFrom_missing, List.reverse_reverse, placeholderCount_spell,
      reading.taken.length_eq]
  | refused reading other =>
    obtain ⟨text, f', filled⟩ := append_of_reading reading f
    rw [filled, fillFrom_refused other]
  | surplus reading some =>
    obtain ⟨text, f', filled⟩ := append_of_reading reading f
    rw [filled, fillFrom_nil, if_neg (by simpa using some)]

theorem append_succeeds_iff {f : Fragment} :
    (f.append format arguments).2 = none ↔ Suits format arguments := by
  refine ⟨fun succeeds => ?_, fun suits => append_of_suits suits f⟩
  obtain suits | ⟨fault, defect⟩ := (Reading.start format arguments).ends
  · exact suits
  · rw [append_of_defect defect f] at succeeds
    cases succeeds

theorem append_fails_iff {f : Fragment} {fault : EmissionFault} :
    (f.append format arguments).2 = some fault ↔ Defect format arguments fault := by
  refine ⟨fun fails => ?_, fun defect => append_of_defect defect f⟩
  obtain suits | ⟨other, defect⟩ := (Reading.start format arguments).ends
  · rw [append_of_suits suits f] at fails
    cases fails
  · rw [append_of_defect defect f] at fails
    cases fails
    exact defect

theorem append_written {f : Fragment} (spelled : format.toList = spell tokens)
    (succeeds : (f.append format arguments).2 = none) (imports : Imports) :
    (f.append format arguments).1.write imports =
      f.write imports ++ substitute tokens (arguments.map (Argument.text imports)) := by
  have filled : f.append? format arguments = .ok (f.append format arguments).1 := by
    unfold append?
    split
    · next extended result => rw [result]
    · next fault result =>
      rw [result] at succeeds
      cases succeeds
  rw [← String.toList_inj, append?_written filled, spelled, expand_spell, String.toList_append]

/-- A template is filled exactly if it is well formed and its slots take the arguments one by one.
What is put in is read as it is, percent signs and all. Otherwise the fault is the first defect. -/
theorem append_follows_tokens (f : Fragment) (format : String) (arguments : List Argument) :
    ((f.append format arguments).2 = none ↔ Suits format arguments) ∧
    (∀ fault, (f.append format arguments).2 = some fault ↔ Defect format arguments fault) ∧
    (∀ tokens, format.toList = spell tokens → (f.append format arguments).2 = none →
      ∀ imports, (f.append format arguments).1.write imports =
        f.write imports ++ substitute tokens (arguments.map (Argument.text imports))) ∧
    ∀ separator fs imports,
      (join separator fs).write imports = separator.intercalate (fs.map (write imports)) :=
  ⟨append_succeeds_iff, fun _ => append_fails_iff, fun _ => append_written,
    fun separator fs _ => write_join separator fs⟩

/-- Percent signs in what was there before and in the arguments are left alone. -/
theorem percent_signs_kept :
    Suits "%L%%%S" [.verbatim "%T", .string "%L"] ∧
      ∀ imports, ((literal "50% ").append "%L%%%S" [.verbatim "%T", .string "%L"]).1.write imports =
        "50% %T%\"%L\"" := by
  obtain ⟨succeeds, -, written, -⟩ :=
    append_follows_tokens (literal "50% ") "%L%%%S" [.verbatim "%T", .string "%L"]
  have suits : Suits "%L%%%S" [.verbatim "%T", .string "%L"] :=
    ⟨[.slot .verbatim, .percent, .slot .literal], rfl, .cons (by decide) (.cons (by decide) .nil)⟩
  refine ⟨suits, fun imports => ?_⟩
  rw [written [.slot .verbatim, .percent, .slot .literal] rfl (succeeds.2 suits) imports]
  have start : (literal "50% ").write imports = "50% " := rfl
  have quoted : stringLiteral "%L" = "\"%L\"" := by decide +kernel
  rw [start, List.map_cons, List.map_singleton, Argument.text, Argument.text, quoted]
  decide +kernel

end Fragment

end ScriptRegistrar.Source
