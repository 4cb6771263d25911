import ScriptRegistrar.Proofs.Source.Token

/-! Placeholders counted by percent signs: pairs that stand for percent signs do not disturb. -/

namespace ScriptRegistrar.Source

namespace Template

/-- The slots of the first tokens take all the arguments, and another placeholder follows. -/
structure RunsOut (format : String) (arguments : List Argument) (tokens : List Token)
    (slot : Slot) : Prop where
  spelled : ∃ cs, format.toList = spell tokens ++ '%' :: slot.letter :: cs
  taken : List.Forall₂ Slot.Accepts (slots tokens) arguments

/-! ### What is read in front of a placeholder -/

/-- Tokens leave a segment for each of their slots. -/
theorem scan_spell (tokens : List Token) (before text cs : List Char) : ∃ front text',
    (scan before text (spell tokens ++ cs)).segments =
        front ++ (scan ((spell tokens).reverse ++ before) text' cs).segments ∧
      front.map Segment.slot = slots tokens := by
  induction tokens generalizing before text with
  | nil => exact ⟨[], text, rfl, rfl⟩
  | cons token tokens ih =>
    rw [spell_cons, List.append_assoc, List.reverse_append, List.append_assoc]
    cases token with
    | char c plain =>
      obtain ⟨front, text', later, same⟩ := ih (c :: before) (c :: text)
      refine ⟨front, text', ?_, same⟩
      rw [Token.spelled, List.singleton_append, scan_char plain]
      exact later
    | percent =>
      obtain ⟨front, text', later, same⟩ := ih ('%' :: '%' :: before) ('%' :: text)
      refine ⟨front, text', ?_, same⟩
      rw [Token.spelled, List.cons_append, List.singleton_append, scan_percent]
      exact later
    | slot slot =>
      obtain ⟨front, text', later, same⟩ := ih (slot.letter :: '%' :: before) []
      refine ⟨⟨text.reverse, slot, before.reverse⟩ :: front, text', ?_, congrArg (slot :: ·) same⟩
      rw [Token.spelled, List.cons_append, List.singleton_append, scan_slot]
      exact congrArg (_ :: ·) later

namespace RunsOut

variable {format : String} {arguments : List Argument} {tokens : List Token} {slot : Slot}

theorem reading (out : RunsOut format arguments tokens slot) :
    ∃ cs, Reading format arguments tokens arguments ('%' :: slot.letter :: cs) [] := by
  obtain ⟨⟨cs, spelled⟩, taken⟩ := out
  exact ⟨cs, spelled, (List.append_nil _).symm, taken⟩

/-- The placeholder comes after as many others as there are arguments, and what is read in front of
it are the tokens. -/
theorem segment (out : RunsOut format arguments tokens slot) : ∃ text,
    (read format).segments[arguments.length]? = some ⟨text, slot, spell tokens⟩ := by
  obtain ⟨cs, spelled⟩ := out.spelled
  obtain ⟨front, text, segments, same⟩ := scan_spell tokens [] [] ('%' :: slot.letter :: cs)
  have before : front.length = arguments.length := by
    rw [← out.taken.length_eq, ← same, List.length_map]
  refine ⟨text.reverse, ?_⟩
  rw [read, spelled, segments, scan_slot, ← before]
  simp

end RunsOut

end Template

namespace Fragment

open Template

variable {f : Fragment} {format : String} {arguments : List Argument}

theorem append_missing_iff {reported : String} {index : Nat} :
    (f.append format arguments).2 = some (.missingArgument reported index) ↔
      reported = format ∧ index = arguments.length ∧
        ∃ tokens slot, RunsOut format arguments tokens slot := by
  constructor
  · intro fails
    cases append_fails_iff.1 fails with
    | @missing tokens used cs slot reading =>
      have all : arguments = used := by simpa using reading.given
      exact ⟨rfl, congrArg List.length all.symm, tokens, slot, ⟨cs, reading.spelled⟩,
        all ▸ reading.taken⟩
  · rintro ⟨rfl, rfl, tokens, slot, out⟩
    obtain ⟨cs, reading⟩ := out.reading
    exact append_of_defect (.missing reading) f

/-- The number in the fault for a missing argument is that of the arguments, which all went into
earlier placeholders. It is computed from the text that is read in front of the placeholder, which
has at least two percent signs for each pair. -/
theorem missing_argument_counted (f : Fragment) (format : String) (arguments : List Argument) :
    (∀ reported index,
      (f.append format arguments).2 = some (.missingArgument reported index) ↔
        reported = format ∧ index = arguments.length ∧
          ∃ tokens slot, RunsOut format arguments tokens slot) ∧
    ∀ tokens slot, RunsOut format arguments tokens slot →
      (∃ text, (read format).segments[arguments.length]? = some ⟨text, slot, spell tokens⟩) ∧
      2 * percentPairs (spell tokens) ≤ (spell tokens).count '%' ∧
      (spell tokens).count '%' - 2 * percentPairs (spell tokens) = arguments.length ∧
      (slots tokens).length = arguments.length := by
  refine ⟨fun _ _ => append_missing_iff, fun tokens slot out => ?_⟩
  have percents := count_percent_spell tokens
  have taken := out.taken.length_eq
  exact ⟨out.segment, by omega, by omega, taken⟩

/-- Seven percent signs in front of the placeholder are three pairs and one more. -/
theorem percent_runs_counted :
    RunsOut "100%%%L%%%%%L" [.verbatim "x"]
        [.char '1' (by decide), .char '0' (by decide), .char '0' (by decide), .percent,
          .slot .verbatim, .percent, .percent] .verbatim ∧
      (empty.append "100%%%L%%%%%L" [.verbatim "x"]).2 =
        some (.missingArgument "100%%%L%%%%%L" 1) ∧
      "100%%%L%%%%".toList.count '%' = 7 ∧ percentPairs "100%%%L%%%%".toList = 3 ∧
      "100%%%L%%%%".toList.count '%' - 2 * percentPairs "100%%%L%%%%".toList = 1 := by
  obtain ⟨missing, counted⟩ := missing_argument_counted empty "100%%%L%%%%%L" [.verbatim "x"]
  have out : RunsOut "100%%%L%%%%%L" [.verbatim "x"]
      [.char '1' (by decide), .char '0' (by decide), .char '0' (by decide), .percent,
        .slot .verbatim, .percent, .percent] .verbatim :=
    ⟨⟨[], rfl⟩, .cons (by decide) .nil⟩
  obtain ⟨-, -, one, -⟩ := counted _ _ out
  exact ⟨out, (missing _ _).2 ⟨rfl, rfl, _, _, out⟩, by decide +kernel, by decide +kernel, one⟩

end Fragment

end ScriptRegistrar.Source
