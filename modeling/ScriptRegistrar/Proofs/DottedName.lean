import ScriptRegistrar.DottedName

namespace ScriptRegistrar

/-- The pieces between the dots of a text. -/
structure Text.CutAtDots (text : String) (pieces : List String) : Prop where
  some : pieces ≠ []
  dotless : ∀ piece ∈ pieces, '.' ∉ piece.toList
  joined : ".".intercalate pieces = text

namespace Text.CutAtDots

theorem of_split (text : String) : CutAtDots text (Text.split '.' text) :=
  ⟨Text.split_ne_nil '.' text, fun _ => Text.notMem_split, Text.intercalate_split '.' text⟩

/-- A text can be cut in one way only. -/
theorem eq_split {text : String} {pieces : List String} (cut : CutAtDots text pieces) :
    pieces = Text.split '.' text := by
  rw [← cut.joined]
  exact (Text.split_intercalate cut.some cut.dotless).symm

end Text.CutAtDots

/-- A dot stands at the start or at the end, or two stand side by side. -/
inductive Text.Misdotted : String → Prop
  | leading (rest : String) : Misdotted ("." ++ rest)
  | trailing (front : String) : Misdotted (front ++ ".")
  | doubled (front rest : String) : Misdotted (front ++ "." ++ "." ++ rest)

/-- There are several pieces then, and an empty one among them. -/
theorem Text.Misdotted.pieces {text : String} (misdotted : Misdotted text) :
    "" ∈ Text.split '.' text ∧ 1 < (Text.split '.' text).length := by
  have empty : Text.split '.' "" = [""] := rfl
  have some : ∀ text, 0 < (Text.split '.' text).length := fun text =>
    List.length_pos_iff.2 (Text.split_ne_nil '.' text)
  cases misdotted with
  | leading rest =>
    have pieces : Text.split '.' ("." ++ rest) = [""] ++ Text.split '.' rest := by
      rw [← empty, ← Text.split_append]
      rfl
    simp [pieces, some]
  | trailing front =>
    have pieces : Text.split '.' (front ++ ".") = Text.split '.' front ++ [""] := by
      rw [← empty, ← Text.split_append, String.append_empty]
      rfl
    simp [pieces, some]
  | doubled front rest =>
    have pieces : Text.split '.' (front ++ "." ++ "." ++ rest) =
        Text.split '.' front ++ [""] ++ Text.split '.' rest := by
      rw [← empty, ← Text.split_append, ← Text.split_append, String.append_empty]
      rfl
    have before := some front
    have behind := some rest
    simp [pieces]
    omega

namespace DottedName

/-! ### What is read -/

/-- Nothing but dots is read as the empty name, and anything else as a proper name. -/
theorem parse_empty_or_proper (text : String) : parse text = topLevel "" ∨ (parse text).Proper := by
  by_cases none : (Text.split '.' text).filter (· ≠ "") = []
  · left
    rw [parse, none]
    rfl
  · right
    intro s member
    rw [parse, segments_ofSegments none] at member
    obtain ⟨piece, some⟩ := List.mem_filter.1 member
    exact ⟨by simpa using some, Text.notMem_split piece⟩

theorem notMem_segments_parse (text : String) : ∀ s ∈ (parse text).segments, '.' ∉ s.toList := by
  obtain empty | proper := parse_empty_or_proper text
  · rw [empty]
    decide
  · exact fun s member => (proper s member).2

/-- What is read from a text is read from its own text too. -/
theorem parse_text_parse (text : String) : parse (parse text).text = parse text := by
  obtain empty | proper := parse_empty_or_proper text
  · rw [empty]
    decide
  · exact parse_text proper

theorem text_parse {text : String} {pieces : List String} (cut : Text.CutAtDots text pieces) :
    (parse text).text = ".".intercalate (pieces.filter (· ≠ "")) := by
  rw [cut.eq_split]
  by_cases none : (Text.split '.' text).filter (· ≠ "") = []
  · rw [parse, none]
    rfl
  · rw [DottedName.text, parse, segments_ofSegments none]

/-- Comparing a name with a text of proper segments is comparing it with what is read from it. -/
theorem is_eq_decide {text : String} (proper : "" ∉ Text.split '.' text) (n : DottedName) :
    n.is text = decide (n = parse text) := by
  rw [is_eq_split, ← segments_parse proper, Bool.eq_iff_iff, beq_iff_eq, decide_eq_true_iff]
  exact ⟨fun same => (segments_injective same).symm, fun same => by rw [same]⟩

theorem is_misdotted (text : String) {other : String} (misdotted : Text.Misdotted other) :
    (parse text).is other = false := by
  obtain ⟨hole, several⟩ := misdotted.pieces
  rw [Bool.eq_false_iff, is_eq_split, Ne, beq_iff_eq]
  intro same
  obtain empty | proper := parse_empty_or_proper text
  · rw [same, empty] at several
    exact absurd several (by decide)
  · exact (proper "" (same ▸ hole)).1 rfl

/-- A name is read back from its own text, which is the text it was read from without the empty
pieces, and comparing a name with a text is comparing it with its own text. The order of names is
total, and tells apart what is not the same. -/
theorem text_identifies_name :
    (∀ text, (∃ pieces, Text.CutAtDots text pieces ∧
        (parse text).text = ".".intercalate (pieces.filter (· ≠ ""))) ∧
      parse (parse text).text = parse text) ∧
    (∀ text other, ((parse text).is other = true ↔ other = (parse text).text) ∧
      ((parse text).is other = true → parse text = parse other) ∧
      (Text.Misdotted other → (parse text).is other = false)) ∧
    ∀ a b c : DottedName, compare b a = (compare a b).swap ∧
      ((compare a b).isLE → (compare b c).isLE → (compare a c).isLE) ∧
      (compare a b = .eq ↔ a = b) := by
  refine ⟨fun text => ⟨⟨_, .of_split text, text_parse (.of_split text)⟩, parse_text_parse text⟩,
    fun text other => ?_, fun a b c => ?_⟩
  · have same : (parse text).is other = true ↔ other = (parse text).text :=
      is_iff (notMem_segments_parse text)
    refine ⟨same, fun equal => ?_, is_misdotted text⟩
    rw [same.1 equal, parse_text_parse]
  · exact ⟨Std.OrientedCmp.eq_swap, Std.TransCmp.isLE_trans, Std.LawfulEqOrd.compare_eq_iff_eq⟩

/-- Only one of these texts compares equal to what all of them are read as. -/
theorem godotNode_identified :
    (parse ".godot..Node").text = "godot.Node" ∧ (parse ".godot..Node").is "godot.Node" = true ∧
      parse ".godot..Node" = parse "godot.Node" ∧ Text.Misdotted ".godot.Node" ∧
      (parse ".godot..Node").is ".godot.Node" = false := by
  obtain ⟨-, compared, -⟩ := text_identifies_name
  have text : (parse ".godot..Node").text = "godot.Node" := by decide +kernel
  have equal := (compared ".godot..Node" "godot.Node").1.2 text.symm
  have misdotted : Text.Misdotted ".godot.Node" := .leading "godot.Node"
  exact ⟨text, equal, (compared _ _).2.1 equal, misdotted, (compared _ _).2.2 misdotted⟩

end DottedName

end ScriptRegistrar
