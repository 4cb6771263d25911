import ScriptRegistrar.Proofs.Except
import ScriptRegistrar.Source.File

namespace ScriptRegistrar.Source

namespace Template

/-- The slots in order, if every percent sign starts a placeholder or stands for itself. -/
def slots? : List Char → Option (List Slot)
  | [] => some []
  | ['%'] => none
  | '%' :: c :: cs =>
    if c = '%' then slots? cs
    else (Slot.ofLetter? c).bind fun slot => (slots? cs).map (slot :: ·)
  | _ :: cs => slots? cs

/-- The last case of reading a template is that of a character that is no percent sign. -/
theorem ne_percent {c : Char} {cs : List Char} (notLast : c = '%' → cs = [] → False)
    (notPercent : ∀ c' cs', c = '%' → cs = c' :: cs' → False) : c ≠ '%' := by
  intro percent
  cases cs with
  | nil => exact notLast percent rfl
  | cons c' cs => exact notPercent c' cs percent rfl

theorem slots?_cons {c : Char} (plain : c ≠ '%') (cs : List Char) : slots? (c :: cs) = slots? cs :=
  slots?.eq_4 c cs (fun percent _ => plain percent) fun _ _ percent _ => plain percent

theorem slots?_append {cs ds : List Char} {first rest : List Slot} (h : slots? cs = some first)
    (h' : slots? ds = some rest) : slots? (cs ++ ds) = some (first ++ rest) := by
  induction cs using slots?.induct generalizing first with
  | case1 =>
    cases h
    exact h'
  | case2 => cases h
  | case3 cs ih =>
    rw [slots?, if_pos rfl] at h
    rw [List.cons_append, List.cons_append, slots?, if_pos rfl, ih h]
  | case4 c cs other ih =>
    rw [slots?, if_neg other, Option.bind_eq_some_iff] at h
    obtain ⟨slot, letter, h⟩ := h
    obtain ⟨slots, read, rfl⟩ := Option.map_eq_some_iff.1 h
    rw [List.cons_append, List.cons_append, slots?, if_neg other, letter, Option.bind_some, ih read,
      Option.map_some, List.cons_append]
  | case5 c cs notLast notPercent ih =>
    have plain := ne_percent notLast notPercent
    rw [slots?_cons plain] at h
    rw [List.cons_append, slots?_cons plain]
    exact ih h

theorem scan_of_slots {cs : List Char} {slots : List Slot} (h : slots? cs = some slots)
    (before text : List Char) :
    (scan before text cs).segments.map Segment.slot = slots ∧
      ∃ rest, (scan before text cs).ending = .text rest := by
  induction before, text, cs using scan.induct generalizing slots with
  | case1 before text =>
    cases h
    exact ⟨rfl, _, rfl⟩
  | case2 => cases h
  | case3 before text cs ih =>
    rw [slots?, if_pos rfl] at h
    rw [scan, if_pos rfl]
    exact ih h
  | case4 before text c cs other none =>
    rw [slots?, if_neg other, none] at h
    cases h
  | case5 before text c cs other slot letter ih =>
    rw [slots?, if_neg other, letter, Option.bind_some] at h
    obtain ⟨slots, read, rfl⟩ := Option.map_eq_some_iff.1 h
    obtain ⟨same, ending⟩ := ih read
    rw [scan, if_neg other, letter]
    exact ⟨congrArg (slot :: ·) same, ending⟩
  | case6 before text c cs notLast notPercent ih =>
    rw [slots?.eq_4 c cs notLast notPercent] at h
    rw [scan.eq_4 before text c cs notLast notPercent]
    exact ih h

end Template

def Slot.Takes (slot : Slot) (argument : Argument) : Prop := (slot.part? argument).isSome

attribute [simp] Slot.Takes Slot.part?

/-- A template and the arguments for its slots. -/
def Fits (format : String) (arguments : List Argument) : Prop :=
  ∃ slots, Template.slots? format.toList = some slots ∧ List.Forall₂ Slot.Takes slots arguments

namespace Fits

theorem empty : Fits "" [] := ⟨[], rfl, .nil⟩

theorem append {format format' : String} {arguments arguments' : List Argument}
    (h : Fits format arguments) (h' : Fits format' arguments') :
    Fits (format ++ format') (arguments ++ arguments') := by
  obtain ⟨slots, read, taken⟩ := h
  obtain ⟨slots', read', taken'⟩ := h'
  exact ⟨slots ++ slots', by rw [String.toList_append, Template.slots?_append read read'],
    List.rel_append taken taken'⟩

/-- Templates that are made in a loop, each with its own arguments. -/
theorem join {xs : List α} {format : α → String} {arguments : α → List Argument}
    (h : ∀ x ∈ xs, Fits (format x) (arguments x)) :
    Fits (String.join (xs.map format)) (xs.flatMap arguments) := by
  induction xs with
  | nil => exact empty
  | cons x xs ih =>
    rw [List.map_cons, String.join_cons, List.flatMap_cons]
    exact (h x List.mem_cons_self).append (ih fun x member => h x (List.mem_cons_of_mem _ member))

theorem intercalate {separator : String} (separated : Fits separator []) {xs : List α}
    {format : α → String} {arguments : α → List Argument}
    (h : ∀ x ∈ xs, Fits (format x) (arguments x)) :
    Fits (separator.intercalate (xs.map format)) (xs.flatMap arguments) := by
  induction xs with
  | nil => exact empty
  | cons x xs ih =>
    have first := h x List.mem_cons_self
    have rest := ih fun x member => h x (List.mem_cons_of_mem _ member)
    cases xs with
    | nil => simpa using first
    | cons y xs =>
      rw [List.map_cons, List.map_cons, String.intercalate_cons_cons, List.flatMap_cons,
        ← List.append_nil (arguments x)]
      exact (first.append separated).append rest

end Fits

namespace Fragment

theorem fill_of_takes {format : String} {text : List Char} {segments : List Segment}
    {arguments : List Argument}
    (h : List.Forall₂ Slot.Takes (segments.map Segment.slot) arguments) (index : Nat)
    (f : Fragment) : (fill format (.text text) index segments arguments f).2 = none := by
  induction segments generalizing arguments index f with
  | nil =>
    cases h
    rfl
  | cons segment segments ih =>
    cases h with
    | cons taken rest =>
      obtain ⟨part, into⟩ := Option.isSome_iff_exists.1 taken
      rw [fill, into]
      exact ih rest _ _

end Fragment

namespace Fits

variable {bad : EmissionFault → Prop} {format : String} {arguments : List Argument}

theorem append? (h : Fits format arguments) (f : Fragment) :
    FailsOnly bad (f.append? format arguments) := by
  obtain ⟨slots, read, taken⟩ := h
  obtain ⟨same, text, ending⟩ := Template.scan_of_slots read [] []
  have filled : (f.append format arguments).2 = none := by
    simp only [Fragment.append, Template.read, ending]
    exact Fragment.fill_of_takes (same ▸ taken) 0 f
  unfold Fragment.append?
  split
  · exact .ok trivial
  · next fault result =>
    rw [result] at filled
    cases filled

theorem of (h : Fits format arguments) :
    FailsOnly bad (Fragment.of format arguments) := h.append? .empty

end Fits

/-! ### Functions and files -/

theorem placeLines_line (level : Nat) (body : List BodyLine) :
    (placeLines level body).map PlacedLine.line = body := by
  induction level, body using placeLines.induct with
  | case1 => rfl
  | case2 level code rest ih => rw [placeLines, List.map_cons, ih]
  | case3 level head rest ih => rw [placeLines, List.map_cons, ih]
  | case4 level rest ih => rw [placeLines, List.map_cons, ih]

variable {bad : EmissionFault → Prop}

namespace FunctionText

theorem addStatement_of_fits {format : String} {arguments : List Argument}
    (fits : Fits format arguments) {f : FunctionText} {n : Nat} (flows : f.openFlows = n) :
    Ends (·.openFlows = n) bad (f.addStatement format arguments) :=
  fits.of.bind fun _ _ => .ok flows

theorem beginFlow_of_fits {format : String} {arguments : List Argument}
    (fits : Fits format arguments) {f : FunctionText} {n : Nat} (flows : f.openFlows = n) :
    Ends (·.openFlows = n + 1) bad (f.beginFlow format arguments) :=
  fits.of.bind fun _ _ => .ok (congrArg (· + 1) flows)

theorem endFlow_of_open {f : FunctionText} {n : Nat} (flows : f.openFlows = n + 1) :
    Ends (·.openFlows = n) bad f.endFlow := by
  rw [endFlow, if_neg (by omega)]
  exact .ok (by simp [flows])

theorem write_of_closed {f : FunctionText} (closed : f.openFlows = 0) (imports : Imports)
    (level : Nat) : FailsOnly bad (f.write imports level) := by
  rw [write, if_pos closed]
  exact .ok trivial

end FunctionText

/-- Every function of the file closes all its flows. -/
def FileText.Balanced (f : FileText) : Prop :=
  ∀ c ∈ f.classes, ∀ g ∈ c.functions, g.openFlows = 0

theorem FileText.Balanced.render {f : FileText} (h : f.Balanced) :
    FailsOnly bad f.render := by
  have classes : Ends (List.Forall₂ (fun _ _ => True) f.classes) bad
      (f.classes.mapM (ClassText.write f.imports)) := by
    refine Ends.mapM fun c member => ?_
    have functions : Ends (List.Forall₂ (fun _ _ => True) c.functions) bad
        (c.functions.mapM (FunctionText.write f.imports 1)) :=
      Ends.mapM fun g inClass => FunctionText.write_of_closed (h c member g inClass) f.imports 1
    exact functions.bind fun _ _ => .ok trivial
  have written : FailsOnly bad f.write := classes.bind fun _ _ => .ok trivial
  exact written.bind fun _ _ => .ok trivial

end ScriptRegistrar.Source
