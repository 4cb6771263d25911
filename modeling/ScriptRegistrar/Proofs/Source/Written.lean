import ScriptRegistrar.Proofs.Source.Template

namespace ScriptRegistrar.Source

/-- What the slot that takes the argument is written as. -/
def Argument.text (imports : Imports) : Argument → String
  | .type t => imports.typeText t
  | .member m => imports.memberText m
  | .string value => stringLiteral value
  | .verbatim text => text
  | .fragment f => f.write imports

theorem intercalate_cons (separator text : String) (texts : List String) :
    separator.intercalate (text :: texts) = text ++ String.join (texts.map (separator ++ ·)) := by
  induction texts generalizing text with
  | nil => simp
  | cons next texts ih =>
    rw [String.intercalate_cons_cons, ih, List.map_cons, String.join_cons]
    simp only [String.append_assoc]

def callText (function : String) (arguments : List String) : String :=
  function ++ "(" ++ ", ".intercalate arguments ++ ")"

namespace Template

/-- The template with these texts in its slots. -/
def expand : List Char → List String → List Char
  | [], _ => []
  | ['%'], _ => []
  | '%' :: c :: cs, texts =>
    if c = '%' then '%' :: expand cs texts
    else (texts.headD "").toList ++ expand cs texts.tail
  | c :: cs, texts => c :: expand cs texts

theorem expand_cons {c : Char} (plain : c ≠ '%') (cs : List Char) (texts : List String) :
    expand (c :: cs) texts = c :: expand cs texts :=
  expand.eq_4 texts c cs (fun percent _ => plain percent) fun _ _ percent _ => plain percent

theorem expand_append {cs ds : List Char} {slots : List Slot} (h : slots? cs = some slots)
    {texts rest : List String} (same : slots.length = texts.length) :
    expand (cs ++ ds) (texts ++ rest) = expand cs texts ++ expand ds rest := by
  induction cs using slots?.induct generalizing slots texts with
  | case1 =>
    cases h
    cases List.length_eq_zero_iff.1 same.symm
    rfl
  | case2 => cases h
  | case3 cs ih =>
    rw [slots?, if_pos rfl] at h
    rw [List.cons_append, List.cons_append, expand, expand, if_pos rfl, if_pos rfl, ih h same,
      List.cons_append]
  | case4 c cs other ih =>
    rw [slots?, if_neg other, Option.bind_eq_some_iff] at h
    obtain ⟨slot, letter, h⟩ := h
    obtain ⟨slots, read, rfl⟩ := Option.map_eq_some_iff.1 h
    cases texts with
    | nil => cases same
    | cons text texts =>
      rw [List.cons_append, List.cons_append, expand, expand, if_neg other, if_neg other,
        List.cons_append, List.tail_cons, List.tail_cons, ih read (Nat.succ.inj same),
        List.append_assoc]
      rfl
  | case5 c cs notLast notPercent ih =>
    have plain := ne_percent notLast notPercent
    rw [slots?_cons plain] at h
    rw [List.cons_append, expand_cons plain, expand_cons plain, ih h same, List.cons_append]

end Template

open Template (expand)

/-! ### Writing what was put in -/

namespace Fragment

variable {imports : Imports}

theorem writeParts_append (first rest : List Part) :
    writeParts imports (first ++ rest) = writeParts imports first ++ writeParts imports rest := by
  induction first with
  | nil => simp [writeParts]
  | cons part first ih => rw [List.cons_append, writeParts, writeParts, ih, String.append_assoc]

theorem write_push (f : Fragment) (part : Part) :
    (f.push part).write imports = f.write imports ++ writePart imports part := by
  unfold push
  split
  · next more last ending =>
    obtain ⟨front, parts⟩ := List.getLast?_eq_some_iff.1 ending
    simp [write, parts, writeParts_append, writeParts, writePart, String.append_assoc]
  · simp [write, writeParts_append, writeParts]

theorem write_foldl_join (separator : String) (first : Fragment) (rest : List Fragment) :
    (rest.foldl (fun joined f => ⟨(joined.push (.text separator)).parts ++ f.parts⟩) first).write
        imports =
      first.write imports ++ String.join ((rest.map (write imports)).map (separator ++ ·)) := by
  induction rest generalizing first with
  | nil => simp
  | cons f rest ih =>
    have step : write imports ⟨(first.push (.text separator)).parts ++ f.parts⟩ =
        first.write imports ++ separator ++ f.write imports := by
      rw [write, writeParts_append, ← write, write_push, writePart, ← write]
    rw [List.foldl_cons, ih, step, List.map_cons, List.map_cons, String.join_cons]
    simp only [String.append_assoc]

theorem write_join (separator : String) (fs : List Fragment) :
    (join separator fs).write imports = separator.intercalate (fs.map (write imports)) := by
  cases fs with
  | nil => rfl
  | cons first rest =>
    rw [List.map_cons, intercalate_cons]
    exact write_foldl_join separator first rest

theorem write_pushText (f : Fragment) (text : List Char) :
    ((f.pushText text).write imports).toList = (f.write imports).toList ++ text := by
  unfold pushText
  split
  · next none => simp [List.isEmpty_iff.1 none]
  · simp [write_push, writePart]

theorem writePart_of_taken {slot : Slot} {argument : Argument} {part : Part}
    (taken : slot.part? argument = some part) :
    writePart imports part = argument.text imports := by
  unfold Slot.part? at taken
  split at taken <;> cases taken <;> rfl

theorem fill_written {format : String} {before text cs : List Char} {index : Nat}
    {arguments : List Argument} {f filled : Fragment}
    (h : fill format (Template.scan before text cs).ending index
      (Template.scan before text cs).segments arguments f = (filled, none)) :
    (filled.write imports).toList = (f.write imports).toList ++ text.reverse ++
      expand cs (arguments.map (Argument.text imports)) := by
  induction before, text, cs using Template.scan.induct generalizing index arguments f with
  | case1 before text =>
    rw [Template.scan, fill] at h
    obtain ⟨rfl, -⟩ := Prod.mk.inj h
    rw [write_pushText, expand, List.append_nil]
  | case2 =>
    rw [Template.scan, fill] at h
    cases (Prod.mk.inj h).2
  | case3 before text cs ih =>
    rw [Template.scan, if_pos rfl] at h
    rw [ih h, expand, if_pos rfl]
    simp
  | case4 before text c cs other none =>
    rw [Template.scan, if_neg other, none, fill] at h
    cases (Prod.mk.inj h).2
  | case5 before text c cs other slot letter ih =>
    rw [Template.scan, if_neg other, letter] at h
    cases arguments with
    | nil =>
      rw [fill] at h
      cases (Prod.mk.inj h).2
    | cons argument arguments =>
      rw [fill] at h
      split at h
      · next part taken =>
        rw [ih h, write_push, String.toList_append, write_pushText, writePart_of_taken taken,
          expand, if_neg other]
        simp
      · cases (Prod.mk.inj h).2
  | case6 before text c cs notLast notPercent ih =>
    rw [Template.scan.eq_4 before text c cs notLast notPercent] at h
    rw [ih h, expand.eq_4 _ c cs notLast notPercent]
    simp

theorem append?_written {f filled : Fragment} {format : String} {arguments : List Argument}
    (h : f.append? format arguments = .ok filled) :
    (filled.write imports).toList = (f.write imports).toList ++
      expand format.toList (arguments.map (Argument.text imports)) := by
  unfold append? at h
  split at h
  · next extended result =>
    cases h
    rw [fill_written result, List.reverse_nil, List.append_nil]
  · cases h

theorem of_written {filled : Fragment} {format : String} {arguments : List Argument}
    (h : of format arguments = .ok filled) :
    (filled.write imports).toList =
      expand format.toList (arguments.map (Argument.text imports)) := by
  rw [append?_written h]
  rfl

end Fragment

/-! ### Templates in parts -/

/-- How a template reads with its arguments in the slots. -/
def filledText (imports : Imports) (format : String) (arguments : List Argument) : String :=
  String.ofList (expand format.toList (arguments.map (Argument.text imports)))

section
variable {imports : Imports}

theorem Fragment.write_of {filled : Fragment} {format : String} {arguments : List Argument}
    (h : of format arguments = .ok filled) :
    filled.write imports = filledText imports format arguments := by
  rw [filledText, ← of_written h, String.ofList_toList]

theorem Fits.filledText_append {format : String} {arguments : List Argument}
    (h : Fits format arguments) (format' : String) (arguments' : List Argument) :
    filledText imports (format ++ format') (arguments ++ arguments') =
      filledText imports format arguments ++ filledText imports format' arguments' := by
  obtain ⟨slots, read, taken⟩ := h
  have same : slots.length = (arguments.map (Argument.text imports)).length := by
    rw [List.length_map, taken.length_eq]
  unfold filledText
  rw [String.toList_append, List.map_append, Template.expand_append read same,
    String.ofList_append]

/-- Templates that are made in a loop read one after the other. -/
theorem Fits.filledText_join {xs : List α} {format : α → String} {arguments : α → List Argument}
    (h : ∀ x ∈ xs, Fits (format x) (arguments x)) :
    filledText imports (String.join (xs.map format)) (xs.flatMap arguments) =
      String.join (xs.map fun x => filledText imports (format x) (arguments x)) := by
  induction xs with
  | nil => rfl
  | cons x xs ih =>
    have rest := ih fun x member => h x (List.mem_cons_of_mem _ member)
    rw [List.map_cons, String.join_cons, List.flatMap_cons,
      (h x List.mem_cons_self).filledText_append, rest, List.map_cons, String.join_cons]

end

end ScriptRegistrar.Source
