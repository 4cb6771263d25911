import ScriptRegistrar.Number
import ScriptRegistrar.Proofs.Source.Written

namespace ScriptRegistrar

/-- Neither a line feed nor a carriage return. -/
def Unbroken (cs : List Char) : Prop := ∀ c ∈ cs, c ≠ '\n' ∧ c ≠ '\r'

def OneLine (text : String) : Prop := Unbroken text.toList

instance : DecidablePred Unbroken := List.decidableBAll fun c => c ≠ '\n' ∧ c ≠ '\r'

instance : DecidablePred OneLine := fun text => inferInstanceAs (Decidable (Unbroken text.toList))

namespace Unbroken

variable {cs ds : List Char}

@[simp]
theorem nil : Unbroken [] := List.forall_mem_nil _

@[simp]
theorem cons_iff {c : Char} : Unbroken (c :: cs) ↔ (c ≠ '\n' ∧ c ≠ '\r') ∧ Unbroken cs :=
  List.forall_mem_cons

@[simp]
theorem append_iff : Unbroken (cs ++ ds) ↔ Unbroken cs ∧ Unbroken ds := List.forall_mem_append

theorem of_subset (h : Unbroken cs) (part : ds ⊆ cs) : Unbroken ds :=
  fun c member => h c (part member)

@[simp]
theorem flatMap_iff {α : Type} {xs : List α} {f : α → List Char} :
    Unbroken (xs.flatMap f) ↔ ∀ x ∈ xs, Unbroken (f x) := by
  induction xs with
  | nil => simp
  | cons x xs ih => rw [List.flatMap_cons, append_iff, ih, List.forall_mem_cons]

end Unbroken

namespace OneLine

variable {text other : String} {texts : List String}

@[simp]
theorem append_iff : OneLine (text ++ other) ↔ OneLine text ∧ OneLine other := by
  rw [OneLine, String.toList_append]
  exact Unbroken.append_iff

theorem append (h : OneLine text) (h' : OneLine other) : OneLine (text ++ other) :=
  append_iff.2 ⟨h, h'⟩

@[simp]
theorem join_iff : OneLine (String.join texts) ↔ ∀ t ∈ texts, OneLine t := by
  rw [OneLine, String.toList_join]
  exact Unbroken.flatMap_iff

theorem intercalate_iff {separator : String} (separated : OneLine separator) :
    OneLine (separator.intercalate texts) ↔ ∀ t ∈ texts, OneLine t := by
  cases texts with
  | nil => exact iff_of_true Unbroken.nil (List.forall_mem_nil _)
  | cons t texts => simp [Source.intercalate_cons, separated]

theorem ofList_iff {cs : List Char} : OneLine (String.ofList cs) ↔ Unbroken cs := by
  rw [OneLine, String.toList_ofList]

end OneLine

/-! ### Numbers -/

theorem unbroken_digits (n : Nat) : Unbroken (Nat.toDigits 10 n) := by
  intro c member
  have digit : c.isDigit = true := Nat.isDigit_of_mem_toDigits (by decide) (by decide) member
  constructor
  · rintro rfl
    exact absurd digit (by decide)
  · rintro rfl
    exact absurd digit (by decide)

theorem oneLine_repr (n : Nat) : OneLine n.repr := by
  rw [Nat.repr_eq_ofList_toDigits]
  exact OneLine.ofList_iff.2 (unbroken_digits n)

theorem oneLine_toString (n : Int) : OneLine (toString n) := by
  cases n with
  | ofNat n => exact oneLine_repr n
  | negSucc n => exact OneLine.append (by decide) (oneLine_repr (n + 1))

namespace Number

theorem unbroken_zeros (n : Nat) : Unbroken (zeros n) := by
  intro c member
  rw [(List.mem_replicate.1 member).2]
  decide

theorem Decimal.unbroken_positional (d : Decimal) : Unbroken d.positional := by
  have digits := unbroken_digits d.digits
  unfold positional
  dsimp only
  split
  · exact Unbroken.append_iff.2 ⟨digits, unbroken_zeros _⟩
  split
  · have front (n : Nat) := digits.of_subset (List.take_subset n _)
    have back (n : Nat) := digits.of_subset (List.drop_subset n _)
    exact Unbroken.append_iff.2 ⟨front _, Unbroken.cons_iff.2 ⟨by decide, back _⟩⟩
  · simp [unbroken_zeros, digits]

theorem DoubleValue.unbroken_chars (x : DoubleValue) : Unbroken x.chars := by
  have signed {negative : Bool} {cs : List Char} (h : Unbroken cs) :
      Unbroken (signed negative cs) := by
    cases negative <;> simp [Number.signed, h]
  cases x with
  | notANumber => decide
  | infinite => exact signed (by decide)
  | zero => exact signed (by decide)
  | finite negative x =>
    refine signed ?_
    unfold Binary.positional
    split
    · exact Unbroken.append_iff.2 ⟨unbroken_digits _, by decide⟩
    · exact x.shortest.unbroken_positional

theorem oneLine_doubleText (x : Float) : OneLine (doubleText x) :=
  OneLine.ofList_iff.2 (DoubleValue.unbroken_chars _)

end Number

namespace Source

/-! ### Literals and templates -/

theorem oneLine_stringLiteral (text : String) : OneLine (stringLiteral text) := by
  have escaped (c : Char) : Unbroken (escapeChar c) := by
    unfold escapeChar
    split <;> simp_all
  rw [stringLiteral, OneLine.ofList_iff, literalChars, Unbroken.cons_iff, Unbroken.append_iff,
    Unbroken.flatMap_iff]
  exact ⟨by decide, fun c _ => escaped c, by decide⟩

theorem Template.unbroken_expand {cs : List Char} {texts : List String} (template : Unbroken cs)
    (each : ∀ t ∈ texts, OneLine t) : Unbroken (expand cs texts) := by
  induction cs, texts using expand.induct with
  | case1 => exact Unbroken.nil
  | case2 => exact Unbroken.nil
  | case3 cs texts ih =>
    obtain ⟨percent, template⟩ := Unbroken.cons_iff.1 template
    rw [expand, if_pos rfl, Unbroken.cons_iff]
    exact ⟨percent, ih (Unbroken.cons_iff.1 template).2 each⟩
  | case4 c cs texts other ih =>
    obtain ⟨-, template⟩ := Unbroken.cons_iff.1 template
    have first : OneLine (texts.headD "") := by
      cases texts with
      | nil => decide
      | cons text texts => exact each text List.mem_cons_self
    rw [expand, if_neg other, Unbroken.append_iff]
    exact ⟨first, ih (Unbroken.cons_iff.1 template).2 fun t rest =>
      each t (List.mem_of_mem_tail rest)⟩
  | case5 c cs texts notLast notPercent ih =>
    obtain ⟨first, template⟩ := Unbroken.cons_iff.1 template
    rw [expand.eq_4 texts c cs notLast notPercent, Unbroken.cons_iff]
    exact ⟨first, ih template each⟩

/-! ### Names -/

theorem qualify_oneLine {package name : String} (h : OneLine package) (h' : OneLine name) :
    OneLine (qualify package name) := by
  unfold qualify
  split
  · exact h'
  · exact (h.append (by decide)).append h'

namespace ClassName

def IsOneLine (c : ClassName) : Prop :=
  OneLine c.package ∧ OneLine c.outer ∧ ∀ name ∈ c.inner, OneLine name

instance : DecidablePred IsOneLine := fun c =>
  inferInstanceAs (Decidable (OneLine c.package ∧ OneLine c.outer ∧ ∀ name ∈ c.inner, OneLine name))

theorem isOneLine_topLevel {package name : String} (h : OneLine package) (h' : OneLine name) :
    (topLevel package name).IsOneLine :=
  ⟨h, h', List.forall_mem_nil _⟩

theorem IsOneLine.classText {c : ClassName} (h : c.IsOneLine) (imports : Imports) :
    OneLine (imports.classText c) := by
  obtain ⟨package, outer, inner⟩ := h
  have relative : OneLine c.relative :=
    (OneLine.intercalate_iff (by decide)).2 (List.forall_mem_cons.2 ⟨outer, inner⟩)
  unfold Imports.classText
  split
  · exact relative
  · exact qualify_oneLine package relative

end ClassName

/-! ### Arguments and fragments -/

def Argument.IsOneLine (a : Argument) : Prop := ∀ imports, OneLine (a.text imports)

def Fragment.IsOneLine (f : Fragment) : Prop := ∀ imports, OneLine (f.write imports)

namespace Argument

@[simp]
theorem isOneLine_string (value : String) : (string value).IsOneLine :=
  fun _ => oneLine_stringLiteral value

@[simp]
theorem isOneLine_verbatim_iff {text : String} : (verbatim text).IsOneLine ↔ OneLine text :=
  ⟨fun h => h .qualified, fun h _ => h⟩

@[simp]
theorem isOneLine_fragment_iff {f : Fragment} : (fragment f).IsOneLine ↔ f.IsOneLine := Iff.rfl

theorem isOneLine_type {c : ClassName} (h : c.IsOneLine) : (type c).IsOneLine := h.classText

theorem isOneLine_member {package name : String} (h : OneLine package) (h' : OneLine name) :
    (member (.topLevel package name)).IsOneLine := by
  intro imports
  rw [text, Imports.memberText]
  split
  · exact h'
  · exact qualify_oneLine h h'

end Argument

namespace Fragment

theorem isOneLine_literal {text : String} (h : OneLine text) : (literal text).IsOneLine := by
  intro imports
  rw [write, literal, writeParts, writePart, writeParts]
  exact h.append (by decide)

variable {bad : EmissionFault → Prop} {format : String} {arguments : List Argument}

theorem append?_isOneLine {f : Fragment} (h : f.IsOneLine) (template : OneLine format)
    (each : ∀ a ∈ arguments, a.IsOneLine) :
    Ends IsOneLine (fun _ => True) (f.append? format arguments) := by
  cases filled : f.append? format arguments with
  | error e => exact .error trivial
  | ok filled' =>
    refine .ok fun imports => ?_
    rw [OneLine, append?_written filled, Unbroken.append_iff]
    exact ⟨h imports, Template.unbroken_expand template
      (List.forall_mem_map.2 fun a listed => each a listed imports)⟩

theorem of_isOneLine (template : OneLine format) (each : ∀ a ∈ arguments, a.IsOneLine) :
    Ends IsOneLine (fun _ => True) (of format arguments) :=
  append?_isOneLine (fun _ => Unbroken.nil) template each

theorem join_isOneLine {fs : List Fragment} (each : ∀ f ∈ fs, f.IsOneLine) :
    (join ", " fs).IsOneLine := by
  intro imports
  rw [write_join, OneLine.intercalate_iff (by decide), List.forall_mem_map]
  exact fun f listed => each f listed imports

end Fragment

end Source

end ScriptRegistrar
