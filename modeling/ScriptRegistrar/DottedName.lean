import ScriptRegistrar.Text.Split

namespace ScriptRegistrar

structure DottedName where
  name : String
  package : List String
deriving DecidableEq, Repr, Inhabited

namespace DottedName

def order : DottedName → DottedName → Ordering :=
  compareLex (compareOn DottedName.package) (compareOn DottedName.name)

instance : Ord DottedName := ⟨order⟩

instance : Std.TransOrd DottedName :=
  inferInstanceAs
    (Std.TransCmp (compareLex (compareOn DottedName.package) (compareOn DottedName.name)))

instance : Std.LawfulEqOrd DottedName where
  compare_self {a} := by
    change (compare a.package a.package).then (compare a.name a.name) = .eq
    simp
  eq_of_compare {a b} h := by
    change (compare a.package b.package).then (compare a.name b.name) = .eq at h
    rw [Ordering.then_eq_eq, Std.LawfulEqOrd.compare_eq_iff_eq,
      Std.LawfulEqOrd.compare_eq_iff_eq] at h
    cases a; cases b; simp_all

def segments (n : DottedName) : List String := n.package ++ [n.name]

def ofSegments (segments : List String) : DottedName :=
  ⟨segments.getLastD "", segments.dropLast⟩

def topLevel (name : String) : DottedName := ⟨name, []⟩

/-- Reads a text, dropping empty segments. -/
def parse (text : String) : DottedName :=
  ofSegments ((Text.split '.' text).filter (· ≠ ""))

def text (n : DottedName) : String := ".".intercalate n.segments

def packageText (n : DottedName) : String := ".".intercalate n.package

def isTopLevel (n : DottedName) : Bool := n.package.isEmpty

def child (n : DottedName) (name : String) : DottedName := ⟨name, n.segments⟩

/-- The name of the package, if there is one. -/
def parent? (n : DottedName) : Option DottedName :=
  if n.package.isEmpty then none else some (ofSegments n.package)

/-- Whether the text is exactly the name's. What stands behind its last dot is compared first, then
the pieces before it one by one. No piece is dropped. -/
def is (n : DottedName) (text : String) : Bool :=
  match Text.cutLast? '.' text with
  | some (package, name) =>
    let pieces := Text.split '.' package
    n.name = name && n.package.length = pieces.length &&
      (n.package.zip pieces).all fun (a, b) => a = b
  | none => n.package.isEmpty && n.name = text

theorem segments_ne_nil (n : DottedName) : n.segments ≠ [] := by simp [segments]

@[simp]
theorem ofSegments_segments (n : DottedName) : ofSegments n.segments = n := by
  simp [ofSegments, segments]

theorem segments_ofSegments {s : List String} (h : s ≠ []) : (ofSegments s).segments = s := by
  simp only [ofSegments, segments]
  rw [List.getLastD_eq_getLast?, List.getLast?_eq_some_getLast h]
  exact List.dropLast_concat_getLast h

theorem segments_injective {a b : DottedName} (h : a.segments = b.segments) : a = b := by
  rw [← ofSegments_segments a, h, ofSegments_segments]

/-- Every segment holds something and no dot. -/
def Proper (n : DottedName) : Prop := ∀ s ∈ n.segments, s ≠ "" ∧ '.' ∉ s.toList

theorem split_text {n : DottedName} (h : ∀ s ∈ n.segments, '.' ∉ s.toList) :
    Text.split '.' n.text = n.segments :=
  Text.split_intercalate (segments_ne_nil n) h

/-- Where no piece is empty, the pieces are the segments. -/
theorem segments_parse {text : String} (full : "" ∉ Text.split '.' text) :
    (parse text).segments = Text.split '.' text := by
  have keep : (Text.split '.' text).filter (· ≠ "") = Text.split '.' text :=
    List.filter_eq_self.2 fun s member => by
      simpa using fun empty : s = "" => full (empty ▸ member)
  rw [parse, keep, segments_ofSegments (Text.split_ne_nil '.' text)]

theorem parse_text {n : DottedName} (h : n.Proper) : parse n.text = n := by
  have pieces := split_text fun s hs => (h s hs).2
  have full : "" ∉ Text.split '.' n.text := fun empty => (h "" (pieces ▸ empty)).1 rfl
  exact segments_injective ((segments_parse full).trans pieces)

theorem all_zip_iff {xs ys : List String} :
    (xs.length = ys.length && (xs.zip ys).all fun (a, b) => a = b) = true ↔ xs = ys := by
  induction xs generalizing ys with
  | nil => cases ys <;> simp
  | cons x xs ih =>
    cases ys with
    | nil => simp
    | cons y ys =>
      rw [List.cons.injEq, ← ih]
      simp [and_left_comm]

theorem is_eq_split (n : DottedName) (text : String) :
    n.is text = (Text.split '.' text == n.segments) := by
  rw [is, Bool.eq_iff_iff, beq_iff_eq, segments]
  split
  · next package name cut =>
    rw [Text.split_of_cutLast? cut, Bool.and_assoc, Bool.and_eq_true, all_zip_iff]
    simp [eq_comm, and_comm]
  · next uncut =>
    rw [Text.split_of_cutLast?_none uncut]
    simp [List.singleton_eq_append_iff]

theorem eq_text_of_is {n : DottedName} {text : String} (h : n.is text = true) : text = n.text := by
  rw [is_eq_split, beq_iff_eq] at h
  rw [DottedName.text, ← h]
  exact (Text.intercalate_split '.' text).symm

theorem is_iff {n : DottedName} (h : ∀ s ∈ n.segments, '.' ∉ s.toList) {text : String} :
    n.is text = true ↔ text = n.text := by
  refine ⟨eq_text_of_is, ?_⟩
  rintro rfl
  rw [is_eq_split, split_text h, beq_self_eq_true]

example : (parse ".godot..Node").text = "godot.Node" := by decide +kernel
example : (parse "game.Player").is "game..Player" = false := by decide +kernel

end DottedName

end ScriptRegistrar
