namespace ScriptRegistrar.Text

/-- The pieces between separators. There is always one more piece than there are separators. -/
def splitChars (sep : Char) : List Char → List (List Char)
  | [] => [[]]
  | c :: cs =>
    if c = sep then [] :: splitChars sep cs
    else
      match splitChars sep cs with
      | [] => [[c]]
      | piece :: pieces => (c :: piece) :: pieces

def split (sep : Char) (text : String) : List String :=
  (splitChars sep text.toList).map String.ofList

theorem splitChars_ne_nil (sep : Char) (cs : List Char) : splitChars sep cs ≠ [] := by
  cases cs with
  | nil => simp [splitChars]
  | cons c cs =>
    rw [splitChars]
    split
    · simp
    · split <;> simp

theorem intercalate_splitChars (sep : Char) (cs : List Char) :
    [sep].intercalate (splitChars sep cs) = cs := by
  induction cs with
  | nil => simp [splitChars, List.intercalate]
  | cons c cs ih =>
    rw [splitChars]
    split
    · next h =>
      subst h
      cases hs : splitChars c cs with
      | nil => exact absurd hs (splitChars_ne_nil c cs)
      | cons piece pieces => rw [hs] at ih; simpa [List.intercalate] using ih
    · cases hs : splitChars sep cs with
      | nil => exact absurd hs (splitChars_ne_nil sep cs)
      | cons piece pieces =>
        rw [hs] at ih
        cases pieces with
        | nil => simpa [List.intercalate] using ih
        | cons next pieces => simpa [List.intercalate] using ih

theorem splitChars_of_notMem {sep : Char} {cs : List Char} (h : sep ∉ cs) :
    splitChars sep cs = [cs] := by
  induction cs with
  | nil => rfl
  | cons c cs ih =>
    simp only [List.mem_cons, not_or] at h
    simp [splitChars, Ne.symm h.1, ih h.2]

theorem notMem_splitChars {sep : Char} {cs piece : List Char} (h : piece ∈ splitChars sep cs) :
    sep ∉ piece := by
  induction cs generalizing piece with
  | nil =>
    rw [splitChars, List.mem_singleton] at h
    subst h
    exact List.not_mem_nil
  | cons c cs ih =>
    rw [splitChars] at h
    split at h
    · rcases List.mem_cons.1 h with rfl | h
      · exact List.not_mem_nil
      · exact ih h
    · next different =>
      split at h
      · next none => exact absurd none (splitChars_ne_nil sep cs)
      · next first rest pieces =>
        rw [pieces] at ih
        rcases List.mem_cons.1 h with rfl | h
        · rw [List.mem_cons, not_or]
          exact ⟨Ne.symm different, ih List.mem_cons_self⟩
        · exact ih (List.mem_cons_of_mem _ h)

theorem splitChars_append {sep : Char} (cs rest : List Char) :
    splitChars sep (cs ++ sep :: rest) = splitChars sep cs ++ splitChars sep rest := by
  induction cs with
  | nil => simp [splitChars]
  | cons c cs ih =>
    rw [List.cons_append, splitChars, splitChars, ih]
    split
    · rfl
    · cases pieces : splitChars sep cs with
      | nil => exact absurd pieces (splitChars_ne_nil sep cs)
      | cons piece pieces => rfl

theorem splitChars_append_sep {sep : Char} {piece : List Char} (h : sep ∉ piece)
    (rest : List Char) : splitChars sep (piece ++ sep :: rest) = piece :: splitChars sep rest := by
  rw [splitChars_append, splitChars_of_notMem h]
  rfl

theorem splitChars_intercalate {sep : Char} {pieces : List (List Char)} (hne : pieces ≠ [])
    (h : ∀ piece ∈ pieces, sep ∉ piece) : splitChars sep ([sep].intercalate pieces) = pieces := by
  induction pieces with
  | nil => exact absurd rfl hne
  | cons piece pieces ih =>
    cases pieces with
    | nil => simpa [List.intercalate] using splitChars_of_notMem (h piece (by simp))
    | cons next pieces =>
      have tail := ih (by simp) fun p hp => h p (List.mem_cons_of_mem _ hp)
      rw [show [sep].intercalate (piece :: next :: pieces) =
        piece ++ sep :: [sep].intercalate (next :: pieces) by simp [List.intercalate]]
      rw [splitChars_append_sep (h piece (by simp)), tail]

theorem split_ne_nil (sep : Char) (text : String) : split sep text ≠ [] := by
  simp [split, splitChars_ne_nil]

theorem notMem_split {sep : Char} {text piece : String} (h : piece ∈ split sep text) :
    sep ∉ piece.toList := by
  obtain ⟨cs, member, rfl⟩ := List.mem_map.1 h
  rw [String.toList_ofList]
  exact notMem_splitChars member

theorem intercalate_split (sep : Char) (text : String) :
    (String.singleton sep).intercalate (split sep text) = text := by
  apply String.toList_injective
  simp [split, Function.comp_def, String.toList_intercalate, intercalate_splitChars]

theorem split_intercalate {sep : Char} {pieces : List String} (hne : pieces ≠ [])
    (h : ∀ piece ∈ pieces, sep ∉ piece.toList) :
    split sep ((String.singleton sep).intercalate pieces) = pieces := by
  simp only [split, String.toList_intercalate, String.toList_singleton]
  rw [splitChars_intercalate (by simpa using hne) (by simpa using h)]
  simp [Function.comp_def]

theorem split_append (sep : Char) (text rest : String) :
    split sep (text ++ String.singleton sep ++ rest) = split sep text ++ split sep rest := by
  simp [split, splitChars_append]

def cutLastChars? (sep : Char) : List Char → Option (List Char × List Char)
  | [] => none
  | c :: cs =>
    match cutLastChars? sep cs with
    | some (front, back) => some (c :: front, back)
    | none => if c = sep then some ([], cs) else none

def cutLast? (sep : Char) (text : String) : Option (String × String) :=
  (cutLastChars? sep text.toList).map fun (front, back) => (String.ofList front, String.ofList back)

theorem cutLastChars?_eq_none_iff {sep : Char} {cs : List Char} :
    cutLastChars? sep cs = none ↔ sep ∉ cs := by
  induction cs with
  | nil => simp [cutLastChars?]
  | cons c cs ih =>
    rw [cutLastChars?, List.mem_cons, not_or, ← ih]
    split
    · next found => simp [found]
    · next none =>
      rw [none, ite_eq_right_iff]
      simp [eq_comm]

theorem eq_of_cutLastChars? {sep : Char} {cs front back : List Char}
    (h : cutLastChars? sep cs = some (front, back)) : cs = front ++ sep :: back ∧ sep ∉ back := by
  induction cs generalizing front with
  | nil => cases h
  | cons c cs ih =>
    rw [cutLastChars?] at h
    split at h
    · next front' back' later =>
      cases h
      obtain ⟨whole, last⟩ := ih later
      exact ⟨congrArg (c :: ·) whole, last⟩
    · next none =>
      split at h
      · next here =>
        cases h
        exact ⟨congrArg (· :: back) here, cutLastChars?_eq_none_iff.1 none⟩
      · cases h

/-- The last piece is what stands behind the last separator. -/
theorem split_of_cutLast? {sep : Char} {text front back : String}
    (h : cutLast? sep text = some (front, back)) : split sep text = split sep front ++ [back] := by
  obtain ⟨⟨front', back'⟩, cut, parts⟩ := Option.map_eq_some_iff.1 h
  cases parts
  obtain ⟨whole, last⟩ := eq_of_cutLastChars? cut
  simp [split, whole, splitChars_append, splitChars_of_notMem last]

theorem split_of_cutLast?_none {sep : Char} {text : String} (h : cutLast? sep text = none) :
    split sep text = [text] := by
  have absent := cutLastChars?_eq_none_iff.1 (Option.map_eq_none_iff.1 h)
  simp [split, splitChars_of_notMem absent]

def stripPrefix? [DecidableEq α] : (pre text : List α) → Option (List α)
  | [], text => some text
  | _ :: _, [] => none
  | p :: pre, c :: text => if p = c then stripPrefix? pre text else none

theorem stripPrefix?_eq_some_iff [DecidableEq α] {pre text rest : List α} :
    stripPrefix? pre text = some rest ↔ text = pre ++ rest := by
  induction pre generalizing text with
  | nil => simp [stripPrefix?]
  | cons p pre ih =>
    cases text with
    | nil => simp [stripPrefix?]
    | cons c text =>
      rw [stripPrefix?]
      split
      · next h => subst h; simp [ih]
      · next h => simp [Ne.symm h]

def dropStart? (pre text : String) : Option String :=
  (stripPrefix? pre.toList text.toList).map String.ofList

def dropEnd? (suffix text : String) : Option String :=
  (stripPrefix? suffix.toList.reverse text.toList.reverse).map fun cs => String.ofList cs.reverse

theorem dropStart?_eq_some_iff {pre text rest : String} :
    dropStart? pre text = some rest ↔ text = pre ++ rest := by
  simp only [dropStart?, Option.map_eq_some_iff, stripPrefix?_eq_some_iff]
  constructor
  · rintro ⟨cs, h, rfl⟩
    apply String.toList_injective
    simp [h]
  · rintro rfl
    exact ⟨rest.toList, by simp⟩

theorem dropEnd?_eq_some_iff {suffix text rest : String} :
    dropEnd? suffix text = some rest ↔ text = rest ++ suffix := by
  simp only [dropEnd?, Option.map_eq_some_iff, stripPrefix?_eq_some_iff]
  constructor
  · rintro ⟨cs, h, rfl⟩
    apply String.toList_injective
    have := congrArg List.reverse h
    simpa using this
  · rintro rfl
    exact ⟨rest.toList.reverse, by simp⟩

def replaceChar (old : Char) (new : String) (text : String) : String :=
  String.ofList (text.toList.flatMap fun c => if c = old then new.toList else [c])

end ScriptRegistrar.Text
