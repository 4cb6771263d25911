import ScriptRegistrar.Proofs.Registration.Property

namespace ScriptRegistrar

open Source (Fragment)

/-! ### What a type takes -/

/-- The types that take the hint. No other type takes any. -/
def HintRequest.Suits (t : ResolvedType) : HintRequest → Prop
  | .intFlag => t.isInt = true
  | .intRange => t.isInt = true ∨ t.isLong = true
  | .doubleRange | .expEasing => t.isFloat = true ∨ t.isDouble = true
  | .multilineText | .placeholderText | .file | .dir => t.isString = true
  | .colorNoAlpha => t.hasClass "godot.core.Color" = true ∧ t.isEngineArray = false

/-- A type has one class. -/
theorem ResolvedType.hasClass_false {t : ResolvedType} {name other : String}
    (named : t.hasClass name = true) (differ : name ≠ other) : t.hasClass other = false := by
  by_contra h
  rw [Bool.not_eq_false] at h
  exact differ ((DottedName.eq_text_of_is named).trans (DottedName.eq_text_of_is h).symm)

theorem ResolvedType.isNonNull_false {t : ResolvedType} {name other : String}
    (named : t.hasClass name = true) (differ : name ≠ other) : t.isNonNull other = false := by
  rw [isNonNull, hasClass_false named differ, Bool.and_false]

namespace HintRow

def Covers (t : ResolvedType) : HintRow → Prop
  | int => t.isInt = true
  | long => t.isLong = true
  | real => t.isFloat = true ∨ t.isDouble = true
  | string => t.isString = true
  | boolean => t.isBoolean = true
  | core isColor => t.isEngineArray = false ∧ t.hasClass "godot.core.Color" = isColor
  | reference => t.isReference = true
  | object => t.isEngineArray = true ∨ t.isOfType "godot.Object" = true

theorem covers_of_of? {t : ResolvedType} {row : HintRow} (h : of? t = some row) :
    row.Covers t := by
  unfold of? at h
  split at h
  · next isInt => cases h; exact isInt
  split at h
  · next isLong => cases h; exact isLong
  split at h
  · next isReal => cases h; exact Bool.or_eq_true_iff.1 isReal
  split at h
  · next isString => cases h; exact isString
  split at h
  · next isBoolean => cases h; exact isBoolean
  split at h
  · next isCore =>
    cases h
    exact ⟨by simpa using (Bool.and_eq_true_iff.1 isCore).2, rfl⟩
  split at h
  · next isReference => cases h; exact isReference
  split at h
  · next isObject => cases h; exact Bool.or_eq_true_iff.1 isObject
  · cases h

theorem suits_of_hint? {t : ResolvedType} {row : HintRow} {kind : HintRequest} {isGlobal : Bool}
    (covers : row.Covers t) (taken : (row.hint? kind isGlobal).isSome) : kind.Suits t := by
  cases row with
  | core isColor =>
    cases isColor <;> cases kind <;> simp_all [hint?, Covers, HintRequest.Suits]
  | _ => cases kind <;> simp_all [hint?, Covers, HintRequest.Suits]

end HintRow

/-! ### Types that take a hint -/

namespace HintRow

section
variable {t : ResolvedType}

theorem of?_int (h : t.isInt = true) : of? t = some int := if_pos h

theorem of?_long (h : t.isLong = true) : of? t = some long := by
  have long : t.hasClass "kotlin.Long" = true := (Bool.and_eq_true_iff.1 h).2
  have noInt : t.isInt = false := ResolvedType.isNonNull_false long (by decide)
  simp [of?, noInt, h]

theorem of?_real (h : t.isFloat = true ∨ t.isDouble = true) : of? t = some real := by
  obtain ⟨noInt, noLong⟩ : t.isInt = false ∧ t.isLong = false := by
    rcases h with float | double
    · have float : t.hasClass "kotlin.Float" = true := (Bool.and_eq_true_iff.1 float).2
      exact ⟨ResolvedType.isNonNull_false float (by decide),
        ResolvedType.isNonNull_false float (by decide)⟩
    · have double : t.hasClass "kotlin.Double" = true := (Bool.and_eq_true_iff.1 double).2
      exact ⟨ResolvedType.isNonNull_false double (by decide),
        ResolvedType.isNonNull_false double (by decide)⟩
  simp [of?, noInt, noLong, h]

theorem of?_of_noNumber {name : String} (named : t.hasClass name = true)
    (noNumber : name ∉ ["kotlin.Int", "kotlin.Long", "kotlin.Float", "kotlin.Double"]) :
    of? t =
      if t.isString then some string
      else if t.isBoolean then some boolean
      else if t.isCore && !t.isEngineArray then some (core (t.hasClass "godot.core.Color"))
      else if t.isReference then some reference
      else if t.isEngineArray || t.isOfType "godot.Object" then some object
      else Option.none := by
  have none {other : String}
      (number : other ∈ ["kotlin.Int", "kotlin.Long", "kotlin.Float", "kotlin.Double"]) :
      t.isNonNull other = false :=
    ResolvedType.isNonNull_false named (ne_of_mem_of_not_mem number noNumber).symm
  have noInt : t.isInt = false := none (by decide)
  have noLong : t.isLong = false := none (by decide)
  have noFloat : t.isFloat = false := none (by decide)
  have noDouble : t.isDouble = false := none (by decide)
  simp [of?, noInt, noLong, noFloat, noDouble]

theorem of?_string (h : t.isString = true) : of? t = some string := by
  rw [of?_of_noNumber h (by decide), if_pos h]

theorem of?_color (h : t.hasClass "godot.core.Color" = true) (noArray : t.isEngineArray = false) :
    of? t = some (core true) := by
  have noString : t.isString = false := ResolvedType.hasClass_false h (by decide)
  have noBoolean : t.isBoolean = false := ResolvedType.hasClass_false h (by decide)
  have isCore : t.isCore = true := by
    rw [ResolvedType.isCore, VariantTag.ofCore?, Option.isSome_map, List.find?_isSome]
    exact ⟨("godot.core.Color", .color), by decide, h⟩
  rw [of?_of_noNumber h (by decide)]
  simp [noString, noBoolean, isCore, noArray, h]

/-- The row of a type takes a hint exactly if the type does. -/
theorem hint?_isSome_iff (kind : HintRequest) (isGlobal : Bool) :
    (∃ row, of? t = some row ∧ (row.hint? kind isGlobal).isSome) ↔ kind.Suits t := by
  refine ⟨fun ⟨row, found, taken⟩ => suits_of_hint? (covers_of_of? found) taken, fun suits => ?_⟩
  cases kind with
  | intFlag => exact ⟨int, of?_int suits, rfl⟩
  | intRange =>
    rcases suits with isInt | isLong
    · exact ⟨int, of?_int isInt, rfl⟩
    · exact ⟨long, of?_long isLong, rfl⟩
  | doubleRange => exact ⟨real, of?_real suits, rfl⟩
  | expEasing => exact ⟨real, of?_real suits, rfl⟩
  | multilineText => exact ⟨string, of?_string suits, rfl⟩
  | placeholderText => exact ⟨string, of?_string suits, rfl⟩
  | file => exact ⟨string, of?_string suits, rfl⟩
  | dir => exact ⟨string, of?_string suits, rfl⟩
  | colorNoAlpha => exact ⟨core true, of?_color suits.1 suits.2, rfl⟩

end

end HintRow

/-! ### The hint that is looked at -/

section
variable {before after : Annotations} {a : AnnotationUse} {kind : HintRequest}

theorem Annotations.hint?_first (none : before.hint? = none) (hint : a.hint? = some kind) :
    Annotations.hint? (before ++ a :: after) = some (a, kind) := by
  rw [hint?, List.findSome?_append, ← hint?, none, Option.none_or, List.findSome?_cons, hint]
  rfl

/-- A hint behind another one does not show. -/
theorem Annotations.hint?_later (earlier : before.hint?.isSome) (rest : Annotations) :
    Annotations.hint? (before ++ rest) = before.hint? := by
  rw [hint?, List.findSome?_append, ← hint?, Option.or_of_isSome earlier]

theorem AnnotationUse.not_registerProperty_of_hint? (hint : a.hint? = some kind) :
    a.name.is AnnotationName.registerProperty = false := by
  by_contra registers
  rw [Bool.not_eq_false] at registers
  rw [hint?] at hint
  have named : a.name.is kind.name = true := by simpa using List.find?_some hint
  have same : AnnotationName.registerProperty = kind.name :=
    (DottedName.eq_text_of_is registers).trans (DottedName.eq_text_of_is named).symm
  clear registers named hint
  revert same
  cases kind <;> decide

theorem Annotations.get?_without_hint (hint : a.hint? = some kind) :
    Annotations.get? (before ++ after) AnnotationName.registerProperty =
      Annotations.get? (before ++ a :: after) AnnotationName.registerProperty := by
  have other := AnnotationUse.not_registerProperty_of_hint? hint
  simp only [get?, List.find?_append, List.find?_cons, other]

end

namespace PropertyDecl

theorem typeHint_succeeds_iff {p : PropertyDecl} {a : AnnotationUse} {kind : HintRequest}
    (first : p.annotations.hint? = some (a, kind)) :
    Succeeds p.typeHint ↔ kind.Suits p.type := by
  unfold typeHint
  refine ((succeeds_bind fun hint _ => iff_true_intro ⟨_, rfl⟩).trans (and_true _).to_iff).trans ?_
  rw [← HintRow.hint?_isSome_iff kind (a.flag "global"), selectHint, first]
  cases HintRow.of? p.type with
  | none => simp
  | some row =>
    cases taken : row.hint? kind (a.flag "global") with
    | none => simp [taken]
    | some hint => simp [taken]

/-! ### Other annotations -/

section
variable {p : PropertyDecl} {annotations : Annotations}

theorem isVisible_of_annotations
    (registered : annotations.get? AnnotationName.registerProperty =
      p.annotations.get? AnnotationName.registerProperty) :
    PropertyDecl.isVisible { p with annotations } = p.isVisible := by
  simp only [isVisible, Annotations.boolD, Annotations.value?, registered]

theorem rpcMode_of_annotations
    (registered : annotations.get? AnnotationName.registerProperty =
      p.annotations.get? AnnotationName.registerProperty) :
    PropertyDecl.rpcMode { p with annotations } = p.rpcMode := by
  simp only [rpcMode, Vocabulary.rpcMode, Annotations.value?, registered]

theorem checkUsage_of_visible (visible : p.isVisible = true) :
    p.checkUsage = if p.isVar then .ok () else .error (.immutableProperty p.qualifiedName) := by
  have none : (p.annotations.hint?.filter fun _ => !p.isVisible) = none := by
    simp [visible]
  rw [checkUsage, none]

theorem hintArgument?_of_annotations (same : annotations.hint? = p.annotations.hint?) :
    PropertyDecl.hintArgument? { p with annotations } = p.hintArgument? := by
  funext name
  simp only [hintArgument?, same]

theorem hintText_of_annotations (same : annotations.hint? = p.annotations.hint?)
    (hint : EditorHint) : PropertyDecl.hintText { p with annotations } hint = p.hintText hint := by
  have argument := hintArgument?_of_annotations same
  have flag : PropertyDecl.hintFlag { p with annotations } = p.hintFlag := by
    funext name
    rw [hintFlag, argument]
    rfl
  simp only [hintText, hintNumber, hintStrings, rangeEnd, argument, flag]

theorem typeHint_of_annotations (same : annotations.hint? = p.annotations.hint?) :
    PropertyDecl.typeHint { p with annotations } = p.typeHint := by
  have select : PropertyDecl.selectHint { p with annotations } = p.selectHint := by
    simp only [selectHint, same]
    rfl
  simp only [typeHint, select, hintText_of_annotations same]

/-- What the statement takes from the annotations: the one that registers the property, whether the
property is used well, and where the route asks for it the hint. -/
theorem registration_of_annotations
    (registered : annotations.get? AnnotationName.registerProperty =
      p.annotations.get? AnnotationName.registerProperty)
    (usage : PropertyDecl.checkUsage { p with annotations } = p.checkUsage)
    (hint : PropertyRoute.of p.type = .plain ∨ PropertyRoute.of p.type = .reference →
      PropertyDecl.typeHint { p with annotations } = p.typeHint) :
    PropertyDecl.registration { p with annotations } = p.registration := by
  have visible := isVisible_of_annotations registered
  have mode := rpcMode_of_annotations registered
  have value : PropertyDecl.defaultValue { p with annotations } = p.defaultValue := by
    simp only [defaultValue, usage, visible]
    rfl
  unfold registration
  cases route : PropertyRoute.of p.type with
  | plain =>
    simp only [plainStatement, hint (.inl route), visible, mode, value]
  | enum => simp only [enumStatement, visible, mode, value]
  | enumList => simp only [enumStatement, visible, mode, value]
  | enumFlags => simp only [enumStatement, visible, mode, value]
  | reference =>
    simp only [referenceStatement, usage, hint (.inr route), visible, mode]
    rfl

end

/-- Where the route looks at the hint, the type of a registered property takes the first one. A
later one could as well be left out, and so could each one of a visible property on the other
routes. -/
theorem hint_fits_or_passed_over (p : PropertyDecl) (before : Annotations) (a : AnnotationUse)
    (after : Annotations) (kind : HintRequest) (listed : p.annotations = before ++ a :: after)
    (hint : a.hint? = some kind) :
    (before.hint? = none →
      PropertyRoute.of p.type = .plain ∨ PropertyRoute.of p.type = .reference →
        (Succeeds p.typeHint ↔ kind.Suits p.type) ∧
        (Succeeds p.registration → kind.Suits p.type)) ∧
    (before.hint?.isSome ∨ (PropertyRoute.of p.type ≠ .plain ∧
        PropertyRoute.of p.type ≠ .reference ∧ p.isVisible = true) →
      p.registration = PropertyDecl.registration { p with annotations := before ++ after }) := by
  have registered : Annotations.get? (before ++ after) AnnotationName.registerProperty =
      p.annotations.get? AnnotationName.registerProperty := by
    rw [listed]
    exact Annotations.get?_without_hint hint
  constructor
  · intro none looks
    have first : p.annotations.hint? = some (a, kind) := by
      rw [listed]
      exact Annotations.hint?_first none hint
    refine ⟨typeHint_succeeds_iff first, fun succeeds => (typeHint_succeeds_iff first).1 ?_⟩
    have meets := (registration_succeeds_iff.1 succeeds).2
    rcases looks with route | route
    · rw [route] at meets
      exact meets.1
    · rw [route] at meets
      exact meets.2
  · rintro (earlier | ⟨noPlain, noReference, visible⟩)
    · have same : Annotations.hint? (before ++ after) = p.annotations.hint? := by
        rw [listed, Annotations.hint?_later earlier, Annotations.hint?_later earlier]
      refine (registration_of_annotations registered ?_ fun _ => typeHint_of_annotations same).symm
      simp only [checkUsage, same, isVisible_of_annotations registered]
      rfl
    · refine (registration_of_annotations registered ?_ ?_).symm
      · rw [checkUsage_of_visible visible,
          checkUsage_of_visible ((isVisible_of_annotations registered).trans visible)]
        rfl
      · rintro (plain | reference)
        · exact absurd plain noPlain
        · exact absurd reference noReference

end PropertyDecl

namespace Sample

def hinted (hints : List HintRequest) : Annotations :=
  .plain AnnotationName.registerProperty :: hints.map fun hint => .plain hint.name

/-- An integer with a range. Behind it stands a hint for texts. -/
def stamina : PropertyDecl where
  owner := .parse "game.Player"
  name := "stamina"
  type := .simple (.parse "kotlin.Int")
  annotations := hinted [.intRange, .multilineText]
  isVar := true
  initializer := some (.constant (.int 1))

/-- A list of an enum with a range. No list takes a hint. -/
def elements : PropertyDecl where
  owner := .parse "game.Player"
  name := "elements"
  type := (ResolvedType.simple (.parse "godot.core.VariantArray")).withArgument
    (ResolvedType.simple (.parse "game.Element")).asEnum
  annotations := hinted [.intRange]
  isVar := true
  initializer := some (.call (.parse "godot.core.VariantArray") .constructor [] [] none)

end Sample

theorem stamina_range_fits :
    HintRequest.intRange.Suits Sample.stamina.type ∧
      Sample.stamina.registration = PropertyDecl.registration
        { Sample.stamina with annotations := Sample.hinted [.intRange] } := by
  have registers : Succeeds Sample.stamina.registration := succeeds_of_isSome (by decide +kernel)
  have range := Sample.stamina.hint_fits_or_passed_over (Sample.hinted [])
    (.plain HintRequest.intRange.name) [.plain HintRequest.multilineText.name] .intRange rfl
    (by decide +kernel)
  have text := Sample.stamina.hint_fits_or_passed_over (Sample.hinted [.intRange])
    (.plain HintRequest.multilineText.name) [] .multilineText rfl (by decide +kernel)
  exact ⟨(range.1 (by decide +kernel) (.inl (by decide +kernel))).2 registers,
    text.2 (.inl (by decide +kernel))⟩

/-- A property may be registered with a hint that its type does not take. -/
theorem elements_registered_with_range :
    ¬ ∀ p : PropertyDecl, Succeeds p.registration →
      ∀ a ∈ p.annotations, ∀ kind, a.hint? = some kind → kind.Suits p.type := by
  intro allFit
  have registers : Succeeds Sample.elements.registration := succeeds_of_isSome (by decide +kernel)
  have suits := allFit Sample.elements registers (.plain HintRequest.intRange.name)
    (List.mem_cons_of_mem _ List.mem_cons_self) .intRange (by decide +kernel)
  rcases suits with isInt | isLong
  · exact absurd isInt (by decide)
  · exact absurd isLong (by decide)

end ScriptRegistrar
