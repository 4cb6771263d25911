import ScriptRegistrar.Proofs.DottedName
import ScriptRegistrar.Registration.EditorHint

namespace ScriptRegistrar

/-! ### The table -/

namespace ResolvedType

/-- The class of the type, whether or not it is nullable. -/
def isClass (t : ResolvedType) (name : String) : Bool := t.name = .parse name

def isSubtype (t : ResolvedType) (name : String) : Bool :=
  t.isClass name || t.supertypes.contains (.parse name)

def isNumber (t : ResolvedType) (name : String) : Bool := !t.nullable && t.isClass name

def isCoreClass (t : ResolvedType) : Bool := VariantTag.coreTypes.any fun entry => t.isClass entry.1

def isArrayClass (t : ResolvedType) : Bool :=
  t.isSubtype "godot.core.GodotArray" || t.isSubtype "godot.core.VariantArray"

end ResolvedType

/-- A row of the table: what types it is for, their hint without an annotation, and the hints that
follow from the annotations that they take. -/
structure TableRow where
  fits : ResolvedType → Bool
  plain : EditorHint := .none
  listed : List (HintRequest × EditorHint) := []

namespace TableRow

def int : TableRow where
  fits t := t.isNumber "kotlin.Int"
  listed := [(.intFlag, .flags), (.intRange, .range)]

def long : TableRow where
  fits t := t.isNumber "kotlin.Long"
  listed := [(.intRange, .range)]

def real : TableRow where
  fits t := t.isNumber "kotlin.Float" || t.isNumber "kotlin.Double"
  listed := [(.doubleRange, .range), (.expEasing, .expEasing)]

def string : TableRow where
  fits t := t.isClass "kotlin.String"
  listed := [(.multilineText, .multilineText), (.placeholderText, .placeholderText),
    (.file, .file), (.dir, .dir)]

def boolean : TableRow where
  fits t := t.isClass "kotlin.Boolean"

def color : TableRow where
  fits t := t.isClass "godot.core.Color" && !t.isArrayClass
  listed := [(.colorNoAlpha, .colorNoAlpha)]

def core : TableRow where
  fits t := t.isCoreClass && !t.isArrayClass

def reference : TableRow where
  fits t := t.isSubtype "godot.Reference"
  plain := .resourceType

def object : TableRow where
  fits t := t.isArrayClass || t.isSubtype "godot.Object"

end TableRow

def hintTable : List TableRow :=
  [.int, .long, .real, .string, .boolean, .color, .core, .reference, .object]

/-- A path may lead outside the project. -/
def EditorHint.outside (hint : EditorHint) (isGlobal : Bool) : EditorHint :=
  match hint, isGlobal with
  | .file, true => .globalFile
  | .dir, true => .globalDir
  | hint, _ => hint

/-- The annotation says that the path is global. -/
def AnnotationUse.IsGlobal (a : AnnotationUse) : Prop := a.argument? "global" = some (.bool true)

def AnnotationUse.Requests (a : AnnotationUse) (kind : HintRequest) : Prop :=
  a.name = .parse kind.name

/-- The first annotation of a list that requests a hint. -/
def Annotations.FirstHint (annotations : Annotations) (a : AnnotationUse) (kind : HintRequest) :
    Prop :=
  ∃ before after, annotations = before ++ a :: after ∧ a.Requests kind ∧
    ∀ b ∈ before, ∀ other, ¬ b.Requests other

def Annotations.Unhinted (annotations : Annotations) : Prop :=
  ∀ a ∈ annotations, ∀ kind, ¬ a.Requests kind

/-- What the table says of a property. Only resources have a text without an annotation. -/
inductive HintFromTable (p : PropertyDecl) : Except DeclarationFault TypeHint → Prop
  | noRow (none : ∀ row ∈ hintTable, row.fits p.type = false) :
    HintFromTable p (.error (.noHint p.qualifiedName p.type.text))
  | plain {row} (first : hintTable.find? (·.fits p.type) = some row)
    (unhinted : p.annotations.Unhinted) :
    HintFromTable p (.ok ⟨row.plain, if row.plain = .resourceType then p.type.simpleName else ""⟩)
  | unlisted {row a kind} (first : hintTable.find? (·.fits p.type) = some row)
    (hinted : p.annotations.FirstHint a kind) (unlisted : row.listed.lookup kind = none) :
    HintFromTable p (.error (.wrongHint p.qualifiedName a.name p.type.text))
  | listed {row a kind hint isGlobal} (first : hintTable.find? (·.fits p.type) = some row)
    (hinted : p.annotations.FirstHint a kind) (listed : row.listed.lookup kind = some hint)
    (global : isGlobal = true ↔ a.IsGlobal) :
    HintFromTable p (.ok ⟨hint.outside isGlobal, p.hintText (hint.outside isGlobal)⟩)

/-! ### Classes by name -/

namespace ResolvedType

section
variable {name : String} (proper : "" ∉ Text.split '.' name) (t : ResolvedType)
include proper

theorem hasClass_eq : t.hasClass name = t.isClass name := DottedName.is_eq_decide proper t.name

theorem isNonNull_eq : t.isNonNull name = t.isNumber name := by
  rw [isNonNull, isNumber, hasClass_eq proper]

theorem isOfType_eq : t.isOfType name = t.isSubtype name := by
  have supertype (n : DottedName) : n.is name = (DottedName.parse name == n) := by
    rw [DottedName.is_eq_decide proper, Bool.eq_iff_iff, decide_eq_true_iff, beq_iff_eq, eq_comm]
  rw [isOfType, isSubtype, hasClass_eq proper, List.contains_eq_any_beq]
  simp only [supertype]

end

variable (t : ResolvedType)

theorem isCore_eq : t.isCore = t.isCoreClass := by
  have proper : ∀ entry ∈ VariantTag.coreTypes, "" ∉ Text.split '.' entry.1 := by decide +kernel
  rw [isCore, VariantTag.ofCore?, Option.isSome_map, isCoreClass, Bool.eq_iff_iff,
    List.find?_isSome, List.any_eq_true]
  exact exists_congr fun entry => and_congr_right fun member => by
    rw [hasClass_eq (proper entry member)]

theorem isEngineArray_eq : t.isEngineArray = t.isArrayClass := by
  rw [isEngineArray, isOfType_eq (by decide +kernel), isOfType_eq (by decide +kernel), isArrayClass]

end ResolvedType

/-! ### The row of a type -/

theorem ResolvedType.isCoreClass_of_color {t : ResolvedType}
    (color : t.isClass "godot.core.Color" = true) : t.isCoreClass = true :=
  List.any_eq_true.2 ⟨("godot.core.Color", .color), by decide, color⟩

namespace HintRow

def entry : HintRow → TableRow
  | int => .int
  | long => .long
  | real => .real
  | string => .string
  | boolean => .boolean
  | core true => .color
  | core false => .core
  | reference => .reference
  | object => .object

theorem of?_eq (t : ResolvedType) : of? t =
    if TableRow.int.fits t then some int
    else if TableRow.long.fits t then some long
    else if TableRow.real.fits t then some real
    else if TableRow.string.fits t then some string
    else if TableRow.boolean.fits t then some boolean
    else if TableRow.core.fits t then some (core (t.isClass "godot.core.Color"))
    else if TableRow.reference.fits t then some reference
    else if TableRow.object.fits t then some object
    else Option.none := by
  rw [of?, ResolvedType.isInt, ResolvedType.isLong, ResolvedType.isFloat, ResolvedType.isDouble,
    ResolvedType.isString, ResolvedType.isBoolean, ResolvedType.isReference, t.isEngineArray_eq,
    t.isCore_eq]
  iterate 4 rw [ResolvedType.isNonNull_eq (by decide +kernel)]
  iterate 3 rw [ResolvedType.hasClass_eq (by decide +kernel)]
  iterate 2 rw [ResolvedType.isOfType_eq (by decide +kernel)]
  rfl

theorem find?_cons_entry {fits : TableRow → Bool} {rows : List TableRow} {rest : Option HintRow}
    (row : HintRow) (later : rows.find? fits = rest.map entry) :
    (row.entry :: rows).find? fits = (if fits row.entry then some row else rest).map entry := by
  rw [List.find?_cons, later]
  cases fits row.entry <;> rfl

/-- Two rows of the table are for the types of the core. -/
theorem find?_core {t : ResolvedType} {rows : List TableRow} {rest : Option HintRow}
    (later : rows.find? (·.fits t) = rest.map entry) :
    (.color :: .core :: rows : List TableRow).find? (·.fits t) =
      (if TableRow.core.fits t then some (core (t.isClass "godot.core.Color")) else rest).map
        entry := by
  have colorFits : TableRow.color.fits t =
      (t.isClass "godot.core.Color" && TableRow.core.fits t) := by
    change (_ && !t.isArrayClass) = (_ && (t.isCoreClass && !t.isArrayClass))
    cases color : t.isClass "godot.core.Color" with
    | false => rfl
    | true => rw [ResolvedType.isCoreClass_of_color color, Bool.true_and, Bool.true_and]
  rw [List.find?_cons, List.find?_cons, later, colorFits]
  cases t.isClass "godot.core.Color" <;> cases TableRow.core.fits t <;> rfl

theorem find?_hintTable (t : ResolvedType) :
    hintTable.find? (·.fits t) = (of? t).map entry := by
  rw [of?_eq]
  -- Row by row, as both try them in the same order.
  refine find?_cons_entry int (find?_cons_entry long (find?_cons_entry real
    (find?_cons_entry string (find?_cons_entry boolean (find?_core ?_)))))
  exact find?_cons_entry reference (find?_cons_entry object rfl)

theorem hint?_eq_lookup (row : HintRow) (kind : HintRequest) (isGlobal : Bool) :
    row.hint? kind isGlobal = (row.entry.listed.lookup kind).map (·.outside isGlobal) := by
  cases isGlobal <;> cases row with
  | core isColor => cases isColor <;> cases kind <;> rfl
  | _ => cases kind <;> rfl

theorem plainHint_eq (row : HintRow) : row.plainHint = row.entry.plain := by
  cases row with
  | core isColor => cases isColor <;> rfl
  | _ => rfl

end HintRow

/-! ### The hint of a property -/

theorem AnnotationUse.hint?_eq_some_iff {a : AnnotationUse} {kind : HintRequest} :
    a.hint? = some kind ↔ a.Requests kind := by
  have proper (kind : HintRequest) : "" ∉ Text.split '.' kind.name := by
    cases kind <;> decide +kernel
  unfold hint? Requests
  constructor
  · intro found
    have named := List.find?_some found
    rwa [DottedName.is_eq_decide (proper kind), decide_eq_true_iff] at named
  · intro named
    rw [named]
    cases kind <;> decide +kernel

theorem AnnotationUse.hint?_eq_none_iff {a : AnnotationUse} :
    a.hint? = none ↔ ∀ kind, ¬ a.Requests kind := by
  rw [Option.eq_none_iff_forall_ne_some]
  exact forall_congr' fun kind => not_congr hint?_eq_some_iff

theorem Annotations.hint?_eq_none_iff {annotations : Annotations} :
    annotations.hint? = none ↔ annotations.Unhinted := by
  simp only [hint?, List.findSome?_eq_none_iff, Option.map_eq_none_iff,
    AnnotationUse.hint?_eq_none_iff]
  rfl

theorem Annotations.hint?_eq_some_iff {annotations : Annotations} {a : AnnotationUse}
    {kind : HintRequest} : annotations.hint? = some (a, kind) ↔ annotations.FirstHint a kind := by
  simp only [hint?, List.findSome?_eq_some_iff, Option.map_eq_some_iff, Option.map_eq_none_iff,
    AnnotationUse.hint?_eq_none_iff, AnnotationUse.hint?_eq_some_iff, FirstHint]
  constructor
  · rintro ⟨before, _, after, split, ⟨_, requests, same⟩, none⟩
    cases same
    exact ⟨before, after, split, requests, none⟩
  · rintro ⟨before, after, split, requests, none⟩
    exact ⟨before, a, after, split, ⟨kind, requests, rfl⟩, none⟩

theorem AnnotationUse.flag_global_iff {a : AnnotationUse} :
    a.flag "global" = true ↔ a.IsGlobal := by
  rw [flag, IsGlobal]
  cases a.argument? "global" with
  | none => simp
  | some value => cases value <;> simp [ArgumentValue.bool?]

namespace PropertyDecl

variable {p : PropertyDecl}

theorem hintText_plain {row : TableRow} (member : row ∈ hintTable) :
    p.hintText row.plain = if row.plain = .resourceType then p.type.simpleName else "" := by
  have twoHints : ∀ row ∈ hintTable, row.plain = .none ∨ row.plain = .resourceType := by decide
  rcases twoHints row member with plain | plain <;> rw [plain] <;> rfl

/-- What the rows of a type say, said of the rows of the table. -/
theorem typeHint_eq (p : PropertyDecl) : p.typeHint =
    match hintTable.find? (·.fits p.type), p.annotations.hint? with
    | none, _ => .error (.noHint p.qualifiedName p.type.text)
    | some row, none => .ok ⟨row.plain, p.hintText row.plain⟩
    | some row, some (a, kind) =>
      match (row.listed.lookup kind).map (·.outside (a.flag "global")) with
      | some hint => .ok ⟨hint, p.hintText hint⟩
      | none => .error (.wrongHint p.qualifiedName a.name p.type.text) := by
  rw [HintRow.find?_hintTable, typeHint, selectHint]
  cases HintRow.of? p.type with
  | none => rfl
  | some row =>
    rw [Option.map_some]
    cases p.annotations.hint? with
    | none =>
      dsimp only
      rw [HintRow.plainHint_eq]
      rfl
    | some found =>
      obtain ⟨a, kind⟩ := found
      dsimp only
      rw [HintRow.hint?_eq_lookup]
      cases (row.entry.listed.lookup kind).map (·.outside (a.flag "global")) <;> rfl

theorem hintFromTable_typeHint (p : PropertyDecl) : HintFromTable p p.typeHint := by
  rw [typeHint_eq]
  cases first : hintTable.find? (·.fits p.type) with
  | none => exact .noRow fun row member => by simpa using List.find?_eq_none.1 first row member
  | some row =>
    cases hinted : p.annotations.hint? with
    | none =>
      dsimp only
      rw [hintText_plain (List.mem_of_find?_eq_some first)]
      exact .plain first (Annotations.hint?_eq_none_iff.1 hinted)
    | some found =>
      obtain ⟨a, kind⟩ := found
      have hinted := Annotations.hint?_eq_some_iff.1 hinted
      dsimp only
      cases listed : row.listed.lookup kind with
      | none => exact .unlisted first hinted listed
      | some hint => exact .listed first hinted listed AnnotationUse.flag_global_iff

theorem typeHint_of_table {result : Except DeclarationFault TypeHint}
    (h : HintFromTable p result) : p.typeHint = result := by
  rw [typeHint_eq]
  cases h with
  | noRow none => rw [List.find?_eq_none.2 fun row member => by simp [none row member]]
  | plain first unhinted =>
    rw [first, Annotations.hint?_eq_none_iff.2 unhinted]
    dsimp only
    rw [hintText_plain (List.mem_of_find?_eq_some first)]
  | unlisted first hinted unlisted =>
    rw [first, Annotations.hint?_eq_some_iff.2 hinted]
    dsimp only
    rw [unlisted]
    rfl
  | @listed row a kind hint isGlobal first hinted listed global =>
    have flag : a.flag "global" = isGlobal := by
      rw [Bool.eq_iff_iff, AnnotationUse.flag_global_iff, global]
    rw [first, Annotations.hint?_eq_some_iff.2 hinted]
    dsimp only
    rw [listed, flag]
    rfl

/-- The hint of a property is the one that the table gives, and it fails where the table has none:
without a row for the type, or with an annotation that is not listed in the row. -/
theorem hint_read_off_table (p : PropertyDecl) (result : Except DeclarationFault TypeHint) :
    p.typeHint = result ↔ HintFromTable p result := by
  constructor
  · rintro rfl
    exact hintFromTable_typeHint p
  · exact typeHint_of_table

end PropertyDecl

end ScriptRegistrar
