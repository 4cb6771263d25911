import Mathlib.Data.Option.Basic
import ScriptRegistrar.Declaration.Decode
import ScriptRegistrar.Proofs.Declaration.Readable

namespace ScriptRegistrar

open Atom (All Exact)
open Json (list? nullable?)

/-- What `encode` wrote is read back if its atoms are exact and it nests at most so deep. -/
def ReadsBack {α : Type} (read : Json → Option α) (encode : α → Json) (atoms : α → List Atom)
    (levels : Nat) : Prop :=
  ∀ ⦃x⦄, All Exact (atoms x) → (encode x).depth ≤ levels → read (encode x) = some x

namespace ReadsBack

variable {α : Type} {read : Json → Option α} {encode : α → Json} {atoms : α → List Atom}
  {levels : Nat}

theorem list (back : ReadsBack read encode atoms levels) {xs : List α}
    (exact : All Exact (xs.flatMap atoms)) (shallow : Json.depthItems (xs.map encode) ≤ levels) :
    list? read (.arr (xs.map encode)) = some xs := by
  rw [Atom.all_flatMap] at exact
  rw [Json.depthItems_le_iff, List.forall_mem_map] at shallow
  exact Json.list?_map fun x member => back (exact x member) (shallow x member)

theorem listed (back : ReadsBack read encode atoms levels) :
    ReadsBack (list? read) (fun xs => .arr (xs.map encode)) (·.flatMap atoms) levels := by
  intro xs exact shallow
  rw [Json.depth] at shallow
  exact back.list exact (by omega)

theorem option (back : ReadsBack read encode atoms levels) (given : ∀ x, encode x ≠ .null)
    {value : Option α} (exact : All Exact (value.toList.flatMap atoms))
    (shallow : (Json.ofOption encode value).depth ≤ levels) :
    nullable? read (Json.ofOption encode value) = some value := by
  rw [Atom.all_flatMap] at exact
  refine Json.nullable?_ofOption given ?_
  rintro x rfl
  exact back (exact x (by simp)) shallow

theorem dict (back : ReadsBack read encode atoms levels) {d : Dict α}
    (exact : All Exact (d.values.flatMap atoms))
    (shallow : Json.depthFields (d.entries.map fun e => (e.1, encode e.2)) ≤ levels) :
    decodeDict? read (.obj (d.entries.map fun e => (e.1, encode e.2))) = some d := by
  rw [Atom.all_flatMap, Dict.values, List.forall_mem_map] at exact
  rw [Json.depthFields_le_iff, List.forall_mem_map] at shallow
  have entriesBack : (d.entries.map fun e => (e.1, encode e.2)).mapM
      (fun field => (read field.2).map (field.1, ·)) = some d.entries := by
    refine Json.mapM_map fun e member => ?_
    rw [back (exact e member) (shallow e member), Option.map_some]
  rw [decodeDict?, entriesBack, Option.map_some, Dict.ofList_entries]

end ReadsBack

/-! ### Names -/

namespace DottedName

theorem decode?_encode {n : DottedName} (exact : Exact (.name n)) :
    decode? n.encode = some n := by
  have back := Atom.exact_name_iff.1 exact
  exact congrArg some back

theorem decode?_encodeList {names : List DottedName} (exact : ∀ n ∈ names, Exact (.name n)) :
    list? decode? (encodeList names) = some names :=
  Json.list?_map fun n member => decode?_encode (exact n member)

theorem decode?_encodeOption {value : Option DottedName}
    (exact : ∀ n ∈ value.toList, Exact (.name n)) :
    nullable? decode? (Json.ofOption encode value) = some value :=
  Json.nullable?_ofOption nofun fun n member =>
    decode?_encode (exact n (Option.mem_toList.2 member))

end DottedName

/-! ### Types -/

namespace ResolvedType

theorem encodeList_eq_map (ts : List ResolvedType) : encodeList ts = ts.map encode := by
  induction ts with
  | nil => rfl
  | cons t ts ih => rw [encodeList, ih, List.map_cons]

theorem encode_ne_null (t : ResolvedType) : t.encode ≠ .null := by
  cases t
  nofun

theorem readsBack (levels : Nat) : ReadsBack (decode? levels) encode atoms levels := by
  induction levels with
  | zero =>
    rintro ⟨name, nullable, arguments, supertypes, isEnum⟩ - shallow
    rw [encode, Json.depth] at shallow
    omega
  | succ levels ih =>
    rintro ⟨name, nullable, arguments, supertypes, isEnum⟩ exact shallow
    simp only [atoms, atomsOf_eq_flatMap, Atom.all_cons, Atom.all_append, Atom.all_map] at exact
    obtain ⟨named, inner, above⟩ := exact
    simp only [encode, encodeList_eq_map, Json.depth, Json.depthFields] at shallow
    have nameBack := DottedName.decode?_encode named
    have argumentsBack := ih.list inner (by omega)
    have supertypesBack := DottedName.decode?_encodeList above
    simp [encode, encodeList_eq_map, decode?, Json.required?, Json.flagField?, Json.listField?,
      Json.optional?, Json.bool?, nameBack, argumentsBack, supertypesBack]

end ResolvedType

/-! ### Alternatives with a tag -/

@[simp]
theorem Arrival.name?_str (arrival : Arrival) (text : String) :
    arrival.name? (.str text) = some text := rfl

@[simp]
theorem Arrival.tag?_str (arrival : Arrival) (tags : List String) (text : String) :
    arrival.tag? tags (.str text) = some text := rfl

@[simp]
theorem field?_value_tagged (tag : String) (value : Json) :
    (tagged tag value).field? "value" = some value := by
  simp [tagged]

@[simp]
theorem required?_kind_tagged {α : Type} (tag : String) (value : Json) (read : Json → Option α) :
    (tagged tag value).required? "kind" read = read (.str tag) := by
  simp [tagged, Json.required?, Json.field?]

@[simp]
theorem required?_value_tagged {α : Type} (tag : String) (value : Json) (read : Json → Option α) :
    (tagged tag value).required? "value" read = read value := by
  simp [Json.required?]

/-- The tag stands in front of the content, so the content arrives as the whole does. -/
@[simp]
theorem Arrival.ofContent_tagged (arrival : Arrival) (tag : String) (value : Json) :
    arrival.ofContent "kind" "value" (tagged tag value) = arrival := by
  simp [tagged, ofContent]

@[simp]
theorem Json.int64?_toInt (value : Int64) : Json.int64? (.int value.toInt) = some value := by
  have lower : Int64.minValue.toInt ≤ value.toInt := value.le_toInt
  have upper : value.toInt ≤ Int64.maxValue.toInt := Int.le_of_lt_add_one value.toInt_lt
  rw [int64?, if_pos ⟨lower, upper⟩, Int64.ofInt_toInt]

/-! ### Annotations -/

namespace ArgumentValue

theorem encodeList_eq_map (values : List ArgumentValue) :
    encodeList values = values.map encode := by
  induction values with
  | nil => rfl
  | cons value values ih => rw [encodeList, ih, List.map_cons]

theorem depth_encode_pos (value : ArgumentValue) : 0 < value.encode.depth := by
  cases value <;> simp [encode, tagged, Json.depth]

theorem readsBack (arrival : Arrival) (levels : Nat) :
    ReadsBack (read? arrival levels) encode atoms levels := by
  induction levels with
  | zero =>
    intro value _ shallow
    have deep := value.depth_encode_pos
    omega
  | succ levels ih =>
    intro value exact shallow
    cases value with
    | bool value => simp [encode, read?, guard, Json.bool?]
    | int value => simp [encode, read?, guard]
    | double value => simp [atoms, Exact] at exact
    | string value => simp [encode, read?, guard, Json.str?]
    | enumEntry container entry =>
      simp only [atoms, Atom.all_cons] at exact
      have containerBack := DottedName.decode?_encode exact.1
      have back : decodeEnumEntry? (.obj [("class", container.encode), ("entry", .str entry)]) =
          some (.enumEntry container entry) := by
        simp [Json.required?, decodeEnumEntry?, Json.str?, containerBack]
      simp [encode, read?, guard, back]
    | array values =>
      rw [atoms, atomsOf_eq_flatMap] at exact
      simp only [encode, encodeList_eq_map, tagged, Json.depth, Json.depthFields] at shallow
      have valuesBack := ih.list exact (by omega)
      simp [encode, encodeList_eq_map, read?, guard, valuesBack]

end ArgumentValue

theorem AnnotationUse.readsBack (arrival : Arrival) :
    ReadsBack (read? arrival) encode atoms maxNesting := by
  intro a exact shallow
  rw [atoms, Atom.all_cons] at exact
  simp only [encode, Json.depth, Json.depthFields] at shallow
  have nameBack := DottedName.decode?_encode exact.1
  have argumentsBack := (ArgumentValue.readsBack arrival (maxNesting + 1)).dict exact.2 (by omega)
  simp [encode, read?, Json.required?, Json.optional?, nameBack, argumentsBack]

theorem Annotations.readsBack (arrival : Arrival) :
    ReadsBack (list? (AnnotationUse.read? arrival)) encode atoms maxNesting :=
  (AnnotationUse.readsBack arrival).listed

/-! ### Expressions -/

theorem Constant.read?_encode {value : Constant} (arrival : Arrival)
    (exact : All Exact value.atoms) : read? arrival value.encode = some value := by
  cases value with
  | int value => simp [encode, read?]
  | long value => simp [encode, read?]
  | float value => simp [atoms, Exact] at exact
  | double value => simp [atoms, Exact] at exact
  | bool value => simp [encode, read?, Json.bool?]
  | char value => simp [encode, read?, Json.char?]
  | null => simp [encode, read?, decodeNull?, Json.required?, Json.field]

theorem TemplatePart.decode?_encode (part : TemplatePart) : decode? part.encode = some part := by
  cases part with
  | literal text => simp [encode, decode?, Json.str?]
  | interpolation text => simp [encode, decode?, Json.str?]

theorem Reference.encode_ne_null (r : Reference) : r.encode ≠ .null := nofun

theorem Reference.readsBack (levels : Nat) : ReadsBack decode? encode atoms levels := by
  intro r exact _
  rw [atoms, Atom.all_cons] at exact
  have containerBack := DottedName.decode?_encode exact.1
  have kindBack : ReferenceKind.read? .held (.str r.kind.tag) = some r.kind := by
    cases r.kind <;> rfl
  simp [encode, decode?, Json.required?, Json.str?, containerBack, kindBack]

namespace Expr

theorem encodeList_eq_map (es : List Expr) : encodeList es = es.map encode := by
  induction es with
  | nil => rfl
  | cons e es ih => rw [encodeList, ih, List.map_cons]

theorem encodeOption_eq_ofOption (value : Option Expr) :
    encodeOption value = Json.ofOption encode value := by
  cases value <;> rfl

theorem encode_ne_null (e : Expr) : e.encode ≠ .null := by
  cases e <;> nofun

theorem depth_encode_pos (e : Expr) : 0 < e.encode.depth := by
  cases e <;> simp [encode, Json.depth]

theorem canHold_encode {e : Expr} (arrival : Arrival) (exact : All Exact e.atoms) :
    arrival.canHold e.encode = true := by
  rw [Arrival.canHold, Json.isWhole_of_readable (e.isReadable_encode exact), Bool.or_true]

theorem readsBack (arrival : Arrival) (levels : Nat) :
    ReadsBack (read? arrival levels) encode atoms levels := by
  induction levels generalizing arrival with
  | zero =>
    intro e _ shallow
    have deep := e.depth_encode_pos
    omega
  | succ levels ih =>
    intro e exact shallow
    have hold := canHold_encode arrival exact
    rw [read?, hold]
    cases e with
    | constant value =>
      rw [atoms] at exact
      have valueBack := Constant.read?_encode .held exact
      simp [encode, guard, Json.required?, valueBack]
    | unary sign operand =>
      rw [atoms] at exact
      simp only [encode, Json.depth, Json.depthFields] at shallow
      have operandBack := ih .held exact (by omega)
      simp [encode, guard, Json.required?, Json.str?, operandBack]
    | template parts =>
      have partsBack : list? TemplatePart.decode? (.arr (parts.map TemplatePart.encode)) =
          some parts := Json.list?_map fun part _ => part.decode?_encode
      simp [encode, guard, Json.required?, partsBack]
    | member receiver selector target =>
      simp only [atoms, Atom.all_append] at exact
      obtain ⟨⟨left, right⟩, resolved⟩ := exact
      simp only [encode, Json.depth, Json.depthFields] at shallow
      have receiverBack := ih .held left (by omega)
      have selectorBack := ih .held right (by omega)
      have targetBack := (Reference.readsBack levels).option Reference.encode_ne_null resolved
        (by omega)
      simp [encode, guard, Json.required?, decodeTarget?, Json.absent?, Json.optional?,
        receiverBack, selectorBack, targetBack]
    | call callee kind typeArguments arguments trailing =>
      simp only [atoms, atomsOf_eq_flatMap, atomsOfOption_eq_flatMap, Atom.all_cons,
        Atom.all_append, Atom.all_map] at exact
      obtain ⟨named, ⟨types, inner⟩, last⟩ := exact
      simp only [encode, encodeList_eq_map, encodeOption_eq_ofOption, Json.depth,
        Json.depthFields] at shallow
      have calleeBack := DottedName.decode?_encode named
      have kindBack : CallKind.read? .held (.str kind.tag) = some kind := by cases kind <;> rfl
      have typesBack := DottedName.decode?_encodeList types
      have argumentsBack := (ih .held).list inner (by omega)
      have trailingBack := (ih .held).option encode_ne_null last (by omega)
      simp [encode, encodeList_eq_map, encodeOption_eq_ofOption, guard, Json.required?,
        Json.listField?, Json.absent?, Json.optional?, calleeBack, kindBack, typesBack,
        argumentsBack, trailingBack]
    | binary left op right =>
      simp only [atoms, Atom.all_append] at exact
      obtain ⟨⟨first, between⟩, second⟩ := exact
      simp only [encode, Json.depth, Json.depthFields] at shallow
      have leftBack := ih .held first (by omega)
      have opBack := ih .held between (by omega)
      have rightBack := ih .held second (by omega)
      simp [encode, guard, Json.required?, leftBack, opBack, rightBack]
    | name spelling target =>
      rw [atoms] at exact
      simp only [encode, Json.depth, Json.depthFields] at shallow
      have targetBack := (Reference.readsBack levels).option Reference.encode_ne_null exact
        (by omega)
      simp [encode, guard, Json.required?, decodeTarget?, Json.absent?, Json.optional?, Json.str?,
        targetBack]
    | operator token =>
      simp [encode, guard, Json.required?, Json.str?]
    | lambda mapped text =>
      rw [atoms, Atom.all_map] at exact
      have mappedBack := DottedName.decode?_encodeOption exact
      simp [encode, guard, Json.required?, Json.absent?, Json.optional?, Json.str?, mappedBack]

end Expr

end ScriptRegistrar
