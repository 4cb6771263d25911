import ScriptRegistrar.Declaration.Decode
import ScriptRegistrar.Proofs.Declaration.Atom

namespace ScriptRegistrar

open Atom (All Parsed)
open Json (list? nullable?)

theorem Dict.forall_insert {α : Type} {P : α → Prop} {d : Dict α} {key : String} {value : α}
    (kept : ∀ e ∈ d.entries, P e.2) (new : P value) :
    ∀ e ∈ (d.insert key value).entries, P e.2 := by
  obtain ⟨entries, sorted⟩ := d
  simp only [insert, upsert] at kept ⊢
  induction entries with
  | nil => simpa [upsertEntries] using new
  | cons head rest ih =>
    obtain ⟨first, later⟩ := List.forall_mem_cons.1 kept
    rw [upsertEntries]
    split
    · exact List.forall_mem_cons.2 ⟨new, kept⟩
    · split
      · exact List.forall_mem_cons.2 ⟨new, later⟩
      · exact List.forall_mem_cons.2 ⟨first, ih (List.pairwise_cons.1 sorted).2 later⟩

theorem Dict.forall_ofList {α : Type} {P : α → Prop} {entries : List (String × α)}
    (each : ∀ e ∈ entries, P e.2) : ∀ value ∈ (ofList entries).values, P value := by
  have all : ∀ d : Dict α, (∀ e ∈ d.entries, P e.2) →
      ∀ e ∈ (entries.foldl (fun d e => d.insert e.1 e.2) d).entries, P e.2 := by
    induction entries with
    | nil => exact fun d kept => kept
    | cons head rest ih =>
      obtain ⟨first, later⟩ := List.forall_mem_cons.1 each
      exact fun d kept => ih later _ (forall_insert kept first)
  exact List.forall_mem_map.2 (all empty nofun)

/-! ### What a reader gives -/

theorem forall_of_mapM {α β : Type} {read : α → Option β} {P : β → Prop}
    (each : ∀ a b, read a = some b → P b) {as : List α} {bs : List β}
    (h : as.mapM read = some bs) : ∀ b ∈ bs, P b := by
  induction as generalizing bs with
  | nil =>
    cases h
    nofun
  | cons a as ih =>
    rw [List.mapM_cons] at h
    obtain ⟨b, first, h⟩ := Option.bind_eq_some_iff.1 h
    obtain ⟨rest, later, h⟩ := Option.bind_eq_some_iff.1 h
    cases h
    exact List.forall_mem_cons.2 ⟨each a b first, ih later⟩

/-- Whatever the reader gives is as `P` says. -/
def Json.Yields {α : Type} (read : Json → Option α) (P : α → Prop) : Prop :=
  ∀ ⦃j a⦄, read j = some a → P a

namespace Json.Yields

variable {α : Type} {read : Json → Option α} {P : α → Prop}

theorem required (each : Yields read P) {name : String} :
    Yields (fun j => j.required? name read) P := by
  intro j a h
  obtain ⟨value, -, given⟩ := Option.bind_eq_some_iff.1 h
  exact each given

theorem optional (each : Yields read P) {name : String} {default : α} (absent : P default) :
    Yields (fun j => j.optional? name default read) P := by
  intro j a h
  simp only [optional?] at h
  split at h
  · cases h
    exact absent
  · exact each h

theorem list (each : Yields read P) : Yields (list? read) fun xs => ∀ x ∈ xs, P x := by
  intro j xs h
  cases j with
  | arr items => exact forall_of_mapM each h
  | _ => cases h

theorem nullable (each : Yields read P) :
    Yields (nullable? read) fun value => ∀ a ∈ value, P a := by
  intro j value h a member
  rw [nullable?.eq_def] at h
  split at h
  · cases h
    cases member
  · obtain ⟨b, given, rfl⟩ := Option.map_eq_some_iff.1 h
    cases member
    exact each given

theorem dict (each : Yields read P) : Yields (decodeDict? read) fun d => ∀ a ∈ d.values, P a := by
  intro j d h
  cases j with
  | obj fields =>
    obtain ⟨entries, given, rfl⟩ := Option.map_eq_some_iff.1 h
    refine Dict.forall_ofList (forall_of_mapM (fun field e found => ?_) given)
    obtain ⟨value, valueRead, rfl⟩ := Option.map_eq_some_iff.1 found
    exact each valueRead
  | _ => cases h

theorem listField (each : Yields read P) {name : String} :
    Yields (fun j => j.listField? name read) fun xs => ∀ x ∈ xs, P x :=
  each.list.optional nofun

theorem absent (each : Yields read P) {name : String} :
    Yields (fun j => j.absent? name read) fun value => ∀ a ∈ value, P a :=
  each.nullable.optional nofun

theorem dictField (each : Yields read P) {name : String} :
    Yields (fun j => j.optional? name ∅ (decodeDict? read)) fun d => ∀ a ∈ d.values, P a := by
  refine each.dict.optional ?_
  intro a member
  exact absurd member List.not_mem_nil

end Json.Yields

open Json (Yields)

/-! ### Types, annotations and expressions -/

theorem DottedName.decode?_parsed : Yields decode? fun n => Parsed (.name n) := by
  intro j n h
  obtain ⟨text, -, rfl⟩ := Option.map_eq_some_iff.1 h
  exact ⟨text, rfl⟩

theorem ResolvedType.decode?_parsed (levels : Nat) :
    Yields (decode? levels) fun t => All Parsed t.atoms := by
  induction levels with
  | zero =>
    intro j t h
    cases h
  | succ levels ih =>
    intro j t h
    obtain ⟨name, named, h⟩ := Option.bind_eq_some_iff.1 h
    obtain ⟨nullable, -, h⟩ := Option.bind_eq_some_iff.1 h
    obtain ⟨arguments, inner, h⟩ := Option.bind_eq_some_iff.1 h
    obtain ⟨supertypes, above, h⟩ := Option.bind_eq_some_iff.1 h
    obtain ⟨isEnum, -, h⟩ := Option.bind_eq_some_iff.1 h
    cases h
    rw [atoms, Atom.all_cons, Atom.all_append, Atom.all_map, atomsOf_eq_flatMap,
      Atom.all_flatMap]
    exact ⟨DottedName.decode?_parsed.required named, ih.listField inner,
      DottedName.decode?_parsed.listField above⟩

theorem decodeEnumEntry?_parsed : Yields decodeEnumEntry? fun value => All Parsed value.atoms := by
  intro j value h
  obtain ⟨container, named, h⟩ := Option.bind_eq_some_iff.1 h
  obtain ⟨entry, -, h⟩ := Option.bind_eq_some_iff.1 h
  cases h
  rw [ArgumentValue.atoms, Atom.all_cons]
  exact ⟨DottedName.decode?_parsed.required named, Atom.all_nil⟩

theorem ArgumentValue.read?_parsed (arrival : Arrival) (levels : Nat) :
    Yields (read? arrival levels) fun value => All Parsed value.atoms := by
  induction levels generalizing arrival with
  | zero =>
    intro j value h
    cases h
  | succ levels ih =>
    intro j value h
    obtain ⟨name, -, h⟩ := Option.bind_eq_some_iff.1 h
    obtain ⟨content, -, h⟩ := Option.bind_eq_some_iff.1 h
    obtain ⟨-, -, h⟩ := Option.bind_eq_some_iff.1 h
    split at h
    case h_5 => exact decodeEnumEntry?_parsed h
    case h_6 =>
      obtain ⟨values, inner, rfl⟩ := Option.map_eq_some_iff.1 h
      rw [atoms, atomsOf_eq_flatMap, Atom.all_flatMap]
      exact (ih _).list inner
    case h_7 => cases h
    all_goals
      obtain ⟨value, -, rfl⟩ := Option.map_eq_some_iff.1 h
      simp [atoms, Parsed]

theorem AnnotationUse.read?_parsed (arrival : Arrival) :
    Yields (read? arrival) fun a => All Parsed a.atoms := by
  intro j a h
  obtain ⟨name, named, h⟩ := Option.bind_eq_some_iff.1 h
  obtain ⟨arguments, inner, h⟩ := Option.bind_eq_some_iff.1 h
  cases h
  rw [atoms, Atom.all_cons, Atom.all_flatMap]
  exact ⟨DottedName.decode?_parsed.required named,
    (ArgumentValue.read?_parsed arrival _).dictField inner⟩

theorem readAnnotations?_parsed (arrival : Arrival) :
    Yields (readAnnotations? arrival) fun annotations => All Parsed annotations.atoms := by
  intro j annotations h
  rw [Annotations.atoms, Atom.all_flatMap]
  exact (AnnotationUse.read?_parsed arrival).listField h

theorem Constant.parsed (value : Constant) : All Parsed value.atoms := by
  cases value <;> simp [atoms, Parsed]

theorem Reference.decode?_parsed : Yields decode? fun r => All Parsed r.atoms := by
  intro j r h
  obtain ⟨container, named, h⟩ := Option.bind_eq_some_iff.1 h
  obtain ⟨name, -, h⟩ := Option.bind_eq_some_iff.1 h
  obtain ⟨kind, -, h⟩ := Option.bind_eq_some_iff.1 h
  cases h
  rw [atoms, Atom.all_cons]
  exact ⟨DottedName.decode?_parsed.required named, Atom.all_nil⟩

namespace Expr

theorem decodeTarget?_parsed :
    Yields decodeTarget? fun target => All Parsed (target.toList.flatMap Reference.atoms) := by
  intro j target h
  rw [Atom.all_flatMap]
  exact fun r member => Reference.decode?_parsed.absent h r (Option.mem_toList.1 member)

theorem read?_parsed (arrival : Arrival) (levels : Nat) :
    Yields (read? arrival levels) fun e => All Parsed e.atoms := by
  induction levels generalizing arrival with
  | zero =>
    intro j e h
    cases h
  | succ levels ih =>
    intro j e h
    obtain ⟨-, -, h⟩ := Option.bind_eq_some_iff.1 h
    obtain ⟨tag, -, h⟩ := Option.bind_eq_some_iff.1 h
    split at h
    · obtain ⟨value, -, h⟩ := Option.bind_eq_some_iff.1 h
      cases h
      rw [atoms]
      exact value.parsed
    · obtain ⟨sign, -, h⟩ := Option.bind_eq_some_iff.1 h
      obtain ⟨operand, inner, h⟩ := Option.bind_eq_some_iff.1 h
      cases h
      rw [atoms]
      exact (ih .held).required inner
    · obtain ⟨parts, -, h⟩ := Option.bind_eq_some_iff.1 h
      cases h
      rw [atoms]
      exact Atom.all_nil
    · obtain ⟨receiver, left, h⟩ := Option.bind_eq_some_iff.1 h
      obtain ⟨selector, right, h⟩ := Option.bind_eq_some_iff.1 h
      obtain ⟨target, resolved, h⟩ := Option.bind_eq_some_iff.1 h
      cases h
      rw [atoms, Atom.all_append, Atom.all_append]
      exact ⟨⟨(ih .held).required left, (ih .held).required right⟩, decodeTarget?_parsed resolved⟩
    · obtain ⟨callee, named, h⟩ := Option.bind_eq_some_iff.1 h
      obtain ⟨kind, -, h⟩ := Option.bind_eq_some_iff.1 h
      obtain ⟨typeArguments, types, h⟩ := Option.bind_eq_some_iff.1 h
      obtain ⟨arguments, inner, h⟩ := Option.bind_eq_some_iff.1 h
      obtain ⟨trailing, last, h⟩ := Option.bind_eq_some_iff.1 h
      cases h
      simp only [atoms, Atom.all_cons, Atom.all_append, Atom.all_map, atomsOf_eq_flatMap,
        atomsOfOption_eq_flatMap, Atom.all_flatMap, Option.mem_toList]
      exact ⟨DottedName.decode?_parsed.required named,
        ⟨DottedName.decode?_parsed.listField types, (ih .held).listField inner⟩,
        (ih .held).absent last⟩
    · obtain ⟨left, first, h⟩ := Option.bind_eq_some_iff.1 h
      obtain ⟨op, between, h⟩ := Option.bind_eq_some_iff.1 h
      obtain ⟨right, second, h⟩ := Option.bind_eq_some_iff.1 h
      cases h
      rw [atoms, Atom.all_append, Atom.all_append]
      exact ⟨⟨(ih .held).required first, (ih .held).required between⟩,
        (ih .held).required second⟩
    · obtain ⟨spelling, -, h⟩ := Option.bind_eq_some_iff.1 h
      obtain ⟨target, resolved, h⟩ := Option.bind_eq_some_iff.1 h
      cases h
      rw [atoms]
      exact decodeTarget?_parsed resolved
    · obtain ⟨token, -, h⟩ := Option.bind_eq_some_iff.1 h
      cases h
      rw [atoms]
      exact Atom.all_nil
    · obtain ⟨mapped, named, h⟩ := Option.bind_eq_some_iff.1 h
      obtain ⟨text, -, h⟩ := Option.bind_eq_some_iff.1 h
      cases h
      rw [atoms, Atom.all_map]
      exact fun n member => DottedName.decode?_parsed.absent named n (Option.mem_toList.1 member)
    · cases h

end Expr

/-! ### Members, classes and graphs -/

theorem Parameter.decode?_parsed : Yields decode? fun p => All Parsed p.atoms := by
  intro j p h
  obtain ⟨name, -, h⟩ := Option.bind_eq_some_iff.1 h
  obtain ⟨type, typed, h⟩ := Option.bind_eq_some_iff.1 h
  cases h
  rw [atoms]
  exact (ResolvedType.decode?_parsed _).required typed

theorem FunctionDecl.read?_parsed (arrival : Arrival) :
    Yields (read? arrival) fun f => All Parsed f.atoms := by
  intro j f h
  obtain ⟨owner, owned, h⟩ := Option.bind_eq_some_iff.1 h
  obtain ⟨name, -, h⟩ := Option.bind_eq_some_iff.1 h
  obtain ⟨parameters, taken, h⟩ := Option.bind_eq_some_iff.1 h
  obtain ⟨returnType, returned, h⟩ := Option.bind_eq_some_iff.1 h
  obtain ⟨annotations, annotated, h⟩ := Option.bind_eq_some_iff.1 h
  cases h
  simp only [atoms, Atom.all_cons, Atom.all_append, Atom.all_flatMap, Option.mem_toList]
  exact ⟨DottedName.decode?_parsed.required owned, ⟨Parameter.decode?_parsed.listField taken,
    (ResolvedType.decode?_parsed _).absent returned⟩, readAnnotations?_parsed arrival annotated⟩

theorem PropertyDecl.read?_parsed (arrival : Arrival) :
    Yields (read? arrival) fun p => All Parsed p.atoms := by
  intro j p h
  obtain ⟨owner, owned, h⟩ := Option.bind_eq_some_iff.1 h
  obtain ⟨name, -, h⟩ := Option.bind_eq_some_iff.1 h
  obtain ⟨type, typed, h⟩ := Option.bind_eq_some_iff.1 h
  obtain ⟨annotations, annotated, h⟩ := Option.bind_eq_some_iff.1 h
  obtain ⟨isVar, -, h⟩ := Option.bind_eq_some_iff.1 h
  obtain ⟨isLateinit, -, h⟩ := Option.bind_eq_some_iff.1 h
  obtain ⟨initializer, initial, h⟩ := Option.bind_eq_some_iff.1 h
  obtain ⟨delegate, delegated, h⟩ := Option.bind_eq_some_iff.1 h
  obtain ⟨sourceText, -, h⟩ := Option.bind_eq_some_iff.1 h
  cases h
  simp only [atoms, Atom.all_cons, Atom.all_append, Atom.all_flatMap, Option.mem_toList]
  exact ⟨DottedName.decode?_parsed.required owned,
    ⟨⟨(ResolvedType.decode?_parsed _).required typed, readAnnotations?_parsed arrival annotated⟩,
      (Expr.read?_parsed arrival _).absent initial⟩, (Expr.read?_parsed arrival _).absent delegated⟩

theorem ConstructorDecl.decode?_parsed : Yields decode? fun c => All Parsed c.atoms := by
  intro j c h
  obtain ⟨-, -, h⟩ := Option.bind_eq_some_iff.1 h
  obtain ⟨parameters, taken, h⟩ := Option.bind_eq_some_iff.1 h
  obtain ⟨sourceText, -, h⟩ := Option.bind_eq_some_iff.1 h
  cases h
  rw [atoms, Atom.all_flatMap]
  exact Parameter.decode?_parsed.listField taken

theorem MemberDecl.decode?_parsed : Yields decode? fun m => All Parsed m.atoms := by
  intro j m h
  obtain ⟨tag, -, h⟩ := Option.bind_eq_some_iff.1 h
  split at h
  · obtain ⟨f, given, h⟩ := Option.bind_eq_some_iff.1 h
    cases h
    exact FunctionDecl.read?_parsed .held given
  · obtain ⟨p, given, h⟩ := Option.bind_eq_some_iff.1 h
    cases h
    exact PropertyDecl.read?_parsed .held given
  · cases h

theorem MemberScope.decode?_parsed :
    Yields decode? fun scope => All Parsed (Members.scoped scope).atoms := by
  intro j scope h
  obtain ⟨-, -, h⟩ := Option.bind_eq_some_iff.1 h
  obtain ⟨functions, called, h⟩ := Option.bind_eq_some_iff.1 h
  obtain ⟨properties, held, h⟩ := Option.bind_eq_some_iff.1 h
  cases h
  simp only [Members.atoms, Atom.all_append, Atom.all_flatMap]
  exact ⟨(FunctionDecl.read?_parsed .held).list.dictField called,
    (PropertyDecl.read?_parsed .held).list.dictField held⟩

theorem Members.decode?_parsed : Yields decode? fun m => All Parsed m.atoms := by
  intro j m h
  obtain ⟨-, -, h⟩ := Option.bind_eq_some_iff.1 h
  obtain ⟨tag, -, h⟩ := Option.bind_eq_some_iff.1 h
  split at h
  · obtain ⟨declarations, listed, h⟩ := Option.bind_eq_some_iff.1 h
    cases h
    rw [atoms, Atom.all_flatMap]
    exact MemberDecl.decode?_parsed.list.required listed
  · obtain ⟨scope, given, h⟩ := Option.bind_eq_some_iff.1 h
    cases h
    exact MemberScope.decode?_parsed.required given
  · cases h

theorem ClassDecl.decode?_parsed : Yields decode? fun c => All Parsed c.atoms := by
  intro j c h
  obtain ⟨name, named, h⟩ := Option.bind_eq_some_iff.1 h
  obtain ⟨superClass, above, h⟩ := Option.bind_eq_some_iff.1 h
  obtain ⟨interfaces, implemented, h⟩ := Option.bind_eq_some_iff.1 h
  obtain ⟨annotations, annotated, h⟩ := Option.bind_eq_some_iff.1 h
  obtain ⟨constructors, constructed, h⟩ := Option.bind_eq_some_iff.1 h
  obtain ⟨members, inner, h⟩ := Option.bind_eq_some_iff.1 h
  cases h
  simp only [atoms, Atom.all_cons, Atom.all_append, Atom.all_flatMap, Atom.all_map,
    Option.mem_toList]
  exact ⟨DottedName.decode?_parsed.required named,
    ⟨⟨⟨DottedName.decode?_parsed.absent above, DottedName.decode?_parsed.listField implemented⟩,
      readAnnotations?_parsed .direct annotated⟩,
      ConstructorDecl.decode?_parsed.listField constructed⟩,
    Members.decode?_parsed.optional Atom.all_nil inner⟩

theorem Graph.decode?_parsed : Yields decode? fun g => All Parsed g.atoms := by
  intro j g h
  obtain ⟨-, -, h⟩ := Option.bind_eq_some_iff.1 h
  obtain ⟨classes, own, h⟩ := Option.bind_eq_some_iff.1 h
  obtain ⟨dependencies, foreign, h⟩ := Option.bind_eq_some_iff.1 h
  obtain ⟨sourceClasses, listed, h⟩ := Option.bind_eq_some_iff.1 h
  cases h
  simp only [atoms, Atom.all_append, Atom.all_flatMap, Atom.all_map]
  exact ⟨⟨ClassDecl.decode?_parsed.listField own, ClassDecl.decode?_parsed.listField foreign⟩,
    DottedName.decode?_parsed.listField listed⟩

end ScriptRegistrar
