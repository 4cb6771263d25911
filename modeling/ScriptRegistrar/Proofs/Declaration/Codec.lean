import ScriptRegistrar.Proofs.Declaration.Decoded
import ScriptRegistrar.Proofs.Declaration.Decoding
import ScriptRegistrar.Proofs.Inheritance.Flattening

namespace ScriptRegistrar

open Atom (All Exact Parsed)
open Json (list? nullable? str?)

/-! ### Members -/

theorem Json.str?_ofOption (value : Option String) :
    nullable? str? (ofOption .str value) = some value :=
  nullable?_ofOption nofun fun _ _ => rfl

theorem Parameter.readsBack : ReadsBack decode? encode atoms maxNesting := by
  intro p exact shallow
  rw [atoms] at exact
  simp only [encode, Json.depth, Json.depthFields] at shallow
  have typeBack := ResolvedType.readsBack maxNesting exact (by omega)
  simp [encode, decode?, Json.required?, str?, typeBack]

theorem FunctionDecl.readsBack (arrival : Arrival) :
    ReadsBack (read? arrival) encode atoms maxNesting := by
  intro f exact shallow
  simp only [atoms, Atom.all_cons, Atom.all_append] at exact
  obtain ⟨owned, ⟨taken, returned⟩, annotated⟩ := exact
  simp only [encode, encodeFields, Json.depth, Json.depthFields] at shallow
  have ownerBack := DottedName.decode?_encode owned
  have parametersBack := Parameter.readsBack.list taken (by omega)
  have returnBack := (ResolvedType.readsBack maxNesting).option ResolvedType.encode_ne_null
    returned (by omega)
  have annotationsBack := Annotations.readsBack arrival annotated (by omega)
  simp [encode, encodeFields, read?, Json.required?, str?, Json.listField?, Json.optional?,
    Json.absent?, readAnnotations?, ownerBack, parametersBack, returnBack, annotationsBack]

theorem PropertyDecl.readsBack (arrival : Arrival) :
    ReadsBack (read? arrival) encode atoms maxNesting := by
  intro p exact shallow
  simp only [atoms, Atom.all_cons, Atom.all_append] at exact
  obtain ⟨owned, ⟨⟨typed, annotated⟩, initial⟩, delegated⟩ := exact
  simp only [encode, encodeFields, Json.depth, Json.depthFields] at shallow
  have exprBack := Expr.readsBack arrival (maxNesting + 1)
  have ownerBack := DottedName.decode?_encode owned
  have typeBack := ResolvedType.readsBack maxNesting typed (by omega)
  have annotationsBack := Annotations.readsBack arrival annotated (by omega)
  have initializerBack := exprBack.option Expr.encode_ne_null initial (by omega)
  have delegateBack := exprBack.option Expr.encode_ne_null delegated (by omega)
  have sourceBack := Json.str?_ofOption p.sourceText
  simp [encode, encodeFields, read?, Json.required?, str?, Json.bool?, Json.flagField?,
    Json.listField?, Json.optional?, Json.absent?, readAnnotations?, readExpr?, ownerBack, typeBack,
    annotationsBack, initializerBack, delegateBack, sourceBack]

theorem ConstructorDecl.readsBack : ReadsBack decode? encode atoms maxNesting := by
  intro c exact shallow
  rw [atoms] at exact
  simp only [encode, Json.depth, Json.depthFields] at shallow
  have parametersBack := Parameter.readsBack.list exact (by omega)
  have sourceBack := Json.str?_ofOption c.sourceText
  simp [encode, decode?, Json.isObject, guard, Json.listField?, Json.optional?, Json.absent?,
    parametersBack, sourceBack]

/-- The tag of a function stands in front of its fields, and no reader of those asks for it. -/
theorem FunctionDecl.read?_tagged (arrival : Arrival) (tag : Json) (fields : List (String × Json)) :
    read? arrival (.obj (("member", tag) :: fields)) = read? arrival (.obj fields) := rfl

theorem PropertyDecl.read?_tagged (arrival : Arrival) (tag : Json) (fields : List (String × Json)) :
    read? arrival (.obj (("member", tag) :: fields)) = read? arrival (.obj fields) := rfl

theorem MemberDecl.readsBack : ReadsBack decode? encode atoms maxNesting := by
  intro m exact shallow
  cases m with
  | function f =>
    simp only [encode, Json.depth, Json.depthFields] at shallow
    have inner : f.encode.depth ≤ maxNesting := by
      rw [FunctionDecl.encode, Json.depth]
      omega
    have back : FunctionDecl.read? .held (.obj f.encodeFields) = some f :=
      FunctionDecl.readsBack .held exact inner
    simp [encode, decode?, Json.required?, FunctionDecl.read?_tagged, back]
  | property p =>
    simp only [encode, Json.depth, Json.depthFields] at shallow
    have inner : p.encode.depth ≤ maxNesting := by
      rw [PropertyDecl.encode, Json.depth]
      omega
    have back : PropertyDecl.read? .held (.obj p.encodeFields) = some p :=
      PropertyDecl.readsBack .held exact inner
    simp [encode, decode?, Json.required?, PropertyDecl.read?_tagged, back]

/-! ### Classes -/

theorem MemberScope.readsBack :
    ReadsBack decode? encode (fun scope => (Members.scoped scope).atoms) maxNesting := by
  intro scope exact shallow
  simp only [Members.atoms, Atom.all_append] at exact
  simp only [encode, Json.depth, Json.depthFields] at shallow
  have functionsBack := (FunctionDecl.readsBack .held).listed.dict exact.1 (by omega)
  have propertiesBack := (PropertyDecl.readsBack .held).listed.dict exact.2 (by omega)
  simp [encode, decode?, Json.isObject, guard, Json.optional?, functionsBack, propertiesBack]

theorem Members.readsBack : ReadsBack decode? encode atoms maxNesting := by
  intro m exact shallow
  have hold := Json.isWhole_of_readable (Members.isReadable_encode exact)
  rw [decode?, hold]
  match m with
  | .listed declarations =>
    rw [atoms] at exact
    simp only [encode, Json.depth, Json.depthFields] at shallow
    have declarationsBack := MemberDecl.readsBack.list exact (by omega)
    simp [encode, guard, Json.required?, str?, declarationsBack]
  | .scoped scope =>
    simp only [encode, Json.depth, Json.depthFields] at shallow
    have scopeBack := MemberScope.readsBack exact (by omega)
    simp [encode, guard, Json.required?, str?, scopeBack]

theorem ClassDecl.readsBack : ReadsBack decode? encode atoms maxNesting := by
  intro c exact shallow
  simp only [atoms, Atom.all_cons, Atom.all_append, Atom.all_map] at exact
  obtain ⟨named, ⟨⟨⟨above, implemented⟩, annotated⟩, constructed⟩, inner⟩ := exact
  simp only [encode, Json.depth, Json.depthFields] at shallow
  have nameBack := DottedName.decode?_encode named
  have superBack := DottedName.decode?_encodeOption above
  have interfacesBack := DottedName.decode?_encodeList implemented
  have annotationsBack := Annotations.readsBack .direct annotated (by omega)
  have constructorsBack := ConstructorDecl.readsBack.list constructed (by omega)
  have membersBack := Members.readsBack inner (by omega)
  simp [encode, decode?, Json.required?, Json.listField?, Json.optional?, Json.absent?,
    readAnnotations?, nameBack, superBack, interfacesBack, annotationsBack, constructorsBack,
    membersBack]

/-! ### Graphs -/

theorem Graph.readsBack : ReadsBack decode? encode atoms maxNesting := by
  intro g exact shallow
  simp only [atoms, Atom.all_append, Atom.all_map] at exact
  obtain ⟨⟨own, foreign⟩, sources⟩ := exact
  simp only [encode, Json.depth, Json.depthFields] at shallow
  have classesBack := ClassDecl.readsBack.list own (by omega)
  have dependenciesBack := ClassDecl.readsBack.list foreign (by omega)
  have sourcesBack := DottedName.decode?_encodeList sources
  simp [encode, decode?, Json.isObject, guard, Json.listField?, Json.optional?, classesBack,
    dependenciesBack, sourcesBack]

theorem Graph.ofJson?_encode {g : Graph} (exact : All Exact g.atoms)
    (shallow : g.encode.depth ≤ maxNesting) : ofJson? g.encode = some g := by
  have whole := Json.within_of_readable (isReadable_encode exact) shallow
  rw [ofJson?, withinNesting?, whole]
  exact readsBack exact shallow

/-- A graph without floating-point numbers is read back from its encoding if its names were read
from texts, as those of a graph that was itself read always are. The encoding writes every
default, so it may nest deeper than what was read. -/
theorem graph_survives_encoding :
    (∀ g : Graph, All Exact g.atoms → g.encode.depth ≤ maxNesting →
      Graph.ofJson? g.encode = some g) ∧
    ∀ (j : Json) (g : Graph), Graph.ofJson? j = some g → (∀ value, .float value ∉ g.atoms) →
      g.encode.depth ≤ maxNesting → Graph.ofJson? g.encode = Graph.ofJson? j := by
  refine ⟨fun g => Graph.ofJson?_encode, fun j g read noFloat shallow => ?_⟩
  have parsed : All Parsed g.atoms := Graph.decode?_parsed read
  have exact : All Exact g.atoms := Atom.all_exact_iff.2 ⟨parsed, noFloat⟩
  rw [read, Graph.ofJson?_encode exact shallow]

namespace Sample

def inventory : PropertyDecl where
  owner := .parse "game.Player"
  name := "inventory"
  type := (ResolvedType.simple (.parse "godot.core.VariantArray")).withArgument
    ((ResolvedType.simple (.parse "game.Item")).asNullable.withSupertype (.parse "godot.Node"))
  annotations := [
    (AnnotationUse.plain AnnotationName.registerProperty).withArgument "flags" (.array [
      .enumEntry (.parse "game.Flag") "SAVED", .array [.int 7, .bool true], .string "a \"b\""])]
  initializer := some (.call (.parse "godot.core.variantArrayOf") .function
    [.parse "game.Item"] [
      .binary (.unary "-" (.constant (.int 1))) (.operator "+") (.constant .null),
      .template [.literal "slot ", .interpolation "count"]]
    (some (.lambda (some (.parse "game.Slot")) "it.ordinal")))
  delegate := some (.member (.name "Items" none) (.name "all" (some
    { container := .parse "game.Items", name := "all", kind := .objectConstant })) none)
  sourceText := some "val inventory = variantArrayOf(-1 + null)"

def player : ClassDecl where
  name := .parse "game.Player"
  superClass := some (.parse "lib.Actor")
  interfaces := [.parse "game.Named"]
  constructors := [
    { parameters := [⟨"speed", .simple (.parse "kotlin.Long")⟩] },
    { sourceText := some "constructor()" }]
  members := .listed [
    .function ((FunctionDecl.unit (.parse "game.Player") "move").withParameter
      ⟨"by", .simple (.parse "godot.core.Vector2")⟩),
    .property inventory]

def party : Graph where
  classes := [player]
  dependencies := [actor]
  sourceClasses := [.parse "game.Player"]

/-- A graph without most fields, and with names that have empty segments. -/
def brief : Json := .obj [("classes", .arr [.obj [
  ("fq_name", .str "game..Mob"), ("super_class", .str ".godot.Node"), ("order", .int 3),
  ("members", .obj [("representation", .str "compiled"), ("scope", .obj [])])]])]

end Sample

theorem party_survives_encoding :
    All Exact Sample.party.atoms ∧ Sample.party.encode.depth = 14 ∧
      Graph.ofJson? Sample.party.encode = some Sample.party ∧
      ∃ g, Graph.ofJson? Sample.brief = some g ∧ g.encode.depth = 6 ∧
        Graph.ofJson? g.encode = Graph.ofJson? Sample.brief := by
  have exact : All Exact Sample.party.atoms := by decide +kernel
  have depth : Sample.party.encode.depth = 14 := by decide +kernel
  have shallow : Sample.party.encode.depth ≤ maxNesting := by
    rw [depth]
    decide
  have back := graph_survives_encoding.1 Sample.party exact shallow
  have given : (Graph.ofJson? Sample.brief).any
      (fun g => All Exact g.atoms ∧ g.encode.depth = 6) = true := by decide +kernel
  obtain ⟨g, read, checked⟩ := (Option.any_eq_true _ _).1 given
  obtain ⟨briefExact, briefDepth⟩ := of_decide_eq_true checked
  have noFloat := (Atom.all_exact_iff.1 briefExact).2
  have briefShallow : g.encode.depth ≤ maxNesting := by
    rw [briefDepth]
    decide
  exact ⟨exact, depth, back, g, read, briefDepth,
    graph_survives_encoding.2 Sample.brief g read noFloat briefShallow⟩

end ScriptRegistrar
