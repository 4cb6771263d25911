import ScriptRegistrar.Proofs.Sorting
import ScriptRegistrar.Source.Name

/-!
# Short names

A reference is written by its simple name when nothing else in the file lays claim to that name.
-/

namespace ScriptRegistrar.Source

/-! ### Names inside packages -/

theorem split_qualify (package : String) {name : String} (plain : '.' ∉ name.toList) :
    Text.split '.' (qualify package name) =
      (if package = "" then [] else Text.split '.' package) ++ [name] := by
  have whole : Text.split '.' name = [name] := by
    rw [Text.split, Text.splitChars_of_notMem plain]
    simp
  unfold qualify
  by_cases none : package = ""
  · rw [if_pos none, if_pos none, whole]
    rfl
  · have joined := Text.split_append '.' package name
    rw [whole] at joined
    rw [if_neg none, if_neg none]
    exact joined

theorem qualify_injective {package package' name name' : String} (plain : '.' ∉ name.toList)
    (plain' : '.' ∉ name'.toList) (same : qualify package name = qualify package' name') :
    package = package' ∧ name = name' := by
  have pieces := congrArg (Text.split '.') same
  rw [split_qualify package plain, split_qualify package' plain'] at pieces
  obtain ⟨packages, names⟩ := List.append_inj' pieces rfl
  refine ⟨?_, List.singleton_inj.1 names⟩
  have some : ∀ text, Text.split '.' text ≠ [] := Text.split_ne_nil '.'
  by_cases none : package = ""
  · by_cases none' : package' = ""
    · rw [none, none']
    · rw [if_pos none, if_neg none'] at packages
      exact absurd packages.symm (some package')
  · by_cases none' : package' = ""
    · rw [if_neg none, if_pos none'] at packages
      exact absurd packages (some package)
    · rw [if_neg none, if_neg none'] at packages
      rw [← Text.intercalate_split '.' package, packages, Text.intercalate_split]

theorem qualify_eq_self_iff {package name : String} :
    qualify package name = name ↔ package = "" := by
  unfold qualify
  constructor
  · intro same
    by_contra some
    rw [if_neg some] at same
    have lengths := congrArg String.length same
    simp only [String.length_append] at lengths
    have dot : ".".length = 1 := rfl
    omega
  · intro none
    rw [if_pos none]

/-- The simple name that an import line makes known. -/
def importedName (line : String) : String := (Text.split '.' line).getLastD ""

theorem importedName_qualify (package : String) {name : String} (plain : '.' ∉ name.toList) :
    importedName (qualify package name) = name := by
  rw [importedName, split_qualify package plain, List.getLastD_concat]

/-! ### What is written short -/

namespace Imports

variable {package : String} {declared : List String} {references : List Importable}
  {r r' : Importable}

/-- The simple name of `r` may mean something else in the file: another package contributes it, or
a type declared in the file has it. -/
def Clashes (package : String) (declared : List String) (references : List Importable)
    (r : Importable) : Prop :=
  (∃ other ∈ references, other.name = r.name ∧ other.package ≠ r.package) ∨
    r.name ∈ declared ∧ r.package ≠ package

theorem unambiguous_iff :
    unambiguous package declared references r = true ↔ ¬ Clashes package declared references r := by
  unfold unambiguous Clashes
  simp only [Bool.and_eq_true, List.all_eq_true, Bool.or_eq_true, decide_eq_true_eq,
    Bool.not_eq_true', List.contains_eq_mem, decide_eq_false_iff_not, not_or, not_exists, not_and,
    not_not]
  constructor
  · rintro ⟨alone, free⟩
    refine ⟨fun other known same => ?_, fun taken => ?_⟩
    · exact (alone other known).resolve_left fun differ => differ same
    · exact free.resolve_left fun untaken => untaken taken
  · rintro ⟨alone, free⟩
    refine ⟨fun other known => ?_, ?_⟩
    · by_cases same : other.name = r.name
      · exact .inr (alone other known same)
      · exact .inl same
    · by_cases taken : r.name ∈ declared
      · exact .inr (free taken)
      · exact .inl taken

theorem mem_short : r ∈ (resolve package declared references).short ↔
    r ∈ references ∧ ¬ Clashes package declared references r := by
  rw [resolve, List.mem_filter, unambiguous_iff]

/-- What is written short is the only reference of its simple name. -/
theorem eq_of_short (short : r ∈ (resolve package declared references).short)
    (known : r' ∈ references) (same : r'.name = r.name) : r' = r := by
  obtain ⟨-, free⟩ := mem_short.1 short
  have package : r'.package = r.package := by
    by_contra other
    exact free (.inl ⟨r', known, same, other⟩)
  cases r
  cases r'
  simp_all

theorem mem_lines {line : String} : line ∈ (resolve package declared references).lines ↔
    ∃ r ∈ (resolve package declared references).short,
      r.package ≠ package ∧ r.package ∉ defaultPackages ∧ qualify r.package r.name = line := by
  simp only [resolve, mem_distinctSorted, List.mem_map, List.mem_filter, needsLine,
    Bool.and_eq_true, decide_eq_true_eq, Bool.not_eq_true', List.contains_eq_mem,
    decide_eq_false_iff_not]
  constructor
  · rintro ⟨r, ⟨short, foreign, unimported⟩, rfl⟩
    exact ⟨r, short, foreign, unimported, rfl⟩
  · rintro ⟨r, short, foreign, unimported, rfl⟩
    exact ⟨r, ⟨short, foreign, unimported⟩, rfl⟩

end Imports

/-! ### What a file mentions -/

/-- A class, or a function or property outside of classes. -/
inductive Mention where
  | type (c : ClassName)
  | member (package name : String)

namespace Mention

def importable : Mention → Importable
  | .type c => c.importable
  | .member package name => (MemberName.topLevel package name).importable

def relative : Mention → String
  | .type c => c.relative
  | .member _ name => name

def canonical : Mention → String
  | .type c => c.canonical
  | .member package name => (MemberName.topLevel package name).canonical

def text (imports : Imports) : Mention → String
  | .type c => imports.classText c
  | .member package name => imports.memberText (.topLevel package name)

/-- Not a class inside of another class. -/
def Outermost : Mention → Prop
  | .type c => c.inner = []
  | .member _ _ => True

variable {m : Mention} {imports : Imports}

theorem canonical_eq (m : Mention) : m.canonical = qualify m.importable.package m.relative := by
  cases m <;> rfl

theorem Outermost.relative_eq (h : m.Outermost) : m.relative = m.importable.name := by
  cases m with
  | type c =>
    obtain ⟨package, outer, inner⟩ := c
    obtain rfl : inner = [] := h
    rfl
  | member package name => rfl

theorem Outermost.canonical_eq (h : m.Outermost) :
    m.canonical = qualify m.importable.package m.importable.name := by
  rw [m.canonical_eq, h.relative_eq]

theorem text_of_short (short : m.importable ∈ imports.short) : m.text imports = m.relative := by
  cases m with
  | type c => exact if_pos (List.elem_eq_true_of_mem short)
  | member package name => exact if_pos (List.elem_eq_true_of_mem short)

theorem text_of_not_short (long : m.importable ∉ imports.short) :
    m.text imports = m.canonical := by
  have absent : ¬ imports.short.contains m.importable = true := by simpa using long
  cases m with
  | type c => exact if_neg absent
  | member package name => exact if_neg absent

/-- A qualified name holds its package, unless there is none. -/
theorem text_eq_relative_iff :
    m.text imports = m.relative ↔ m.importable ∈ imports.short ∨ m.importable.package = "" := by
  by_cases short : m.importable ∈ imports.short
  · simp [text_of_short short, short]
  · rw [text_of_not_short short, canonical_eq, qualify_eq_self_iff]
    simp [short]

end Mention

namespace Imports

variable {package : String} {declared : List String} {mentions : List Mention}

/-- The imports of a file of the package that declares these types and mentions these names. -/
def ofMentions (package : String) (declared : List String) (mentions : List Mention) : Imports :=
  resolve package declared (mentions.map Mention.importable)

/-- The short names of a file mean one thing each. -/
structure Unequivocal (imports : Imports) (package : String) (declared : List String)
    (mentions : List Mention) : Prop where
  /-- Of one simple name from two packages, at most one is written without its package. -/
  short : ∀ m ∈ mentions, ∀ m' ∈ mentions, m.importable.name = m'.importable.name →
    m.importable.package ≠ m'.importable.package →
    ¬ (m.text imports = m.relative ∧ m'.text imports = m'.relative)
  texts : ∀ m ∈ mentions, ∀ m' ∈ mentions, m.Outermost → m'.Outermost →
    m.canonical ≠ m'.canonical → m.text imports ≠ m'.text imports
  declared : ∀ line ∈ imports.lines, importedName line ∉ declared
  /-- Only what is written short and lies elsewhere has a line. -/
  lines : ∀ line, line ∈ imports.lines ↔ ∃ m ∈ mentions, m.importable ∈ imports.short ∧
    m.importable.package ≠ package ∧ m.importable.package ∉ defaultPackages ∧
    line = qualify m.importable.package m.importable.name
  once : imports.lines.Nodup

/-- A short name is no other reference's qualified name: that one would have no package, and then
it would be the same reference. -/
theorem text_ne_canonical (plain : ∀ m ∈ mentions, '.' ∉ m.importable.name.toList) {m m' : Mention}
    (hm : m ∈ mentions) (hm' : m' ∈ mentions) (outer : m.Outermost) (outer' : m'.Outermost)
    (short : m.importable ∈ (ofMentions package declared mentions).short)
    (differ : m.canonical ≠ m'.canonical) : m.relative ≠ m'.canonical := by
  intro same
  rw [outer.relative_eq, outer'.canonical_eq] at same
  have bare : qualify "" m.importable.name = m.importable.name := qualify_eq_self_iff.2 rfl
  obtain ⟨none, name⟩ := qualify_injective (plain m hm) (plain m' hm') (bare.trans same)
  have one := eq_of_short short (List.mem_map_of_mem hm') name.symm
  exact differ (by rw [outer.canonical_eq, outer'.canonical_eq, one])

end Imports

open Imports in
theorem short_names_unequivocal (package : String) (declared : List String)
    (mentions : List Mention) (plain : ∀ m ∈ mentions, '.' ∉ m.importable.name.toList) :
    (ofMentions package declared mentions).Unequivocal package declared mentions := by
  have known : ∀ m ∈ mentions, m.importable ∈ mentions.map Mention.importable :=
    fun m member => List.mem_map_of_mem member
  constructor
  case short =>
    rintro m hm m' hm' name other ⟨bare, bare'⟩
    rcases Mention.text_eq_relative_iff.1 bare with short | none
    · exact other (congrArg Importable.package (eq_of_short short (known m' hm') name.symm)).symm
    · rcases Mention.text_eq_relative_iff.1 bare' with short' | none'
      · exact other (congrArg Importable.package (eq_of_short short' (known m hm) name))
      · exact other (none.trans none'.symm)
  case texts =>
    intro m hm m' hm' outer outer' differ
    by_cases short : m.importable ∈ (ofMentions package declared mentions).short
    · rw [Mention.text_of_short short]
      by_cases short' : m'.importable ∈ (ofMentions package declared mentions).short
      · rw [Mention.text_of_short short', outer.relative_eq, outer'.relative_eq]
        intro name
        have one := eq_of_short short (known m' hm') name.symm
        exact differ (by rw [outer.canonical_eq, outer'.canonical_eq, one])
      · rw [Mention.text_of_not_short short']
        exact text_ne_canonical plain hm hm' outer outer' short differ
    · rw [Mention.text_of_not_short short]
      by_cases short' : m'.importable ∈ (ofMentions package declared mentions).short
      · rw [Mention.text_of_short short']
        exact (text_ne_canonical plain hm' hm outer' outer short' differ.symm).symm
      · rw [Mention.text_of_not_short short']
        exact differ
  case declared =>
    intro line member taken
    obtain ⟨r, short, foreign, -, rfl⟩ := mem_lines.1 member
    obtain ⟨mentioned, free⟩ := mem_short.1 short
    obtain ⟨m, hm, rfl⟩ := List.mem_map.1 mentioned
    rw [importedName_qualify _ (plain m hm)] at taken
    exact free (.inr ⟨taken, foreign⟩)
  case lines =>
    intro line
    rw [ofMentions, mem_lines]
    constructor
    · rintro ⟨r, short, foreign, unimported, rfl⟩
      obtain ⟨m, hm, rfl⟩ := List.mem_map.1 (mem_short.1 short).1
      exact ⟨m, hm, short, foreign, unimported, rfl⟩
    · rintro ⟨m, -, short, foreign, unimported, rfl⟩
      exact ⟨m.importable, short, foreign, unimported, rfl⟩
  case once => exact nodup_of_increasing (distinctSorted_pairwise _)

namespace Sample

/-- Mentioned by a file of `godot` that declares a class `Entry` itself. -/
def mentions : List Mention := [
  .type ⟨"godot.runtime", "Entry", ["Context"]⟩, .type (.topLevel "kotlin" "String"),
  .type (.topLevel "" "Player"), .type (.topLevel "game.a" "Item"),
  .type (.topLevel "game.b" "Item"), .member "godot.game" "registerAll"]

theorem mentions_plain : ∀ m ∈ mentions, '.' ∉ m.importable.name.toList := by decide +kernel

end Sample

theorem entry_imports_unequivocal :
    (∀ m ∈ Sample.mentions, '.' ∉ m.importable.name.toList) ∧
      (Imports.ofMentions "godot" ["Entry"] Sample.mentions).lines =
        ["Player", "godot.game.registerAll"] ∧
      Sample.mentions.map (Mention.text (.ofMentions "godot" ["Entry"] Sample.mentions)) =
        ["godot.runtime.Entry.Context", "String", "Player", "game.a.Item", "game.b.Item",
          "registerAll"] ∧
      (Imports.ofMentions "godot" ["Entry"] Sample.mentions).Unequivocal "godot" ["Entry"]
        Sample.mentions :=
  ⟨Sample.mentions_plain, by decide +kernel, by decide +kernel,
    short_names_unequivocal "godot" ["Entry"] Sample.mentions Sample.mentions_plain⟩

/-! ### Visible names -/

/-- The file may use the simple name of `r` as it stands. -/
def Imports.Visible (imports : Imports) (package : String) (r : Importable) : Prop :=
  r.package = package ∨ r.package ∈ defaultPackages ∨ qualify r.package r.name ∈ imports.lines

theorem Imports.visible_of_short {package : String} {declared : List String}
    {references : List Importable} {r : Importable}
    (short : r ∈ (resolve package declared references).short) :
    (resolve package declared references).Visible package r := by
  by_cases own : r.package = package
  · exact .inl own
  · by_cases imported : r.package ∈ defaultPackages
    · exact .inr (.inl imported)
    · exact .inr (.inr (mem_lines.2 ⟨r, short, own, imported, rfl⟩))

open Imports in
/-- A name that is written without a package is visible, unless it belongs to the package without
a name and clashes: it is not imported then, and its qualified name is the simple name again. -/
theorem bare_name_visible_iff {package : String} {declared : List String} {mentions : List Mention}
    (plain : ∀ m ∈ mentions, '.' ∉ m.importable.name.toList) {m : Mention} (hm : m ∈ mentions)
    (bare : m.text (ofMentions package declared mentions) = m.relative) :
    (ofMentions package declared mentions).Visible package m.importable ↔
      ¬ (m.importable.package = "" ∧ package ≠ "" ∧
        Clashes package declared (mentions.map Mention.importable) m.importable) := by
  have known : m.importable ∈ mentions.map Mention.importable := List.mem_map_of_mem hm
  constructor
  · rintro visible ⟨none, named, clash⟩
    rcases visible with own | imported | line
    · exact named (own.symm.trans none)
    · rw [none] at imported
      exact absurd imported (by decide)
    · -- The line is that of a name without a clash, and it is the same name.
      obtain ⟨r, short, -, -, same⟩ := mem_lines.1 line
      obtain ⟨mentioned, free⟩ := mem_short.1 short
      obtain ⟨m', hm', rfl⟩ := List.mem_map.1 mentioned
      obtain ⟨-, name⟩ := qualify_injective (plain m' hm') (plain m hm) same
      exact free (eq_of_short short known name.symm ▸ clash)
  · intro exempt
    rcases Mention.text_eq_relative_iff.1 bare with short | none
    · exact visible_of_short short
    · by_cases named : package = ""
      · exact .inl (none.trans named.symm)
      · have free : ¬ Clashes package declared (mentions.map Mention.importable) m.importable :=
          fun clash => exempt ⟨none, named, clash⟩
        exact visible_of_short (mem_short.2 ⟨known, free⟩)

theorem player_visible :
    (∀ m ∈ Sample.mentions, '.' ∉ m.importable.name.toList) ∧
      .type (.topLevel "" "Player") ∈ Sample.mentions ∧
      Mention.text (.ofMentions "godot" ["Entry"] Sample.mentions) (.type (.topLevel "" "Player")) =
        "Player" ∧
      ¬ Imports.Clashes "godot" ["Entry"] (Sample.mentions.map Mention.importable)
        ⟨"", "Player"⟩ ∧
      (Imports.ofMentions "godot" ["Entry"] Sample.mentions).Visible "godot" ⟨"", "Player"⟩ := by
  have member : .type (.topLevel "" "Player") ∈ Sample.mentions :=
    List.mem_cons_of_mem _ (List.mem_cons_of_mem _ List.mem_cons_self)
  have bare : Mention.text (.ofMentions "godot" ["Entry"] Sample.mentions)
      (.type (.topLevel "" "Player")) = "Player" := by decide +kernel
  have free : ¬ Imports.Clashes "godot" ["Entry"] (Sample.mentions.map Mention.importable)
      ⟨"", "Player"⟩ := by
    rw [← Imports.unambiguous_iff]
    decide +kernel
  exact ⟨Sample.mentions_plain, member, bare, free,
    (bare_name_visible_iff Sample.mentions_plain member bare).2 fun exempt => free exempt.2.2⟩

namespace Sample

/-- A class without a package beside one of the same simple name. -/
def items : List Mention := [.type (.topLevel "" "Item"), .type (.topLevel "game" "Item")]

end Sample

/-- The `Item` without a package is written by its simple name and not imported. -/
theorem clashing_item_invisible :
    (∀ m ∈ Sample.items, '.' ∉ m.importable.name.toList) ∧
      ∃ m ∈ Sample.items, m.text (.ofMentions "godot" [] Sample.items) = "Item" ∧
        m.relative = "Item" ∧
        ¬ (Imports.ofMentions "godot" [] Sample.items).Visible "godot" m.importable := by
  refine ⟨by decide +kernel, .type (.topLevel "" "Item"), List.mem_cons_self, by decide +kernel,
    by decide +kernel, ?_⟩
  rintro (own | imported | line)
  · exact absurd own (by decide)
  · exact absurd imported (by decide)
  · exact absurd line (by decide +kernel)

end ScriptRegistrar.Source
