import Mathlib.Data.List.Induction
import ScriptRegistrar.Proofs.Source.Template

/-!
# Balanced flows

The body of a function is well nested at every time. The count of open flows and the level at which
a line is written both follow from that.
-/

namespace ScriptRegistrar.Source

/-! ### Lines -/

namespace BodyLine

def opens : BodyLine → Bool
  | .openFlow _ => true
  | _ => false

def closes : BodyLine → Bool
  | .closeFlow => true
  | _ => false

/-- How many flows are open behind the line, if so many are open in front of it. -/
def flows (n : Nat) : BodyLine → Nat
  | .statement _ => n
  | .openFlow _ => n + 1
  | .closeFlow => n - 1

end BodyLine

def opened (lines : List BodyLine) : Nat := lines.countP BodyLine.opens

def closed (lines : List BodyLine) : Nat := lines.countP BodyLine.closes

def flowsAfter (n : Nat) (lines : List BodyLine) : Nat := lines.foldl BodyLine.flows n

/-- Every flow that is opened is closed, and none besides. -/
inductive Nested : List BodyLine → Prop
  | nil : Nested []
  | statement {code rest} (later : Nested rest) : Nested (.statement code :: rest)
  | flow {head inner rest} (inside : Nested inner) (later : Nested rest) :
    Nested (.openFlow head :: (inner ++ .closeFlow :: rest))

/-- The lines leave so many flows open. Between the heads of these all is nested. -/
inductive Unclosed : Nat → List BodyLine → Prop
  | none {lines} (h : Nested lines) : Unclosed 0 lines
  | flow {n outer head inner} (outside : Unclosed n outer) (inside : Nested inner) :
    Unclosed (n + 1) (outer ++ .openFlow head :: inner)

/-- No part from the start closes more flows than it opens. -/
def NeverBelow (lines : List BodyLine) : Prop :=
  ∀ start, start <+: lines → closed start ≤ opened start

section
variable {lines more : List BodyLine} {line : BodyLine} {n : Nat}

@[simp]
theorem opened_nil : opened [] = 0 := rfl

@[simp]
theorem closed_nil : closed [] = 0 := rfl

@[simp]
theorem opened_cons : opened (line :: lines) = opened lines + line.opens.toNat := by
  rw [opened, List.countP_cons]
  cases line <;> rfl

@[simp]
theorem closed_cons : closed (line :: lines) = closed lines + line.closes.toNat := by
  rw [closed, List.countP_cons]
  cases line <;> rfl

@[simp]
theorem opened_append : opened (lines ++ more) = opened lines + opened more := List.countP_append

@[simp]
theorem closed_append : closed (lines ++ more) = closed lines + closed more := List.countP_append

@[simp]
theorem flowsAfter_cons : flowsAfter n (line :: lines) = flowsAfter (line.flows n) lines := rfl

@[simp]
theorem flowsAfter_append : flowsAfter n (lines ++ more) = flowsAfter (flowsAfter n lines) more :=
  List.foldl_append

/-! ### Nested lines -/

theorem Nested.append (h : Nested lines) (h' : Nested more) : Nested (lines ++ more) := by
  induction h with
  | nil => exact h'
  | statement _ ih => exact .statement ih
  | flow inside _ _ ih =>
    rw [List.cons_append, List.append_assoc, List.cons_append]
    exact .flow inside ih

theorem Nested.flowsAfter_eq (h : Nested lines) (n : Nat) : flowsAfter n lines = n := by
  induction h generalizing n with
  | nil => rfl
  | statement _ ih => exact ih n
  | flow _ _ inside later => simp [BodyLine.flows, inside, later]

/-! ### Lines that leave flows open -/

theorem Unclosed.append (h : Unclosed n lines) (h' : Nested more) : Unclosed n (lines ++ more) := by
  cases h with
  | none h => exact .none (h.append h')
  | flow outside inside =>
    rw [List.append_assoc, List.cons_append]
    exact .flow outside (inside.append h')

theorem Unclosed.flowsAfter_eq (h : Unclosed n lines) (m : Nat) : flowsAfter m lines = m + n := by
  induction h with
  | none h => exact h.flowsAfter_eq m
  | flow _ inside ih => simp [ih, BodyLine.flows, inside.flowsAfter_eq, Nat.add_assoc]

/-- The line with which the innermost open flow was opened. -/
theorem Unclosed.last (h : Unclosed (n + 1) lines) :
    ∃ outer head inner, lines = outer ++ .openFlow head :: inner ∧ Unclosed n outer ∧
      Nested inner := by
  cases h with
  | flow outside inside => exact ⟨_, _, _, rfl, outside, inside⟩

theorem Unclosed.close (h : Unclosed (n + 1) lines) : Unclosed n (lines ++ [.closeFlow]) := by
  obtain ⟨outer, head, inner, rfl, outside, inside⟩ := h.last
  rw [List.append_assoc, List.cons_append]
  exact outside.append (.flow inside .nil)

/-- Lines that close no flow too many leave open what they do not close. -/
theorem NeverBelow.unclosed (h : NeverBelow lines) :
    Unclosed (opened lines - closed lines) lines := by
  induction lines using List.reverseRecOn with
  | nil => exact .none .nil
  | append_singleton lines line ih =>
    have before := ih fun start within => h start (within.trans (List.prefix_append _ _))
    have whole := h _ (List.prefix_refl _)
    cases line with
    | statement code =>
      simpa [BodyLine.opens, BodyLine.closes] using before.append (.statement .nil)
    | openFlow head =>
      have below := h lines (List.prefix_append _ _)
      have one : opened (lines ++ [.openFlow head]) - closed (lines ++ [.openFlow head]) =
          opened lines - closed lines + 1 := by
        simp [BodyLine.opens, BodyLine.closes]
        omega
      rw [one]
      exact .flow before .nil
    | closeFlow =>
      -- The count of the whole is not below, so a flow is open in front of the brace.
      have one : opened lines - closed lines =
          opened (lines ++ [.closeFlow]) - closed (lines ++ [.closeFlow]) + 1 := by
        simp [BodyLine.opens, BodyLine.closes] at whole ⊢
        omega
      rw [one] at before
      exact before.close

end

/-! ### Levels -/

/-- The level that a line is written at, if the count of flows is `n` in front of it. -/
def BodyLine.level (n : Nat) (line : BodyLine) : Nat := if line.closes then line.flows n else n

section
variable {n : Nat} {lines more : List BodyLine} {line : BodyLine}

theorem placeLines_cons :
    placeLines n (line :: lines) = ⟨line.level n, line⟩ :: placeLines (line.flows n) lines := by
  cases line <;> rfl

theorem placeLines_append :
    placeLines n (lines ++ more) = placeLines n lines ++ placeLines (flowsAfter n lines) more := by
  induction lines generalizing n with
  | nil => rfl
  | cons line lines ih => rw [List.cons_append, placeLines_cons, placeLines_cons, ih]; rfl

/-- Where a line stands among the placed ones, the lines in front of it say its level. -/
theorem placeLines_split {before after : List PlacedLine} {placed : PlacedLine}
    (h : placeLines n lines = before ++ placed :: after) :
    ∃ front back, lines = front ++ placed.line :: back ∧ before = placeLines n front ∧
      placed.level = placed.line.level (flowsAfter n front) := by
  have split : lines = before.map PlacedLine.line ++ placed.line :: after.map PlacedLine.line := by
    rw [← placeLines_line n lines, h, List.map_append, List.map_cons]
  refine ⟨_, _, split, ?_⟩
  rw [split, placeLines_append, placeLines_cons] at h
  obtain ⟨front, back⟩ := List.append_inj h (by
    rw [← List.length_map (f := PlacedLine.line), placeLines_line, List.length_map])
  exact ⟨front.symm, congrArg PlacedLine.level (List.cons.inj back).1.symm⟩

end

/-- The lines stand at the levels of the flows that they are in. A closing brace stands at the level
of the line that opened its flow. -/
structure Aligned (level : Nat) (placed : List PlacedLine) : Prop where
  inside : ∀ line ∈ placed, level ≤ line.level
  indented : ∀ before line after, placed = before ++ line :: after → line.line.closes = false →
    line.level = level + (opened (before.map PlacedLine.line) - closed (before.map PlacedLine.line))
  closing : ∀ before line after, placed = before ++ line :: after → line.line.closes = true →
    ∃ outer opener inner, before = outer ++ opener :: inner ∧ opener.line.opens = true ∧
      Nested (inner.map PlacedLine.line) ∧ line.level = opener.level

section
variable {lines first rest : List BodyLine} {line : BodyLine} (h : NeverBelow lines) (level : Nat)
include h

theorem NeverBelow.start (split : lines = first ++ rest) : NeverBelow first := fun start within =>
  h start (within.trans (split ▸ List.prefix_append first rest))

theorem NeverBelow.flowsAfter_eq (split : lines = first ++ rest) :
    flowsAfter level first = level + (opened first - closed first) :=
  (h.start split).unclosed.flowsAfter_eq level

theorem NeverBelow.last (split : lines = first ++ line :: rest) (closes : line.closes = true) :
    ∃ outer head inner, first = outer ++ .openFlow head :: inner ∧ Nested inner ∧
      line.level (flowsAfter level first) = flowsAfter level outer := by
  have below := h (first ++ [line]) (split ▸ by simp)
  have unclosed := (h.start split).unclosed
  cases line with
  | closeFlow =>
    obtain ⟨n, more⟩ : ∃ n, opened first - closed first = n + 1 := by
      simp [BodyLine.opens, BodyLine.closes] at below
      exact ⟨opened first - closed first - 1, by omega⟩
    rw [more] at unclosed
    obtain ⟨outer, head, inner, rfl, outside, inside⟩ := unclosed.last
    refine ⟨outer, head, inner, rfl, inside, ?_⟩
    rw [unclosed.flowsAfter_eq, outside.flowsAfter_eq]
    rfl
  | _ => cases closes

theorem NeverBelow.aligned : Aligned level (placeLines level lines) where
  inside := by
    intro placed member
    obtain ⟨before, after, split⟩ := List.append_of_mem member
    obtain ⟨first, rest, split', rfl, stands⟩ := placeLines_split split
    cases closes : placed.line.closes with
    | false =>
      rw [stands, BodyLine.level, closes, if_neg (by decide), h.flowsAfter_eq level split']
      exact Nat.le_add_right _ _
    | true =>
      obtain ⟨outer, head, inner, rfl, -, leaves⟩ := h.last level split' closes
      rw [List.append_assoc] at split'
      rw [stands, leaves, h.flowsAfter_eq level split']
      exact Nat.le_add_right _ _
  indented := by
    intro before placed after split noClose
    obtain ⟨first, rest, split', rfl, stands⟩ := placeLines_split split
    rw [stands, BodyLine.level, noClose, if_neg (by decide), placeLines_line,
      h.flowsAfter_eq level split']
  closing := by
    intro before placed after split closes
    obtain ⟨first, rest, split', rfl, stands⟩ := placeLines_split split
    obtain ⟨outer, head, inner, rfl, inside, leaves⟩ := h.last level split' closes
    refine ⟨placeLines level outer, ⟨flowsAfter level outer, .openFlow head⟩,
      placeLines (flowsAfter level outer + 1) inner, ?_, rfl, ?_, stands.trans leaves⟩
    · rw [placeLines_append, placeLines_cons]
      rfl
    · rwa [placeLines_line]

end

/-! ### Calls -/

inductive Call where
  | addStatement (format : String) (arguments : List Argument)
  | addCode (code : Fragment)
  | beginFlow (format : String) (arguments : List Argument)
  | endFlow

namespace Call

def begins : Call → Bool
  | beginFlow _ _ => true
  | _ => false

def ends : Call → Bool
  | endFlow => true
  | _ => false

def line : Call → Except EmissionFault BodyLine
  | addStatement format arguments => return .statement (← Fragment.of format arguments)
  | addCode code => .ok (.statement code)
  | beginFlow format arguments => return .openFlow (← Fragment.of format arguments)
  | endFlow => .ok .closeFlow

theorem opens_line {call : Call} {line : BodyLine} (h : call.line = .ok line) :
    line.opens = call.begins ∧ line.closes = call.ends := by
  cases call with
  | addStatement format arguments =>
    obtain ⟨code, -, h⟩ := bind_ok h
    rw [pure_ok h]
    exact ⟨rfl, rfl⟩
  | addCode code =>
    cases h
    exact ⟨rfl, rfl⟩
  | beginFlow format arguments =>
    obtain ⟨head, -, h⟩ := bind_ok h
    rw [pure_ok h]
    exact ⟨rfl, rfl⟩
  | endFlow =>
    cases h
    exact ⟨rfl, rfl⟩

abbrev Add (calls : List Call) (lines : List BodyLine) : Prop :=
  List.Forall₂ (fun call line => call.line = .ok line) calls lines

theorem Add.count {calls : List Call} {lines : List BodyLine} (h : Add calls lines) :
    opened lines = calls.countP begins ∧ closed lines = calls.countP ends := by
  induction h with
  | nil => exact ⟨rfl, rfl⟩
  | cons adds _ ih =>
    obtain ⟨opens, closes⟩ := opens_line adds
    rw [opened_cons, closed_cons, List.countP_cons, List.countP_cons, ih.1, ih.2, opens, closes]
    exact ⟨by cases begins _ <;> rfl, by cases ends _ <;> rfl⟩

end Call

namespace FunctionText

def call (f : FunctionText) : Call → Except EmissionFault FunctionText
  | .addStatement format arguments => f.addStatement format arguments
  | .addCode code => .ok (f.addCode code)
  | .beginFlow format arguments => f.beginFlow format arguments
  | .endFlow => f.endFlow

/-- A call that fails leaves the function as it is. -/
def perform (f : FunctionText) (call : Call) : FunctionText :=
  match f.call call with
  | .ok g => g
  | .error _ => f

def build (f : FunctionText) (calls : List Call) : FunctionText := calls.foldl perform f

/-- The calls that do not fail, in their order. -/
def accepted (f : FunctionText) : List Call → List Call
  | [] => []
  | call :: calls =>
    match f.call call with
    | .ok g => call :: g.accepted calls
    | .error _ => f.accepted calls

def add (f : FunctionText) (line : BodyLine) : FunctionText :=
  { f with body := f.body ++ [line], openFlows := line.flows f.openFlows }

variable {f g : FunctionText}

/-- A call adds its line, and closes no flow where none is open. -/
theorem call_ok {call : Call} (h : f.call call = .ok g) :
    ∃ line, call.line = .ok line ∧ g = f.add line ∧ (line.closes = true → 0 < f.openFlows) := by
  cases call with
  | addStatement format arguments =>
    obtain ⟨code, filled, h⟩ := bind_ok h
    exact ⟨.statement code, by rw [Call.line, filled]; rfl, pure_ok h, (nomatch ·)⟩
  | addCode code =>
    cases h
    exact ⟨.statement code, rfl, rfl, (nomatch ·)⟩
  | beginFlow format arguments =>
    obtain ⟨head, filled, h⟩ := bind_ok h
    exact ⟨.openFlow head, by rw [Call.line, filled]; rfl, pure_ok h, (nomatch ·)⟩
  | endFlow =>
    change f.endFlow = .ok g at h
    unfold endFlow at h
    split at h
    · cases h
    · next some =>
      cases h
      exact ⟨.closeFlow, rfl, rfl, fun _ => Nat.pos_of_ne_zero some⟩

/-- The count of open flows is what the body leaves open, and it was at every time. -/
structure Tracked (f : FunctionText) : Prop where
  count : closed f.body + f.openFlows = opened f.body
  never : NeverBelow f.body

theorem Tracked.add {line : BodyLine} (h : f.Tracked)
    (closable : line.closes = true → 0 < f.openFlows) : (f.add line).Tracked := by
  have count := h.count
  have count' : closed (f.body ++ [line]) + line.flows f.openFlows = opened (f.body ++ [line]) := by
    cases line with
    | closeFlow =>
      have := closable rfl
      simp [BodyLine.opens, BodyLine.closes, BodyLine.flows]
      omega
    | _ =>
      simp [BodyLine.opens, BodyLine.closes, BodyLine.flows]
      omega
  refine ⟨count', fun start within => ?_⟩
  rcases List.prefix_concat_iff.1 within with rfl | earlier
  · omega
  · exact h.never start earlier

/-- What calls that succeed one after the other have built. -/
theorem run_ok {calls : List Call} (h : calls.foldlM call f = .ok g) (tracked : f.Tracked) :
    g.Tracked ∧ ∃ lines, g.body = f.body ++ lines ∧ Call.Add calls lines := by
  induction calls generalizing f with
  | nil =>
    cases h
    exact ⟨tracked, [], (List.append_nil _).symm, .nil⟩
  | cons call calls ih =>
    rw [List.foldlM_cons] at h
    obtain ⟨f', first, h⟩ := bind_ok h
    obtain ⟨line, added, rfl, closable⟩ := call_ok first
    obtain ⟨tracked', lines, body, rest⟩ := ih h (tracked.add closable)
    exact ⟨tracked', line :: lines, by simpa [add] using body, .cons added rest⟩

/-- The count of open flows is what the calls have begun and not ended. -/
theorem run_fresh {calls : List Call} (h : calls.foldlM call f = .ok g) (empty : f.body = [])
    (none : f.openFlows = 0) :
    g.Tracked ∧ Call.Add calls g.body ∧
      g.openFlows + calls.countP Call.ends = calls.countP Call.begins := by
  have fresh : f.Tracked := by
    refine ⟨by rw [empty, none]; rfl, fun first within => ?_⟩
    rw [empty, List.prefix_nil] at within
    exact within ▸ Nat.le_refl 0
  obtain ⟨tracked, lines, body, added⟩ := run_ok h fresh
  rw [empty, List.nil_append] at body
  subst body
  have count := tracked.count
  rw [added.count.1, added.count.2] at count
  exact ⟨tracked, added, by omega⟩

/-- The calls that do not fail build the same without the others. -/
theorem run_accepted (f : FunctionText) (calls : List Call) :
    (f.accepted calls).foldlM call f = .ok (f.build calls) := by
  induction calls generalizing f with
  | nil => rfl
  | cons call calls ih =>
    rw [accepted, build, List.foldl_cons, ← build, perform]
    cases done : f.call call with
    | ok g =>
      dsimp only
      rw [List.foldlM_cons, done, ok_bind, ih]
    | error fault => exact ih f

theorem write_succeeds_iff {imports : Imports} {level : Nat} :
    Succeeds (f.write imports level) ↔ f.openFlows = 0 := by
  rw [write]
  split
  · next closed => exact iff_of_true ⟨_, rfl⟩ closed
  · next some =>
    refine iff_of_false ?_ some
    rintro ⟨_, succeeded⟩
    cases succeeded

/-- The text of a function to which the calls have added their lines. The counter of the writer
stands at some level between any two lines, and never below the level of the body. -/
structure WrittenBy (f : FunctionText) (calls : List Call) (imports : Imports) (level : Nat)
    (text : String) (placed : List PlacedLine) : Prop where
  whole : text = indent level ++ f.heading imports ++ " \x7b\n" ++
    String.join (placed.map (PlacedLine.write imports)) ++ indent level ++ "\x7d\n"
  lines : Call.Add calls (placed.map PlacedLine.line)
  counter : ∀ first rest, placed.map PlacedLine.line = first ++ rest →
    placed = placeLines (level + 1) first ++ placeLines (flowsAfter (level + 1) first) rest ∧
      level + 1 ≤ flowsAfter (level + 1) first
  aligned : Aligned (level + 1) placed

theorem Tracked.writtenBy {calls : List Call} {imports : Imports} {level : Nat} {text : String}
    (h : f.Tracked) (added : Call.Add calls f.body) (written : f.write imports level = .ok text) :
    f.WrittenBy calls imports level text (placeLines (level + 1) f.body) where
  whole := by
    rw [write] at written
    split at written
    · exact (Except.ok.inj written).symm
    · cases written
  lines := by rwa [placeLines_line]
  counter := by
    intro first rest split
    rw [placeLines_line] at split
    rw [split, placeLines_append, h.never.flowsAfter_eq (level + 1) split]
    exact ⟨rfl, Nat.le_add_right _ _⟩
  aligned := h.never.aligned (level + 1)

/-- The flows of a function are balanced after any calls, whether or not some of them fail: no flow
is closed that was not opened, the function can be written as soon as all are closed, and each line
is then indented by the flows that it is in. -/
theorem flows_balanced (name : String) (modifiers : List Modifier) (receiver : Option TypeName)
    (parameters : List (String × TypeName)) (returns : Option TypeName) (calls : List Call) :
    let start : FunctionText := { name, modifiers, receiver, parameters, returns }
    let done := start.accepted calls
    let built := start.build calls
    done.foldlM call start = .ok built ∧
    built.openFlows + done.countP Call.ends = done.countP Call.begins ∧
    (∀ first, first <+: done → first.countP Call.ends ≤ first.countP Call.begins) ∧
    ∀ imports level,
      (Succeeds (built.write imports level) ↔ done.countP Call.begins = done.countP Call.ends) ∧
      ∀ text, built.write imports level = .ok text →
        ∃ placed, built.WrittenBy done imports level text placed := by
  intro start done built
  have run : done.foldlM call start = .ok built := run_accepted start calls
  obtain ⟨tracked, added, balance⟩ := run_fresh run rfl rfl
  refine ⟨run, balance, ?_, fun imports level => ⟨?_, fun text written => ?_⟩⟩
  · rintro first ⟨rest, split⟩
    -- The first of the calls are a run of their own, from the same empty body.
    rw [← split, List.foldlM_append] at run
    obtain ⟨g, run, -⟩ := bind_ok run
    have balance := (run_fresh run rfl rfl).2.2
    omega
  · rw [write_succeeds_iff]
    omega
  · exact ⟨_, tracked.writtenBy added written⟩

/-- Calls of which the first and the third fail. -/
def sampleCalls : List Call :=
  [.endFlow, .beginFlow "if (x)" [], .addStatement "%S" [], .beginFlow "run" [],
    .addCode (.literal "y()"), .endFlow, .endFlow]

theorem sampleCalls_written :
    ∃ placed, (build { name := "f" } sampleCalls).WrittenBy (accepted { name := "f" } sampleCalls)
      .qualified 1
      "  fun f() \x7b\n    if (x) \x7b\n      run \x7b\n        y()\n      \x7d\n    \x7d\n  \x7d\n"
      placed := by
  obtain ⟨-, -, -, written⟩ := flows_balanced "f" [] none [] none sampleCalls
  exact (written .qualified 1).2 _ (by decide +kernel)

end FunctionText

end ScriptRegistrar.Source
