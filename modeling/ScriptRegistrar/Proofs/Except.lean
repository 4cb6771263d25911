import Mathlib.Data.List.Forall2

namespace ScriptRegistrar

section
universe u
variable {ε : Type} {α β : Type u}

@[simp]
theorem ok_bind (x : α) (f : α → Except ε β) : (Except.ok x >>= f) = f x := rfl

theorem bind_ok {x : Except ε α} {f : α → Except ε β} {b : β} (h : (x >>= f) = .ok b) :
    ∃ a, x = .ok a ∧ f a = .ok b := by
  cases x with
  | ok a => exact ⟨a, rfl, h⟩
  | error e => cases h

theorem pure_ok {a b : α} (h : (pure a : Except ε α) = .ok b) : b = a := by
  cases h
  rfl

theorem mapError_ok {ε' : Type} {f : ε → ε'} {x : Except ε α} {a : α}
    (h : x.mapError f = .ok a) : x = .ok a := by
  cases x with
  | ok b =>
    cases h
    rfl
  | error e => cases h

/-- A computation whose result is known as far as `f` shows it. -/
theorem exists_ok_of_map {x : Except ε α} {f : α → β} {v : β} (h : x.toOption.map f = some v) :
    ∃ a, x = .ok a ∧ f a = v := by
  cases x with
  | ok a => exact ⟨a, rfl, Option.some.inj h⟩
  | error e => cases h

theorem mapM_ok {f : α → Except ε β} {xs : List α} {ys : List β} (h : xs.mapM f = .ok ys) :
    List.Forall₂ (fun x y => f x = .ok y) xs ys := by
  induction xs generalizing ys with
  | nil =>
    rw [List.mapM_nil] at h
    rw [pure_ok h]
    exact .nil
  | cons x xs ih =>
    rw [List.mapM_cons] at h
    obtain ⟨y, first, h⟩ := bind_ok h
    obtain ⟨rest, later, h⟩ := bind_ok h
    rw [pure_ok h]
    exact .cons first (ih later)

/-! ### Two computations -/

/-- Both succeed with related results, or both fail in the same way as far as `kind` shows it. -/
inductive Agree {γ : Type u} {κ : Type} (kind : ε → κ) (R : α → γ → Prop) :
    Except ε α → Except ε γ → Prop
  | ok {a c} (related : R a c) : Agree kind R (.ok a) (.ok c)
  | error {e e'} (same : kind e = kind e') : Agree kind R (.error e) (.error e')

variable {γ δ : Type u} {κ : Type} {kind : ε → κ}

theorem Agree.bind {R : α → γ → Prop} {S : β → δ → Prop} {x : Except ε α} {y : Except ε γ}
    {f : α → Except ε β} {g : γ → Except ε δ} (first : Agree kind R x y)
    (later : ∀ a c, R a c → Agree kind S (f a) (g c)) : Agree kind S (x >>= f) (y >>= g) := by
  cases first with
  | ok related => exact later _ _ related
  | error same => exact .error same

theorem Agree.trans {R : α → α → Prop} (compose : ∀ a b c, R a b → R b c → R a c)
    {x y z : Except ε α} (first : Agree kind R x y) (later : Agree kind R y z) :
    Agree kind R x z := by
  cases first with
  | ok related =>
    cases later with
    | ok related' => exact .ok (compose _ _ _ related related')
  | error same =>
    cases later with
    | error same' => exact .error (same.trans same')

/-- Where a computation fails in one way only, the order of its inputs does not show. -/
theorem mapM_perm {f : α → Except ε β}
    (oneWay : ∀ x e y e', f x = .error e → f y = .error e' → kind e = kind e')
    {xs ys : List α} (perm : xs.Perm ys) : Agree kind List.Perm (xs.mapM f) (ys.mapM f) := by
  have keep : ∀ (b : β) (bs cs : List β), bs.Perm cs →
      Agree kind List.Perm (pure (b :: bs) : Except ε (List β)) (pure (b :: cs)) :=
    fun b _ _ same => .ok (same.cons b)
  induction perm with
  | nil => exact .ok .nil
  | @cons x xs ys _ ih =>
    rw [List.mapM_cons, List.mapM_cons]
    cases fx : f x with
    | error e => exact .error rfl
    | ok b => exact ih.bind (keep b)
  | swap x y xs =>
    simp only [List.mapM_cons]
    cases fx : f x with
    | error e =>
      cases fy : f y with
      | error e' => exact .error (oneWay _ _ _ _ fy fx)
      | ok c => exact .error rfl
    | ok b =>
      cases fy : f y with
      | error e' => exact .error rfl
      | ok c =>
        cases xs.mapM f with
        | error e => exact .error rfl
        | ok bs => exact .ok (.swap b c bs)
  | trans _ _ ih ih' =>
    exact Agree.trans (R := List.Perm) (fun _ _ _ p q => p.trans q) ih ih'

/-! ### How a computation ends -/

/-- The result is `good`, or the error is `bad`. -/
inductive Ends (good : α → Prop) (bad : ε → Prop) : Except ε α → Prop
  | ok {a} (result : good a) : Ends good bad (.ok a)
  | error {e} (fault : bad e) : Ends good bad (.error e)

/-- If there is an error, it is `bad`. -/
abbrev FailsOnly (bad : ε → Prop) (x : Except ε α) : Prop := Ends (fun _ => True) bad x

variable {good : α → Prop} {bad : ε → Prop} {x : Except ε α}

theorem failsOnly_any (x : Except ε α) : FailsOnly (fun _ => True) x := by
  cases x with
  | ok => exact .ok trivial
  | error => exact .error trivial

theorem Ends.good_of_ok {a : α} (h : Ends good bad x) (succeeds : x = .ok a) : good a := by
  cases h with
  | ok result =>
    cases succeeds
    exact result
  | error => cases succeeds

theorem Ends.bad_of_error {e : ε} (h : Ends good bad x) (fails : x = .error e) : bad e := by
  cases h with
  | ok => cases fails
  | error fault =>
    cases fails
    exact fault

theorem Ends.exists_ok (h : Ends good (fun _ => False) x) : ∃ a, x = .ok a ∧ good a := by
  cases h with
  | ok result => exact ⟨_, rfl, result⟩
  | error fault => exact fault.elim

theorem Ends.mono {good' : α → Prop} {bad' : ε → Prop} (h : Ends good bad x)
    (result : ∀ a, good a → good' a) (fault : ∀ e, bad e → bad' e) : Ends good' bad' x := by
  cases h with
  | ok given => exact .ok (result _ given)
  | error given => exact .error (fault _ given)

theorem Ends.bind {good' : β → Prop} {f : α → Except ε β} (first : Ends good bad x)
    (later : ∀ a, good a → Ends good' bad (f a)) : Ends good' bad (x >>= f) := by
  cases first with
  | ok result => exact later _ result
  | error fault => exact .error fault

theorem Ends.mapError {ε' : Type} {bad' : ε' → Prop} {g : ε → ε'} (h : Ends good bad x)
    (fault : ∀ e, bad e → bad' (g e)) : Ends good bad' (x.mapError g) := by
  cases h with
  | ok result => exact .ok result
  | error given => exact .error (fault _ given)

/-- What never fails does not fail where it is lifted to. -/
theorem Ends.lift {ε' : Type} {bad' : ε' → Prop} (h : Ends good (fun _ => False) x) (g : ε → ε') :
    Ends good bad' (x.mapError g) :=
  h.mapError fun _ never => never.elim

theorem Ends.mapM {R : α → β → Prop} {f : α → Except ε β} {xs : List α}
    (h : ∀ x ∈ xs, Ends (R x) bad (f x)) : Ends (List.Forall₂ R xs) bad (xs.mapM f) := by
  induction xs with
  | nil => exact .ok .nil
  | cons x xs ih =>
    rw [List.mapM_cons]
    refine (h x List.mem_cons_self).bind fun y first => ?_
    refine (ih fun x member => h x (List.mem_cons_of_mem _ member)).bind fun ys rest => ?_
    exact .ok (.cons first rest)

theorem Ends.mapM_forall {good : β → Prop} {f : α → Except ε β} {xs : List α}
    (h : ∀ x ∈ xs, Ends good bad (f x)) : Ends (fun ys => ∀ y ∈ ys, good y) bad (xs.mapM f) := by
  refine (Ends.mapM (R := fun _ => good) h).mono (fun ys all => ?_) fun _ fault => fault
  clear h
  induction all with
  | nil => simp
  | cons first _ ih => exact List.forall_mem_cons.2 ⟨first, ih⟩

/-- What success says of one input it says of all. -/
theorem Ends.mapM_inputs {P : α → Prop} {f : α → Except ε β} {xs : List α}
    (h : ∀ x ∈ xs, Ends (fun _ => P x) bad (f x)) :
    Ends (fun _ => ∀ x ∈ xs, P x) bad (xs.mapM f) := by
  have each : ∀ x ∈ xs, Ends (fun _ => P x ∧ True) bad (f x) := fun x member =>
    (h x member).mono (fun _ given => ⟨given, trivial⟩) fun _ fault => fault
  refine (Ends.mapM (R := fun x _ => P x ∧ True) each).mono (fun ys all => ?_) fun _ fault => fault
  exact ((List.forall₂_and_left xs ys).1 all).1

/-- What every step preserves holds at the end of a loop. -/
theorem Ends.foldlM {invariant : β → Prop} {f : β → α → Except ε β} {xs : List α} {b : β}
    (start : invariant b) (step : ∀ b, ∀ x ∈ xs, invariant b → Ends invariant bad (f b x)) :
    Ends invariant bad (xs.foldlM f b) := by
  induction xs generalizing b with
  | nil => exact .ok start
  | cons x xs ih =>
    rw [List.foldlM_cons]
    refine (step b x List.mem_cons_self start).bind fun b' kept => ?_
    exact ih kept fun b x member => step b x (List.mem_cons_of_mem _ member)

/-! ### Computations that succeed -/

abbrev Succeeds (x : Except ε α) : Prop := ∃ a, x = .ok a

theorem succeeds_of_isSome (h : x.toOption.isSome = true) : Succeeds x := by
  cases x with
  | ok a => exact ⟨a, rfl⟩
  | error e => cases h

theorem succeeds_mapError {ε' : Type} {g : ε → ε'} : Succeeds (x.mapError g) ↔ Succeeds x := by
  constructor
  · rintro ⟨a, succeeded⟩
    exact ⟨a, mapError_ok succeeded⟩
  · rintro ⟨a, rfl⟩
    exact ⟨a, rfl⟩

/-- Two steps succeed if each does, where the result of the first does not matter to the second. -/
theorem succeeds_bind {f : α → Except ε β} {Q : Prop}
    (later : ∀ a, x = .ok a → (Succeeds (f a) ↔ Q)) : Succeeds (x >>= f) ↔ Succeeds x ∧ Q := by
  constructor
  · rintro ⟨b, succeeded⟩
    obtain ⟨a, first, second⟩ := bind_ok succeeded
    exact ⟨⟨a, first⟩, (later a first).1 ⟨b, second⟩⟩
  · rintro ⟨⟨a, rfl⟩, holds⟩
    exact (later a rfl).2 holds

theorem succeeds_mapM {f : α → Except ε β} {xs : List α} :
    Succeeds (xs.mapM f) ↔ ∀ x ∈ xs, Succeeds (f x) := by
  induction xs with
  | nil => exact iff_of_true ⟨[], rfl⟩ (by simp)
  | cons x xs ih =>
    rw [List.mapM_cons, List.forall_mem_cons, ← ih]
    refine succeeds_bind fun y _ => ?_
    exact (succeeds_bind fun ys _ => iff_of_true ⟨y :: ys, rfl⟩ trivial).trans (and_true _).to_iff

/-! ### Computations that decide something -/

/-- Success says that `P` holds, and the only error says that it does not. -/
abbrev Decides (P : Prop) (fault : ε) (x : Except ε α) : Prop :=
  Ends (fun _ => P) (fun e => ¬ P ∧ e = fault) x

namespace Decides

variable {P Q : Prop} {fault : ε}

theorem error (fails : ¬ P) : Decides P fault (.error fault : Except ε α) :=
  Ends.error (And.intro fails rfl)

theorem congr (h : Decides P fault x) (same : P ↔ Q) : Decides Q fault x :=
  h.mono (fun _ => same.1) fun _ given => And.intro (mt same.2 given.1) given.2

/-- What never fails decides what holds. -/
theorem total (h : FailsOnly (fun _ => False) x) (holds : P) : Decides P fault x :=
  h.mono (fun _ _ => holds) fun _ never => never.elim

theorem bind {f : α → Except ε β} (first : Decides P fault x)
    (later : ∀ a, Decides Q fault (f a)) : Decides (P ∧ Q) fault (x >>= f) := by
  cases first with
  | ok holds =>
    refine (later _).mono (fun _ holds' => ⟨holds, holds'⟩) ?_
    rintro e ⟨fails, rfl⟩
    exact ⟨fun both => fails both.2, rfl⟩
  | error given => exact Ends.error ⟨fun both => given.1 both.1, given.2⟩

theorem mapError {ε' : Type} (h : Decides P fault x) (g : ε → ε') :
    Decides P (g fault) (x.mapError g) :=
  Ends.mapError h fun _ given => And.intro given.1 (congrArg g given.2)

theorem ok_iff (h : Decides P fault x) : (∃ a, x = .ok a) ↔ P := by
  cases h with
  | ok holds => exact ⟨fun _ => holds, fun _ => ⟨_, rfl⟩⟩
  | error given => exact ⟨fun ⟨_, same⟩ => (nomatch same), fun holds => absurd holds given.1⟩

theorem eq_error (h : Decides P fault x) (fails : ¬ P) : x = .error fault := by
  cases h with
  | ok holds => exact absurd holds fails
  | error given => rw [given.2]

end Decides

end

end ScriptRegistrar
