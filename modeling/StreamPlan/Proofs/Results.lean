import Mathlib.Data.List.Forall2

/-! Results of steps that may fail, taken apart: a sequence of steps succeeds when each of them
does, and its complaint is the first one. -/
namespace StreamPlan

variable {ε δ α β γ κ : Type}

@[simp] theorem ok_bind (a : α) (f : α → Except ε β) : (Except.ok a >>= f) = f a := rfl
@[simp] theorem error_bind (e : ε) (f : α → Except ε β) : (Except.error e >>= f) = .error e := rfl
@[simp] theorem pure_eq_ok (a : α) : (pure a : Except ε α) = .ok a := rfl
@[simp] theorem throw_eq_error (e : ε) : (throw e : Except ε α) = .error e := rfl

@[simp] theorem bind_ok (x : Except ε α) : (x >>= fun a => .ok a) = x := by
  cases x <;> rfl

theorem bind_eq_ok {x : Except ε α} {f : α → Except ε β} {b : β} :
    (x >>= f) = .ok b ↔ ∃ a, x = .ok a ∧ f a = .ok b := by
  cases x <;> simp

theorem bind_eq_error {x : Except ε α} {f : α → Except ε β} {e : ε} :
    (x >>= f) = .error e ↔ x = .error e ∨ ∃ a, x = .ok a ∧ f a = .error e := by
  cases x <;> simp

/-- Steps in a row over a state: what the first has made of it stays when it fails. -/
theorem run_bind {σ : Type} (step : ExceptT ε (StateM σ) α) (next : α → ExceptT ε (StateM σ) β) (s : σ) :
    (step >>= next).run s = match step.run s with
      | (.ok a, s) => (next a).run s
      | (.error e, s) => (.error e, s) := by
  change (match step.run s with | (r, s) => ExceptT.bindCont next r s) = _
  rcases step.run s with ⟨_ | _, _⟩ <;> rfl

theorem toOption_eq_some {x : Except ε α} {a : α} : x.toOption = some a ↔ x = .ok a := by
  cases x <;> simp [Except.toOption]

theorem toOption_eq_none {x : Except ε α} : x.toOption = none ↔ ∃ e, x = .error e := by
  cases x <;> simp [Except.toOption]

/-- With complaints left out, steps in a row are taken as far as there are results. -/
theorem toOption_bind (x : Except ε α) (f : α → Except ε β) :
    (x >>= f).toOption = x.toOption.bind fun a => (f a).toOption := by
  cases x <;> rfl

theorem toOption_mapM (f : α → Except ε β) (xs : List α) :
    (xs.mapM f).toOption = xs.mapM fun x => (f x).toOption := by
  induction xs with
  | nil => rfl
  | cons x xs ih =>
    simp only [List.mapM_cons, toOption_bind, ih]
    rfl

/-- A step that first refuses what does not fit. -/
theorem refused_eq_ok {c : Prop} [Decidable c] {e : ε} {x : Except ε β} {b : β} :
    (if c then .error e else x) = .ok b ↔ ¬ c ∧ x = .ok b := by
  by_cases refused : c <;> simp [refused]

theorem mapM_eq_ok {f : α → Except ε β} {xs : List α} {ys : List β} :
    xs.mapM f = .ok ys ↔ List.Forall₂ (fun x y => f x = .ok y) xs ys := by
  induction xs generalizing ys with
  | nil => simp [eq_comm]
  | cons x xs ih =>
    simp only [List.mapM_cons, bind_eq_ok, pure_eq_ok, Except.ok.injEq, List.forall₂_cons_left_iff]
    constructor
    · rintro ⟨y, head, rest, tail, rfl⟩
      exact ⟨y, rest, head, ih.mp tail, rfl⟩
    · rintro ⟨y, rest, head, tail, rfl⟩
      exact ⟨y, head, rest, ih.mpr tail, rfl⟩

theorem exists_of_mapM_eq_error {f : α → Except ε β} {xs : List α} {e : ε} (failed : xs.mapM f = .error e) :
    ∃ x ∈ xs, f x = .error e := by
  induction xs with
  | nil => cases failed
  | cons x xs ih =>
    simp only [List.mapM_cons, bind_eq_error, pure_eq_ok] at failed
    rcases failed with failed | ⟨_, _, failed | ⟨_, _, failed⟩⟩
    · exact ⟨x, List.mem_cons_self, failed⟩
    · obtain ⟨other, member, failed⟩ := ih failed
      exact ⟨other, List.mem_cons_of_mem _ member, failed⟩
    · cases failed

theorem exists_of_mem_right {R : α → β → Prop} {xs : List α} {ys : List β} {y : β}
    (each : List.Forall₂ R xs ys) (member : y ∈ ys) : ∃ x ∈ xs, R x y := by
  induction each with
  | nil => cases member
  | cons related _ ih =>
    rcases List.mem_cons.mp member with rfl | member
    · exact ⟨_, List.mem_cons_self, related⟩
    · obtain ⟨other, inside, related⟩ := ih member
      exact ⟨other, List.mem_cons_of_mem _ inside, related⟩

theorem exists_of_getElem?_left {R : α → β → Prop} {xs : List α} {ys : List β} {k : Nat} {x : α}
    (each : List.Forall₂ R xs ys) (here : xs[k]? = some x) : ∃ y, ys[k]? = some y ∧ R x y := by
  induction each generalizing k with
  | nil => cases here
  | cons related _ ih =>
    cases k with
    | zero =>
      cases here
      exact ⟨_, rfl, related⟩
    | succ k => exact ih here

theorem forall₂_both {R S : α → β → Prop} {xs : List α} {ys : List β} (first : List.Forall₂ R xs ys)
    (second : List.Forall₂ S xs ys) : List.Forall₂ (fun x y => R x y ∧ S x y) xs ys := by
  induction first with
  | nil => exact .nil
  | cons related _ ih =>
    cases second with
    | cons also second => exact .cons ⟨related, also⟩ (ih second)

theorem forall₂_joined {R : α → β → Prop} {S : α → γ → Prop} {T : β → γ → Prop} {xs : List α} {ys : List β}
    {zs : List γ} (first : List.Forall₂ R xs ys) (second : List.Forall₂ S xs zs)
    (both : ∀ x y z, R x y → S x z → T y z) : List.Forall₂ T ys zs := by
  induction first generalizing zs with
  | nil =>
    cases second
    exact .nil
  | cons related _ ih =>
    cases second with
    | cons also second => exact .cons (both _ _ _ related also) (ih second)

/-- The same result with other names in it. -/
def relabel (blame : ε → δ) (give : α → β) : Except ε α → Except δ β
  | .ok a => .ok (give a)
  | .error e => .error (blame e)

theorem relabel_bind {blame : ε → δ} {first : α → β} {last : γ → κ} {step : Except ε α}
    {next : α → Except ε γ} {later : β → Except δ κ} (each : ∀ a, later (first a) = relabel blame last (next a)) :
    (relabel blame first step >>= later) = relabel blame last (step >>= next) := by
  cases step with
  | error e => rfl
  | ok a => exact each a

end StreamPlan
