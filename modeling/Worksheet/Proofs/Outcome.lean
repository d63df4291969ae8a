/- Worksheet Outcomes — what is known of a computation that may fail.

   A condition on the errors of a computation or on its results carries over to every
   computation that is made of it: `Fails p x` and `Yields p x` go through a sequence of
   steps, one step at a time. -/
namespace Worksheet

variable {ε α β : Type}

/-- Every error of a computation satisfies a condition. -/
def Fails (p : ε → Prop) (x : Except ε α) : Prop := ∀ e, x = .error e → p e

/-- Every result of a computation satisfies a condition. -/
def Yields (p : α → Prop) (x : Except ε α) : Prop := ∀ a, x = .ok a → p a

namespace Fails

variable {p q : ε → Prop} {x : Except ε α} {f : α → Except ε β}

theorem ok (a : α) : Fails p (.ok a : Except ε α) := fun _ h => nomatch h

theorem error {e : ε} (h : p e) : Fails p (.error e : Except ε α) := by
  rintro _ ⟨⟩
  exact h

theorem mono (hx : Fails p x) (h : ∀ e, p e → q e) : Fails q x := fun e he => h e (hx e he)

/-- A sequence of steps fails as one of its steps does. -/
theorem bind (hx : Fails p x) (hf : ∀ a, Fails p (f a)) : Fails p (x >>= f) := by
  cases x with
  | error e =>
    rintro _ ⟨⟩
    exact hx e rfl
  | ok a => exact hf a

theorem ite {c : Prop} [Decidable c] {y : Except ε α} (hx : c → Fails p x)
    (hy : ¬ c → Fails p y) : Fails p (if c then x else y) := by
  split
  · exact hx ‹c›
  · exact hy ‹¬ c›

end Fails

namespace Yields

variable {p q : α → Prop} {r : β → Prop} {x : Except ε α} {f : α → Except ε β}

theorem ok {a : α} (h : p a) : Yields p (.ok a : Except ε α) := by
  rintro _ ⟨⟩
  exact h

theorem error (e : ε) : Yields p (.error e : Except ε α) := fun _ h => nomatch h

theorem always (h : ∀ a, p a) : Yields p x := fun a _ => h a

/-- A sequence of steps yields what its last step yields, given what the first does. -/
theorem bind (hx : Yields q x) (hf : ∀ a, q a → Yields r (f a)) : Yields r (x >>= f) := by
  cases x with
  | error e => exact error e
  | ok a => exact hf a (hx a rfl)

theorem ite {c : Prop} [Decidable c] {y : Except ε α} (hx : c → Yields p x)
    (hy : ¬ c → Yields p y) : Yields p (if c then x else y) := by
  split
  · exact hx ‹c›
  · exact hy ‹¬ c›

/-- Steps for the items of a list yield a list of what each step yields. -/
theorem mapM {f : α → Except ε β} {xs : List α} (h : ∀ x ∈ xs, Yields r (f x)) :
    Yields (∀ y ∈ ·, r y) (xs.mapM f) := by
  induction xs with
  | nil => exact ok (List.forall_mem_nil r)
  | cons x xs ih =>
    obtain ⟨hx, hxs⟩ := List.forall_mem_cons.mp h
    rw [List.mapM_cons]
    exact hx.bind fun _ hy => (ih hxs).bind fun _ hys => ok (List.forall_mem_cons.mpr ⟨hy, hys⟩)

end Yields

/-! ## Optional results for the items of a list -/

theorem exists_of_mem_mapM {f : α → Option β} {xs : List α} {ys : List β}
    (h : xs.mapM f = some ys) {y : β} (hy : y ∈ ys) : ∃ x ∈ xs, f x = some y := by
  induction xs generalizing ys with
  | nil =>
    obtain rfl := Option.some.inj h
    exact nomatch hy
  | cons x xs ih =>
    rw [List.mapM_cons] at h
    obtain ⟨z, hz, h⟩ := Option.bind_eq_some_iff.mp h
    obtain ⟨zs, hzs, h⟩ := Option.bind_eq_some_iff.mp h
    obtain rfl := Option.some.inj h
    rcases List.mem_cons.mp hy with rfl | hy
    · exact ⟨x, List.mem_cons_self, hz⟩
    · obtain ⟨w, hw, hfw⟩ := ih hzs hy
      exact ⟨w, List.mem_cons_of_mem x hw, hfw⟩

theorem mapM_eq_some {f : α → Option β} {k : α → β} {xs : List α}
    (h : ∀ x ∈ xs, f x = some (k x)) : xs.mapM f = some (xs.map k) := by
  induction xs with
  | nil => rfl
  | cons x xs ih =>
    obtain ⟨hx, hxs⟩ := List.forall_mem_cons.mp h
    rw [List.mapM_cons, hx, ih hxs]
    rfl

end Worksheet
