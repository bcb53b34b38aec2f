import Mathlib.Data.List.Forall2

/-!
# Lists of results

What comes of each element of a list, one after the other up to the first failure.

## Main statements

- `mapM_eq_ok_iff`: there is a result for all of them if there is one for each
- `exists_mapM_eq_error_iff`: there is a failure if there is one for any of them
- `mapM_eq_ok_of_forall_mem`, `foldlM_congr`: functions that agree on the elements
-/

namespace RedactedBundle

variable {ε α β : Type} {f : α → Except ε β} {xs : List α} {ys : List β}

theorem toOption_eq_some_iff {result : Except ε α} {x : α} :
    result.toOption = some x ↔ result = .ok x := by
  cases result <;> simp [Except.toOption]

theorem mapM_eq_ok_iff : xs.mapM f = .ok ys ↔ List.Forall₂ (fun x y => f x = .ok y) xs ys := by
  induction xs generalizing ys with
  | nil => cases ys <;> simp [pure, Except.pure]
  | cons x rest ih =>
    rw [List.mapM_cons]
    cases hx : f x with
    | error failure => cases ys <;> simp [bind, Except.bind, hx]
    | ok y =>
      cases hrest : rest.mapM f with
      | error failure => cases ys <;> simp [bind, Except.bind, hx, ← ih, hrest]
      | ok more => cases ys <;> simp [bind, Except.bind, pure, Except.pure, hx, ← ih, hrest]

theorem exists_mapM_eq_error_iff :
    (∃ failure, xs.mapM f = .error failure) ↔ ∃ x ∈ xs, ∃ failure, f x = .error failure := by
  induction xs with
  | nil => simp [pure, Except.pure]
  | cons x rest ih =>
    rw [List.mapM_cons, List.exists_mem_cons_iff, ← ih]
    cases hx : f x with
    | error failure => simp [bind, Except.bind]
    | ok y => cases hrest : rest.mapM f <;> simp [bind, Except.bind, pure, Except.pure]

theorem mapM_eq_ok_of_forall_mem {g : α → Except ε β}
    (h : ∀ x ∈ xs, ∀ y, f x = .ok y → g x = .ok y) (hys : xs.mapM f = .ok ys) :
    xs.mapM g = .ok ys := by
  refine mapM_eq_ok_iff.mpr ?_
  have hforall := mapM_eq_ok_iff.mp hys
  clear hys
  induction hforall with
  | nil => exact .nil
  | cons hx _ ih =>
    exact .cons (h _ List.mem_cons_self _ hx) (ih fun x hmem => h x (List.mem_cons_of_mem _ hmem))

theorem foldlM_congr {f g : β → α → Except ε β} (h : ∀ x ∈ xs, ∀ acc, f acc x = g acc x)
    (acc : β) : xs.foldlM f acc = xs.foldlM g acc := by
  induction xs generalizing acc with
  | nil => rfl
  | cons x rest ih =>
    rw [List.foldlM_cons, List.foldlM_cons, h x (by simp)]
    exact congrArg _ (funext (ih fun y hy => h y (by simp [hy])))

end RedactedBundle
