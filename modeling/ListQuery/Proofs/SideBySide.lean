import Mathlib.Data.List.Forall2
/-!
Two runs side by side. They are alike when both succeed with results in a relation, or both fail
with the same fault; what is put together from alike runs is alike again.
-/
namespace ListQuery

variable {ε α β γ δ : Type} {R : α → β → Prop} {S : γ → δ → Prop}

/-- Both succeed with related results, or both fail with the same fault. -/
def Alike (R : α → β → Prop) : Except ε α → Except ε β → Prop
  | .ok a, .ok b => R a b
  | .error e, .error f => e = f
  | _, _ => False

namespace Alike

theorem refl {R : α → α → Prop} (each : ∀ a, R a a) (x : Except ε α) : Alike R x x := by
  cases x with
  | error e => exact rfl
  | ok a => exact each a

theorem bind {x : Except ε α} {y : Except ε β} {f : α → Except ε γ} {g : β → Except ε δ}
    (first : Alike R x y) (next : ∀ a b, R a b → Alike S (f a) (g b)) :
    Alike S (x >>= f) (y >>= g) := by
  cases x with
  | error e =>
    cases y with
    | error e' => exact first
    | ok b => exact first.elim
  | ok a =>
    cases y with
    | error e => exact first.elim
    | ok b => exact next a b first

/-- Runs that begin with the same step. -/
theorem bind_same (x : Except ε α) {f : α → Except ε γ} {g : α → Except ε δ}
    (next : ∀ a, Alike S (f a) (g a)) : Alike S (x >>= f) (x >>= g) := by
  cases x with
  | error e => exact rfl
  | ok a => exact next a

theorem map {x : Except ε α} {y : Except ε β} {f : α → γ} {g : β → δ} (first : Alike R x y)
    (next : ∀ a b, R a b → S (f a) (g b)) : Alike S (x.map f) (y.map g) := by
  have bound {ζ η : Type} (z : Except ε ζ) (h : ζ → η) : z.map h = z >>= fun c => .ok (h c) := by
    cases z <;> rfl
  rw [bound, bound]
  exact first.bind next

/-- Runs over lists of related inputs, with a step for each input. -/
theorem mapM {f : α → Except ε γ} {g : β → Except ε δ} {as : List α} {bs : List β}
    (inputs : List.Forall₂ R as bs)
    (step : ∀ a ∈ as, ∀ b ∈ bs, R a b → Alike S (f a) (g b)) :
    Alike (List.Forall₂ S) (as.mapM f) (bs.mapM g) := by
  induction inputs with
  | nil => exact List.Forall₂.nil
  | cons here _ ih =>
    rw [List.mapM_cons, List.mapM_cons]
    refine (step _ List.mem_cons_self _ List.mem_cons_self here).bind fun c d first => ?_
    have later := ih fun a member b member' =>
      step a (List.mem_cons_of_mem _ member) b (List.mem_cons_of_mem _ member')
    exact later.bind fun cs ds others => List.Forall₂.cons first others

end Alike

end ListQuery
