/-
  ChatBot.Proofs.Agreement — results of two computations that correspond.

  (1) `Agree E A x y`: both results are good and `A` relates them, or both are errors and
      `E` does. A chain of fallible steps agrees when each step does (`Agree.bind`).
  (2) What is found in two lists whose members correspond, corresponds.
-/
import Mathlib.Data.List.Forall2

namespace ChatBot

/-! ## (1) results -/

inductive Agree {ε δ α β : Type} (E : ε → δ → Prop) (A : α → β → Prop) : Except ε α → Except δ β → Prop
  | ok {a : α} {b : β} : A a b → Agree E A (.ok a) (.ok b)
  | error {e : ε} {d : δ} : E e d → Agree E A (.error e) (.error d)

namespace Agree

variable {ε δ ε' δ' α β α' β' : Type} {E : ε → δ → Prop} {A : α → β → Prop} {x : Except ε α} {y : Except δ β}

theorem bind {B : α' → β' → Prop} {k : α → Except ε α'} {l : β → Except δ β'} (h : Agree E A x y)
    (hk : ∀ a b, A a b → Agree E B (k a) (l b)) : Agree E B (x >>= k) (y >>= l) := by
  cases h with
  | ok hab => exact hk _ _ hab
  | error hed => exact .error hed

theorem map {B : α' → β' → Prop} {f : α → α'} {g : β → β'} (h : Agree E A x y)
    (hf : ∀ a b, A a b → B (f a) (g b)) : Agree E B (x.map f) (y.map g) := by
  cases h with
  | ok hab => exact .ok (hf _ _ hab)
  | error hed => exact .error hed

theorem mono {E' : ε → δ → Prop} (h : Agree E A x y) (hE : ∀ e d, E e d → E' e d) : Agree E' A x y := by
  cases h with
  | ok hab => exact .ok hab
  | error hed => exact .error (hE _ _ hed)

theorem toBool_eq (h : Agree E A x y) : x.toBool = y.toBool := by
  cases h <;> rfl

end Agree

end ChatBot

/-! ## (2) lists -/

namespace Option.Rel

variable {α β γ δ : Type} {R : α → β → Prop} {S : γ → δ → Prop} {o o' : Option α} {q q' : Option β}

theorem orElse (h : Rel R o q) (h' : Rel R o' q') : Rel R (o.or o') (q.or q') := by
  cases h with
  | some hab => exact .some hab
  | none => exact h'

theorem map {f : α → γ} {g : β → δ} (h : Rel R o q) (hf : ∀ a b, R a b → S (f a) (g b)) : Rel S (o.map f) (q.map g) := by
  cases h with
  | some hab => exact .some (hf _ _ hab)
  | none => exact .none

theorem map_eq {f : α → γ} {g : β → γ} (h : Rel R o q) (hf : ∀ a b, R a b → f a = g b) : o.map f = q.map g := by
  cases h with
  | some hab => exact congrArg _ (hf _ _ hab)
  | none => rfl

end Option.Rel

namespace List

variable {α β γ δ : Type} {R : α → β → Prop} {S : γ → δ → Prop} {l : List α} {m : List β}

theorem Forall₂.findSome? {f : α → Option γ} {g : β → Option δ} (h : Forall₂ R l m)
    (hfg : ∀ a b, R a b → Option.Rel S (f a) (g b)) : Option.Rel S (l.findSome? f) (m.findSome? g) := by
  induction h with
  | nil => exact .none
  | @cons a b l m hab hlm ih =>
    rw [findSome?_cons, findSome?_cons]
    have hfound := hfg a b hab
    generalize f a = o at hfound
    generalize g b = q at hfound
    cases hfound with
    | some hcd => exact .some hcd
    | none => exact ih

theorem Forall₂.find? {p : α → Bool} {q : β → Bool} (h : Forall₂ R l m) (hpq : ∀ a b, R a b → p a = q b) :
    Option.Rel R (l.find? p) (m.find? q) := by
  induction h with
  | nil => exact .none
  | @cons a b l m hab hlm ih =>
    rw [find?_cons, find?_cons, hpq a b hab]
    cases q b with
    | true => exact .some hab
    | false => exact ih

theorem Forall₂.filter {p : α → Bool} {q : β → Bool} (h : Forall₂ R l m) (hpq : ∀ a b, R a b → p a = q b) :
    Forall₂ R (l.filter p) (m.filter q) :=
  rel_filter (fun a b hab => iff_of_eq (congrArg (· = true) (hpq a b hab))) h

theorem Forall₂.map_eq {f : α → γ} {g : β → γ} (h : Forall₂ R l m) (hfg : ∀ a b, R a b → f a = g b) :
    l.map f = m.map g := by
  have hmap : Forall₂ Eq (l.map f) (m.map g) := rel_map hfg h
  rwa [forall₂_eq_eq_eq] at hmap

theorem Forall₂.getElem? (h : Forall₂ R l m) (n : Nat) : Option.Rel R l[n]? m[n]? := by
  induction h generalizing n with
  | nil => exact .none
  | cons hab hlm ih =>
    cases n with
    | zero => exact .some hab
    | succ n => exact ih n

theorem Forall₂.set (h : Forall₂ R l m) (n : Nat) {a : α} {b : β} (hab : R a b) : Forall₂ R (l.set n a) (m.set n b) := by
  induction h generalizing n with
  | nil => exact .nil
  | cons hcd hlm ih =>
    cases n with
    | zero => exact .cons hab hlm
    | succ n => exact .cons hcd (ih n)

end List
