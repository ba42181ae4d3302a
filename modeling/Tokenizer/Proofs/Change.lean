import Mathlib.Logic.Basic
import Mathlib.Data.List.Basic

/-!
# Changes that can fail

A change takes a state to another one, or fails with an error.  Two changes commute if they come to the
same state in either order, as far as they come to one (`Commutes`).  Which of two errors comes up
still depends on the order.

* `bind_eq_ok_iff`: one change after the other.
* `Commutes.foldlM`: a change commutes with several if it commutes with each of them.
-/

namespace Tokenizer

theorem bind_eq_ok_iff {ε α β : Type} {x : Except ε α} {f : α → Except ε β} {b : β} :
    x >>= f = .ok b ↔ ∃ a, x = .ok a ∧ f a = .ok b := by
  cases x with
  | error => exact iff_of_false nofun nofun
  | ok a => exact ⟨fun h => ⟨a, rfl, h⟩, fun ⟨_, e, h⟩ => by cases e; exact h⟩

/-- One change after another that comes to one thing if at all. -/
theorem bind_eq_ok_iff_of {ε α β : Type} {x : Except ε α} {f : α → Except ε β} {P : Prop} {y : α}
    {b : β} (h : ∀ a, x = .ok a ↔ P ∧ y = a) : x >>= f = .ok b ↔ P ∧ f y = .ok b := by
  rw [bind_eq_ok_iff]
  constructor
  · rintro ⟨a, ha, hb⟩
    obtain ⟨hP, rfl⟩ := (h a).mp ha
    exact ⟨hP, hb⟩
  · rintro ⟨hP, hb⟩
    exact ⟨y, (h y).mpr ⟨hP, rfl⟩, hb⟩

variable {ε σ α : Type} {p q r : σ → Except ε σ}

/-- The two changes come to the same state in either order. -/
def Commutes (p q : σ → Except ε σ) : Prop :=
  ∀ s s', p s >>= q = .ok s' ↔ q s >>= p = .ok s'

theorem Commutes.symm (h : Commutes p q) : Commutes q p :=
  fun s s' => (h s s').symm

/-- What always fails never comes to a state. -/
theorem commutes_error (e : ε) : Commutes (fun _ => .error e) q := by
  intro s s'
  refine iff_of_false nofun fun h => ?_
  obtain ⟨_, -, h⟩ := bind_eq_ok_iff.mp h
  cases h

/-- What changes nothing commutes with all changes. -/
theorem commutes_pure : Commutes pure q := by
  intro s s'
  rw [pure_bind, bind_pure]

theorem commutes_ok {f g : σ → σ} (h : ∀ s, f (g s) = g (f s)) :
    Commutes (fun s => (.ok (f s) : Except ε σ)) fun s => .ok (g s) := by
  intro s s'
  change (.ok (g (f s)) : Except ε σ) = .ok s' ↔ (.ok (f (g s)) : Except ε σ) = .ok s'
  rw [h]

theorem Commutes.bind_iff (h : Commutes p q) {s s' : σ} :
    (p s >>= q) >>= r = .ok s' ↔ (q s >>= p) >>= r = .ok s' := by
  simp only [bind_eq_ok_iff (f := r), h s]

theorem Commutes.bind (hp : Commutes p q) (hr : Commutes r q) :
    Commutes (fun s => p s >>= r) q := by
  intro s s'
  calc (p s >>= r) >>= q = .ok s'
      ↔ ∃ m, p s = .ok m ∧ r m >>= q = .ok s' := by rw [bind_assoc, bind_eq_ok_iff]
    _ ↔ ∃ m, p s = .ok m ∧ q m >>= r = .ok s' := by simp only [hr _ s']
    _ ↔ (p s >>= q) >>= r = .ok s' := by rw [bind_assoc, bind_eq_ok_iff]
    _ ↔ (q s >>= p) >>= r = .ok s' := hp.bind_iff
    _ ↔ q s >>= (fun m => p m >>= r) = .ok s' := by rw [bind_assoc]

theorem Commutes.foldlM {step : σ → α → Except ε σ} {l : List α}
    (h : ∀ a ∈ l, Commutes (fun s => step s a) q) : Commutes (fun s => l.foldlM step s) q := by
  induction l with
  | nil => exact commutes_pure
  | cons a l ih =>
      obtain ⟨ha, hl⟩ := List.forall_mem_cons.mp h
      simp only [List.foldlM_cons]
      exact ha.bind (ih hl)

end Tokenizer
