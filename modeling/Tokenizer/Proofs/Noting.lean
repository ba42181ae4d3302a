/-!
# Noting what is asked

A program that gets answers in a monad can be run so that each question is noted as it is answered
(`note`).  The notes tell what the program asks, in order, and they do not change what it comes to.

* `Asks`: which questions are asked on the way to a result.
* `AsksOnly`: of which kind they are.  This is kept from one answer to the next and along searches.
-/

namespace Tokenizer

variable {κ α β : Type}

/-- The answer to a question, which is noted. -/
def note (q : κ) (answer : α) : StateM (List κ) α := do
  modify (· ++ [q])
  return answer

/-- The program `x`, which notes its questions, comes to what `y` comes to without any notes, and the
questions that it asks are `qs`. -/
def Asks (qs : List κ) (x : StateM (List κ) α) (y : Id α) : Prop :=
  ∀ before, x.run before = (y.run, before ++ qs)

/-- The questions that it asks are of the kind `P`. -/
def AsksOnly (P : κ → Prop) (x : StateM (List κ) α) (y : Id α) : Prop :=
  ∃ qs, (∀ q ∈ qs, P q) ∧ Asks qs x y

variable {x : StateM (List κ) α} {y : Id α} {f : α → StateM (List κ) β} {z : Id β}
  {qs rs : List κ} {P : κ → Prop}

namespace Asks

theorem pure (a : α) : Asks ([] : List κ) (Pure.pure a) a := by
  intro before
  rw [List.append_nil]
  rfl

theorem note (q : κ) (answer : α) : Asks [q] (note q answer) answer :=
  fun _ => rfl

/-- What is asked next depends on the answer that was given. -/
theorem bind (hx : Asks qs x y) (hf : Asks rs (f y.run) z) : Asks (qs ++ rs) (x >>= f) z := by
  intro before
  rw [StateT.run_bind, hx before]
  change (f y.run).run (before ++ qs) = _
  rw [hf (before ++ qs), List.append_assoc]

end Asks

namespace AsksOnly

theorem pure (a : α) : AsksOnly P (Pure.pure a) a :=
  ⟨[], nofun, .pure a⟩

theorem note {q : κ} (h : P q) (answer : α) : AsksOnly P (note q answer) answer :=
  ⟨[q], List.forall_mem_singleton.mpr h, .note q answer⟩

theorem bind {g : α → Id β} (hx : AsksOnly P x y) (hf : ∀ a, AsksOnly P (f a) (g a)) :
    AsksOnly P (x >>= f) (y >>= g) := by
  obtain ⟨qs, hqs, hx⟩ := hx
  obtain ⟨rs, hrs, hf⟩ := hf y.run
  exact ⟨qs ++ rs, List.forall_mem_append.mpr ⟨hqs, hrs⟩, hx.bind hf⟩

/-- A search asks about one thing after another. -/
theorem findM? {f : α → StateM (List κ) Bool} {g : α → Id Bool} {l : List α}
    (h : ∀ a ∈ l, AsksOnly P (f a) (g a)) : AsksOnly P (l.findM? f) (l.findM? g) := by
  induction l with
  | nil => exact .pure none
  | cons a l ih =>
      obtain ⟨ha, hl⟩ := List.forall_mem_cons.mp h
      refine .bind ha fun found => ?_
      cases found with
      | true => exact .pure (some a)
      | false => exact ih hl

end AsksOnly

end Tokenizer
