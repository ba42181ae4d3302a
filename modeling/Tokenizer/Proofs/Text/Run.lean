import Mathlib.Data.List.TakeWhile

/-!
# Runs of characters

The longest run of characters of a class at the head of a text, where the text is known to be such a
run and then something that does not go on with it; and texts with a separator between them.
-/

namespace Tokenizer.Text

variable {q : Char → Bool} {g r : List Char}

/-- A run of characters of a class, in front of a character that is not of the class. -/
theorem takeWhile_append_eq_left (hg : ∀ c ∈ g, q c = true) (hr : ∀ c ∈ r.head?, q c = false) :
    (g ++ r).takeWhile q = g := by
  rw [List.takeWhile_append_of_pos hg]
  cases r with
  | nil => simp
  | cons c r => simp [hr c rfl]

theorem dropWhile_append_eq_right (hg : ∀ c ∈ g, q c = true) (hr : ∀ c ∈ r.head?, q c = false) :
    (g ++ r).dropWhile q = r := by
  rw [List.dropWhile_append_of_pos hg]
  cases r with
  | nil => rfl
  | cons c r => simp [hr c rfl]

/-- Texts with a separator between them: the first, and then each other behind a separator. -/
theorem intercalate_cons (sep x : List Char) (xs : List (List Char)) :
    sep.intercalate (x :: xs) = x ++ xs.flatMap (sep ++ ·) := by
  induction xs generalizing x with
  | nil => simp
  | cons y ys ih =>
      rw [List.intercalate_cons_cons, ih, List.flatMap_cons, List.append_assoc, List.append_assoc]

/-- What stands between separators are characters of the text other than the separator. -/
theorem mem_of_mem_splitOn {a : Char} {cs s : List Char} (hs : s ∈ cs.splitOn a) :
    ∀ c ∈ s, c ∈ cs ∧ c ≠ a := by
  induction cs generalizing s with
  | nil =>
      cases List.mem_singleton.mp hs
      simp
  | cons d cs ih =>
      rw [List.splitOn_cons_eq_if_modifyHead] at hs
      have hc : ∀ s ∈ cs.splitOn a, ∀ c ∈ s, c ∈ d :: cs ∧ c ≠ a := fun s hs c hc =>
        ⟨List.mem_cons_of_mem d (ih hs c hc).1, (ih hs c hc).2⟩
      split at hs
      · rcases List.mem_cons.mp hs with rfl | hs
        · simp
        · exact hc s hs
      · next hd =>
          obtain ⟨t, ts, e⟩ := List.exists_cons_of_ne_nil (List.splitOn_ne_nil a cs)
          rw [e, List.modifyHead_cons] at hs
          rw [e] at hc
          rcases List.mem_cons.mp hs with rfl | hs
          · intro c hm
            rcases List.mem_cons.mp hm with rfl | hm
            · exact ⟨List.mem_cons_self, by simpa using hd⟩
            · exact hc t List.mem_cons_self c hm
          · exact hc s (List.mem_cons_of_mem t hs)

end Tokenizer.Text
