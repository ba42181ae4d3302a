import Mathlib.Logic.Function.Iterate
import Mathlib.Order.Bounds.Basic
import Tokenizer.Proofs.Cursor.Seek
import Tokenizer.Proofs.Noting

/-!
# Cursors on the move

A cursor is moved by single steps and by skipping, in any order and with any predicates.  Its fields
fit together after each move (`Coherent`), for a coherent cursor is the cursor at some offset of its
source, and a move takes it to such a cursor again.

A predicate is asked about bytes of the source only.  At the end of the source a cursor holds the byte
`0`, which may stand in a source as well; that the predicate is not asked about that byte is said of
skipping with a predicate that has effects (`skipWhileM`), here that of noting what it is asked
about (`noting`).

* `coherent_iff`: the fields of a cursor fit together exactly at the offsets of its source.
* `Coherent.asks_skipWhileM`: what a predicate is asked while a cursor skips.
* `sliceFrom?_eq_none_iff`: where there is no slice.
* `wellBehaved_moved`: what holds of a cursor after any moves, and of its next move.
-/

namespace Tokenizer.Cursor

open Text

/-! ### Moves -/

/-- A call that moves a cursor. -/
inductive Move
  | bump
  | skipWhile (p : UInt8 → Bool)

/-- The cursor after a move. -/
def Move.run : Move → Cursor → Cursor
  | bump, c => c.bump
  | skipWhile p, c => c.skipWhile p

/-- The cursor after some moves, one after the other. -/
def moved : Cursor → List Move → Cursor
  | c, [] => c
  | c, m :: ms => moved (m.run c) ms

/-- The fields of a cursor of `s` fit together. -/
structure Coherent (s : String) (c : Cursor) : Prop where
  source : c.source = s
  offset_le : c.offset ≤ s.utf8ByteSize
  inside : c.offset < s.utf8ByteSize →
    (bytes s)[c.offset]? = some c.current ∧ c.next = c.offset + 1 ∧ c.atEnd = false
  ended : c.offset = s.utf8ByteSize →
    c.current = 0 ∧ c.next = s.utf8ByteSize ∧ c.atEnd = true

variable {s : String} {c : Cursor} {n : Nat}

/-- The fields fit together exactly if the cursor is the one at an offset of its source. -/
theorem coherent_iff : Coherent s c ↔ ∃ n ≤ s.utf8ByteSize, c = seek s n := by
  constructor
  · intro h
    refine ⟨c.offset, h.offset_le, ?_⟩
    obtain ⟨source, offset, next, current⟩ := c
    obtain rfl : source = s := h.source
    rcases Nat.lt_or_eq_of_le h.offset_le with hn | hn
    · obtain ⟨hc, hx, -⟩ := h.inside hn
      dsimp only at hn hc hx
      rw [seek, hc, Nat.min_eq_left hn, hx]
      rfl
    · obtain ⟨hc, hx, -⟩ := h.ended hn
      dsimp only at hn hc hx
      rw [seek, hc, hx, hn, List.getElem?_eq_none (Nat.le_of_eq (length_bytes source)),
        Nat.min_eq_right (Nat.le_succ _)]
      rfl
  · rintro ⟨n, hn, rfl⟩
    refine ⟨rfl, hn, fun hlt => ⟨?_, Nat.min_eq_left hlt, ?_⟩, fun he => ⟨?_, ?_, ?_⟩⟩
    · have hb : n < (bytes s).length := by rwa [length_bytes]
      rw [current_seek hb]
      exact List.getElem?_eq_getElem hb
    · exact decide_eq_false (Nat.not_le.mpr hlt)
    · have hb : (bytes s).length ≤ n := by rw [length_bytes]; exact Nat.le_of_eq he.symm
      rw [seek, List.getElem?_eq_none hb]
      rfl
    · exact Nat.min_eq_right (Nat.le_succ_of_le (Nat.le_of_eq he.symm))
    · exact decide_eq_true (Nat.le_of_eq he.symm)

theorem coherent_ofString (s : String) : Coherent s (ofString s) :=
  coherent_iff.mpr ⟨0, Nat.zero_le _, ofString_eq_seek s⟩

theorem coherent_between (before ahead : List Char) :
    Coherent (String.ofList (before ++ ahead)) (between before ahead) :=
  coherent_iff.mpr ⟨_, by rw [utf8ByteSize_append]; exact Nat.le_add_right _ _, rfl⟩

/-! ### One move -/

/-- The run of bytes that is skipped ends in the source. -/
theorem add_length_takeWhile_le (p : UInt8 → Bool) (hn : n ≤ s.utf8ByteSize) :
    n + (((bytes s).drop n).takeWhile p).length ≤ s.utf8ByteSize := by
  have h := (List.takeWhile_sublist p (l := (bytes s).drop n)).length_le
  rw [List.length_drop, length_bytes] at h
  omega

/-- A move takes the cursor at an offset to the cursor at that offset or a later one. -/
theorem Move.exists_run_seek (m : Move) (hn : n ≤ s.utf8ByteSize) :
    ∃ q ≤ s.utf8ByteSize, n ≤ q ∧ m.run (seek s n) = seek s q := by
  cases m with
  | bump =>
      exact ⟨_, Nat.min_le_right _ _, Nat.le_min.mpr ⟨Nat.le_succ n, hn⟩, bump_seek s n⟩
  | skipWhile p =>
      exact ⟨_, add_length_takeWhile_le p hn, Nat.le_add_right _ _, skipWhile_seek p s n⟩

theorem Coherent.run (h : Coherent s c) (m : Move) :
    Coherent s (m.run c) ∧ c.offset ≤ (m.run c).offset := by
  obtain ⟨n, hn, rfl⟩ := coherent_iff.mp h
  obtain ⟨q, hq, hle, e⟩ := m.exists_run_seek hn
  rw [e]
  exact ⟨coherent_iff.mpr ⟨q, hq, rfl⟩, hle⟩

theorem Coherent.bump (h : Coherent s c) : Coherent s c.bump :=
  (h.run .bump).1

theorem Coherent.offset_bump (h : Coherent s c) :
    c.bump.offset = min (c.offset + 1) s.utf8ByteSize := by
  obtain ⟨n, -, rfl⟩ := coherent_iff.mp h
  rw [bump_seek]
  rfl

theorem Coherent.atEnd_iff (h : Coherent s c) : c.atEnd = true ↔ c.offset = s.utf8ByteSize := by
  rw [atEnd, size, h.source, decide_eq_true_iff]
  exact ⟨Nat.le_antisymm h.offset_le, fun e => Nat.le_of_eq e.symm⟩

theorem Coherent.offset_lt (h : Coherent s c) (he : c.atEnd = false) :
    c.offset < s.utf8ByteSize :=
  Nat.lt_of_le_of_ne h.offset_le fun e => Bool.eq_false_iff.mp he (h.atEnd_iff.mpr e)

theorem Coherent.offset_bump_of_lt (h : Coherent s c) (he : c.atEnd = false) :
    c.bump.offset = c.offset + 1 := by
  rw [h.offset_bump, Nat.min_eq_left (h.offset_lt he)]

/-- Skipping goes to the first offset where the source ends or has a byte that is to stay. -/
theorem Coherent.isLeast_skipWhile (h : Coherent s c) (p : UInt8 → Bool) :
    IsLeast {q | c.offset ≤ q ∧ (q = s.utf8ByteSize ∨ ∃ b, (bytes s)[q]? = some b ∧ p b = false)}
      (c.skipWhile p).offset := by
  fun_induction skipWhile p c with
  | case1 c hc ih =>
      have hlt := h.offset_lt hc.1
      have hb := (h.inside hlt).1
      obtain ⟨⟨hle, hstop⟩, hleast⟩ := ih h.bump
      rw [h.offset_bump_of_lt hc.1] at hle hleast
      refine ⟨⟨Nat.le_of_succ_le hle, hstop⟩, fun q hq => ?_⟩
      -- the byte under the cursor is skipped, so that `q` lies behind it
      rcases Nat.lt_or_eq_of_le hq.1 with hlt' | rfl
      · exact hleast ⟨hlt', hq.2⟩
      · rcases hq.2 with he | ⟨b, hb', hp⟩
        · exact absurd he (Nat.ne_of_lt hlt)
        · cases hb.symm.trans hb'
          exact absurd hc.2 (by simp [hp])
  | case2 c hc =>
      refine ⟨⟨Nat.le_refl _, ?_⟩, fun q hq => hq.1⟩
      cases he : c.atEnd with
      | true => exact .inl (h.atEnd_iff.mp he)
      | false => exact .inr ⟨c.current, (h.inside (h.offset_lt he)).1, by simpa [he] using hc⟩

/-- At the end of the source no move does anything. -/
theorem Coherent.run_of_atEnd (h : Coherent s c) (he : c.atEnd = true) (m : Move) :
    m.run c = c := by
  obtain ⟨n, hn, rfl⟩ := coherent_iff.mp h
  obtain ⟨q, hq, hle, e⟩ := m.exists_run_seek hn
  have hn' : s.utf8ByteSize ≤ n := of_decide_eq_true he
  rw [e, Nat.le_antisymm (Nat.le_trans hq hn') hle]

theorem iterate_bump_seek {k : Nat} (h : n + k ≤ s.utf8ByteSize) :
    bump^[k] (seek s n) = seek s (n + k) := by
  induction k with
  | zero => rfl
  | succ k ih =>
      rw [Function.iterate_succ_apply', ih (Nat.le_of_succ_le h), bump_seek, Nat.add_assoc,
        Nat.min_eq_left h]

/-- From a cursor to a later one it is as many single steps as there are bytes between them. -/
theorem Coherent.eq_iterate_bump {c' : Cursor} (h : Coherent s c) (h' : Coherent s c')
    (hle : c.offset ≤ c'.offset) : c' = Cursor.bump^[c'.offset - c.offset] c := by
  obtain ⟨n, -, rfl⟩ := coherent_iff.mp h
  obtain ⟨q, hq, rfl⟩ := coherent_iff.mp h'
  have e : n + (q - n) = q := Nat.add_sub_cancel' hle
  exact ((iterate_bump_seek (e.symm ▸ hq)).trans (congrArg (seek s) e)).symm

/-! ### What a predicate is asked -/

/-- On past the bytes that satisfy a predicate, which may have effects of its own. -/
def skipWhileM {m : Type → Type} [Monad m] (p : UInt8 → m Bool) (c : Cursor) : m Cursor := do
  if _ : c.atEnd = false then
    if ← p c.current then c.bump.skipWhileM p else return c
  else return c
termination_by c.remaining
decreasing_by exact remaining_bump_lt ‹_›

/-- Without effects it is the same skipping. -/
theorem skipWhileM_pure {m : Type → Type} [Monad m] [LawfulMonad m] (p : UInt8 → Bool)
    (c : Cursor) : (c.skipWhileM fun b => (pure (p b) : m Bool)) = pure (c.skipWhile p) := by
  fun_induction skipWhile p c with
  | case1 c hc ih => rw [skipWhileM, dif_pos hc.1, pure_bind, if_pos hc.2, ih]
  | case2 c hc =>
      rw [skipWhileM]
      cases he : c.atEnd with
      | true => rfl
      | false => rw [dif_pos rfl, pure_bind, if_neg (by simpa [he] using hc)]

/-- The predicate `p` when what it is asked about is noted. -/
def noting (p : UInt8 → Bool) (b : UInt8) : StateM (List UInt8) Bool :=
  note b (p b)

/-- The part of a list from the `n`-th element on, up to a later place. -/
theorem drop_take_eq_cons {xs : List UInt8} {b : UInt8} {q : Nat} (hb : xs[n]? = some b)
    (hq : n < q) : (xs.take q).drop n = b :: (xs.take q).drop (n + 1) := by
  obtain ⟨hn, rfl⟩ := List.getElem?_eq_some_iff.mp hb
  rw [List.drop_eq_getElem_cons (by rw [List.length_take]; omega), List.getElem_take]

/-- While a cursor skips, the predicate is asked about the bytes that are skipped, one after the other,
and about the byte at which the cursor stops, if there is one. -/
theorem Coherent.asks_skipWhileM (h : Coherent s c) (p : UInt8 → Bool) :
    Asks (((bytes s).take ((c.skipWhile p).offset + 1)).drop c.offset)
      (c.skipWhileM (noting p)) (c.skipWhile p) := by
  fun_induction skipWhile p c with
  | case1 c hc ih =>
      have hb := (h.inside (h.offset_lt hc.1)).1
      obtain ⟨⟨hle, -⟩, -⟩ := h.bump.isLeast_skipWhile p
      have ih := ih h.bump
      rw [h.offset_bump_of_lt hc.1] at hle ih
      rw [skipWhileM, dif_pos hc.1, drop_take_eq_cons hb (by omega)]
      refine (Asks.note c.current (p c.current)).bind ?_
      rw [Id.run, if_pos hc.2]
      exact ih
  | case2 c hc =>
      cases he : c.atEnd with
      | true =>
          have hn : ((bytes s).take (c.offset + 1)).length ≤ c.offset := by
            rw [List.length_take, length_bytes, h.atEnd_iff.mp he]
            omega
          rw [skipWhileM, dif_neg (by simp [he]), List.drop_of_length_le hn]
          exact .pure c
      | false =>
          have hp : p c.current = false := by simpa [he] using hc
          have hb := (h.inside (h.offset_lt he)).1
          rw [skipWhileM, dif_pos he, drop_take_eq_cons hb (Nat.lt_succ_self _),
            List.drop_of_length_le (List.length_take_le _ _)]
          refine (Asks.note c.current (p c.current)).bind ?_
          rw [Id.run, if_neg (by simp [hp])]
          exact .pure c

/-- A NUL in the source is asked about, the end of the source is not. -/
example : (((ofString "\x00").skipWhileM (noting (· == 0))).run []).2 = [0] := by
  decide +kernel

/-! ### Where there is no slice -/

theorem exists_sliceFrom? (hle : n ≤ c.offset) (hn : IsBoundary c.source n)
    (ho : IsBoundary c.source c.offset) : ∃ w, c.sliceFrom? n = some w := by
  have hf : c.source.pos? ⟨n⟩ = some ⟨⟨n⟩, isBoundary_iff.mp hn⟩ := pos?_eq_some_iff.mpr rfl
  have hl : c.source.pos? ⟨c.offset⟩ = some ⟨⟨c.offset⟩, isBoundary_iff.mp ho⟩ :=
    pos?_eq_some_iff.mpr rfl
  rw [sliceFrom?, hf, hl]
  exact ⟨_, if_pos hle⟩

/-- There is no slice exactly if it would start behind the cursor, or start or end inside a
character. -/
theorem sliceFrom?_eq_none_iff : c.sliceFrom? n = none ↔
    c.offset < n ∨ ¬ IsBoundary c.source n ∨ ¬ IsBoundary c.source c.offset := by
  rw [← not_iff_not, ← Ne, Option.ne_none_iff_exists', not_or, not_or, not_not, not_not, Nat.not_lt]
  constructor
  · rintro ⟨w, hw⟩
    obtain ⟨hle, hn, ho, -⟩ := sliceFrom?_eq_some_iff.mp hw
    exact ⟨hle, hn, ho⟩
  · rintro ⟨hle, hn, ho⟩
    exact exists_sliceFrom? hle hn ho

/-! ### All moves -/

theorem Coherent.moved (h : Coherent s c) (ms : List Move) :
    Coherent s (c.moved ms) ∧ c.offset ≤ (c.moved ms).offset := by
  induction ms generalizing c with
  | nil => exact ⟨h, Nat.le_refl _⟩
  | cons m ms ih =>
      obtain ⟨hm, hle⟩ := h.run m
      obtain ⟨hms, hle'⟩ := ih hm
      exact ⟨hms, Nat.le_trans hle hle'⟩

theorem Coherent.moved_of_atEnd (h : Coherent s c) (he : c.atEnd = true) (ms : List Move) :
    c.moved ms = c := by
  induction ms with
  | nil => rfl
  | cons m ms ih => rw [Cursor.moved, h.run_of_atEnd he m, ih]

/-- What a cursor of `s` does when it is moved or asked for a slice. -/
structure WellBehaved (s : String) (c : Cursor) : Prop where
  coherent : Coherent s c
  /-- Moves never go back. -/
  offset_le : ∀ ms, c.offset ≤ (c.moved ms).offset
  /-- At the end of the source they do nothing at all. -/
  moved_eq : c.offset = s.utf8ByteSize → ∀ ms, c.moved ms = c
  /-- A step goes one byte on, but not past the end. -/
  offset_bump : c.bump.offset = min (c.offset + 1) s.utf8ByteSize
  /-- Skipping goes to the first offset where the source ends or has a byte that is to stay. -/
  isLeast_skipWhile : ∀ p : UInt8 → Bool,
    IsLeast {q | c.offset ≤ q ∧ (q = s.utf8ByteSize ∨ ∃ b, (bytes s)[q]? = some b ∧ p b = false)}
      (c.skipWhile p).offset
  /-- It asks for the bytes of the source from the cursor up to there, and for nothing else. -/
  asked : ∀ p : UInt8 → Bool,
    Asks (((bytes s).take ((c.skipWhile p).offset + 1)).drop c.offset)
      (c.skipWhileM (noting p)) (c.skipWhile p)
  /-- A slice has the bytes from where it starts up to the cursor. -/
  slice : ∀ n w, c.sliceFrom? n = some w → bytes w = ((bytes s).take c.offset).drop n
  /-- There is one, unless it would start behind the cursor, or start or end inside a character. -/
  no_slice : ∀ n, c.sliceFrom? n = none ↔
    c.offset < n ∨ ¬ IsBoundary s n ∨ ¬ IsBoundary s c.offset

/-- **Cursors on the move.**  After any moves from the start of a source the fields of the cursor fit
together, and each further move takes it to where it has to. -/
theorem wellBehaved_moved (s : String) (ms : List Move) :
    WellBehaved s ((ofString s).moved ms) := by
  have h := ((coherent_ofString s).moved ms).1
  refine ⟨h, fun ms => (h.moved ms).2, fun he => h.moved_of_atEnd (h.ended he).2.2,
    h.offset_bump, h.isLeast_skipWhile, h.asks_skipWhileM, fun n w hw => ?_,
    fun n => ?_⟩
  · have hb := (sliceFrom?_eq_some_iff.mp hw).2.2.2
    rwa [h.source] at hb
  · rw [sliceFrom?_eq_none_iff, h.source]

end Tokenizer.Cursor
