import Tokenizer.Cursor
import Tokenizer.Proofs.Text.Bytes

/-!
# Where a cursor stands

A cursor has three fields that move, but only one degree of freedom: whatever steps led to it, it is
the cursor at some offset of its source (`seek`), and its steps are steps of that offset.

* `bump_seek`, `skipWhile_seek`: a step goes one byte on, and skipping goes on by the length of the
  longest run of bytes that are to be skipped.
* `sliceFrom?_eq_some_iff`: there is a slice exactly between two boundaries in order, and it has the
  bytes between them.

Between two characters (`between`) the steps are steps over characters, as long as the bytes told
apart are those of ASCII characters.

* `skipWhile_between`: skipping a class of bytes that agrees with a class of characters goes over
  the longest run of those characters.
* `sliceFrom?_between`: the slice from an earlier boundary is the characters in between.
-/

namespace Tokenizer.Cursor

open Text

/-- The cursor at the offset `n` of a source. -/
def seek (source : String) (n : Nat) : Cursor where
  source := source
  offset := n
  next := min (n + 1) source.utf8ByteSize
  current := (bytes source)[n]?.getD 0

variable {s : String} {n : Nat}

theorem atEnd_seek : (seek s n).atEnd = decide (s.utf8ByteSize ≤ n) := rfl

theorem current_seek (h : n < (bytes s).length) : (seek s n).current = (bytes s)[n] := by
  simp [seek, List.getElem?_eq_getElem h]

theorem ofString_eq_seek (s : String) : ofString s = seek s 0 := by
  unfold ofString bump
  split
  · next h =>
      simp only [seek, getElem?_bytes h, Option.getD_some]
      rw [Nat.min_eq_left (Nat.succ_le_of_lt h)]
  · next h =>
      have h' : s.utf8ByteSize = 0 := Nat.eq_zero_of_not_pos h
      simp [seek, size, h']

/-- One byte on, but not past the end. -/
theorem bump_seek (s : String) (n : Nat) :
    (seek s n).bump = seek s (min (n + 1) s.utf8ByteSize) := by
  unfold bump
  by_cases hn : n + 1 < s.utf8ByteSize
  · have e : min (n + 1) s.utf8ByteSize = n + 1 := Nat.min_eq_left (Nat.le_of_lt hn)
    have e' : min (n + 1 + 1) s.utf8ByteSize = n + 1 + 1 := Nat.min_eq_left hn
    simp only [seek, e, e', dif_pos hn, getElem?_bytes hn, Option.getD_some]
  · have e : min (n + 1) s.utf8ByteSize = s.utf8ByteSize := Nat.min_eq_right (Nat.not_lt.mp hn)
    simp only [seek, size, e, dif_neg (Nat.lt_irrefl _)]
    simp

/-- On by the longest run of bytes that are to be skipped. -/
theorem skipWhile_seek (p : UInt8 → Bool) (s : String) (n : Nat) :
    (seek s n).skipWhile p = seek s (n + (((bytes s).drop n).takeWhile p).length) := by
  -- by induction on the bytes ahead; the run ends where one of them is to stay
  induction e : (bytes s).drop n generalizing n with
  | nil =>
      have he : (seek s n).atEnd = true := by
        simpa [atEnd_seek] using List.drop_eq_nil_iff.mp e
      rw [skipWhile, dif_neg (by simp [he])]
      rfl
  | cons b bs ih =>
      have hn : n < (bytes s).length := by
        by_contra hn
        rw [List.drop_of_length_le (Nat.not_lt.mp hn)] at e
        cases e
      have hn' : n + 1 ≤ s.utf8ByteSize := by
        rw [← length_bytes]; exact hn
      have he : (seek s n).atEnd = false := decide_eq_false (Nat.not_le.mpr hn')
      rw [List.drop_eq_getElem_cons hn] at e
      obtain ⟨hb, hbs⟩ := List.cons.inj e
      rw [skipWhile, current_seek hn, hb]
      by_cases hp : p b = true
      · rw [dif_pos ⟨he, hp⟩, bump_seek, Nat.min_eq_left hn', ih (n + 1) hbs,
          List.takeWhile_cons_of_pos hp, List.length_cons, Nat.add_assoc, Nat.add_comm 1]
      · rw [dif_neg fun h' => hp h'.2, List.takeWhile_cons_of_neg hp]
        rfl

/-! ### Slices -/

/-- There is a slice exactly between two boundaries in order, and it has the bytes between them. -/
theorem sliceFrom?_eq_some_iff {c : Cursor} {start : Nat} {w : String} :
    c.sliceFrom? start = some w ↔
      start ≤ c.offset ∧ IsBoundary c.source start ∧ IsBoundary c.source c.offset ∧
        bytes w = ((bytes c.source).take c.offset).drop start := by
  have hb (first last : c.source.Pos) : bytes (c.source.extract first last) =
      ((bytes c.source).take last.offset.byteIdx).drop first.offset.byteIdx := by
    simp [bytes, List.drop_take]
  simp only [sliceFrom?, Option.bind_eq_bind, Option.bind_eq_some_iff, pos?_eq_some_iff,
    Option.ite_none_right_eq_some, Option.some.injEq]
  constructor
  · rintro ⟨first, rfl, last, hl, hle, rfl⟩
    refine ⟨?_, isBoundary_offset first, ?_, ?_⟩
    · rw [← hl]; exact hle
    · rw [← hl]; exact isBoundary_offset last
    · rw [hb, hl]
  · rintro ⟨hle, hs, ho, hw⟩
    refine ⟨⟨⟨start⟩, isBoundary_iff.mp hs⟩, rfl, ⟨⟨c.offset⟩, isBoundary_iff.mp ho⟩, rfl, hle, ?_⟩
    exact bytes_injective (by rw [hb, hw])

/-! ### Between two characters -/

/-- The cursor behind the characters `before` and in front of the characters `ahead`. -/
def between (before ahead : List Char) : Cursor :=
  seek (String.ofList (before ++ ahead)) (String.ofList before).utf8ByteSize

variable {before ahead : List Char}

theorem ofString_eq_between (s : String) : ofString s = between [] s.toList := by
  simp [ofString_eq_seek, between]

theorem source_between : (between before ahead).source = String.ofList (before ++ ahead) := rfl

theorem offset_between : (between before ahead).offset = (String.ofList before).utf8ByteSize := rfl

theorem isBoundary_between (before ahead : List Char) :
    IsBoundary (between before ahead).source (between before ahead).offset :=
  isBoundary_ofList _ rfl

theorem utf8ByteSize_append (cs ds : List Char) : (String.ofList (cs ++ ds)).utf8ByteSize =
    (String.ofList cs).utf8ByteSize + (String.ofList ds).utf8ByteSize := by
  rw [String.ofList_append, String.utf8ByteSize_append]

theorem drop_bytes_between (before ahead : List Char) :
    (bytes (String.ofList (before ++ ahead))).drop (String.ofList before).utf8ByteSize =
      bytes (String.ofList ahead) := by
  rw [String.ofList_append, bytes_append, ← length_bytes, List.drop_left]

@[simp] theorem atEnd_between_nil : (between before []).atEnd = true := by
  simp [between, atEnd_seek]

/-- In front of a character the cursor stands on that character's first byte. -/
theorem current_between_mem {c : Char} :
    (between before (c :: ahead)).current ∈ String.utf8EncodeChar c := by
  obtain ⟨b, bs, e⟩ := List.exists_cons_of_ne_nil (String.utf8EncodeChar_ne_nil (c := c))
  have h : (bytes (String.ofList (before ++ c :: ahead)))[(String.ofList before).utf8ByteSize]? =
      some b := by
    rw [← List.head?_drop, drop_bytes_between, bytes_ofList, List.flatMap_cons, e]
    rfl
  rw [between, seek, h, e]
  exact List.mem_cons_self

@[simp] theorem atEnd_between_cons {c : Char} : (between before (c :: ahead)).atEnd = false := by
  rw [between, atEnd_seek, decide_eq_false_iff_not, Nat.not_le, ← length_bytes, ← length_bytes]
  have h : 0 < (String.utf8EncodeChar c).length :=
    List.length_pos_iff.mpr String.utf8EncodeChar_ne_nil
  simp only [bytes_ofList, List.flatMap_append, List.flatMap_cons, List.length_append]
  omega

/-- Over an ASCII character in one step. -/
theorem bump_between {c : Char} (hc : c.toNat < 128) :
    (between before (c :: ahead)).bump = between (before ++ [c]) ahead := by
  have e : (String.ofList (before ++ [c])).utf8ByteSize = (String.ofList before).utf8ByteSize + 1 := by
    simp only [← length_bytes, bytes_ofList, List.flatMap_append, List.flatMap_singleton,
      utf8EncodeChar_of_lt hc, List.length_append, List.length_singleton]
  have hle : (String.ofList (before ++ [c])).utf8ByteSize ≤
      (String.ofList (before ++ c :: ahead)).utf8ByteSize := by
    rw [List.append_cons before c ahead, utf8ByteSize_append (before ++ [c])]
    exact Nat.le_add_right _ _
  rw [between, bump_seek, ← e, Nat.min_eq_left hle, between, List.append_cons before c ahead]

/-- Over the longest run of the characters whose bytes are to be skipped. -/
theorem skipWhile_between {p : UInt8 → Bool} {q : Char → Bool} (h : Agree p q) :
    (between before ahead).skipWhile p =
      between (before ++ ahead.takeWhile q) (ahead.dropWhile q) := by
  rw [between, skipWhile_seek, drop_bytes_between, h.takeWhile, between, List.append_assoc,
    List.takeWhile_append_dropWhile, length_bytes, utf8ByteSize_append]

/-- The slice from an earlier boundary is the characters in between. -/
theorem sliceFrom?_between (before w ahead : List Char) :
    (between (before ++ w) ahead).sliceFrom? (String.ofList before).utf8ByteSize =
      some (String.ofList w) := by
  rw [sliceFrom?_eq_some_iff]
  refine ⟨?_, ?_, isBoundary_between _ _, ?_⟩
  · rw [offset_between, utf8ByteSize_append]
    exact Nat.le_add_right _ _
  · rw [source_between, List.append_assoc]
    exact isBoundary_ofList _ rfl
  · have hw : bytes (String.ofList (before ++ w ++ ahead)) =
        bytes (String.ofList (before ++ w)) ++ bytes (String.ofList ahead) := by
      rw [String.ofList_append, bytes_append]
    rw [source_between, offset_between, hw, ← length_bytes (String.ofList (before ++ w)),
      List.take_left, String.ofList_append, bytes_append, ← length_bytes, List.drop_left]

end Tokenizer.Cursor
