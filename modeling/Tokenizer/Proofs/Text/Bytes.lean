import Mathlib.Data.List.Basic

/-!
# The bytes of a text

A source is read byte by byte, but what is read are characters: a text is the bytes of its
characters one after the other (`bytes_ofList`), and an offset is a *boundary* when it lies between
two characters (`IsBoundary`).

A class of bytes and a class of characters *agree* when every byte of a character is in the one
exactly when the character is in the other (`Agree`).  A class told by ASCII characters alone agrees
with the class of those characters (`agree_beq`, `Agree.or`, …): no byte of a character beyond ASCII
is the byte of an ASCII character.  Along classes that agree, what is done to the bytes of a text is
done to its characters.

* `eq_toUInt8_iff`: an ASCII character's byte is a byte of that character only.
* `Agree.takeWhile`: the longest run of bytes of the class is the bytes of the longest run of
  characters of the class, so that it ends on a boundary.
-/

namespace Tokenizer.Text

/-- The bytes of the UTF-8 form of a text. -/
def bytes (s : String) : List UInt8 :=
  s.toByteArray.data.toList

@[simp] theorem bytes_append (s t : String) : bytes (s ++ t) = bytes s ++ bytes t := by
  simp [bytes]

@[simp] theorem length_bytes (s : String) : (bytes s).length = s.utf8ByteSize := by
  simp [bytes, ← String.size_toByteArray]

theorem bytes_injective {s t : String} (h : bytes s = bytes t) : s = t := by
  rw [← String.toByteArray_inj]
  exact ByteArray.ext (Array.toList_inj.mp h)

/-- A text is the bytes of its characters, one after the other. -/
theorem bytes_ofList (cs : List Char) :
    bytes (String.ofList cs) = cs.flatMap String.utf8EncodeChar := by
  simp [bytes, List.utf8Encode]

theorem getElem?_bytes {s : String} {n : Nat} (h : n < s.utf8ByteSize) :
    (bytes s)[n]? = some (s.getUTF8Byte ⟨n⟩ h) := by
  have h' : n < (bytes s).length := by rwa [length_bytes]
  rw [List.getElem?_eq_getElem h']
  simp [bytes, String.getUTF8Byte_eq_getElem, ByteArray.getElem_eq_getElem_data]

/-! ### The bytes of a character -/

theorem utf8EncodeChar_of_lt {c : Char} (hc : c.toNat < 128) :
    String.utf8EncodeChar c = [c.toUInt8] := by
  have hc' : c.val.toNat ≤ 0x7f := Nat.le_of_lt_succ hc
  simp only [String.utf8EncodeChar, hc', if_true]
  rfl

/-- No byte of a character beyond ASCII is an ASCII character. -/
theorem le_of_mem_utf8EncodeChar {c : Char} (hc : 128 ≤ c.toNat) {b : UInt8}
    (hb : b ∈ String.utf8EncodeChar c) : 128 ≤ b.toNat := by
  have hc' : ¬ c.val.toNat ≤ 0x7f := Nat.not_le.mpr hc
  have hlt : c.val.toNat < 0x110000 := c.valid.elim (fun h => by omega) (·.2)
  simp only [String.utf8EncodeChar, hc', if_false] at hb
  -- two, three or four bytes, each of them with the highest bit set
  split at hb
  · simp only [List.mem_cons, List.not_mem_nil, or_false] at hb
    rcases hb with rfl | rfl <;> simp <;> omega
  · split at hb <;> simp only [List.mem_cons, List.not_mem_nil, or_false] at hb
    · rcases hb with rfl | rfl | rfl <;> simp <;> omega
    · rcases hb with rfl | rfl | rfl | rfl <;> simp <;> omega

/-- The byte of an ASCII character `x` is a byte of `x` and of no other character. -/
theorem eq_toUInt8_iff {x c : Char} (hx : x.toNat < 128) {b : UInt8}
    (hb : b ∈ String.utf8EncodeChar c) : b = x.toUInt8 ↔ c = x := by
  by_cases hc : c.toNat < 128
  · rw [utf8EncodeChar_of_lt hc, List.mem_singleton] at hb
    subst hb
    refine ⟨fun h => Char.toNat_inj.mp ?_, fun h => h ▸ rfl⟩
    have := congrArg UInt8.toNat h
    simp only [Char.toUInt8, UInt32.toNat_toUInt8] at this
    change c.val.toNat = x.val.toNat
    change c.val.toNat < 128 at hc
    change x.val.toNat < 128 at hx
    omega
  · have hge := le_of_mem_utf8EncodeChar (Nat.not_lt.mp hc) hb
    refine iff_of_false (fun h => ?_) (fun h => hc (h ▸ hx))
    subst h
    rw [Char.toUInt8, UInt32.toNat_toUInt8] at hge
    change x.val.toNat < 128 at hx
    omega

/-! ### Classes of bytes and classes of characters -/

/-- Every byte of a character is of the class `p` exactly when the character is of the class `q`. -/
def Agree (p : UInt8 → Bool) (q : Char → Bool) : Prop :=
  ∀ c, ∀ b ∈ String.utf8EncodeChar c, p b = q c

theorem agree_beq {x : Char} (hx : x.toNat < 128) : Agree (· == x.toUInt8) (· == x) := by
  intro c b hb
  rw [Bool.eq_iff_iff, beq_iff_eq, beq_iff_eq]
  exact eq_toUInt8_iff hx hb

namespace Agree

variable {p p' : UInt8 → Bool} {q q' : Char → Bool}

theorem or (h : Agree p q) (h' : Agree p' q') : Agree (fun b => p b || p' b) (fun c => q c || q' c) :=
  fun c b hb => by beta_reduce; rw [h c b hb, h' c b hb]

theorem and (h : Agree p q) (h' : Agree p' q') :
    Agree (fun b => p b && p' b) (fun c => q c && q' c) :=
  fun c b hb => by beta_reduce; rw [h c b hb, h' c b hb]

theorem not (h : Agree p q) : Agree (fun b => !p b) (fun c => !q c) :=
  fun c b hb => by beta_reduce; rw [h c b hb]

/-- The first byte of a text is of the class exactly when its first character is. -/
theorem head? (h : Agree p q) (cs : List Char) :
    (bytes (String.ofList cs)).head?.any p = cs.head?.any q := by
  cases cs with
  | nil => rfl
  | cons c cs =>
      obtain ⟨b, bs, e⟩ := List.exists_cons_of_ne_nil (String.utf8EncodeChar_ne_nil (c := c))
      rw [bytes_ofList, List.flatMap_cons, e]
      exact h c b (e ▸ List.mem_cons_self)

/-- The last byte of a text is of the class exactly when its last character is. -/
theorem getLast? (h : Agree p q) (cs : List Char) :
    (bytes (String.ofList cs)).getLast?.any p = cs.getLast?.any q := by
  rcases List.eq_nil_or_concat' cs with rfl | ⟨cs, c, rfl⟩
  · rfl
  · obtain ⟨bs, b, e⟩ :=
      (List.eq_nil_or_concat' _).resolve_left (String.utf8EncodeChar_ne_nil (c := c))
    rw [bytes_ofList, List.flatMap_append, List.flatMap_singleton, e, ← List.append_assoc,
      List.getLast?_concat, List.getLast?_concat]
    exact h c b (e ▸ List.mem_append_right _ List.mem_cons_self)

/-- All bytes of a text are of the class exactly when all its characters are. -/
theorem forall_mem (h : Agree p q) (cs : List Char) :
    (∀ b ∈ bytes (String.ofList cs), p b = true) ↔ ∀ c ∈ cs, q c = true := by
  simp only [bytes_ofList, List.mem_flatMap, forall_exists_index, and_imp]
  constructor
  · intro hb c hc
    obtain ⟨b, hbc⟩ := List.exists_mem_of_ne_nil _ (String.utf8EncodeChar_ne_nil (c := c))
    rw [← h c b hbc]
    exact hb b c hc hbc
  · intro hq b c hc hbc
    rw [h c b hbc]
    exact hq c hc

/-- The longest run of bytes of the class is the longest run of characters of the class. -/
theorem takeWhile (h : Agree p q) (cs : List Char) :
    (bytes (String.ofList cs)).takeWhile p = bytes (String.ofList (cs.takeWhile q)) := by
  simp only [bytes_ofList]
  induction cs with
  | nil => rfl
  | cons c cs ih =>
      rw [List.flatMap_cons, List.takeWhile_cons]
      split
      -- all bytes of `c` are in the run, or its first byte ends the run
      · next hc =>
          rw [List.takeWhile_append_of_pos fun b hb => by rw [h c b hb, hc], ih, List.flatMap_cons]
      · next hc =>
          obtain ⟨b, bs, e⟩ := List.exists_cons_of_ne_nil (String.utf8EncodeChar_ne_nil (c := c))
          have hb : p b = false := by
            rw [h c b (e ▸ List.mem_cons_self)]; exact Bool.eq_false_iff.mpr hc
          simp [e, hb]

end Agree

/-- The first byte of a text is that of an ASCII character exactly when this is its first
character. -/
theorem head?_bytes_eq_some_iff {x : Char} (hx : x.toNat < 128) (cs : List Char) :
    (bytes (String.ofList cs)).head? = some x.toUInt8 ↔ cs.head? = some x := by
  have := Bool.eq_iff_iff.mp ((agree_beq hx).head? cs)
  simpa only [Option.any_eq_true, beq_iff_eq, exists_eq_right] using this

theorem getLast?_bytes_eq_some_iff {x : Char} (hx : x.toNat < 128) (cs : List Char) :
    (bytes (String.ofList cs)).getLast? = some x.toUInt8 ↔ cs.getLast? = some x := by
  have := Bool.eq_iff_iff.mp ((agree_beq hx).getLast? cs)
  simpa only [Option.any_eq_true, beq_iff_eq, exists_eq_right] using this

/-! ### Boundaries -/

/-- The offset `n` lies between two characters of `s`, or at one of its ends. -/
def IsBoundary (s : String) (n : Nat) : Prop :=
  ∃ before ahead, s = before ++ ahead ∧ n = before.utf8ByteSize

theorem isBoundary_iff {s : String} {n : Nat} :
    IsBoundary s n ↔ (⟨n⟩ : String.Pos.Raw).IsValid s := by
  rw [String.Pos.Raw.isValid_iff_exists_append]
  simp [IsBoundary, String.Pos.Raw.ext_iff]

theorem isBoundary_append (before ahead : String) :
    IsBoundary (before ++ ahead) before.utf8ByteSize :=
  ⟨before, ahead, rfl, rfl⟩

theorem isBoundary_ofList {cs before : List Char} (ahead : List Char) (h : cs = before ++ ahead) :
    IsBoundary (String.ofList cs) (String.ofList before).utf8ByteSize := by
  rw [h, String.ofList_append]
  exact isBoundary_append _ _

theorem isBoundary_offset {s : String} (q : s.Pos) : IsBoundary s q.offset.byteIdx :=
  isBoundary_iff.mpr q.isValid

/-- The position of `s` at an offset, if the offset is a boundary. -/
theorem pos?_eq_some_iff {s : String} {n : Nat} {q : s.Pos} :
    s.pos? ⟨n⟩ = some q ↔ q.offset.byteIdx = n := by
  simp only [String.pos?, String.Slice.pos?, Option.map_eq_some_iff, Option.dite_none_right_eq_some,
    Option.some.injEq]
  constructor
  · rintro ⟨_, ⟨h, rfl⟩, rfl⟩
    rfl
  · rintro rfl
    exact ⟨_, ⟨String.Pos.Raw.isValidForSlice_eq_true_iff.mpr q.isValid.toSlice, rfl⟩, rfl⟩

end Tokenizer.Text
