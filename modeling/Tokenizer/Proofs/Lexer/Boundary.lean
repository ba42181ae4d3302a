import Tokenizer.Proofs.Lexer.Interleaving

/-!
# No step cuts a character

The lexer moves byte by byte, and nothing in a cursor keeps it from standing inside a character.  It
never comes to rest there: whatever calls are made on the lexer of a source, it stands on boundaries
only, and the slice that a word is taken from is there (`SafeStep`).

* `safeStep_between`: a lexer between two characters takes a safe step.
* `safeStep_after`: so does the lexer of a source after any calls, and with it every lexer on the way
  when it is then read to the end.
-/

namespace Tokenizer.Lexer

open Text

/-- The slice that the next step takes, if it reads a word: where it starts, and the cursor that
stands where it ends. -/
def slice? (l : Lexer) : Option (Nat × Cursor) :=
  let c := l.cursor.skipWhile isBlank
  if c.atEnd then none
  else match Symbol.ofByte? c.current with
    | some _ => none
    | none => some (c.offset, c.skipWhile (!isDelimiter ·))

/-- The lexers that read the tokens up to the end of the input, one token each. -/
def steps (l : Lexer) : List Lexer :=
  if l.nextToken.1.isEof then [l] else l :: l.nextToken.2.steps
termination_by l.cursor.remaining
decreasing_by exact (nextToken_eof_or_lt l).resolve_left ‹_›

/-- What a step from the offset `p` to the offset `q` reads in `s`: blanks alone up to the end, or a
token whose text lies between the first offset `m` from `p` on with a byte that is no blank, and
`q`. -/
inductive Reads (s : String) (p q : Nat) : Token → Prop where
  | eof (end_eq : q = (bytes s).length) (blank : ∀ b ∈ (bytes s).drop p, isBlank b = true) :
      Reads s p q .eof
  | token {t : Token} (m : Nat) (le : p ≤ m) (lt : m < q)
      (blank : ∀ b ∈ ((bytes s).take m).drop p, isBlank b = true)
      (first : ∃ b, (bytes s)[m]? = some b ∧ isBlank b = false) (boundary : IsBoundary s m)
      (literal : bytes t.literal = ((bytes s).take q).drop m) (not_eof : t.isEof = false) :
      Reads s p q t

/-- The next step of `l` cuts no character of its source `s`: it goes from a boundary to a boundary,
the slice that it takes for a word lies between two boundaries in order, and what it reads is what it
gives. -/
structure SafeStep (s : String) (l : Lexer) : Prop where
  source : l.cursor.source = s
  start : IsBoundary s l.cursor.offset
  stop : IsBoundary s l.nextToken.2.cursor.offset
  slice : ∀ first last, l.slice? = some (first, last) →
    first ≤ last.offset ∧ IsBoundary s first ∧ IsBoundary s last.offset ∧
      ∃ w, last.sliceFrom? first = some w ∧
        l.nextToken = (⟨Word.classify w, w⟩, { l with cursor := last })
  no_slice : l.slice? = none → l.nextToken.1 = .eof ∨ ∃ x, l.nextToken.1 = .ofSymbol x
  reads : Reads s l.cursor.offset l.nextToken.2.cursor.offset l.nextToken.1

/-! ### Slices -/

/-- A step that takes no slice reads no word. -/
theorem nextToken_of_slice?_eq_none {l : Lexer} (h : l.slice? = none) :
    l.nextToken.1 = .eof ∨ ∃ x, l.nextToken.1 = .ofSymbol x := by
  unfold slice? at h
  unfold nextToken
  by_cases he : (l.cursor.skipWhile isBlank).atEnd
  · exact .inl (by simp [he])
  · cases hs : Symbol.ofByte? (l.cursor.skipWhile isBlank).current with
    | none => simp [he, hs] at h
    | some x => exact .inr ⟨x, by simp [he, scanToken, hs, Token.ofSymbol]⟩

variable {before : List Char} {finished : Bool}

theorem slice?_gap {g : List Char} (hg : IsGap g) : (between before g finished).slice? = none := by
  simp [slice?, between, skipWhile_gap_end before hg]

theorem slice?_symbol {g : List Char} (hg : IsGap g) (s : Symbol) (r : List Char) :
    (between before (g ++ s.char :: r) finished).slice? = none := by
  simp [slice?, between, skipWhile_gap_symbol before hg, ofByte?_current_symbol]

theorem slice?_word {g w r : List Char} (hg : IsGap g) (hw : IsWord w) (hr : Stops r) :
    (between before (g ++ (w ++ r)) finished).slice? =
      some ((String.ofList (before ++ g)).utf8ByteSize, .between (before ++ g ++ w) r) := by
  simp only [slice?, between, skipWhile_gap_word before hg hw, atEnd_word (before ++ g) hw,
    ofByte?_current_word (before ++ g) hw, skipWhile_word (before ++ g) hw hr,
    Cursor.offset_between]
  rfl

/-! ### One step -/

/-- The bytes between two boundaries. -/
theorem bytes_between (before w ahead : List Char) :
    bytes (String.ofList w) = ((bytes (String.ofList (before ++ w ++ ahead))).take
      (String.ofList (before ++ w)).utf8ByteSize).drop (String.ofList before).utf8ByteSize :=
  (Cursor.sliceFrom?_eq_some_iff.mp (Cursor.sliceFrom?_between before w ahead)).2.2.2

theorem reads_gap {g : List Char} (hg : IsGap g) :
    Reads (String.ofList (before ++ g)) (String.ofList before).utf8ByteSize
      (String.ofList (before ++ g)).utf8ByteSize .eof := by
  refine .eof (length_bytes _).symm ?_
  rw [Cursor.drop_bytes_between]
  exact (agree_isBlank.forall_mem g).mpr hg

theorem reads_token {g w r : List Char} {c : Char} {t : Token} (hg : IsGap g)
    (hc : isBlankChar c = false) (ht : t.literal = String.ofList (c :: w)) (he : t.isEof = false) :
    Reads (String.ofList (before ++ (g ++ (c :: w ++ r)))) (String.ofList before).utf8ByteSize
      (String.ofList (before ++ g ++ c :: w)).utf8ByteSize t := by
  rw [← List.append_assoc before]
  refine .token (String.ofList (before ++ g)).utf8ByteSize ?_ ?_ ?_ ?_ ?_ ?_ he
  · rw [Cursor.utf8ByteSize_append]
    exact Nat.le_add_right _ _
  · have hpos : 0 < (String.ofList (c :: w)).utf8ByteSize := by
      rw [Nat.pos_iff_ne_zero, Ne, String.utf8ByteSize_eq_zero_iff, String.ofList_eq_empty_iff]
      exact List.cons_ne_nil c w
    rw [Cursor.utf8ByteSize_append (before ++ g)]
    exact Nat.lt_add_of_pos_right hpos
  · rw [← bytes_between]
    exact (agree_isBlank.forall_mem g).mpr hg
  · have hb := agree_isBlank.not.head? (c :: w ++ r)
    rw [← Cursor.drop_bytes_between (before ++ g), List.head?_drop, List.cons_append,
      List.head?_cons, Option.any_some, hc, Bool.not_false, Option.any_eq_true] at hb
    simpa using hb
  · exact isBoundary_ofList _ rfl
  · rw [ht, bytes_between (before ++ g) (c :: w) r, List.append_assoc (before ++ g)]

/-- **One step.**  A lexer between two characters cuts no character. -/
theorem safeStep_between (before ahead : List Char) (finished : Bool) :
    SafeStep (String.ofList (before ++ ahead)) (between before ahead finished) := by
  have start : IsBoundary (String.ofList (before ++ ahead)) (String.ofList before).utf8ByteSize :=
    isBoundary_ofList _ rfl
  cases cut ahead with
  | gap hg =>
      refine ⟨rfl, start, ?_, fun _ _ h => ?_, nextToken_of_slice?_eq_none, ?_⟩
      · rw [nextToken_gap hg]
        exact isBoundary_ofList [] (List.append_nil _).symm
      · rw [slice?_gap hg] at h
        cases h
      · rw [nextToken_gap hg]
        exact reads_gap hg
  | @symbol g hg s r =>
      refine ⟨rfl, start, ?_, fun _ _ h => ?_, nextToken_of_slice?_eq_none, ?_⟩
      · rw [nextToken_symbol hg]
        exact isBoundary_ofList r (by simp)
      · rw [slice?_symbol hg] at h
        cases h
      · rw [nextToken_symbol hg]
        exact reads_token hg (isBlankChar_symbol s) rfl (Token.isEof_ofSymbol s)
  | @word g w r hg hw hr =>
      refine ⟨rfl, start, ?_, fun _ _ h => ?_, nextToken_of_slice?_eq_none, ?_⟩
      · rw [nextToken_word hg hw hr]
        exact isBoundary_ofList r (by simp)
      · rw [slice?_word hg hw hr] at h
        cases h
        have hs := Cursor.sliceFrom?_between (before ++ g) w r
        exact ⟨(Cursor.sliceFrom?_eq_some_iff.mp hs).1, isBoundary_ofList (w ++ r) (by simp),
          isBoundary_ofList r (by simp), _, hs, nextToken_word hg hw hr⟩
      · rw [nextToken_word hg hw hr]
        obtain ⟨c, v, rfl⟩ := List.exists_cons_of_ne_nil hw.ne_nil
        have hc := hw.no_delimiter c List.mem_cons_self
        exact reads_token hg (isBlankChar_of_isDelimiterChar hc) rfl (Token.isEof_ofWord _)

/-! ### All steps -/

theorem mem_steps_self (l : Lexer) : l ∈ l.steps := by
  rw [steps]
  split <;> exact List.mem_cons_self

theorem drain_eq_map_steps (l : Lexer) : l.drain = l.steps.map (·.nextToken.1) := by
  fun_induction steps l with
  | case1 l h => rw [drain, if_pos h]; rfl
  | case2 l h ih => rw [drain, if_neg h, ih]; rfl

/-- The lexers on the way to the end of the input come from calls for the next token. -/
theorem exists_after_of_mem_steps {l l' : Lexer} (h : l' ∈ l.steps) :
    ∃ cs, l' = after l cs := by
  fun_induction steps l with
  | case1 l _ => exact ⟨[], List.mem_singleton.mp h⟩
  | case2 l _ ih =>
      -- the first of them is `l` itself, the others are those of the next lexer
      rcases List.mem_cons.mp h with rfl | h
      · exact ⟨[], rfl⟩
      · obtain ⟨cs, rfl⟩ := ih h
        exact ⟨.nextToken :: cs, rfl⟩

theorem safeStep_after_ofString (s : String) (cs : List Call) :
    SafeStep s (after (ofString s) cs) := by
  -- `Reached` keeps the lexer between two characters of `s`, whatever the calls are
  obtain ⟨before, ahead, hs, hl, -⟩ := ((reached_ofString s).record cs).1
  rw [hl, ← String.ofList_toList (s := s), hs]
  exact safeStep_between before ahead _

/-- **No step cuts a character.**  Whatever calls are made on the lexer of a source, its next step is
safe, and so is every step that is taken when it is then read to the end. -/
theorem safeStep_after (s : String) (cs : List Call) :
    SafeStep s (after (ofString s) cs) ∧
    (after (ofString s) cs).tokenize.1 = (after (ofString s) cs).steps.map (·.nextToken.1) ∧
    ∀ l ∈ (after (ofString s) cs).steps, SafeStep s l := by
  refine ⟨safeStep_after_ofString s cs, drain_eq_map_steps _, fun l hl => ?_⟩
  obtain ⟨ds, rfl⟩ := exists_after_of_mem_steps hl
  rw [← after_append]
  exact safeStep_after_ofString s _

/-- Reading `é\0+` to the end takes the slice of the first three bytes, which are two characters. -/
theorem safeStep_after_accent :
    ∃ l ∈ (after (ofString "é\x00+") []).steps, SafeStep "é\x00+" l ∧
      l.slice?.map (fun x => (x.1, x.2.offset)) = some (0, 3) :=
  ⟨_, mem_steps_self _, (safeStep_after "é\x00+" []).2.2 _ (mem_steps_self _), by decide +kernel⟩

end Tokenizer.Lexer
