import Tokenizer.Proofs.Cursor.Moves
import Tokenizer.Proofs.Lexer.Boundary

/-!
# Progress

Nothing counts the tokens of a source while they are read.  That there is an end to them follows from
each step: it comes to the end of the source, and then for ever, or it goes past a text that is not
empty (`Advance`).  A token takes at least one character that is no blank, so that these characters
bound the number of tokens, whether they are read one by one, all at once or on a walk.

* `length_tokens_le`: a text has at most as many tokens as it has characters that are no blanks.
* `nextToken_after_replicate`, `finished_after_replicate`: where reading on ends, and where walking on
  does.
* `progress_after`: what holds of the lexer of a source after any calls.
-/

namespace Tokenizer

open Text

/-- How many characters of a text are no blanks. -/
def Text.solidCount (cs : List Char) : Nat :=
  cs.countP (!isBlankChar ·)

theorem Text.solidCount_append (cs ds : List Char) :
    solidCount (cs ++ ds) = solidCount cs + solidCount ds :=
  List.countP_append

theorem Text.solidCount_cons {c : Char} (hc : isBlankChar c = false) (cs : List Char) :
    solidCount (c :: cs) = solidCount cs + 1 := by
  rw [solidCount, List.countP_cons_of_pos (by simp [hc])]
  rfl

/-- A text has at most as many tokens as it has characters that are no blanks. -/
theorem Text.length_tokens_le (cs : List Char) : (tokens cs).length ≤ solidCount cs := by
  induction cs using Text.induction with
  | gap g hg =>
      rw [tokens_of_isGap hg]
      exact Nat.zero_le _
  | symbol g s r hg ih =>
      rw [tokens_gap hg, tokens_symbol, List.length_cons, solidCount_append,
        solidCount_cons (isBlankChar_symbol s)]
      omega
  | word g w r hg hw hr ih =>
      -- the first character of the word is no blank
      obtain ⟨c, w, rfl⟩ := List.exists_cons_of_ne_nil hw.ne_nil
      have hc := isBlankChar_of_isDelimiterChar (hw.no_delimiter c List.mem_cons_self)
      rw [tokens_gap hg, tokens_word hw hr, List.length_cons, solidCount_append,
        solidCount_append, solidCount_cons hc]
      omega

namespace Lexer

/-- The next step of a lexer of `s` comes to the end of the source, where the lexer stays whatever
calls follow, or it goes past a token. -/
inductive Advance (s : String) (l : Lexer) : Prop
  | finish (token : l.nextToken.1 = .eof) (stop : l.nextToken.2.cursor.offset = s.utf8ByteSize)
      (stays : ∀ cs, (after l.nextToken.2 cs).cursor = l.nextToken.2.cursor ∧
        (after l.nextToken.2 cs).nextToken.1 = .eof) : Advance s l
  | pass (not_eof : l.nextToken.1.isEof = false)
      (lt : l.cursor.offset < l.nextToken.2.cursor.offset)
      (literal : l.nextToken.1.literal ≠ "") : Advance s l

/-- A lexer of `s` makes progress. -/
structure Progress (s : String) (l : Lexer) : Prop where
  /-- The next step is as many steps of the cursor as there are bytes that it goes over. -/
  cursor : l.nextToken.2.cursor =
    Cursor.bump^[l.nextToken.2.cursor.offset - l.cursor.offset] l.cursor
  advance : Advance s l
  /-- The end of the input is given exactly if nothing but blanks is left, and so not for a NUL. -/
  isEof_iff : l.nextToken.1.isEof = true ↔
    ∀ b ∈ (bytes s).drop l.cursor.offset, isBlank b = true
  /-- Reading on comes to the end of the input. -/
  nextToken : ∀ n, solidCount s.toList ≤ n →
    (after l (List.replicate n .nextToken)).nextToken.1 = .eof
  length_tokenize_le : l.tokenize.1.length ≤ solidCount s.toList + 1
  /-- Walking on comes to nothing. -/
  next? : ∀ n, solidCount s.toList + 1 ≤ n →
    (after l (List.replicate n .next?)).next?.1 = none
  length_collect_le : l.collect.1.length ≤ solidCount s.toList + 1

variable {before ahead : List Char} {finished : Bool} {n : Nat}

/-! ### Reading on -/

theorem nextToken_end (before : List Char) (finished : Bool) :
    (between before [] finished).nextToken = (.eof, between before [] finished) := by
  have h : (between before [] finished).nextToken = (.eof, between (before ++ []) [] finished) :=
    nextToken_gap nofun
  rwa [List.append_nil] at h

/-- At the end of the source calls change the flag at most. -/
theorem exists_after_end (before : List Char) (finished : Bool) (cs : List Call) :
    ∃ f, after (between before [] finished) cs = between before [] f := by
  induction cs generalizing finished with
  | nil => exact ⟨finished, rfl⟩
  | cons c cs ih =>
      cases c with
      | nextToken =>
          rw [after, Call.run, nextToken_end]
          exact ih finished
      | next? =>
          cases finished with
          | true =>
              rw [after, Call.run, next?_of_finished rfl]
              exact ih true
          | false =>
              rw [after, Call.run, next?_of_not_finished rfl, nextToken_end]
              exact ih true

/-- Each step takes one token off those ahead. -/
theorem exists_after_replicate_nextToken (before ahead : List Char) (finished : Bool) (n : Nat) :
    ∃ before' ahead', after (between before ahead finished) (List.replicate n .nextToken) =
      between before' ahead' finished ∧ tokens ahead' = (tokens ahead).drop n := by
  induction n generalizing before ahead with
  | zero => exact ⟨before, ahead, rfl, rfl⟩
  | succ n ih =>
      obtain ⟨read, rest, -, ht, hn, -⟩ := nextToken_eq_headD before ahead finished
      obtain ⟨before', ahead', ha, hd⟩ := ih (before ++ read) rest
      refine ⟨before', ahead', ?_, ?_⟩
      · rw [List.replicate_succ, after, Call.run, hn]
        exact ha
      · rw [hd, ht, List.drop_tail]

/-- Reading on comes to the end of the input. -/
theorem nextToken_after_replicate (h : (tokens ahead).length ≤ n) :
    (after (between before ahead finished) (List.replicate n .nextToken)).nextToken.1 = .eof := by
  obtain ⟨before', ahead', ha, hd⟩ := exists_after_replicate_nextToken before ahead finished n
  obtain ⟨read, rest, -, -, hn, -⟩ := nextToken_eq_headD before' ahead' finished
  rw [ha, hn, hd, List.drop_of_length_le h]
  rfl

/-! ### Walking on -/

theorem after_of_finished {l : Lexer} (h : l.finished = true) (n : Nat) :
    after l (List.replicate n .next?) = l := by
  induction n with
  | zero => rfl
  | succ n ih => rw [List.replicate_succ, after, Call.run, next?_of_finished h, ih]

/-- A walk is over when it has given the tokens ahead and the end of the input. -/
theorem finished_after_replicate (h : (tokens ahead).length < n) :
    (after (between before ahead finished) (List.replicate n .next?)).finished = true := by
  induction n generalizing before ahead finished with
  | zero => exact absurd h (Nat.not_lt_zero _)
  | succ n ih =>
      cases finished with
      | true =>
          rw [after_of_finished rfl]
          rfl
      | false =>
          rw [List.replicate_succ, after, Call.run, next?_of_not_finished rfl]
          obtain ⟨t, read, rest, -, hn, ⟨he, ht⟩ | ⟨rfl, ht, rfl⟩⟩ :=
            nextToken_between before ahead false
          · rw [hn, he]
            rw [ht] at h
            change (after (between (before ++ read) rest false) _).finished = true
            exact ih (Nat.lt_of_succ_lt_succ h)
          · rw [hn, after_of_finished rfl]
            rfl

/-- What is left of a walk are the tokens up to the end of the input, unless it is over. -/
theorem collect_eq (l : Lexer) : l.collect.1 = if l.finished then [] else l.drain := by
  fun_induction collect l with
  | case1 l h r rest ih =>
      have hr : r = (some l.nextToken.1, { l.nextToken.2 with finished := l.nextToken.1.isEof }) :=
        next?_of_not_finished h
      rw [if_neg (by simp [h]), drain]
      change r.1.toList ++ (collect r.2).1 = _
      rw [ih, hr]
      cases he : l.nextToken.1.isEof with
      | true => simp
      | false =>
          -- the flag is as it was, so that the walk goes on with the lexer behind the token
          have hl : { l.nextToken.2 with finished := false } = l.nextToken.2 := by
            rw [← h, ← finished_nextToken l]
          simp [hl]
  | case2 l h => rw [if_pos (by simpa using h)]

/-! ### All steps -/

theorem cursor_nextToken_between (before ahead : List Char) (finished : Bool) :
    let l := between before ahead finished
    l.nextToken.2.cursor =
      Cursor.bump^[l.nextToken.2.cursor.offset - l.cursor.offset] l.cursor := by
  obtain ⟨t, read, rest, rfl, hn, -⟩ := nextToken_between before ahead finished
  dsimp only
  rw [hn]
  refine (Cursor.coherent_between before (read ++ rest)).eq_iterate_bump ?_ ?_
  · rw [← List.append_assoc]
    exact Cursor.coherent_between (before ++ read) rest
  · dsimp only [between]
    rw [Cursor.offset_between, Cursor.offset_between, Cursor.utf8ByteSize_append]
    exact Nat.le_add_right _ _

theorem Reads.lt {s : String} {p q : Nat} {t : Token} (h : Reads s p q t)
    (ht : t.isEof = false) : p < q := by
  cases h with
  | eof => cases ht
  | token m hle hlt => exact Nat.lt_of_le_of_lt hle hlt

/-- The text of a token starts with the byte at which the blanks end. -/
theorem Reads.literal_ne_empty {s : String} {p q : Nat} {t : Token} (h : Reads s p q t)
    (ht : t.isEof = false) : t.literal ≠ "" := by
  cases h with
  | eof => cases ht
  | token m _ hlt _ hf _ hl =>
      obtain ⟨b, hb, -⟩ := hf
      rw [Cursor.drop_take_eq_cons hb hlt] at hl
      intro he
      rw [he] at hl
      cases hl

theorem Reads.isEof_iff {s : String} {p q : Nat} {t : Token} (h : Reads s p q t) :
    t.isEof = true ↔ ∀ b ∈ (bytes s).drop p, isBlank b = true := by
  cases h with
  | eof _ hb => exact iff_of_true rfl hb
  | token m hle _ _ hf _ _ he =>
      refine iff_of_false (by simp [he]) fun hall => ?_
      obtain ⟨b, hb, hn⟩ := hf
      have hm : b ∈ (bytes s).drop p := by
        refine List.mem_of_getElem? (i := m - p) ?_
        rwa [List.getElem?_drop, Nat.add_sub_cancel' hle]
      exact absurd (hall b hm) (by simp [hn])

theorem advance_between (before ahead : List Char) (finished : Bool) :
    Advance (String.ofList (before ++ ahead)) (between before ahead finished) := by
  have hr := (safeStep_between before ahead finished).reads
  obtain ⟨t, read, rest, rfl, hn, ⟨he, -⟩ | ⟨rfl, -, rfl⟩⟩ :=
    nextToken_between before ahead finished
  · rw [hn] at hr
    exact .pass (by rw [hn]; exact he) (by rw [hn]; exact hr.lt he)
      (by rw [hn]; exact hr.literal_ne_empty he)
  · refine .finish (by rw [hn]) ?_ fun cs => ?_
    · rw [hn, List.append_nil]
      rfl
    · rw [hn]
      obtain ⟨f, hf⟩ := exists_after_end (before ++ read) finished cs
      rw [hf, nextToken_end]
      exact ⟨rfl, rfl⟩

theorem progress_between (before ahead : List Char) (finished : Bool) :
    Progress (String.ofList (before ++ ahead)) (between before ahead finished) := by
  have ht : (tokens ahead).length ≤ solidCount (before ++ ahead) := by
    rw [solidCount_append]
    exact Nat.le_add_left_of_le (length_tokens_le ahead)
  have hd : (between before ahead finished).drain.length ≤ solidCount (before ++ ahead) + 1 := by
    rw [drain_between, List.length_append]
    exact Nat.succ_le_succ ht
  rw [← String.toList_ofList (l := before ++ ahead)] at ht hd
  refine ⟨cursor_nextToken_between before ahead finished, advance_between before ahead finished,
    (safeStep_between before ahead finished).reads.isEof_iff,
    fun n hn => nextToken_after_replicate (Nat.le_trans ht hn), hd, fun n hn => ?_, ?_⟩
  · rw [next?_of_finished (finished_after_replicate (Nat.lt_of_le_of_lt ht hn))]
  · rw [collect_eq]
    split
    · exact Nat.zero_le _
    · exact hd

/-- **Progress.**  Whatever calls are made on the lexer of a source, its next step comes to the end of
the source and stays there, or goes past a token that is not empty.  So there are no more tokens ahead,
the end of the input apart, than the source has characters that are no blanks. -/
theorem progress_after (s : String) (cs : List Call) : Progress s (after (ofString s) cs) := by
  obtain ⟨before, ahead, hs, hl, -⟩ := ((reached_ofString s).record cs).1
  rw [hl, ← String.ofList_toList (s := s), hs]
  exact progress_between before ahead _

/-- Tokens of one character each come to the bound. -/
example : (ofString "a+b \x00").tokenize.1.length = solidCount "a+b \x00".toList + 1 := by
  decide +kernel

end Lexer

end Tokenizer
