import Tokenizer.Proofs.Lexer.Reading

/-!
# Calls in any order

A lexer can be asked for the next token, it can be walked, and it can be read to the end.  The first
two may be mixed as one likes (`Call`), and the lexer remembers more than its position: a walk that
has given the end of the input gives nothing any more, while the next token past the end is the end
of the input for ever.

* `Reached`: what the calls so far say about the lexer.  A call keeps it, and is answered with what
  the tokens of the source promise (`Reached.run`).
* `record_ofString`: every call of a run is answered with what is due, and what is then read to the
  end is what has not been given yet.
-/

namespace Tokenizer

open Text

/-- What there is to say about one token more, after the other findings. -/
def Findings.report (f : Findings) (t : Token) : Findings :=
  match t.diagnose? with
  | none => f
  | some d => f.add d

/-- The findings on a list of tokens are those on each token, reported in order. -/
theorem Findings.ofTokens_eq_foldl (ts : List Token) :
    ofTokens ts = ts.foldl report empty := by
  have h (f : Findings) :
      ts.foldl report f = ⟨f.diagnostics ++ ts.filterMap Token.diagnose?⟩ := by
    induction ts generalizing f with
    | nil => simp
    | cons t ts ih =>
        rw [List.foldl_cons, ih, report]
        cases e : t.diagnose? with
        | none => simp [e]
        | some d => simp [e, add]
  rw [h, ofTokens]
  rfl

namespace Lexer

/-! ### Runs -/

/-- A call that asks a lexer for a token. -/
inductive Call
  | nextToken
  | next?
deriving DecidableEq

/-- The answer to a call, and the lexer after it. -/
def Call.run : Call → Lexer → Option Token × Lexer
  | nextToken, l => (some l.nextToken.1, l.nextToken.2)
  | next?, l => l.next?

/-- Calls with their answers, in order. -/
abbrev Record := List (Call × Option Token)

/-- The calls of a run with their answers, each on the lexer that the call before it has left. -/
def record : Lexer → List Call → Record
  | _, [] => []
  | l, c :: cs => (c, (c.run l).1) :: record (c.run l).2 cs

/-- The lexer after the calls of a run. -/
def after : Lexer → List Call → Lexer
  | l, [] => l
  | l, c :: cs => after (c.run l).2 cs

/-- The tokens that were given. -/
def Record.given (r : Record) : List Token :=
  r.filterMap (·.2)

/-- A walk was told the end of the input. -/
def Record.WalkEnded (r : Record) : Prop :=
  (.next?, some .eof) ∈ r

instance (r : Record) : Decidable r.WalkEnded :=
  inferInstanceAs (Decidable (_ ∈ r))

theorem Record.given_concat (r : Record) (c : Call) (a : Option Token) :
    Record.given (r ++ [(c, a)]) = r.given ++ a.toList := by
  cases a <;> simp [given]

theorem Record.walkEnded_concat {r : Record} {c : Call} {a : Option Token} :
    Record.WalkEnded (r ++ [(c, a)]) ↔ r.WalkEnded ∨ c = .next? ∧ a = some .eof := by
  simp [WalkEnded, eq_comm]

/-- The tokens of a source, and then the end of the input for ever. -/
def stream (s : String) (n : Nat) : Token :=
  (ofString s).tokenize.1.getD n .eof

/-- The answer due to a call on a lexer of `s` with the record `r`: nothing to a walk that was told
the end of the input, else the first token of the stream that was not given. -/
def due (s : String) (r : Record) (c : Call) : Option Token :=
  if c = .next? ∧ r.WalkEnded then none else some (stream s r.given.length)

theorem next?_of_finished {l : Lexer} (h : l.finished = true) : l.next? = (none, l) :=
  if_pos h

theorem next?_of_not_finished {l : Lexer} (h : l.finished = false) :
    l.next? = (some l.nextToken.1, { l.nextToken.2 with finished := l.nextToken.1.isEof }) :=
  if_neg (by simp [h])

theorem after_append (l : Lexer) (cs ds : List Call) :
    after l (cs ++ ds) = after (after l cs) ds := by
  induction cs generalizing l with
  | nil => rfl
  | cons c cs ih => exact ih _

theorem stream_eq (s : String) (n : Nat) : stream s n = ((tokensOf s).drop n).headD .eof := by
  rw [stream, tokenize_ofString, ← tokensOf_eq, List.getD_eq_getElem?_getD,
    List.headD_eq_head?_getD, List.head?_drop]
  by_cases h : n < (tokensOf s).length
  · rw [List.getElem?_append_left h]
  · have hn := Nat.not_lt.mp h
    rw [List.getElem?_append_right hn, List.getElem?_eq_none hn]
    cases n - (tokensOf s).length <;> rfl

/-! ### What is given and what is ahead -/

/-- `l` is in `s` where the record `r` leads: the tokens ahead of it are those that were not given,
and it is finished exactly if a walk was told the end of the input. -/
def Reached (s : String) (r : Record) (l : Lexer) : Prop :=
  ∃ before ahead, s.toList = before ++ ahead ∧ l = between before ahead (decide r.WalkEnded) ∧
    tokens ahead = (tokensOf s).drop r.given.length

theorem reached_ofString (s : String) : Reached s [] (ofString s) :=
  ⟨[], s.toList, rfl, ofString_eq_between s, (tokensOf_eq s).symm⟩

/-- One step gives the first token ahead, or the end of the input if there is none, and leaves the
others ahead. -/
theorem nextToken_eq_headD (before ahead : List Char) (finished : Bool) :
    ∃ read rest, ahead = read ++ rest ∧ tokens rest = (tokens ahead).tail ∧
      (between before ahead finished).nextToken =
        ((tokens ahead).headD .eof, between (before ++ read) rest finished) ∧
      ((tokens ahead).headD .eof).isEof = decide ((tokens ahead).headD .eof = .eof) := by
  obtain ⟨t, read, rest, ha, hn, ⟨he, ht⟩ | ⟨rfl, ht, rfl⟩⟩ :=
    nextToken_between before ahead finished
  · refine ⟨read, rest, ha, by rw [ht]; rfl, by rw [hn, ht]; rfl, ?_⟩
    rw [ht, List.headD_cons, he, eq_comm, decide_eq_false_iff_not]
    rintro rfl
    cases he
  · exact ⟨read, [], ha, by rw [ht]; exact tokens_nil, by rw [hn, ht]; rfl, by rw [ht]; simp⟩

/-- **One call.**  It is answered with what is due, and leads where its answer says. -/
theorem Reached.run {s : String} {r : Record} {l : Lexer} (h : Reached s r l) (c : Call) :
    (c.run l).1 = due s r c ∧ Reached s (r ++ [(c, due s r c)]) (c.run l).2 := by
  obtain ⟨before, ahead, hs, rfl, ha⟩ := h
  obtain ⟨read, rest, hsplit, hrest, hn, he⟩ :=
    nextToken_eq_headD before ahead (decide r.WalkEnded)
  rw [ha, ← stream_eq] at hn he
  rw [ha, List.tail_drop] at hrest
  have hs' : s.toList = before ++ read ++ rest := by rw [hs, hsplit, List.append_assoc]
  cases c with
  | nextToken =>
      have hd : due s r .nextToken = some (stream s r.given.length) := if_neg (by simp)
      rw [hd, Call.run, hn]
      refine ⟨rfl, before ++ read, rest, hs', ?_, ?_⟩
      · simp [Record.walkEnded_concat]
      · simpa [Record.given_concat] using hrest
  | next? =>
      by_cases hw : r.WalkEnded
      -- the walk is over: nothing is read, and nothing is given
      · have hd : due s r .next? = none := if_pos ⟨rfl, hw⟩
        rw [hd, Call.run, next?_of_finished (by simp [between, hw])]
        refine ⟨rfl, before, ahead, hs, ?_, ?_⟩
        · simp [Record.walkEnded_concat]
        · simpa [Record.given_concat] using ha
      -- it goes on: the flag is set from the token just read, and only the last ends the input
      · have hd : due s r .next? = some (stream s r.given.length) := if_neg fun h => hw h.2
        rw [hd, Call.run, next?_of_not_finished (by simp [between, hw]), hn, he]
        refine ⟨rfl, before ++ read, rest, hs', ?_, ?_⟩
        · simp [between, Record.walkEnded_concat, hw]
        · simpa [Record.given_concat] using hrest

/-- **A run.**  Every call is answered with what is due to it after the calls before it. -/
theorem Reached.record {s : String} {r : Record} {l : Lexer} (h : Reached s r l) (cs : List Call) :
    Reached s (r ++ record l cs) (after l cs) ∧ ∀ i, (Lexer.record l cs)[i]? =
      cs[i]?.map fun c => (c, due s (r ++ (Lexer.record l cs).take i) c) := by
  -- the record of a shorter run is that of the rest, behind a record that has grown by one call
  induction cs generalizing r l with
  | nil => exact ⟨by simpa [Lexer.record, after] using h, fun i => rfl⟩
  | cons c cs ih =>
      obtain ⟨ha, hl⟩ := h.run c
      obtain ⟨hr, hi⟩ := ih hl
      rw [List.append_assoc, List.singleton_append, ← ha] at hr
      refine ⟨hr, fun i => ?_⟩
      cases i with
      | zero => simp [Lexer.record, ha]
      | succ i =>
          have := hi i
          rw [← ha] at this
          simpa [Lexer.record] using this

/-! ### All orders of calls -/

/-- **Calls in any order.**  Whatever calls are made on the lexer of a source, each of them is
answered with what is due to it after the calls before it: nothing, exactly if it walks on after a
walk was told the end of the input, and else the next token of the stream, whichever call it is.  If
the lexer is then read to the end, this gives the tokens that were not given before, and the end of
the input once; and the findings are those on these tokens, in their order. -/
theorem record_ofString (s : String) (cs : List Call) :
    (∀ i, (record (ofString s) cs)[i]? =
      cs[i]?.map fun c => (c, due s ((record (ofString s) cs).take i) c)) ∧
    (after (ofString s) cs).tokenize.1 =
      (tokensOf s).drop (record (ofString s) cs).given.length ++ [.eof] ∧
    (after (ofString s) cs).tokenize.2 =
      (after (ofString s) cs).tokenize.1.foldl Findings.report .empty := by
  obtain ⟨⟨before, ahead, -, hl, ha⟩, hi⟩ := (reached_ofString s).record cs
  refine ⟨hi, ?_, Findings.ofTokens_eq_foldl _⟩
  rw [tokenize, hl, drain_between, ha, List.nil_append]

/-- Only a walk that was told the end of the input comes to nothing. -/
example : (record (ofString "x") [.nextToken, .nextToken, .next?, .next?, .nextToken]).map (·.2) =
    [some ⟨.identifier, "x"⟩, some .eof, some .eof, none, some .eof] := by
  decide +kernel

end Lexer

end Tokenizer
