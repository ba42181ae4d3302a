import Tokenizer.Proofs.Command.Report

/-!
# What presentation has a say in

Two runs that come to their tokens on the same source, and that deny illegal tokens alike, may differ
in everything that says how tokens, diagnostics and log are shown.  What they write is told apart by
few of these things (`Indifferent`): the exit code by none, the output by those that are about
tokens, and what is written besides the log by the quietness alone.

* `Completed.code_eq`, `Completed.output_eq`, `Completed.remarks_eq`: what one run writes, by what it
  depends on.
* `indifferent`: what two runs write alike.
-/

namespace Tokenizer.Command

/-! ### One run -/

/-- A run that came to its tokens. -/
structure Completed where
  host : Host Id
  environment : Option String
  options : Options
  settings : Settings
  source : String
  settings_eq : findSettings host options = .ok settings
  source_eq : readSource host options.source? = .ok source
  reported : ∃ log shown output code,
    run host environment options = .reported log shown output code

/-- Whatever has obtained all that it needs completes. -/
def Completed.ofObtains {host : Host Id} {environment : Option String} {o : Options} {s : Settings}
    {filter : Log.Filter} {source : String} (h : Obtains host environment o s filter source) :
    Completed :=
  ⟨host, environment, o, s, source, h.settings, h.source, _, _, _, _, run_of_obtains h⟩

/-- Whether a notice is a line of the log. -/
def Notice.isEvent : Notice → Bool
  | event _ => true
  | _ => false

/-- Whether a notice is a warning about the source. -/
def Notice.isWarning : Notice → Bool
  | diagnostic d => d.severity == .warning
  | _ => false

/-- What the program has to say besides its output and its log. -/
def Outcome.remarks (out : Outcome) : List Notice :=
  out.notices.filter (!·.isEvent)

theorem remarks_reported (log : List Log.Event) (shown : List Diagnostic) (output : String)
    (code : UInt8) :
    (Result.reported log shown output code).outcome.remarks = shown.map .diagnostic := by
  have hlog : ∀ n ∈ log.map Notice.event, ¬ (!n.isEvent) = true := by
    simp [Notice.isEvent]
  have hshown : ∀ n ∈ shown.map Notice.diagnostic, (!n.isEvent) = true := by
    simp [Notice.isEvent]
  rw [Outcome.remarks, Result.outcome, List.filter_append, List.filter_eq_nil_iff.mpr hlog,
    List.filter_eq_self.mpr hshown, List.nil_append]

/-- Of all diagnostics, a quiet run shows those that are no warnings. -/
theorem shownDiagnostics_of_quiet {o o' : Options} (h : o.has .quiet = false)
    (h' : o'.has .quiet = true) (f : Findings) :
    (o'.shownDiagnostics f).map Notice.diagnostic =
      ((o.shownDiagnostics f).map Notice.diagnostic).filter (!·.isWarning) := by
  have hd : ∀ d : Diagnostic, (!(Notice.diagnostic d).isWarning) = d.isError := by
    rintro ⟨_ | _, _, _⟩ <;> rfl
  simp [Options.shownDiagnostics, h, h', List.filter_map, Function.comp_def, hd]

namespace Completed

variable (r r' : Completed)

/-- What a completed run writes. -/
def outcome : Outcome :=
  outcomeOf r.host r.environment r.options

/-- The tokens of a completed run. -/
def tokens : List Token :=
  (Lexer.ofString r.source).tokenize.1

/-- What there is to say about the source of a completed run. -/
def findings : Findings :=
  (Lexer.ofString r.source).tokenize.2

/-- A completed run has a log filter, and reports on its source. -/
theorem exists_filter : ∃ filter,
    Log.Filter.parse (filterText r.options r.environment r.settings) = .ok filter ∧
    r.outcome = (report r.options r.settings filter (eventsBefore r.settings filter)
      r.source).outcome := by
  obtain ⟨log, shown, output, code, hr⟩ := r.reported
  obtain ⟨s, filter, source, ho, he⟩ := exists_obtains_of_reported hr
  cases r.settings_eq.symm.trans ho.settings
  cases r.source_eq.symm.trans ho.source
  exact ⟨filter, ho.filter, outcomeOf_of_run (hr.trans he.symm)⟩

theorem code_eq : r.outcome.code = exitCode r.settings r.findings := by
  obtain ⟨filter, -, h⟩ := r.exists_filter
  rw [h]
  rfl

theorem output_eq : r.outcome.output = r.options.output r.settings r.tokens r.findings := by
  obtain ⟨filter, -, h⟩ := r.exists_filter
  rw [h]
  rfl

/-- Besides the log, a run says what its diagnostics are. -/
theorem remarks_eq : r.outcome.remarks =
    (r.options.shownDiagnostics r.findings).map .diagnostic := by
  obtain ⟨filter, -, h⟩ := r.exists_filter
  rw [h]
  exact remarks_reported _ _ _ _

/-! ### Two runs -/

/-- The two runs differ at most in what they show besides their output: in their quietness, in their
log and in where their settings come from. -/
structure PrintAlike : Prop where
  check : r.options.has .check = r'.options.has .check
  noEof : r.options.has .noEof = r'.options.has .noEof
  format : r.options.format = r'.options.format
  output : r.settings.output = r'.settings.output

/-- Of what says how the two runs are to be presented, each part of what they write depends on a part
only. -/
structure Indifferent : Prop where
  /-- The exit code depends on none of it. -/
  code : r.outcome.code = r'.outcome.code
  /-- The output does not depend on the quietness and on the log. -/
  output : PrintAlike r r' → r.outcome.output = r'.outcome.output
  /-- The diagnostics depend on the quietness alone. -/
  remarks : r.options.has .quiet = r'.options.has .quiet → r.outcome.remarks = r'.outcome.remarks
  /-- A quiet run leaves out the warnings and nothing else. -/
  quiet : r.options.has .quiet = false → r'.options.has .quiet = true →
    r'.outcome.remarks = r.outcome.remarks.filter (!·.isWarning)
  /-- If the environment has a log filter, being verbose and the level in the settings have no say in
  anything. -/
  outcome : ∀ text, text ≠ "" → r.environment = some text → r'.environment = some text →
    PrintAlike r r' → r.options.has .quiet = r'.options.has .quiet →
    r.settings.rootDirectory = r'.settings.rootDirectory → r.outcome = r'.outcome

variable {r r'}

theorem tokens_eq_of_source_eq (h : r.source = r'.source) : r.tokens = r'.tokens := by
  rw [tokens, tokens, h]

theorem findings_eq_of_source_eq (h : r.source = r'.source) : r.findings = r'.findings := by
  rw [findings, findings, h]

theorem PrintAlike.output_eq (h : PrintAlike r r') (ts : List Token) (f : Findings) :
    r.options.output r.settings ts f = r'.options.output r'.settings ts f := by
  simp only [Options.output, Options.shownTokens, h.check, h.noEof, h.format, h.output]

theorem exitCode_eq_of_denyIllegal
    (h : r.settings.check.denyIllegal = r'.settings.check.denyIllegal) (f : Findings) :
    exitCode r.settings f = exitCode r'.settings f := by
  rw [exitCode, exitCode, h]

theorem shownDiagnostics_eq_of_quiet (h : r.options.has .quiet = r'.options.has .quiet)
    (f : Findings) : r.options.shownDiagnostics f = r'.options.shownDiagnostics f := by
  rw [Options.shownDiagnostics, Options.shownDiagnostics, h]

/-- The environment decides about the log if it says anything. -/
theorem filterText_environment {text : String} (h : text ≠ "") (o : Options) (s : Settings) :
    filterText o (some text) s = text := by
  simp [filterText, Option.filter, h]

/-- **What presentation has a say in.**  Two runs that completed on the same source and that deny
illegal tokens alike tell apart little of what they were asked. -/
theorem indifferent (r r' : Completed) (hsource : r.source = r'.source)
    (hdeny : r.settings.check.denyIllegal = r'.settings.check.denyIllegal) : Indifferent r r' := by
  have hts := tokens_eq_of_source_eq hsource
  have hf := findings_eq_of_source_eq hsource
  refine ⟨?_, fun h => ?_, fun h => ?_, fun h h' => ?_, fun text hne he he' h hq hroot => ?_⟩
  · rw [code_eq, code_eq, hf, exitCode_eq_of_denyIllegal hdeny]
  · rw [output_eq, output_eq, hts, hf, h.output_eq]
  · rw [remarks_eq, remarks_eq, hf, shownDiagnostics_eq_of_quiet h]
  · rw [remarks_eq, remarks_eq, hf, shownDiagnostics_of_quiet h h']
  · obtain ⟨filter, hp, e⟩ := r.exists_filter
    obtain ⟨filter', hp', e'⟩ := r'.exists_filter
    rw [he, filterText_environment hne] at hp
    rw [he', filterText_environment hne] at hp'
    cases hp.symm.trans hp'
    rw [e, e', ← hsource]
    -- what is left to compare is logged before the source is read, or is a part of the report
    simp only [report, eventsBefore, hroot, h.output_eq, shownDiagnostics_eq_of_quiet hq,
      exitCode_eq_of_denyIllegal hdeny]

end Completed

/-- A quiet check of `0xZZ ?` that logs what it reads ends like a run that prints the tokens, and
says of them what that run does, less the warning. -/
theorem indifferent_quiet_check : ∃ r r' : Completed,
    r.source = "0xZZ ?" ∧ r.options = {} ∧
    r'.source = "0xZZ ?" ∧ r'.options = { switches := [.check, .quiet] } ∧
    r.outcome.code = r'.outcome.code ∧
    r'.outcome.remarks = r.outcome.remarks.filter (!·.isWarning) := by
  have hs : Id.run (findSettings (inputWorld "0xZZ ?").host {}) = .ok {} := by decide +kernel
  have hs' : Id.run (findSettings (inputWorld "0xZZ ?").host { switches := [.check, .quiet] }) =
    .ok {} := by decide +kernel
  have hr : Id.run (readSource (inputWorld "0xZZ ?").host none) = .ok "0xZZ ?" := by decide +kernel
  have h : Obtains (inputWorld "0xZZ ?").host none {} {} ⟨[{ verbosity := 2 }]⟩ "0xZZ ?" :=
    ⟨hs, by decide +kernel, hr⟩
  have h' : Obtains (inputWorld "0xZZ ?").host (some "info") { switches := [.check, .quiet] } {}
    ⟨[{ verbosity := 3 }]⟩ "0xZZ ?" := ⟨hs', by decide +kernel, hr⟩
  have hi := Completed.indifferent (.ofObtains h) (.ofObtains h') rfl rfl
  exact ⟨.ofObtains h, .ofObtains h', rfl, rfl, rfl, rfl, hi.code, hi.quiet rfl rfl⟩

end Tokenizer.Command
