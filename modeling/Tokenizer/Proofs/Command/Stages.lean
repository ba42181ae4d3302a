import Tokenizer.Command.Answer

/-!
# The stages of a run

A run obtains its settings, its log filter and its source, in this order, and then reports.  It ends
with the first of these that it cannot obtain, and nothing that comes later has a say in that
(`Course`).  It does not fail if its log filter ends inside a character, but breaks off.

* `course_run`: how a run ends, one case for each stage.
* `exists_obtains_of_reported`: a run that reports has obtained all three.
-/

namespace Tokenizer.Command

variable {host : Host Id} {environment : Option String} {o : Options}

/-- What a run has logged when it comes to its source. -/
def eventsBefore (s : Settings) (filter : Log.Filter) : List Log.Event :=
  (s.rootDirectory.map Log.Event.settingsLoaded).toList.filter filter.allows

/-- The settings, the log filter and the source of a run. -/
structure Obtains (host : Host Id) (environment : Option String) (o : Options) (s : Settings)
    (filter : Log.Filter) (source : String) : Prop where
  settings : findSettings host o = .ok s
  filter : Log.Filter.parse (filterText o environment s) = .ok filter
  source : readSource host o.source? = .ok source

/-- How a run ends: with the first thing that it cannot obtain, or with its report. -/
inductive Course (host : Host Id) (environment : Option String) (o : Options) : Result → Prop
  | settings {e : SettingsError} (h : findSettings host o = .error e) :
      Course host environment o (.failed [] (.settings e))
  | crash {s : Settings} (hs : findSettings host o = .ok s)
      (h : Log.Filter.parse (filterText o environment s) = .error .brokenCharacter) :
      Course host environment o .crashed
  | logging {s : Settings} {e : Log.FilterError} (hs : findSettings host o = .ok s)
      (h : Log.Filter.parse (filterText o environment s) = .error e) (he : e ≠ .brokenCharacter) :
      Course host environment o (.failed [] (.logging e))
  | source {s : Settings} {filter : Log.Filter} {f : Failure} (hs : findSettings host o = .ok s)
      (hf : Log.Filter.parse (filterText o environment s) = .ok filter)
      (h : readSource host o.source? = .error f) :
      Course host environment o (.failed (eventsBefore s filter) f)
  | report {s : Settings} {filter : Log.Filter} {source : String}
      (h : Obtains host environment o s filter source) :
      Course host environment o (report o s filter (eventsBefore s filter) source)

/-- A run on answers that are there at once. -/
theorem run_eq (host : Host Id) (environment : Option String) (o : Options) :
    run host environment o =
      match findSettings host o with
      | .error e => .failed [] (.settings e)
      | .ok s =>
        match Log.Filter.parse (filterText o environment s) with
        | .error .brokenCharacter => .crashed
        | .error e => .failed [] (.logging e)
        | .ok filter =>
          match readSource host o.source? with
          | .error f => .failed (eventsBefore s filter) f
          | .ok source => report o s filter (eventsBefore s filter) source :=
  rfl

theorem course_run (host : Host Id) (environment : Option String) (o : Options) :
    Course host environment o (run host environment o) := by
  rw [run_eq]
  cases hs : findSettings host o with
  | error e => exact .settings hs
  | ok s =>
      dsimp only
      cases hf : Log.Filter.parse (filterText o environment s) with
      | error e =>
          cases e with
          | brokenCharacter => exact .crash hs hf
          | badDirective | badLevel | badPattern => exact .logging hs hf nofun
      | ok filter =>
          dsimp only
          cases hr : readSource host o.source? with
          | error f => exact .source hs hf hr
          | ok source => exact .report ⟨hs, hf, hr⟩

/-- A run that reports has obtained its settings, its log filter and its source. -/
theorem exists_obtains_of_reported {log : List Log.Event} {shown : List Diagnostic} {output : String}
    {code : UInt8} (h : run host environment o = .reported log shown output code) :
    ∃ s filter source, Obtains host environment o s filter source ∧
      report o s filter (eventsBefore s filter) source = .reported log shown output code := by
  have hc := course_run host environment o
  generalize hr : run host environment o = r at hc
  cases hc with
  | settings | crash | logging | source => cases hr.symm.trans h
  | report ho => exact ⟨_, _, _, ho, hr.symm.trans h⟩

/-- A run that has obtained all three reports. -/
theorem run_of_obtains {s : Settings} {filter : Log.Filter} {source : String}
    (h : Obtains host environment o s filter source) :
    run host environment o = report o s filter (eventsBefore s filter) source := by
  rw [run_eq, h.settings]
  dsimp only
  rw [h.filter]
  dsimp only
  rw [h.source]

/-! ### What is written -/

/-- What the program writes for a run, and its exit code. -/
def outcomeOf (host : Host Id) (environment : Option String) (o : Options) : Outcome :=
  Result.outcome (run host environment o)

theorem outcomeOf_of_run {r : Result} (h : run host environment o = r) :
    outcomeOf host environment o = r.outcome :=
  congrArg Result.outcome h

end Tokenizer.Command
