import Tokenizer.Proofs.Command.Report
import Tokenizer.Proofs.Command.Source
import Tokenizer.Proofs.Host.Questions
import Tokenizer.Proofs.Path.Dash

/-!
# Runs on the standard input

A run takes its source from the standard input if it is given no path or the path `-`, and from the
file that the path names if it is given another one.  Other paths with the parts of `-` are taken for
it, too, although nothing can be read by them.

* `exists_asks_run`: what a run asks the host, once it has its settings and its log filter.
* `run_of_isDashed`, `refuses_of_isDashed`: a run on a path with the parts of `-` is a run on no path,
  although there is nothing to read by most of them.
* `takesInput`: for which paths a run takes the standard input.
-/

namespace Tokenizer.Command

variable {host : Host Id} {environment : Option String} {o : Options} {s : Settings}
  {filter : Log.Filter} {p : Path} {q : Question} {answer : Except Failure String}

/-! ### What a run asks -/

/-- What a run asks the host, in this order. -/
def questions (host : Host Id) (environment : Option String) (o : Options) : List Question :=
  ((run host.noting environment o).run []).2

/-- The question that a source is the answer to. -/
def sourceQuestion : Option Path → Question
  | some p => .read p
  | none => .standardInput

theorem asks_readSource (host : Host Id) (source? : Option Path) :
    Asks [sourceQuestion source?] (readSource host.noting source?) (readSource host source?) := by
  cases source? with
  | none => exact (Asks.note _ _).bind (.pure _)
  | some p => exact (Asks.note _ _).bind (.pure _)

/-- **What is asked.**  A run that has its settings and its log filter asks for its source, and nothing
after that.  Until then it has not asked for the standard input. -/
theorem exists_asks_run (hs : findSettings host o = .ok s)
    (hf : Log.Filter.parse (filterText o environment s) = .ok filter) :
    ∃ earlier, .standardInput ∉ earlier ∧ Asks (earlier ++ [sourceQuestion o.source?])
      (run host.noting environment o) (run host environment o) := by
  obtain ⟨earlier, hne, ha⟩ := asksOnly_findSettings host o
  refine ⟨earlier, fun h => hne _ h rfl, ha.bind ?_⟩
  rw [run_eq, Id.run, hs, ← List.append_nil [sourceQuestion o.source?]]
  dsimp only
  rw [hf]
  refine (asks_readSource host o.source?).bind ?_
  dsimp only [Id.run]
  cases readSource host o.source? with
  | error f => exact .pure _
  | ok source => exact .pure _

/-! ### Where a run draws its source from -/

/-- How a run ends that has its settings and its log filter, by what it gets for a source. -/
def conclude (o : Options) (s : Settings) (filter : Log.Filter) : Except Failure String → Result
  | .ok source => report o s filter (eventsBefore s filter) source
  | .error f => .failed (eventsBefore s filter) f

/-- The last that a run asks is the question `q`, and it ends by the answer to it.  Before that, it
does not ask for the standard input. -/
structure Draws (host : Host Id) (environment : Option String) (o : Options) (s : Settings)
    (filter : Log.Filter) (q : Question) (answer : Except Failure String) : Prop where
  asked : ∃ earlier, .standardInput ∉ earlier ∧ questions host environment o = earlier ++ [q]
  result : run host environment o = conclude o s filter answer

/-- A run draws its source from the standard input. -/
def DrawsInput (host : Host Id) (environment : Option String) (o : Options) (s : Settings)
    (filter : Log.Filter) : Prop :=
  Draws host environment o s filter .standardInput
    (host.standardInput.mapError (.source "<stdin>"))

/-- A run draws its source from the file that a path names, by which it also names the file if it
cannot read it. -/
def DrawsFile (host : Host Id) (environment : Option String) (o : Options) (s : Settings)
    (filter : Log.Filter) (p : Path) : Prop :=
  Draws host environment o s filter (.read p) ((host.read p).mapError (.source p.text))

/-- A run takes the standard input if it is given no path or one that is `named` for it.  The file of
any other path is read, and the standard input is left alone. -/
structure TakesInputFor (named : Path → Prop) (host : Host Id) (environment : Option String)
    (o : Options) (s : Settings) (filter : Log.Filter) : Prop where
  input_iff : DrawsInput host environment o s filter ↔ ∀ p, o.input = some p → named p
  file : ∀ p, o.input = some p → ¬ named p → DrawsFile host environment o s filter p ∧
    .standardInput ∉ questions host environment o

/-- A run asks for one source only. -/
theorem Draws.standardInput_mem_iff (h : Draws host environment o s filter q answer) :
    .standardInput ∈ questions host environment o ↔ q = .standardInput := by
  obtain ⟨earlier, hne, hq⟩ := h.asked
  rw [hq, List.mem_append, List.mem_singleton, or_iff_right hne, eq_comm]

/-- A run draws its source from where its options say. -/
theorem draws_source? (hs : findSettings host o = .ok s)
    (hf : Log.Filter.parse (filterText o environment s) = .ok filter) :
    Draws host environment o s filter (sourceQuestion o.source?) (readSource host o.source?) := by
  obtain ⟨earlier, hne, ha⟩ := exists_asks_run hs hf
  refine ⟨⟨earlier, hne, congrArg Prod.snd (ha [])⟩, ?_⟩
  rw [run_eq, hs]
  dsimp only
  rw [hf]
  dsimp only
  cases readSource host o.source? with
  | error f => rfl
  | ok source => rfl

/-! ### Paths that are taken for a dash -/

theorem source?_eq_none_iff : o.source? = none ↔ ∀ p, o.input = some p → p.IsDashed := by
  rw [Options.source?, Option.filter_eq_none_iff]
  simp only [Bool.not_eq_true', Bool.not_eq_false, Path.isDash_iff]

theorem source?_eq_some_iff : o.source? = some p ↔ o.input = some p ∧ ¬ p.IsDashed := by
  rw [Options.source?, Option.filter_eq_some_iff, ← Path.isDash_iff, Bool.not_eq_true,
    Bool.not_eq_true']

/-- A run on a path with the parts of `-` is a run on no path. -/
theorem run_of_isDashed {m : Type → Type} [Monad m] (host : Host m) (environment : Option String)
    (h : o.input = some p) (hp : p.IsDashed) :
    run host environment o = run host environment { o with input := none } := by
  have hsource : o.source? = none := source?_eq_none_iff.mpr fun q hq => by
    cases h.symm.trans hq
    exact hp
  unfold run findSettings
  rw [hsource]
  rfl

/-- But for `-` itself, nothing can be read by such a path. -/
theorem refuses_of_isDashed (w : World) (denied : Location → Option ReadFault) (hp : p.IsDashed)
    (hne : p.text ≠ "-") : ∃ fault, w.Refuses denied (some p) p.text fault := by
  rcases supplies_or_refuses w denied (some p) with ⟨text, ht⟩ | ⟨name, fault, hr⟩
  · cases ht with
    | file hl hd he =>
        have hdir := World.isDirectory_of_isDashed hp hne hl
        rw [FileTree.isDirectory, he] at hdir
        cases hdir
  · obtain rfl : name = p.text := by cases hr <;> rfl
    exact ⟨fault, hr⟩

/-! ### The standard input -/

theorem drawsInput_iff (hs : findSettings host o = .ok s)
    (hf : Log.Filter.parse (filterText o environment s) = .ok filter) :
    DrawsInput host environment o s filter ↔ ∀ p, o.input = some p → p.IsDashed := by
  have hd := draws_source? hs hf
  rw [← source?_eq_none_iff]
  constructor
  · intro h
    have hq := hd.standardInput_mem_iff.mp (h.standardInput_mem_iff.mpr rfl)
    cases hsource : o.source? with
    | none => rfl
    | some p =>
        rw [hsource] at hq
        cases hq
  · intro h
    rwa [h] at hd

/-- The paths that are taken for the standard input are those with the parts of `-`, and no others. -/
theorem takesInputFor_iff {named : Path → Prop} (hs : findSettings host o = .ok s)
    (hf : Log.Filter.parse (filterText o environment s) = .ok filter) :
    TakesInputFor named host environment o s filter ↔
      ∀ p, o.input = some p → (named p ↔ p.IsDashed) := by
  have hi := drawsInput_iff hs hf
  constructor
  · intro h p hp
    have hall : (∀ q, o.input = some q → named q) ↔ ∀ q, o.input = some q → q.IsDashed :=
      h.input_iff.symm.trans hi
    simpa [hp] using hall
  · intro h
    refine ⟨hi.trans (forall₂_congr fun p hp => (h p hp).symm), fun p hp hn => ?_⟩
    have hd := draws_source? hs hf
    rw [source?_eq_some_iff.mpr ⟨hp, mt (h p hp).mpr hn⟩] at hd
    exact ⟨hd, fun hm => nomatch hd.standardInput_mem_iff.mp hm⟩

/-- **The standard input.**  It is taken for no path and for the paths with the parts of `-`, and the
file of any other path is read.  So it is taken for `-` alone unless the path is another one with the
parts of `-`. -/
theorem takesInput (hs : findSettings host o = .ok s)
    (hf : Log.Filter.parse (filterText o environment s) = .ok filter) :
    TakesInputFor Path.IsDashed host environment o s filter ∧
    (TakesInputFor (· = ⟨"-"⟩) host environment o s filter ↔
      ∀ p, o.input = some p → p.IsDashed → p = ⟨"-"⟩) := by
  refine ⟨(takesInputFor_iff hs hf).mpr fun _ _ => .rfl, (takesInputFor_iff hs hf).trans ?_⟩
  refine forall₂_congr fun p _ => ⟨Iff.mpr, fun h => ⟨?_, h⟩⟩
  rintro rfl
  exact Path.isDash_iff.mp rfl

/-- The log filter that the default settings ask for. -/
def defaultFilter : Log.Filter :=
  ⟨[{ verbosity := 2 }]⟩

theorem parse_filterText_default (input : Option Path) :
    Log.Filter.parse (filterText { input := input } none {}) = .ok defaultFilter := by
  change Log.Filter.parse "warn" = _
  decide +kernel

/-- A world with a file of the name `-` and another text on the standard input. -/
def dashWorld : World where
  tree := ⟨[(["-"], .file "y".toUTF8)]⟩
  here := []
  input := "x".toUTF8

/-- With a single dot in front of the dash, the file is read. -/
theorem takesInput_dashWorld :
    Id.run (findSettings dashWorld.host { input := some ⟨"./-"⟩ }) = .ok {} ∧
    Log.Filter.parse (filterText { input := some ⟨"./-"⟩ } none {}) = .ok defaultFilter ∧
    TakesInputFor Path.IsDashed dashWorld.host none { input := some ⟨"./-"⟩ } {} defaultFilter ∧
    (TakesInputFor (· = ⟨"-"⟩) dashWorld.host none { input := some ⟨"./-"⟩ } {} defaultFilter ↔
      ∀ p : Path, some ⟨"./-"⟩ = some p → p.IsDashed → p = ⟨"-"⟩) := by
  have hs : Id.run (findSettings dashWorld.host { input := some ⟨"./-"⟩ }) = .ok {} := by
    decide +kernel
  exact ⟨hs, parse_filterText_default _, takesInput hs (parse_filterText_default _)⟩

/-- With a slash behind the dash, the standard input is read in place of a file that is not there. -/
theorem not_takesInputFor_slash :
    Id.run (findSettings (inputWorld "x").host { input := some ⟨"-/"⟩ }) = .ok {} ∧
    Log.Filter.parse (filterText { input := some ⟨"-/"⟩ } none {}) = .ok defaultFilter ∧
    ¬ TakesInputFor (· = ⟨"-"⟩) (inputWorld "x").host none { input := some ⟨"-/"⟩ } {}
      defaultFilter := by
  have hs : Id.run (findSettings (inputWorld "x").host { input := some ⟨"-/"⟩ }) = .ok {} := by
    decide +kernel
  have hf := parse_filterText_default (some ⟨"-/"⟩)
  have hd : Path.IsDashed ⟨"-/"⟩ := Path.isDash_iff.mp (by decide +kernel)
  refine ⟨hs, hf, fun h => ?_⟩
  exact absurd (((takesInputFor_iff hs hf).mp h ⟨"-/"⟩ rfl).mpr hd) (by decide)

end Tokenizer.Command
