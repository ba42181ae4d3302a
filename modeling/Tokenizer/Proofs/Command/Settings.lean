import Tokenizer.Proofs.Command.Stages
import Tokenizer.Proofs.Settings.Search

/-!
# The settings of a run

A run takes the settings file that its options name, or else the nearest one from the directory that
really holds its source (`World.Holds`), however the source is spelled.

* `Holds.reachable`: the directory that holds the source is in the tree, with directories above it.
* `settledBy`: which file decides about the settings, when it is none, and that a broken file is not
  passed over.
-/

namespace Tokenizer

open Settings

/-- The directory `d` holds the source of a run: what a path names, or the standard input, which the
working directory is taken to hold. -/
inductive World.Holds (w : World) : Option Path → Location → Prop
  | input : Holds w none w.here
  | entry {p : Path} {d : Location} {n : String} (h : w.locate p = .ok (d ++ [n])) :
      Holds w (some p) d

variable {w : World} {denied : Location → Option ReadFault} {source : Option Path} {d l : Location}
  {o : Options}

theorem World.Holds.reachable (hw : w.Rooted) (h : w.Holds source d) :
    w.tree.Reachable d ∧ w.tree.isDirectory d = true := by
  cases h with
  | input => exact ⟨hw.reachable, hw.isDirectory⟩
  | entry h =>
      obtain ⟨hr, hd, -⟩ := FileTree.reachable_concat_iff.mp
        (FileTree.reachable_of_locate hw.reachable h)
      exact ⟨hr, hd⟩

namespace Command

/-! ### Where the search starts -/

theorem searchStart?_of_holds (hw : w.Rooted) (h : w.Holds source d) :
    searchStart? (w.denying denied) source = some (Location.path d) := by
  cases h with
  | input => rfl
  | @entry p d n h =>
      obtain ⟨hr, -, hn⟩ := FileTree.reachable_concat_iff.mp
        (FileTree.reachable_of_locate hw.reachable h)
      have hc : w.canonical? p = some (Location.path (d ++ [n])) := by
        rw [World.canonical?, h]
        rfl
      change (w.canonical? p).bind Path.parent? = _
      rw [hc, Option.bind_some, Location.parent?_path_concat hr.names hn]

theorem searchStart?_of_not_holds (h : ∀ d, ¬ w.Holds source d) :
    searchStart? (w.denying denied) source = none := by
  cases source with
  | none => exact absurd .input (h w.here)
  | some p =>
      change (w.canonical? p).bind Path.parent? = none
      rw [World.canonical?]
      cases hl : w.locate p with
      | error e => rfl
      | ok l =>
          rcases List.eq_nil_or_concat' l with rfl | ⟨d, n, rfl⟩
          · exact Location.parent?_path_nil
          · exact absurd (.entry hl) (h d)

/-! ### What the settings are -/

theorem findSettings_of_config {host : Host Id} {p : Path} (h : o.config = some p) :
    findSettings host o = Settings.load host p := by
  unfold findSettings
  rw [h]

/-- The search for the settings of a run, on answers that are there at once. -/
theorem findSettings_of_no_config (host : Host Id) (h : o.config = none) : findSettings host o =
    match (searchStart? host o.source?).run with
    | none => .ok {}
    | some start =>
      match (match (find? host start).run with
        | some p => (Settings.load host p).run
        | none => .error (.notFound start)) with
      | .error (.notFound _) => .ok {}
      | r => r := by
  unfold findSettings
  rw [h]
  rfl

/-- How a run comes to its settings, in a world in which some files cannot be read. -/
structure SettledBy (w : World) (denied : Location → Option ReadFault) (o : Options) : Prop where
  /-- If the options name a settings file, no other file has a say, whatever world it is. -/
  named : ∀ p, o.config = some p → ∀ host : Host Id, host.read p = (w.denying denied).read p →
    findSettings host o = Settings.load (w.denying denied) p
  /-- Else the nearest file decides, from the directory that holds the source. -/
  nearest : o.config = none → ∀ d l, w.Holds o.source? d → w.tree.Nearest d l →
    w.Yields denied l (findSettings (w.denying denied) o)
  /-- The defaults hold exactly if no directory holds the source, or no settings file is in it or
  above it. -/
  default : o.config = none → (findSettings (w.denying denied) o = .ok {} ↔
    ∀ d, w.Holds o.source? d → ∀ l, l <+: d → ¬ w.tree.IsFile (fileIn l))
  /-- If there is an error, it is what the run fails with. -/
  failed : ∀ e, findSettings (w.denying denied) o = .error e → ∀ environment,
    run (w.denying denied) environment o = .failed [] (.settings e)

/-- The search ends with the nearest file, or with the defaults if there is none. -/
theorem findSettings_of_holds (denied : Location → Option ReadFault) (hw : w.Rooted)
    (hc : o.config = none) (h : w.Holds o.source? d) :
    (∃ l, w.tree.Nearest d l ∧ w.Yields denied l (findSettings (w.denying denied) o)) ∨
    (∀ l, l <+: d → ¬ w.tree.IsFile (fileIn l)) ∧ findSettings (w.denying denied) o = .ok {} := by
  obtain ⟨hr, hd⟩ := h.reachable hw
  rw [findSettings_of_no_config _ hc, searchStart?_of_holds hw h]
  refine (find?_path denied hr hd).imp ?_ ?_
  · rintro ⟨l, hl, hf⟩
    obtain ⟨hr', hd'⟩ := hr.of_prefix hd hl.above
    have hy := yields_load denied hr' hd' hl.isFile
    refine ⟨l, hl, ?_⟩
    dsimp only [Id.run]
    rw [hf]
    dsimp only
    -- what the file yields is never taken for a search without result
    rcases hy.cases with ⟨s, e, -⟩ | ⟨e, he, hne⟩
    · rwa [e] at hy ⊢
    · rw [he] at hy ⊢
      split
      · next e' => cases e'; exact absurd rfl (hne _)
      · exact hy
  · rintro ⟨hn, hf⟩
    refine ⟨hn, ?_⟩
    dsimp only [Id.run]
    rw [hf]

/-- A world with a broken settings file above the source, another one at the root, and a directory of
that name beside the source. -/
def brokenWorld : World where
  tree := ⟨[
    (["Golex.toml"], .file "".toUTF8),
    (["a"], .directory),
    (["a", "Golex.toml"], .file "[".toUTF8),
    (["a", "b"], .directory),
    (["a", "b", "Golex.toml"], .directory),
    (["a", "b", "x.go"], .file "x".toUTF8)]⟩
  here := ["a", "b"]
  input := "".toUTF8

theorem rooted_brokenWorld : brokenWorld.Rooted :=
  ⟨.entry (l := ["a"]) (.entry (l := []) .root rfl (by decide)) rfl (by decide), rfl⟩

example : Id.run (findSettings brokenWorld.host { input := some ⟨"../b/./x.go"⟩ }) =
    .error .malformed := by
  decide +kernel

end Command

end Tokenizer
