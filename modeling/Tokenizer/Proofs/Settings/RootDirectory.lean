import Tokenizer.Proofs.Settings.Chain

/-!
# The root directory of settings

Settings that are loaded from a file have a root directory, the parent of the path that they are loaded
by.  It names the directory that holds the file (`NamesDirectory`), unless it is the empty path, which
names nothing: this is the parent of a bare file name, and a search comes to such a path at its end.

* `exists_root_of_load`: where the root directory of loaded settings leads.
* `rootDirectories`: when it names the directory of the file.
-/

namespace Tokenizer

open Settings

variable {w : World} {denied : Location → Option ReadFault} {p q c start : Path} {s : Settings}

/-- The root directory of the settings `s` is a path that is not empty and names the directory that
holds the file with the path `p`. -/
def World.NamesDirectory (w : World) (s : Settings) (p : Path) : Prop :=
  ∃ q d n, s.rootDirectory = some q ∧ q.text ≠ "" ∧ w.locate q = .ok d ∧
    w.tree.isDirectory d = true ∧ w.locate p = .ok (d ++ [n]) ∧ w.tree.IsFile (d ++ [n])

/-! ### Loading from a file -/

theorem Settings.load_eq_ok {host : Host Id} (h : Settings.load host p = .ok s) :
    ∃ text, host.read p = .ok text ∧ s.rootDirectory = some (p.parent?.getD ⟨"."⟩) := by
  rw [load_eq] at h
  split at h
  · next text ht =>
    refine ⟨text, ht, ?_⟩
    rcases parse_cases text (some (p.parent?.getD ⟨"."⟩)) with ⟨s', hs, hr⟩ | ⟨e, he, -⟩
    · cases hs.symm.trans h
      exact hr
    · cases he.symm.trans h
  · cases h

/-- Only from a file is there a text to read. -/
theorem World.exists_isFile_of_read {text : String} (h : (w.denying denied).read p = .ok text) :
    ∃ l, w.locate p = .ok l ∧ w.tree.IsFile l := by
  unfold World.denying at h
  dsimp only at h
  split at h
  · cases h
  · next l hl =>
    refine ⟨l, hl, ?_⟩
    split at h
    · cases h
    · unfold FileTree.readAt at h
      split at h
      · next content he => exact ⟨content, he⟩
      · cases h
      · cases h

/-- The root directory of loaded settings is the parent of the path that they are loaded by, and leads
to the directory that holds the file. -/
theorem exists_root_of_load (hw : w.Rooted) (h : Settings.load (w.denying denied) p = .ok s) :
    ∃ q d n, s.rootDirectory = some q ∧ p.components = q.components ++ [.name n] ∧ w.Leads q d ∧
      w.locate p = .ok (d ++ [n]) ∧ w.tree.IsFile (d ++ [n]) := by
  obtain ⟨text, ht, hr⟩ := load_eq_ok h
  obtain ⟨l, hl, hf⟩ := World.exists_isFile_of_read ht
  obtain ⟨q, d, n, hq, hc, hd, rfl⟩ := World.exists_parent?_of_isFile hw hl hf
  rw [hq] at hr
  exact ⟨q, d, n, hr, hc, hd, hl, hf⟩

/-- The root directory can be used unless the file was loaded by its bare name. -/
theorem namesDirectory_iff (hw : w.Rooted) (h : Settings.load (w.denying denied) p = .ok s) :
    w.NamesDirectory s p ↔ ∀ n, p.components ≠ [.name n] := by
  obtain ⟨q, d, n, hr, hc, hd, hl, hf⟩ := exists_root_of_load hw h
  have hq : q.text = "" ↔ ∃ n, p.components = [.name n] := by
    rw [← Path.components_eq_nil_iff, hc]
    constructor
    · intro hq
      exact ⟨n, by rw [hq]; rfl⟩
    · rintro ⟨n', hn⟩
      exact (List.append_inj' (hn.trans (List.nil_append _).symm) rfl).1
  rw [← not_exists, ← hq]
  constructor
  · rintro ⟨q', -, -, hr', hne, -⟩
    cases hr.symm.trans hr'
    exact hne
  · intro hne
    obtain ⟨hlq, hdq⟩ := (World.leads_iff_locate hne).mp hd
    exact ⟨q, d, n, hr, hne, hlq, hdq, hl, hf⟩

/-! ### Loading what a search finds -/

theorem exists_join_of_find? {host : Host Id} (h : find? host start = some c) :
    ∃ q : Path, c = q.join fileName := by
  rw [Settings.find?_eq_find?] at h
  obtain ⟨q, -, hq⟩ := List.mem_map.mp (List.mem_of_find?_eq_some h)
  exact ⟨q, hq.symm⟩

/-- What a search finds is a bare name only if it is the name of settings files alone. -/
theorem ne_fileName_iff {host : Host Id} (h : find? host start = some c) :
    c ≠ ⟨fileName⟩ ↔ ∀ n, c.components ≠ [.name n] := by
  obtain ⟨q, rfl⟩ := exists_join_of_find? h
  have hc := q.components_join isName_fileName
  constructor
  · intro hne n hn
    have hq : q.components = [] :=
      (List.append_inj' ((hc.symm.trans hn).trans (List.nil_append _).symm) rfl).1
    refine hne ?_
    rw [Path.join, if_pos (.inl (Path.components_eq_nil_iff.mp hq)),
      Path.components_eq_nil_iff.mp hq]
    rfl
  · intro hn he
    exact hn fileName (by rw [he]; exact Path.componentsOf_name isName_fileName)

theorem exists_find?_of_findAndLoad {host : Host Id} (h : findAndLoad host start = .ok s) :
    ∃ c, find? host start = some c ∧ Settings.load host c = .ok s := by
  cases hc : find? host start with
  | none =>
      rw [findAndLoad_of_none hc] at h
      cases h
  | some c =>
      rw [findAndLoad_of_some hc] at h
      exact ⟨c, rfl, h⟩

/-- The root directories of all settings that are loaded in a world. -/
structure RootDirectories (w : World) (denied : Location → Option ReadFault) : Prop where
  /-- What is loaded by a path has a root directory that can be used, unless the path is a bare name. -/
  load : ∀ p s, Settings.load (w.denying denied) p = .ok s →
    (w.NamesDirectory s p ↔ ∀ n, p.components ≠ [.name n])
  /-- Then the root directory is the empty path, and the file is in the working directory. -/
  bare : ∀ p s n, Settings.load (w.denying denied) p = .ok s → p.components = [.name n] →
    s.rootDirectory = some ⟨""⟩ ∧ w.locate p = .ok (w.here ++ [n])
  /-- What is loaded by a search is loaded by a bare name only at the end of a relative path, where the
  search comes to the working directory by its empty path. -/
  search : ∀ start s, findAndLoad (w.denying denied) start = .ok s →
    ∃ c, find? (w.denying denied) start = some c ∧ Settings.load (w.denying denied) c = .ok s ∧
      (w.NamesDirectory s c ↔ c ≠ ⟨fileName⟩)

/-- **The root directory of settings.**  It names the directory of the file that they are loaded from,
by whatever path the file is named, but for the bare name of a file in the working directory. -/
theorem rootDirectories (hw : w.Rooted) (denied : Location → Option ReadFault) :
    RootDirectories w denied := by
  refine ⟨fun p s => namesDirectory_iff hw, fun p s n h hn => ?_, fun start s h => ?_⟩
  · obtain ⟨q, d, n', hr, hc, hd, hl, -⟩ := exists_root_of_load hw h
    obtain ⟨hq, hn'⟩ := List.append_inj' ((hc.symm.trans hn).trans (List.nil_append _).symm) rfl
    cases hn'
    have hq := Path.components_eq_nil_iff.mp hq
    obtain rfl := hd.eq_here hq
    exact ⟨by rw [hr, ← hq], hl⟩
  · obtain ⟨c, hc, hl⟩ := exists_find?_of_findAndLoad h
    exact ⟨c, hc, hl, (namesDirectory_iff hw hl).trans (ne_fileName_iff hc).symm⟩

/-- A world with a settings file in the working directory. -/
def settledWorld : World where
  tree := ⟨[
    (["w"], .directory),
    (["w", "Golex.toml"], .file "".toUTF8)]⟩
  here := ["w"]
  input := "".toUTF8

theorem rooted_settledWorld : settledWorld.Rooted :=
  ⟨.entry (l := []) .root rfl (by decide), rfl⟩

theorem rootDirectories_settledWorld : settledWorld.Rooted ∧
    Id.run (Settings.load (settledWorld.denying fun _ => none) ⟨"./Golex.toml"⟩) =
      .ok { rootDirectory := some ⟨"."⟩ } ∧
    RootDirectories settledWorld fun _ => none :=
  ⟨rooted_settledWorld, by decide +kernel, rootDirectories rooted_settledWorld _⟩

/-- The settings in `Golex.toml` have the empty path for their root directory. -/
theorem not_namesDirectory_settledWorld : settledWorld.Rooted ∧
    ∃ s, Id.run (Settings.load (settledWorld.denying fun _ => none) ⟨"Golex.toml"⟩) = .ok s ∧
      ¬ settledWorld.NamesDirectory s ⟨"Golex.toml"⟩ := by
  refine ⟨rooted_settledWorld, { rootDirectory := some ⟨""⟩ }, by decide +kernel, ?_⟩
  rintro ⟨q, -, -, hr, hne, -⟩
  cases hr
  exact hne rfl

end Tokenizer
