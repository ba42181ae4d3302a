import Tokenizer.Settings.Load
import Tokenizer.Proofs.Host.Leading

/-!
# The search for settings

The search for a settings file looks into a directory and goes on with its parent, and what it comes
to is the nearest settings file (`FileTree.Nearest`).  What is read there stands, whether these are
settings or an error (`World.Yields`).

* `find?_eq`: one step of the search, for any host.
* `find?_path`: the search from the path to a directory, by induction on the way to the directory.
* `yields_load`: what is loaded from a settings file is what the file yields.
-/

namespace Tokenizer

open Settings

/-! ### Settings files -/

/-- The settings file in a directory. -/
def Settings.fileIn (d : Location) : Location :=
  d ++ [fileName]

/-- Of the directory `d` and the directories above it, `l` is the nearest one that holds a settings
file. -/
structure FileTree.Nearest (t : FileTree) (d l : Location) : Prop where
  above : l <+: d
  isFile : t.IsFile (fileIn l)
  nearest : ∀ l', l' <+: d → t.IsFile (fileIn l') → l' <+: l

/-- What the settings file in the directory `l` yields: settings, or an error if it cannot be read,
is no text or describes no settings. -/
inductive World.Yields (w : World) (denied : Location → Option ReadFault) (l : Location) :
    Except SettingsError Settings → Prop
  | denied {fault : ReadFault} (h : denied (fileIn l) = some fault) :
      Yields w denied l (.error (.unreadable fault))
  | notText {content : ByteArray} (h : denied (fileIn l) = none)
      (he : w.tree.entry? (fileIn l) = some (.file content))
      (hu : String.fromUTF8? content = none) :
      Yields w denied l (.error (.unreadable .notText))
  | parse {content : ByteArray} {text : String} (h : denied (fileIn l) = none)
      (he : w.tree.entry? (fileIn l) = some (.file content))
      (hu : String.fromUTF8? content = some text) :
      Yields w denied l (parse text (some (Location.path l)))

variable {w : World} {denied : Location → Option ReadFault} {d l : Location} {n : String}

theorem isName_fileName : IsName fileName := by
  decide

/-! ### Reading a text -/

/-- The format that a draft asks for, if it is known. -/
def Settings.Draft.format? (d : Draft) : Option Format :=
  d.output.format.elim (some .text) Format.ofName?

theorem ofDraft_of_format {d : Draft} {format : Format} (h : d.format? = some format)
    (root : Option Path) : ofDraft d root =
      if d.log.level.toList.all Text.isWhiteSpace then .error .emptyLevel
      else .ok ⟨⟨format, d.output.showEof⟩, ⟨d.check.denyIllegal⟩, ⟨d.log.level⟩, root⟩ := by
  unfold Draft.format? at h
  unfold ofDraft
  cases hf : d.output.format with
  | none =>
      rw [hf] at h
      cases h
      split <;> rfl
  | some name =>
      rw [hf, Option.elim_some] at h
      simp only [h]
      split <;> rfl

theorem ofDraft_of_unknown {d : Draft} (h : d.format? = none) (root : Option Path) :
    ∃ name, d.output.format = some name ∧ ofDraft d root = .error (.unknownFormat name) := by
  unfold Draft.format? at h
  unfold ofDraft
  cases hf : d.output.format with
  | none => rw [hf] at h; cases h
  | some name =>
      rw [hf, Option.elim_some] at h
      exact ⟨name, rfl, by simp only [h]; rfl⟩

/-- What a text describes: settings for the directory that is given, or an error, but not that there
is no settings file. -/
theorem parse_cases (text : String) (root : Option Path) :
    (∃ s, Settings.parse text root = .ok s ∧ s.rootDirectory = root) ∨
      ∃ e, Settings.parse text root = .error e ∧ ∀ p, e ≠ .notFound p := by
  unfold Settings.parse ofEntries
  split
  · split
    · next d _ =>
      cases hf : d.format? with
      | none =>
          obtain ⟨name, -, h⟩ := ofDraft_of_unknown hf root
          exact .inr ⟨_, h, by simp⟩
      | some format =>
          rw [ofDraft_of_format hf]
          split
          · exact .inr ⟨_, rfl, by simp⟩
          · exact .inl ⟨_, rfl, rfl⟩
    · exact .inr ⟨_, rfl, by simp⟩
  · exact .inr ⟨_, rfl, by simp⟩

/-! ### One step of the search -/

/-- The search for a file, on answers that are there at once. -/
theorem Settings.find?_eq_find? (host : Host Id) (p : Path) : find? host p =
    (p.ancestors.map (·.join fileName)).find? fun c => (host.isFile c).run :=
  List.idRun_findM? ..

/-- The search looks for a file in the directory and goes on with its parent. -/
theorem Settings.find?_eq (host : Host Id) (p : Path) :
    find? host p =
      if (host.isFile (p.join fileName)).run = true then some (p.join fileName)
      else p.parent?.bind fun q => (find? host q).run := by
  simp only [find?_eq_find?]
  rw [Path.ancestors_eq, List.map_cons, List.find?_cons]
  cases (host.isFile (p.join fileName)).run <;> cases p.parent? <;> rfl

/-! ### The search in a world -/

namespace World

variable {p : Path}

/-- The search finds the file in the directory that a path leads to, if there is one. -/
theorem Leads.isFile_join (h : w.Leads p d) :
    w.isFile (p.join fileName) = true ↔ w.tree.IsFile (fileIn d) := by
  rw [isFile_join_iff isName_fileName]
  constructor
  · rintro ⟨d', h', hf⟩
    rwa [h.unique h']
  · exact fun hf => ⟨d, h, hf⟩

theorem Leads.locate_join (h : w.Leads p d) (hf : w.tree.IsFile (fileIn d)) :
    w.locate (p.join fileName) = .ok (fileIn d) := by
  obtain ⟨content, hf⟩ := hf
  rw [fileIn] at hf
  refine (locate_join_iff isName_fileName).mpr ⟨d, h, ?_⟩
  rw [FileTree.follow_name h.isDirectory isName_fileName, hf]
  rfl

theorem Leads.find?_of_isFile (h : w.Leads p d) (hf : w.tree.IsFile (fileIn d)) :
    find? w.host p = some (p.join fileName) := by
  have hj : (w.host.isFile (p.join fileName)).run = true := h.isFile_join.mpr hf
  rw [Settings.find?_eq, if_pos hj]

theorem Leads.find?_of_not_isFile (h : w.Leads p d) (hf : ¬ w.tree.IsFile (fileIn d)) :
    find? w.host p = p.parent?.bind fun q => (find? w.host q).run := by
  have hj : ¬ (w.host.isFile (p.join fileName)).run = true := mt h.isFile_join.mp hf
  rw [Settings.find?_eq, if_neg hj]

end World

/-- A search does not read what it finds. -/
theorem find?_denying (w : World) (denied : Location → Option ReadFault) (p : Path) :
    find? (w.denying denied) p = find? w.host p :=
  rfl

theorem FileTree.Nearest.self {t : FileTree} (h : t.IsFile (fileIn d)) : t.Nearest d d :=
  ⟨List.prefix_rfl, h, fun _ h _ => h⟩

theorem FileTree.Nearest.unique {t : FileTree} (h : t.Nearest d l) {l' : Location}
    (h' : t.Nearest d l') : l = l' :=
  (h'.nearest l h.above h.isFile).eq_of_length_le
    (h.nearest l' h'.above h'.isFile).length_le

/-- What is nearest to a directory is nearest to an entry of it that holds no settings file. -/
theorem FileTree.Nearest.concat {t : FileTree} (h : t.Nearest d l)
    (hn : ¬ t.IsFile (fileIn (d ++ [n]))) : t.Nearest (d ++ [n]) l := by
  refine ⟨h.above.trans (List.prefix_append d [n]), h.isFile, fun l' hl' hf => ?_⟩
  rcases List.prefix_concat_iff.mp hl' with rfl | hl'
  · exact absurd hf hn
  · exact h.nearest l' hl' hf

/-- **The search from a directory.**  It finds the nearest settings file, and nothing only if there is
none in the directory or above it. -/
theorem find?_path (denied : Location → Option ReadFault) (hr : w.tree.Reachable d)
    (hd : w.tree.isDirectory d = true) :
    (∃ l, w.tree.Nearest d l ∧
      find? (w.denying denied) (Location.path d) = some (Location.path (fileIn l))) ∨
    (∀ l, l <+: d → ¬ w.tree.IsFile (fileIn l)) ∧
      find? (w.denying denied) (Location.path d) = none := by
  simp only [find?_denying]
  induction hr with
  | root =>
      have hl := World.leads_path .root hd
      by_cases hf : w.tree.IsFile (fileIn [])
      · exact .inl ⟨[], .self hf, hl.find?_of_isFile hf⟩
      · refine .inr ⟨fun l hl => ?_, ?_⟩
        · rwa [List.prefix_nil.mp hl]
        · rw [hl.find?_of_not_isFile hf, Location.parent?_path_nil]
          rfl
  | @entry d n hr hd' hn ih =>
      have hr' := FileTree.Reachable.entry hr hd' hn
      have hl := World.leads_path hr' hd
      by_cases hf : w.tree.IsFile (fileIn (d ++ [n]))
      · refine .inl ⟨d ++ [n], .self hf, ?_⟩
        rw [hl.find?_of_isFile hf, Location.join_path hr'.names]
        rfl
      · rw [hl.find?_of_not_isFile hf, Location.parent?_path_concat hr.names hn, Option.bind_some]
        refine (ih hd').imp ?_ ?_
        · rintro ⟨l, hl, h⟩
          exact ⟨l, hl.concat hf, h⟩
        · rintro ⟨h, he⟩
          refine ⟨fun l hl => ?_, he⟩
          rcases List.prefix_concat_iff.mp hl with rfl | hl
          · exact hf
          · exact h l hl

/-! ### What the nearest file yields -/

/-- The settings in a file, on an answer that is there at once. -/
theorem Settings.load_eq (host : Host Id) (p : Path) :
    load host p =
      match (host.read p).run with
      | .ok text => Settings.parse text (some (p.parent?.getD ⟨"."⟩))
      | .error fault => .error (.unreadable fault) :=
  rfl

theorem locate_fileIn (hr : w.tree.Reachable l) (hd : w.tree.isDirectory l = true)
    (h : w.tree.IsFile (fileIn l)) : w.locate (Location.path (fileIn l)) = .ok (fileIn l) := by
  rw [← (World.leads_path hr hd).locate_join h, Location.join_path hr.names]
  rfl

/-- The settings in a file are what the file yields. -/
theorem yields_load (denied : Location → Option ReadFault) (hr : w.tree.Reachable l)
    (hd : w.tree.isDirectory l = true) (h : w.tree.IsFile (fileIn l)) :
    w.Yields denied l (Settings.load (w.denying denied) (Location.path (fileIn l))) := by
  obtain ⟨content, he⟩ := h
  have hp : (Location.path (fileIn l)).parent? = some (Location.path l) :=
    Location.parent?_path_concat hr.names isName_fileName
  rw [Settings.load_eq, hp]
  simp only [World.denying, locate_fileIn hr hd ⟨content, he⟩, FileTree.readAt, he]
  cases hf : denied (fileIn l) with
  | some fault => exact .denied hf
  | none =>
      unfold decodeUtf8
      cases hu : String.fromUTF8? content with
      | none => exact .notText hf he hu
      | some text => exact .parse hf he hu

/-- A settings file yields settings for its directory, or an error, but not that there is no file. -/
theorem World.Yields.cases {r : Except SettingsError Settings} (h : w.Yields denied l r) :
    (∃ s, r = .ok s ∧ s.rootDirectory = some (Location.path l)) ∨
      ∃ e, r = .error e ∧ ∀ p, e ≠ .notFound p := by
  cases h with
  | denied | notText => exact .inr ⟨_, rfl, by simp⟩
  | parse => exact parse_cases _ _

end Tokenizer
