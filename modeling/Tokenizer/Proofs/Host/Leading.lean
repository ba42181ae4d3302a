import Tokenizer.Proofs.Host.Following
import Tokenizer.Proofs.Path.Steps
import Tokenizer.Proofs.Change

/-!
# Where paths lead

Where a path leads is up to its steps alone, as long as it leads to a directory.  So a path to a
directory and its parent lead to places that differ by one component (`Moves`): the parent of a path
that ends in two dots leads to an entry of the directory, not to a place above.

* `foldlM_follow_filter`, `foldlM_follow_of_filter`: following the segments, and the steps alone.
* `leads_iff_locate`, `leads_path`: paths that lead to a directory.
* `locate_join_iff`: a name behind a path leads to an entry of the directory that the path leads to.
* `exists_leads_parent?`: where the parent of a path leads.
* `exists_parent?_of_isFile`: the parent of a path to a file leads to the directory that holds it.
-/

namespace Tokenizer

namespace FileTree

variable {t : FileTree} {l l' m : Location} {s : String} {ss rs : List String}

/-! ### Segments -/

theorem isDirectory_of_follow (h : t.follow l s = .ok l') : t.isDirectory l = true := by
  unfold follow at h
  split at h
  · cases h
  · next hd => simpa using hd

/-- A segment that is no step stays in a directory. -/
theorem follow_of_not_isStep (hd : t.isDirectory l = true) (hs : Path.isStep s = false) :
    t.follow l s = .ok l := by
  have hs : s = "" ∨ s = "." := by
    by_contra h
    rw [Path.isStep_iff.mpr (not_or.mp h)] at hs
    cases hs
  rw [follow, if_neg (by simp [hd]), if_pos hs]

theorem follow_up (hd : t.isDirectory l = true) : t.follow l ".." = .ok l.dropLast := by
  rw [follow, if_neg (by simp [hd]), if_neg (by decide), if_pos rfl]

/-- A name leads to an entry. -/
theorem eq_of_follow_name (h : t.follow l s = .ok l') (hs : Path.isStep s = true) (hu : s ≠ "..") :
    l' = l ++ [s] := by
  have hd := isDirectory_of_follow h
  rw [follow, if_neg (by simp [hd]), if_neg (not_or.mpr (Path.isStep_iff.mp hs)), if_neg hu] at h
  split at h
  · cases h
  · split at h
    · cases h
      rfl
    · cases h

/-! ### Segment after segment -/

theorem foldlM_follow_cons : (s :: ss).foldlM t.follow l = .ok l' ↔
    ∃ m, t.follow l s = .ok m ∧ ss.foldlM t.follow m = .ok l' := by
  rw [List.foldlM_cons, bind_eq_ok_iff]

theorem foldlM_follow_append : (ss ++ rs).foldlM t.follow l = .ok l' ↔
    ∃ m, ss.foldlM t.follow l = .ok m ∧ rs.foldlM t.follow m = .ok l' := by
  rw [List.foldlM_append, bind_eq_ok_iff]

theorem foldlM_follow_singleton : [s].foldlM t.follow l = t.follow l s := by
  rw [List.foldlM_cons]
  cases t.follow l s <;> rfl

/-- Only from a directory is there a way to a directory. -/
theorem isDirectory_of_foldlM_follow (h : ss.foldlM t.follow l = .ok l')
    (hd : t.isDirectory l' = true) : t.isDirectory l = true := by
  cases ss with
  | nil =>
      cases h
      exact hd
  | cons s ss =>
      obtain ⟨m, hm, -⟩ := foldlM_follow_cons.mp h
      exact isDirectory_of_follow hm

/-- What leads nowhere may be left out. -/
theorem foldlM_follow_filter (h : ss.foldlM t.follow l = .ok l') :
    (ss.filter Path.isStep).foldlM t.follow l = .ok l' := by
  induction ss generalizing l with
  | nil => exact h
  | cons s ss ih =>
      obtain ⟨m, hm, h⟩ := foldlM_follow_cons.mp h
      cases hs : Path.isStep s with
      | true =>
          rw [List.filter_cons_of_pos hs]
          exact foldlM_follow_cons.mpr ⟨m, hm, ih h⟩
      | false =>
          rw [follow_of_not_isStep (isDirectory_of_follow hm) hs] at hm
          cases hm
          rw [List.filter_cons_of_neg (ne_true_of_eq_false hs)]
          exact ih h

/-- What leads nowhere may be put back on the way to a directory. -/
theorem foldlM_follow_of_filter (hd : t.isDirectory l' = true)
    (h : (ss.filter Path.isStep).foldlM t.follow l = .ok l') : ss.foldlM t.follow l = .ok l' := by
  induction ss generalizing l with
  | nil => exact h
  | cons s ss ih =>
      cases hs : Path.isStep s with
      | true =>
          rw [List.filter_cons_of_pos hs] at h
          obtain ⟨m, hm, h⟩ := foldlM_follow_cons.mp h
          exact foldlM_follow_cons.mpr ⟨m, hm, ih h⟩
      | false =>
          rw [List.filter_cons_of_neg (ne_true_of_eq_false hs)] at h
          have hl := isDirectory_of_foldlM_follow h hd
          exact foldlM_follow_cons.mpr ⟨l, follow_of_not_isStep hl hs, ih h⟩

end FileTree

/-! ### Paths to directories -/

/-- How one component leads from the place `m` to another. -/
inductive Component.Moves : Component → Location → Location → Prop
  | here {m : Location} : Moves .here m m
  | up {m : Location} : Moves .up m m.dropLast
  | name {m : Location} (n : String) : Moves (.name n) m (m ++ [n])

namespace World

/-- Where a path starts. -/
def start (w : World) (p : Path) : Location :=
  if p.isAbsolute then [] else w.here

/-- The path `p` leads to the directory `d`; the empty path leads to the working directory. -/
structure Leads (w : World) (p : Path) (d : Location) : Prop where
  no_nul : '\x00' ∉ p.text.toList
  steps : p.steps.foldlM w.tree.follow (w.start p) = .ok d
  isDirectory : w.tree.isDirectory d = true

variable {w : World} {p q : Path} {d l m : Location} {n : String}

theorem locate_eq_ok_iff : w.locate p = .ok l ↔ '\x00' ∉ p.text.toList ∧ p.text ≠ "" ∧
    p.segments.foldlM w.tree.follow (w.start p) = .ok l := by
  unfold locate FileTree.locate
  split
  · next h => exact iff_of_false nofun fun h' => h'.1 h
  · next hz =>
    split
    · next h => exact iff_of_false nofun fun h' => h'.2.1 h
    · next he => exact ⟨fun h => ⟨hz, he, h⟩, fun h => h.2.2⟩

/-- A path that is not empty leads to the directory that it names. -/
theorem leads_iff_locate (hp : p.text ≠ "") :
    w.Leads p d ↔ w.locate p = .ok d ∧ w.tree.isDirectory d = true := by
  rw [locate_eq_ok_iff]
  constructor
  · intro h
    exact ⟨⟨h.no_nul, hp, FileTree.foldlM_follow_of_filter h.isDirectory h.steps⟩, h.isDirectory⟩
  · rintro ⟨⟨hz, -, h⟩, hd⟩
    exact ⟨hz, FileTree.foldlM_follow_filter h, hd⟩

theorem foldlM_steps_empty (hp : p.text = "") :
    p.steps.foldlM w.tree.follow (w.start p) = .ok w.here := by
  rw [Path.steps_eq, Path.components_eq_nil_iff.mpr hp, start, Path.isAbsolute, hp]
  rfl

theorem foldlM_steps_root (hp : p.components = [.root]) :
    p.steps.foldlM w.tree.follow (w.start p) = .ok [] := by
  have ha : p.isAbsolute = true := Path.isAbsolute_iff.mpr (by rw [hp]; rfl)
  rw [Path.steps_eq, hp, start, if_pos ha]
  rfl

theorem Leads.eq_here (h : w.Leads p d) (hp : p.text = "") : d = w.here :=
  Except.ok.inj (h.steps.symm.trans (foldlM_steps_empty hp))

theorem Leads.eq_nil (h : w.Leads p d) (hp : p.components = [.root]) : d = [] :=
  Except.ok.inj (h.steps.symm.trans (foldlM_steps_root hp))

theorem Leads.unique (h : w.Leads p d) (h' : w.Leads p l) : d = l :=
  Except.ok.inj (h.steps.symm.trans h'.steps)

theorem Leads.reachable (hw : w.Rooted) (h : w.Leads p d) : w.tree.Reachable d := by
  by_cases hp : p.text = ""
  · rw [h.eq_here hp]
    exact hw.reachable
  · exact FileTree.reachable_of_locate hw.reachable ((leads_iff_locate hp).mp h).1

/-- The path to a directory leads there. -/
theorem leads_path (hr : w.tree.Reachable d) (hd : w.tree.isDirectory d = true) :
    w.Leads (Location.path d) d := by
  cases hr with
  | root => exact ⟨by decide, rfl, hd⟩
  | @entry l n hr hl hn =>
      refine (leads_iff_locate fun he => ?_).mpr ⟨?_, hd⟩
      · have hc := Location.toList_path_concat l n
        rw [he] at hc
        simp at hc
      · rw [locate, FileTree.locate_path_concat w.here hr hl hn,
          if_pos (FileTree.isSome_entry?_of_isDirectory hd)]

/-! ### A name behind a path -/

theorem start_join (q : Path) (hn : IsName n) : w.start (q.join n) = w.start q := by
  have ha : (q.join n).isAbsolute = q.isAbsolute := by
    rw [Bool.eq_iff_iff, Path.isAbsolute_iff, Path.isAbsolute_iff, Path.components_join q hn]
    cases q.components with
    | nil => exact iff_of_false nofun nofun
    | cons => rfl
  rw [start, start, ha]

theorem nul_mem_join (q : Path) (hn : IsName n) :
    '\x00' ∈ (q.join n).text.toList ↔ '\x00' ∈ q.text.toList := by
  rcases q.join_cases n with ⟨hq, h⟩ | ⟨cs, ⟨hq, -⟩ | hq, h⟩
  · rw [h, hq]
    exact iff_of_false hn.no_nul nofun
  · rw [h, hq]
    simp [hn.no_nul]
  · rw [h, hq]
    simp [hn.no_nul]

/-- A name behind a path leads from the directory that the path leads to. -/
theorem locate_join_iff (hn : IsName n) : w.locate (q.join n) = .ok l ↔
    ∃ d, w.Leads q d ∧ w.tree.follow d n = .ok l := by
  obtain ⟨ss, hs, hq⟩ := q.segments_join hn
  have hne : (q.join n).text ≠ "" := fun h => by
    have hc := Path.components_eq_nil_iff.mpr h
    rw [Path.components_join q hn] at hc
    simp at hc
  rw [locate_eq_ok_iff, nul_mem_join q hn, start_join q hn, hs, FileTree.foldlM_follow_append]
  simp only [FileTree.foldlM_follow_singleton]
  constructor
  · rintro ⟨hz, -, d, hd, hl⟩
    refine ⟨d, ⟨hz, ?_, FileTree.isDirectory_of_follow hl⟩, hl⟩
    rw [← hq]
    exact FileTree.foldlM_follow_filter hd
  · rintro ⟨d, hd, hl⟩
    refine ⟨hd.no_nul, hne, d, FileTree.foldlM_follow_of_filter hd.isDirectory ?_, hl⟩
    rw [hq]
    exact hd.steps

theorem isFile_iff : w.isFile p = true ↔ ∃ l, w.locate p = .ok l ∧ w.tree.IsFile l := by
  unfold isFile FileTree.IsFile
  cases w.locate p with
  | error => exact iff_of_false nofun nofun
  | ok l =>
      simp only [Except.ok.injEq, exists_eq_left']
      cases w.tree.entry? l with
      | none => exact iff_of_false nofun nofun
      | some e =>
          cases e with
          | file content => exact iff_of_true rfl ⟨content, rfl⟩
          | directory => exact iff_of_false nofun nofun

/-- A name behind a path is a file if there is a file of that name where the path leads. -/
theorem isFile_join_iff (hn : IsName n) :
    w.isFile (q.join n) = true ↔ ∃ d, w.Leads q d ∧ w.tree.IsFile (d ++ [n]) := by
  rw [isFile_iff]
  simp only [locate_join_iff hn]
  constructor
  · rintro ⟨l, ⟨d, hd, hl⟩, hf⟩
    obtain rfl := FileTree.eq_of_follow_name hl (Path.isStep_iff.mpr ⟨hn.ne_empty, hn.ne_dot⟩)
      hn.ne_dots
    exact ⟨d, hd, hf⟩
  · rintro ⟨d, hd, content, hf⟩
    refine ⟨d ++ [n], ⟨d, hd, ?_⟩, content, hf⟩
    rw [FileTree.follow_name hd.isDirectory hn, hf]
    rfl

/-! ### Parents -/

/-- The parent of a path leads to where its last component starts from. -/
theorem exists_leads_parent? (hw : w.Rooted) (h : w.locate p = .ok l) (hq : p.parent? = some q) :
    ∃ k m, p.components = q.components ++ [k] ∧ w.Leads q m ∧ k.Moves m l := by
  obtain ⟨hz, -, hs⟩ := locate_eq_ok_iff.mp h
  obtain ⟨k, hk, hroot, hhere⟩ := Path.components_of_parent? hq
  have hz' : '\x00' ∉ q.text.toList := fun hm => hz ((Path.toList_parent?_prefix hq).subset hm)
  have hp : p.steps.foldlM w.tree.follow (w.start p) = .ok l := FileTree.foldlM_follow_filter hs
  have hstart : w.start p = w.start q := by
    rw [start, start, Path.isAbsolute_parent? hq]
  rw [Path.steps_of_components hk, hstart] at hp
  obtain ⟨m, hm, hl⟩ := FileTree.foldlM_follow_append.mp hp
  refine ⟨k, m, hk, ?_⟩
  cases k with
  | root => exact absurd rfl hroot
  -- a single dot stands alone, so that this is the working directory
  | here =>
      cases hl
      obtain rfl : l = w.here := Except.ok.inj (hm.symm.trans (foldlM_steps_empty (hhere rfl)))
      exact ⟨⟨hz', hm, hw.isDirectory⟩, .here⟩
  | up =>
      have hl : w.tree.follow m ".." = .ok l := FileTree.foldlM_follow_singleton.symm.trans hl
      have hd := FileTree.isDirectory_of_follow hl
      rw [FileTree.follow_up hd] at hl
      cases hl
      exact ⟨⟨hz', hm, hd⟩, .up⟩
  | name n =>
      have hl : w.tree.follow m n = .ok l := FileTree.foldlM_follow_singleton.symm.trans hl
      have hn : n ∈ p.steps := by
        rw [Path.steps_of_components hk]
        exact List.mem_append_right _ List.mem_cons_self
      have hu : n ≠ ".." := by
        rintro rfl
        exact p.dots_not_mem_components (hk ▸ List.mem_append_right _ List.mem_cons_self)
      obtain rfl := FileTree.eq_of_follow_name hl (List.of_mem_filter hn) hu
      exact ⟨⟨hz', hm, FileTree.isDirectory_of_follow hl⟩, .name n⟩

/-- A path to a file ends in the name of the file, and its parent leads to the directory that holds
the file. -/
theorem exists_parent?_of_isFile (hw : w.Rooted) (h : w.locate p = .ok l) (hf : w.tree.IsFile l) :
    ∃ q d n, p.parent? = some q ∧ p.components = q.components ++ [.name n] ∧ w.Leads q d ∧
      l = d ++ [n] := by
  obtain ⟨-, hp, hs⟩ := locate_eq_ok_iff.mp h
  have hd : ¬ w.tree.isDirectory l = true := by
    obtain ⟨content, hf⟩ := hf
    rw [FileTree.isDirectory, hf]
    exact nofun
  cases hq : p.parent? with
  | none =>
      rcases Path.parent?_eq_none_iff.mp hq with hc | hc
      · exact absurd (Path.components_eq_nil_iff.mp hc) hp
      · have hl : l = [] := Except.ok.inj
          ((FileTree.foldlM_follow_filter hs).symm.trans (foldlM_steps_root hc))
        rw [hl] at hd
        exact absurd rfl hd
  | some q =>
      obtain ⟨k, m, hk, hm, hkm⟩ := exists_leads_parent? hw h hq
      cases hkm with
      | here => exact absurd hm.isDirectory hd
      | up =>
          have hr := hm.reachable hw
          exact absurd ( hr.of_prefix hm.isDirectory (List.dropLast_prefix m)).2 hd
      | name n => exact ⟨q, m, n, rfl, hk, hm, rfl⟩

end World

end Tokenizer
