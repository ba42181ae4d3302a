import Tokenizer.Proofs.Host.Leading

/-!
# Paths with the parts of a dash

The path `-` stands for the standard input.  Paths are compared by their parts, so that other paths
are the same as this one: those with slashes and single dots behind the dash, and nothing in front of
it.

* `isDash_iff`: which paths these are.
* `isDirectory_of_isDashed`: but for `-` itself, none of them can name a file.
-/

namespace Tokenizer

namespace Path

variable {p : Path} {cs s : List Char} {ss : List (List Char)}

/-- A dash as the first segment, and behind it only empty segments and single dots. -/
def IsDashed (p : Path) : Prop :=
  ∃ rest, p.segments = "-" :: rest ∧ ∀ s ∈ rest, s = "" ∨ s = "."

/-! ### First segments -/

theorem componentOf?_eq_none_iff : componentOf? s = none ↔ s = [] ∨ s = ['.'] := by
  unfold componentOf?
  split
  · next h => exact iff_of_true rfl h
  · next h =>
    refine iff_of_false (fun e => ?_) h
    split at e <;> cases e

/-- A trimmed text has a component as its first segment. -/
theorem Trimmed.exists_splitOn (h : Trimmed cs) (hne : cs ≠ []) :
    ∃ s ss, cs.splitOn '/' = s :: ss ∧ componentOf? s ≠ none := by
  obtain ⟨s, hcs, hb, hs, hne, hdot⟩ := h.exists_append hne
  have hk : componentOf? s ≠ none := mt componentOf?_eq_none_iff.mp (not_or.mpr ⟨hne, hdot⟩)
  cases hd : cs.dropWhile (· != '/') with
  | nil =>
      rw [hd, List.append_nil] at hcs
      rw [hcs]
      exact ⟨s, [], List.splitOn_eq_singleton hs, hk⟩
  | cons c ds =>
      rw [hd] at hcs hb
      obtain rfl : c = '/' := hb c rfl
      refine ⟨s, ds.splitOn '/', ?_, hk⟩
      rw [hcs, List.splitOn_append_cons_self, List.splitOn_eq_singleton hs, List.singleton_append]

theorem trimmed_of_splitOn (h : cs.splitOn '/' = s :: ss) (hk : componentOf? s ≠ none) :
    Trimmed cs := by
  refine ⟨?_, ?_, ?_⟩
  · rintro ds rfl
    cases (List.splitOn_append_cons_self [] ds).symm.trans h
    exact hk rfl
  · rintro rfl
    cases h
    exact hk rfl
  · rintro ds rfl
    cases (List.splitOn_append_cons_self ['.'] ds).symm.trans h
    exact hk rfl

/-! ### Dashes -/

theorem componentOf?_eq_dash_iff : componentOf? s = some (.name "-") ↔ String.ofList s = "-" := by
  constructor
  · intro h
    unfold componentOf? at h
    split at h
    · cases h
    · split at h
      · cases h
      · exact Component.name.inj (Option.some.inj h)
  · intro h
    obtain rfl : s = ['-'] := String.ofList_inj.mp h
    rfl

/-- The components of segments of which the first is one. -/
theorem filterMap_eq_dash_iff (hk : componentOf? s ≠ none) :
    (s :: ss).filterMap componentOf? = [.name "-"] ↔
      String.ofList s = "-" ∧ ∀ t ∈ ss, String.ofList t = "" ∨ String.ofList t = "." := by
  have hdot (t : List Char) : String.ofList t = "." ↔ t = ['.'] := String.ofList_inj
  obtain ⟨k, hs⟩ := Option.ne_none_iff_exists'.mp hk
  rw [List.filterMap_cons_some hs, List.cons_eq_cons, List.filterMap_eq_nil_iff,
    ← componentOf?_eq_dash_iff, hs, Option.some_inj]
  simp only [componentOf?_eq_none_iff, String.ofList_eq_empty_iff, hdot]

theorem isDashed_iff : p.IsDashed ↔ ∃ s ss, p.text.toList.splitOn '/' = s :: ss ∧
    String.ofList s = "-" ∧ ∀ t ∈ ss, String.ofList t = "" ∨ String.ofList t = "." := by
  constructor
  · rintro ⟨rest, hs, hr⟩
    obtain ⟨s, ss, hsplit, hd, rfl⟩ := List.map_eq_cons_iff.mp hs
    exact ⟨s, ss, hsplit, hd, List.forall_mem_map.mp hr⟩
  · rintro ⟨s, ss, hs, hd, hr⟩
    exact ⟨ss.map .ofList, by rw [segments, hs, List.map_cons, hd], List.forall_mem_map.mpr hr⟩

/-- **Dashes.**  A path has the parts of `-` if there are only slashes and single dots behind the
dash, and nothing in front of it. -/
theorem isDash_iff : p.isDash = true ↔ p.IsDashed := by
  rw [isDash, beq_iff_eq, components_eq, isDashed_iff]
  constructor
  · intro h
    rcases componentsOf_cases p.text.toList with ⟨ds, -, e⟩ | ⟨ds, -, e⟩ | ⟨ht, e⟩
    · cases e.symm.trans h
    · cases e.symm.trans h
    · have hne : p.text.toList ≠ [] := fun hn => by
        rw [hn] at h
        cases h
      obtain ⟨s, ss, hs, hk⟩ := ht.exists_splitOn hne
      rw [e, parts, hs, filterMap_eq_dash_iff hk] at h
      exact ⟨s, ss, hs, h⟩
  · rintro ⟨s, ss, hs, hd, hr⟩
    have hk : componentOf? s ≠ none := by
      rw [componentOf?_eq_dash_iff.mpr hd]
      exact Option.some_ne_none _
    rw [componentsOf, (trimmed_of_splitOn hs hk).splitHead_eq, parts, hs]
    exact (filterMap_eq_dash_iff hk).mpr ⟨hd, hr⟩

example : isDash ⟨"-//./."⟩ = true ∧ isDash ⟨"./-"⟩ = false := by
  decide +kernel

/-- Where nothing is behind the dash, the path is a dash. -/
theorem text_of_segments {s : String} (h : p.segments = [s]) : p.text = s := by
  obtain ⟨cs, hcs, rfl⟩ := List.map_eq_singleton_iff.mp h
  have hp : ['/'].intercalate (p.text.toList.splitOn '/') = p.text.toList :=
    List.intercalate_splitOn '/'
  rw [hcs, List.intercalate_singleton] at hp
  rw [hp, String.ofList_toList]

end Path

/-! ### Where they lead -/

/-- **No file.**  A slash behind the dash asks for a directory there, and nothing leads away from it. -/
theorem World.isDirectory_of_isDashed {w : World} {p : Path} {l : Location} (h : p.IsDashed)
    (hne : p.text ≠ "-") (hl : w.locate p = .ok l) : w.tree.isDirectory l = true := by
  obtain ⟨-, -, hf⟩ := locate_eq_ok_iff.mp hl
  obtain ⟨rest, hs, hr⟩ := h
  rw [hs] at hf
  obtain ⟨m, -, hm⟩ := FileTree.foldlM_follow_cons.mp hf
  have hml := FileTree.foldlM_follow_filter hm
  rw [List.filter_eq_nil_iff.mpr fun s hs h => not_or.mpr (Path.isStep_iff.mp h) (hr s hs)] at hml
  cases hml
  cases rest with
  | nil => exact absurd (Path.text_of_segments hs) hne
  | cons s rest =>
      obtain ⟨n, hn, -⟩ := FileTree.foldlM_follow_cons.mp hm
      exact FileTree.isDirectory_of_follow hn

end Tokenizer
