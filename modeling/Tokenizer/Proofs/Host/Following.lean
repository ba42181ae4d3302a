import Tokenizer.Proofs.Host.Place

/-!
# Following paths

A path is followed from directory to directory.  So there are directories above every place that a
path names, and only file names lead to it (`Reachable`), whatever else is in the tree; and the path
from the root to such a place leads there.

* `reachable_of_locate`: what a path names is reachable, if the working directory is.
* `locate_path_concat`: the path to an entry names it, if it is in the tree.
-/

namespace Tokenizer

namespace FileTree

/-- A place with directories above it, to which file names lead. -/
inductive Reachable (t : FileTree) : Location → Prop
  | root : Reachable t []
  | entry {l : Location} {n : String} (h : Reachable t l) (hd : t.isDirectory l = true)
      (hn : IsName n) : Reachable t (l ++ [n])

variable {t : FileTree} {l l' d here : Location} {n s : String} {p : Path}

/-! ### Above a reachable place -/

theorem reachable_concat_iff :
    t.Reachable (l ++ [n]) ↔ t.Reachable l ∧ t.isDirectory l = true ∧ IsName n := by
  constructor
  · intro h
    generalize e : l ++ [n] = l' at h
    cases h with
    | root => simp at e
    | entry h hd hn =>
        obtain ⟨rfl, en⟩ := List.append_inj' e rfl
        cases en
        exact ⟨h, hd, hn⟩
  · rintro ⟨h, hd, hn⟩
    exact .entry h hd hn

theorem Reachable.names (h : t.Reachable l) : ∀ n ∈ l, IsName n := by
  induction h with
  | root => simp
  | entry _ _ hn ih =>
      intro m hm
      rcases List.mem_append.mp hm with hm | hm
      · exact ih m hm
      · cases List.mem_singleton.mp hm
        exact hn

theorem Reachable.dropLast (h : t.Reachable l) : t.Reachable l.dropLast := by
  cases h with
  | root => exact .root
  | entry h _ _ => simpa using h

/-- Whatever is above a directory is a directory. -/
theorem Reachable.of_prefix (h : t.Reachable l) (hd : t.isDirectory l = true) (hp : d <+: l) :
    t.Reachable d ∧ t.isDirectory d = true := by
  induction h with
  | root =>
      cases List.prefix_nil.mp hp
      exact ⟨.root, hd⟩
  | entry h hl hn ih =>
      rcases List.prefix_concat_iff.mp hp with rfl | hp
      · exact ⟨.entry h hl hn, hd⟩
      · exact ih hl hp

/-! ### One segment -/

/-- One segment leads from a reachable place to another. -/
theorem Reachable.follow (h : t.Reachable l) (hs : ∀ c ∈ s.toList, c ≠ '\x00' ∧ c ≠ '/')
    (hf : t.follow l s = .ok l') : t.Reachable l' := by
  unfold FileTree.follow at hf
  split at hf
  · cases hf
  · next hd =>
    split at hf
    · cases hf
      exact h
    · next hn =>
      split at hf
      · cases hf
        exact h.dropLast
      · next hu =>
        split at hf
        · cases hf
        · next hl =>
          split at hf
          · cases hf
            obtain ⟨he, hd'⟩ := not_or.mp hn
            exact .entry h (by simpa using hd) ⟨he, hd', hu, fun hc => (hs _ hc).2 rfl,
              fun hc => (hs _ hc).1 rfl, Nat.le_of_not_lt hl⟩
          · cases hf

/-- A file name leads from a directory to the entry of that name. -/
theorem follow_name (hd : t.isDirectory l = true) (hn : IsName n) :
    t.follow l n = if (t.entry? (l ++ [n])).isSome then .ok (l ++ [n]) else .error .missing := by
  rw [FileTree.follow, if_neg (by simp [hd]), if_neg (not_or.mpr ⟨hn.ne_empty, hn.ne_dot⟩),
    if_neg hn.ne_dots, if_neg (Nat.not_lt.mpr hn.short)]

/-! ### Whole paths -/

/-- Segments lead from a reachable place to another, one after the other. -/
theorem Reachable.foldlM {ss : List String} (h : t.Reachable l)
    (hs : ∀ s ∈ ss, ∀ c ∈ s.toList, c ≠ '\x00' ∧ c ≠ '/') (hf : ss.foldlM t.follow l = .ok l') :
    t.Reachable l' := by
  induction ss generalizing l with
  | nil =>
      cases hf
      exact h
  | cons s ss ih =>
      rw [List.foldlM_cons] at hf
      cases hm : t.follow l s with
      | error e => rw [hm] at hf; cases hf
      | ok m =>
          rw [hm] at hf
          exact ih (h.follow (hs s List.mem_cons_self) hm)
            (fun s h => hs s (List.mem_cons_of_mem _ h)) hf

/-- The segments of a path have its characters, but no slash. -/
theorem mem_of_mem_segments (hs : s ∈ p.segments) :
    ∀ c ∈ s.toList, c ∈ p.text.toList ∧ c ≠ '/' := by
  obtain ⟨cs, hcs, rfl⟩ := List.mem_map.mp hs
  intro c hc
  exact Text.mem_of_mem_splitOn hcs c (by simpa using hc)

/-- **What a path names.**  It is reachable if the working directory is. -/
theorem reachable_of_locate (hh : t.Reachable here) (h : t.locate here p = .ok l) :
    t.Reachable l := by
  unfold locate at h
  split at h
  · cases h
  · next hz =>
    split at h
    · cases h
    · have hstart : t.Reachable (if p.isAbsolute then [] else here) := by
        split
        · exact .root
        · exact hh
      refine hstart.foldlM (fun s hs c hc => ?_) h
      obtain ⟨hp, hne⟩ := mem_of_mem_segments hs c hc
      refine ⟨?_, hne⟩
      rintro rfl
      exact hz hp

theorem isSome_entry?_of_isDirectory (hd : t.isDirectory l = true) : (t.entry? l).isSome := by
  unfold isDirectory at hd
  split at hd
  · next e => simp [e]
  · cases hd

/-- The names on the way to a directory lead to it from the root. -/
theorem Reachable.foldlM_follow (h : t.Reachable l) (hd : t.isDirectory l = true) :
    l.foldlM t.follow [] = .ok l := by
  induction h with
  | root => rfl
  | entry _ hl hn ih =>
      rename_i l n _
      rw [List.foldlM_append, ih hl]
      change List.foldlM t.follow l [n] = _
      rw [List.foldlM_cons, follow_name hl hn, if_pos (isSome_entry?_of_isDirectory hd)]
      rfl

/-- The path to an entry of a directory leads there from the root, if the entry is in the tree. -/
theorem locate_path_concat (here : Location) (h : t.Reachable l) (hd : t.isDirectory l = true)
    (hn : IsName n) : t.locate here (Location.path (l ++ [n])) =
      if (t.entry? (l ++ [n])).isSome then .ok (l ++ [n]) else .error .missing := by
  have hc := Location.toList_path_concat l n
  have hz : '\x00' ∉ (Location.path (l ++ [n])).text.toList := by
    rw [hc, ← Location.chars_concat]
    intro hm
    rcases Location.mem_chars hm with e | ⟨m, hm, hz⟩
    · exact absurd e (by decide)
    · rcases List.mem_append.mp hm with hm | hm
      · exact (h.names m hm).no_nul hz
      · cases List.mem_singleton.mp hm
        exact hn.no_nul hz
  have he : (Location.path (l ++ [n])).text ≠ "" := by
    intro he
    rw [he] at hc
    simp at hc
  rw [locate, if_neg hz, if_neg he, Location.isAbsolute_path_concat, if_pos rfl,
    Location.segments_path_concat h.names hn, List.foldlM_cons]
  -- what stands before the first slash stays at the root
  change List.foldlM t.follow [] (l ++ [n]) = _
  rw [List.foldlM_append, h.foldlM_follow hd]
  change List.foldlM t.follow l [n] = _
  rw [List.foldlM_cons, follow_name hd hn]
  split <;> rfl

/-- Whether a regular file stands at a place. -/
def IsFile (t : FileTree) (l : Location) : Prop :=
  ∃ content, t.entry? l = some (.file content)

end FileTree

/-! ### Worlds -/

/-- The working directory is a directory of the tree. -/
structure World.Rooted (w : World) : Prop where
  reachable : w.tree.Reachable w.here
  isDirectory : w.tree.isDirectory w.here = true

/-- The host that answers from a world in which some files cannot be read. -/
def World.denying (w : World) (denied : Location → Option ReadFault) : Host Id :=
  { w.host with
    read := fun p =>
      match w.locate p with
      | .error fault => .error fault
      | .ok l => match denied l with
        | some fault => .error fault
        | none => w.tree.readAt l }

end Tokenizer
