import Tokenizer.Proofs.Settings.Search

/-!
# Where a search goes

A search for a settings file goes on with the parent of a path, which leads up in the tree, unless the
path ends in two dots: then its parent leads down again, to an entry of the directory.  Either way no
settings file in a directory on the way up is passed over; but what is found need not be on that way.

* `Component.Moves.above_of_ne`, `Component.Moves.above`: what is above two directories that differ by
  one component.
* `ClimbsTo.of_parent`: what one step of the search preserves.
* `climbs`: a search goes only up if no component of the path is two dots.
-/

namespace Tokenizer

open Settings

variable {w : World} {p q c : Path} {d l m x : Location} {k : Component}

/-! ### One component -/

/-- What is above a directory, but is not the directory itself, is above the place that one component
leads to the directory from. -/
theorem Component.Moves.above_of_ne (hk : k.Moves m d) (hx : x <+: d) (hne : x ≠ d) : x <+: m := by
  cases hk with
  | here => exact hx
  | up => exact hx.trans (List.dropLast_prefix m)
  | name n =>
      rcases List.prefix_concat_iff.mp hx with rfl | hx
      · exact absurd rfl hne
      · exact hx

/-- Every component but two dots leads down, or stays. -/
theorem Component.Moves.above (hk : k.Moves m d) (hu : k ≠ .up) : m <+: d := by
  cases hk with
  | here => exact List.prefix_rfl
  | up => exact absurd rfl hu
  | name n => exact List.prefix_append m [n]

/-! ### One step of the search -/

namespace World

/-- The search goes on with a path that leads to a directory again. -/
theorem Leads.parent? (hw : w.Rooted) (h : w.Leads p d) (hq : p.parent? = some q) :
    ∃ k m, p.components = q.components ++ [k] ∧ w.Leads q m ∧ k.Moves m d := by
  have hp : p.text ≠ "" := by
    intro hp
    have hl := Path.parent?_length_lt hq
    rw [hp] at hl
    exact Nat.not_lt_zero _ hl
  exact exists_leads_parent? hw ((leads_iff_locate hp).mp h).1 hq

end World

/-! ### The whole search -/

/-- From a path that leads to the directory `d`, a search comes to the settings file in `l`. -/
structure ClimbsTo (w : World) (p : Path) (d l : Location) : Prop where
  isFile : w.tree.IsFile (fileIn l)
  /-- No settings file in `d` or above it is passed over. -/
  nearest : ∀ x, x <+: d → w.tree.IsFile (fileIn x) → x <+: l
  /-- Without two dots, the search does not leave the way up. -/
  above : .up ∉ p.components → l <+: d

theorem ClimbsTo.of_parent (hp : p.components = q.components ++ [k]) (hk : k.Moves m d)
    (hf : ¬ w.tree.IsFile (fileIn d)) (h : ClimbsTo w q m l) : ClimbsTo w p d l := by
  refine ⟨h.isFile, fun x hx hxf => ?_, fun hu => ?_⟩
  · have hne : x ≠ d := by
      rintro rfl
      exact hf hxf
    exact h.nearest x (hk.above_of_ne hx hne) hxf
  · rw [hp, List.mem_append, not_or, List.mem_singleton] at hu
    exact (h.above hu.1).trans (hk.above (Ne.symm hu.2))

/-- What a search finds is the file that it climbs to, along the parents of its path. -/
theorem exists_climbsTo (hw : w.Rooted) {p : Path} {d : Location} (h : w.Leads p d)
    (hc : find? w.host p = some c) : ∃ l, w.locate c = .ok (fileIn l) ∧ ClimbsTo w p d l := by
  by_cases hf : w.tree.IsFile (fileIn d)
  · rw [h.find?_of_isFile hf] at hc
    cases hc
    exact ⟨d, h.locate_join hf, hf, fun _ hx _ => hx, fun _ => List.prefix_rfl⟩
  · rw [h.find?_of_not_isFile hf] at hc
    obtain ⟨q, hq, hc⟩ := Option.bind_eq_some_iff.mp hc
    obtain ⟨k, m, hp, hm, hk⟩ := h.parent? hw hq
    obtain ⟨l, hl, ho⟩ := exists_climbsTo hw hm hc
    exact ⟨l, hl, ho.of_parent hp hk hf⟩
termination_by p.text.length
decreasing_by exact Path.parent?_length_lt hq

/-- A search that finds nothing has been at the root or, from a relative path, at the working
directory. -/
theorem find?_eq_none_of_leads (hw : w.Rooted) {p : Path} {d : Location} (h : w.Leads p d)
    (hc : find? w.host p = none) (hx : x <+: d) (hf : w.tree.IsFile (fileIn x)) :
    p.isAbsolute = false ∧ x <+: w.here ∧ x ≠ w.here := by
  have hd : ¬ w.tree.IsFile (fileIn d) := by
    intro hd
    rw [h.find?_of_isFile hd] at hc
    cases hc
  have hne : x ≠ d := by
    rintro rfl
    exact hd hf
  rw [h.find?_of_not_isFile hd] at hc
  cases hq : p.parent? with
  | none =>
      rcases Path.parent?_eq_none_iff.mp hq with hp | hp
      · have hp := Path.components_eq_nil_iff.mp hp
        obtain rfl := h.eq_here hp
        rw [Path.isAbsolute, hp]
        exact ⟨rfl, hx, hne⟩
      · obtain rfl := h.eq_nil hp
        exact absurd (List.prefix_nil.mp hx) hne
  | some q =>
      rw [hq] at hc
      obtain ⟨k, m, -, hm, hk⟩ := h.parent? hw hq
      rw [← Path.isAbsolute_parent? hq]
      exact find?_eq_none_of_leads hw hm hc (hk.above_of_ne hx hne) hf
termination_by p.text.length
decreasing_by exact Path.parent?_length_lt hq

/-- What a search finds is the nearest settings file, in the directory `d` or above it. -/
def OnlyUp (w : World) (start : Path) (d : Location) : Prop :=
  ∀ c, find? w.host start = some c → ∃ l, w.locate c = .ok (fileIn l) ∧ w.tree.Nearest d l

/-- How a search goes that starts from a path to the directory `d`. -/
structure Climbs (w : World) (start : Path) (d : Location) : Prop where
  /-- What is found is a settings file, and none in `d` or above it is passed over. -/
  found : ∀ c, find? w.host start = some c → ∃ l, w.locate c = .ok (fileIn l) ∧
    w.tree.IsFile (fileIn l) ∧ ∀ x, x <+: d → w.tree.IsFile (fileIn x) → x <+: l
  /-- If nothing is found, there is no settings file in `d` or above it, unless the search came by a
  relative path and the file is above the working directory. -/
  nothing : find? w.host start = none → ∀ x, x <+: d → w.tree.IsFile (fileIn x) →
    start.isAbsolute = false ∧ x <+: w.here ∧ x ≠ w.here
  /-- The search goes only up exactly if it does not end beside or below `d`. -/
  onlyUp_iff : OnlyUp w start d ↔
    ∀ c l, find? w.host start = some c → w.locate c = .ok (fileIn l) → l <+: d
  /-- It goes only up if no component of the path is two dots. -/
  onlyUp : .up ∉ start.components → OnlyUp w start d

/-- **The way of a search.**  It passes no settings file on the way up from the directory where it
starts, and only two dots in its path make it leave that way. -/
theorem climbs (hw : w.Rooted) (h : w.locate p = .ok d) (hd : w.tree.isDirectory d = true) :
    Climbs w p d := by
  have hp : p.text ≠ "" := (World.locate_eq_ok_iff.mp h).2.1
  have hl : w.Leads p d := (World.leads_iff_locate hp).mpr ⟨h, hd⟩
  refine ⟨fun c hc => ?_, fun hc x => find?_eq_none_of_leads hw hl hc,
    ⟨fun hu c l hc hcl => ?_, fun ha c hc => ?_⟩, fun hu c hc => ?_⟩
  · obtain ⟨l, hcl, ho⟩ := exists_climbsTo hw hl hc
    exact ⟨l, hcl, ho.isFile, ho.nearest⟩
  · obtain ⟨l', hcl', hn⟩ := hu c hc
    have he : fileIn l' = fileIn l := Except.ok.inj (hcl'.symm.trans hcl)
    rw [← (List.append_inj' he rfl).1]
    exact hn.above
  · obtain ⟨l, hcl, ho⟩ := exists_climbsTo hw hl hc
    exact ⟨l, hcl, ha c l hc hcl, ho.isFile, ho.nearest⟩
  · obtain ⟨l, hcl, ho⟩ := exists_climbsTo hw hl hc
    exact ⟨l, hcl, ho.above hu, ho.isFile, ho.nearest⟩

/-- A world with a settings file in a directory below the working directory, and no other. -/
def lowWorld : World where
  tree := ⟨[
    (["w"], .directory),
    (["w", "a"], .directory),
    (["w", "a", "Golex.toml"], .file "".toUTF8)]⟩
  here := ["w"]
  input := "".toUTF8

theorem rooted_lowWorld : lowWorld.Rooted :=
  ⟨.entry (l := []) .root rfl (by decide), rfl⟩

theorem climbs_lowWorld : lowWorld.Rooted ∧ lowWorld.locate ⟨"a/.."⟩ = .ok ["w"] ∧
    lowWorld.tree.isDirectory ["w"] = true ∧ Climbs lowWorld ⟨"a/.."⟩ ["w"] :=
  ⟨rooted_lowWorld, by decide +kernel, rfl, climbs rooted_lowWorld (by decide +kernel) rfl⟩

/-- From `a/..`, which is the working directory, the search goes down to `a`. -/
theorem not_onlyUp_lowWorld : lowWorld.Rooted ∧ lowWorld.locate ⟨"a/.."⟩ = .ok ["w"] ∧
    lowWorld.tree.isDirectory ["w"] = true ∧ ¬ OnlyUp lowWorld ⟨"a/.."⟩ ["w"] := by
  refine ⟨rooted_lowWorld, by decide +kernel, rfl, fun h => ?_⟩
  have hf : find? lowWorld.host ⟨"a/.."⟩ = some ⟨"a/Golex.toml"⟩ := by
    rw [Settings.find?_eq, if_neg (by decide +kernel),
      show Path.parent? ⟨"a/.."⟩ = some ⟨"a"⟩ by decide +kernel, Option.bind_some,
      Settings.find?_eq, if_pos (by decide +kernel)]
    rfl
  have hl : lowWorld.locate ⟨"a/Golex.toml"⟩ = .ok (fileIn ["w", "a"]) := by decide +kernel
  obtain ⟨l, hcl, hn⟩ := h _ hf
  have he : fileIn l = fileIn ["w", "a"] := Except.ok.inj (hcl.symm.trans hl)
  have ha := hn.above
  rw [(List.append_inj' he rfl).1] at ha
  exact absurd ha.length_le (by decide)

end Tokenizer
