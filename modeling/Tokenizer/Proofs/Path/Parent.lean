import Mathlib.Data.List.Basic
import Mathlib.Data.List.TakeWhile
import Tokenizer.Path

/-!
# A path and its parents

A parent is cut off a path as a text.  Seen by components, this takes off the last one, whichever it
is, and leaves the others; so the parents of a path end where there is nothing left to take, at the
empty path or at the root.

* `components_of_parent?`, `parent?_eq_none_iff`: one parent, and where there is none.
* `components_of_above?`: the components of the parent's parent, and so on.
* `exists_last_above?`: a relative path ends at the empty path and an absolute one at the root.
-/

namespace Tokenizer.Path

variable {p q : Path} {cs ds : List Char}

/-! ### Components by the slashes between them -/

/-- What the head of a path stands for. -/
def headComponents : List Char → List Component
  | ['/'] => [.root]
  | ['.'] => [.here]
  | _ => []

/-- The components of what follows the head. -/
def parts (cs : List Char) : List Component :=
  (cs.splitOn '/').filterMap componentOf?

/-- The components of a path, as characters. -/
def componentsOf (cs : List Char) : List Component :=
  headComponents (splitHead cs).1 ++ parts (splitHead cs).2

theorem components_eq (p : Path) : p.components = componentsOf p.text.toList :=
  rfl

@[simp] theorem parts_nil : parts [] = [] :=
  rfl

@[simp] theorem parts_dot : parts ['.'] = [] :=
  rfl

theorem parts_append (cs ds : List Char) : parts (cs ++ '/' :: ds) = parts cs ++ parts ds := by
  rw [parts, List.splitOn_append_cons_self, List.filterMap_append]
  rfl

theorem parts_append_of_head? (h : ∀ c ∈ ds.head?, c = '/') :
    parts (cs ++ ds) = parts cs ++ parts ds := by
  cases ds with
  | nil => rw [List.append_nil, parts_nil, List.append_nil]
  | cons c ds =>
      obtain rfl : c = '/' := h c rfl
      rw [parts_append]
      exact congrArg (parts cs ++ ·) (parts_append [] ds).symm

theorem parts_append_of_getLast? (h : ∀ c ∈ cs.getLast?, c = '/') :
    parts (cs ++ ds) = parts cs ++ parts ds := by
  rcases List.eq_nil_or_concat' cs with rfl | ⟨cs, c, rfl⟩
  · rfl
  · obtain rfl : c = '/' := h c (by simp)
    rw [List.append_assoc, List.singleton_append, parts_append, parts_append, parts_nil,
      List.append_nil]

/-- A segment other than the empty one and the single dot is a component. -/
theorem exists_parts_eq (h₁ : cs ≠ []) (h₂ : cs ≠ ['.']) (hs : '/' ∉ cs) :
    ∃ k, parts cs = [k] := by
  rw [parts, List.splitOn_eq_singleton hs, List.filterMap_cons, componentOf?,
    if_neg (not_or.mpr ⟨h₁, h₂⟩)]
  split
  · next e => split at e <;> cases e
  · next k _ => exact ⟨k, rfl⟩

/-- The root and a single dot are components at the head only. -/
theorem ne_of_mem_parts {k : Component} (h : k ∈ parts cs) : k ≠ .root ∧ k ≠ .here := by
  obtain ⟨s, -, hs⟩ := List.mem_filterMap.mp h
  unfold componentOf? at hs
  split at hs
  · cases hs
  · split at hs <;> cases hs <;> exact ⟨nofun, nofun⟩

/-! ### Trimming -/

/-- A text that does not start with a slash, nor with a single dot that is a whole segment. -/
structure Trimmed (cs : List Char) : Prop where
  ne_slash : ∀ ds, cs ≠ '/' :: ds
  ne_dot : cs ≠ ['.']
  ne_dot_slash : ∀ ds, cs ≠ '.' :: '/' :: ds

theorem trimmed_trimReversed (cs : List Char) : Trimmed (trimReversed cs) := by
  fun_induction trimReversed cs with
  | case1 cs ih => exact ih
  | case2 cs ih => exact ih
  | case3 => exact ⟨by simp, by simp, by simp⟩
  | case4 cs h₁ h₂ h₃ => exact ⟨h₁, h₃, h₂⟩

theorem trimReversed_suffix (cs : List Char) : trimReversed cs <:+ cs := by
  fun_induction trimReversed cs with
  | case1 cs ih => exact ih.trans (List.suffix_cons _ _)
  | case2 cs ih => exact ih.trans ((List.suffix_cons _ _).trans (List.suffix_cons _ _))
  | case3 => exact List.nil_suffix
  | case4 => exact List.suffix_rfl

/-- What is trimmed is no component. -/
theorem parts_trimReversed (cs : List Char) :
    parts (trimReversed cs).reverse = parts cs.reverse := by
  fun_induction trimReversed cs with
  | case1 cs ih => rw [ih, List.reverse_cons, parts_append, parts_nil, List.append_nil]
  | case2 cs ih =>
      rw [ih, List.reverse_cons, List.reverse_cons, List.append_assoc, List.singleton_append,
        parts_append, parts_dot, List.append_nil]
  | case3 => rfl
  | case4 => rfl

/-- A trimmed text starts with a whole component. -/
theorem Trimmed.exists_append (h : Trimmed cs) (hne : cs ≠ []) :
    ∃ s, cs = s ++ cs.dropWhile (· != '/') ∧ (∀ c ∈ (cs.dropWhile (· != '/')).head?, c = '/') ∧
      '/' ∉ s ∧ s ≠ [] ∧ s ≠ ['.'] := by
  have hcs := (List.takeWhile_append_dropWhile (p := (· != '/')) (l := cs)).symm
  have hb : ∀ c ∈ (cs.dropWhile (· != '/')).head?, c = '/' := by
    intro c hc
    have hn := List.head?_dropWhile_not (· != '/') cs
    rw [Option.mem_def.mp hc] at hn
    simpa using hn
  refine ⟨_, hcs, hb, fun hm => absurd (List.mem_takeWhile_imp hm) (by decide), fun hs => ?_,
    fun hs => ?_⟩
  · rw [hs, List.nil_append] at hcs
    obtain ⟨c, ds, hd⟩ := List.exists_cons_of_ne_nil hne
    rw [← hcs, hd] at hb
    obtain rfl : c = '/' := hb c rfl
    exact h.ne_slash ds hd
  · rw [hs] at hcs
    cases hd : cs.dropWhile (· != '/') with
    | nil => exact h.ne_dot (by rwa [hd] at hcs)
    | cons c ds =>
        rw [hd] at hcs hb
        obtain rfl : c = '/' := hb c rfl
        exact h.ne_dot_slash ds hcs

/-- A text trimmed at its end, without its last component. -/
theorem Trimmed.exists_parts_concat (h : Trimmed cs) (hne : cs ≠ []) :
    ∃ k, parts cs.reverse = parts (cs.dropWhile (· != '/')).reverse ++ [k] := by
  obtain ⟨s, hcs, hb, hs, hne, hdot⟩ := h.exists_append hne
  obtain ⟨k, hk⟩ := exists_parts_eq (List.reverse_ne_nil_iff.mpr hne)
    (mt List.reverse_eq_iff.mp hdot) (mt List.mem_reverse.mp hs)
  refine ⟨k, ?_⟩
  conv_lhs => rw [hcs]
  rw [List.reverse_append, parts_append_of_getLast? (by simpa using hb), hk]

theorem Trimmed.parts_ne_nil (h : Trimmed cs) (hne : cs ≠ []) : parts cs ≠ [] := by
  obtain ⟨s, hcs, hb, hs, hne, hdot⟩ := h.exists_append hne
  obtain ⟨k, hk⟩ := exists_parts_eq hne hdot hs
  rw [hcs, parts_append_of_head? hb, hk]
  exact List.cons_ne_nil _ _

/-! ### Heads -/

theorem splitHead_append (cs : List Char) : (splitHead cs).1 ++ (splitHead cs).2 = cs := by
  fun_cases splitHead cs <;> rfl

theorem Trimmed.splitHead_eq (h : Trimmed cs) : splitHead cs = ([], cs) :=
  splitHead.eq_4 cs h.ne_slash h.ne_dot h.ne_dot_slash

/-- The head of a text stays its head if the text is cut short behind it. -/
theorem splitHead_of_prefix (hb : ds <+: (splitHead cs).2) (hd : ds ≠ ['.']) :
    splitHead ((splitHead cs).1 ++ ds) = ((splitHead cs).1, ds) := by
  revert hb
  fun_cases splitHead cs with
  | case1 => exact fun _ => rfl
  | case2 =>
      intro hb
      rw [List.prefix_nil.mp hb]
      rfl
  | case3 cs =>
      intro hb
      cases ds with
      | nil => rfl
      | cons d ds =>
          obtain ⟨rfl, -⟩ := List.cons_prefix_cons.mp hb
          rfl
  | case4 cs h₁ h₂ h₃ =>
      rintro ⟨r, rfl⟩
      have ht : Trimmed ds := ⟨fun ds' h => h₁ (ds' ++ r) (by rw [h]; rfl), hd,
        fun ds' h => h₃ (ds' ++ r) (by rw [h]; rfl)⟩
      exact ht.splitHead_eq

/-- What the head stands for, by how the text starts. -/
theorem componentsOf_cases (cs : List Char) :
    (∃ ds, cs = '/' :: ds ∧ componentsOf cs = .root :: parts ds) ∨
    (∃ ds, cs = '.' :: ds ∧ componentsOf cs = .here :: parts ds) ∨
    Trimmed cs ∧ componentsOf cs = parts cs := by
  unfold componentsOf
  fun_cases splitHead cs with
  | case1 ds => exact .inl ⟨ds, rfl, rfl⟩
  | case2 => exact .inr (.inl ⟨[], rfl, rfl⟩)
  | case3 ds => exact .inr (.inl ⟨'/' :: ds, rfl, rfl⟩)
  | case4 cs h₁ h₂ h₃ => exact .inr (.inr ⟨⟨h₁, h₂, h₃⟩, rfl⟩)

/-- Only the empty path has no components. -/
theorem components_eq_nil_iff : p.components = [] ↔ p.text = "" := by
  rw [components_eq, ← String.toList_eq_nil_iff]
  constructor
  · intro h
    rcases componentsOf_cases p.text.toList with ⟨ds, -, e⟩ | ⟨ds, -, e⟩ | ⟨ht, e⟩
    · rw [e] at h
      cases h
    · rw [e] at h
      cases h
    · rw [e] at h
      by_contra hne
      exact ht.parts_ne_nil hne h
  · intro h
    rw [h]
    rfl

/-- An absolute path is one whose first component is the root. -/
theorem isAbsolute_iff : p.isAbsolute = true ↔ p.components.head? = some .root := by
  rw [components_eq, isAbsolute, beq_iff_eq]
  rcases componentsOf_cases p.text.toList with ⟨ds, h, e⟩ | ⟨ds, h, e⟩ | ⟨ht, e⟩
  · rw [h, ← h, e]
    exact iff_of_true (by rw [h]; rfl) rfl
  · rw [e, h]
    exact iff_of_false nofun nofun
  · rw [e]
    refine iff_of_false (fun h => ?_) fun h => ?_
    · obtain ⟨ds, hds⟩ := List.head?_eq_some_iff.mp h
      exact ht.ne_slash ds hds
    · exact (ne_of_mem_parts (List.mem_of_mem_head? h)).1 rfl

/-! ### Parents -/

/-- Where there is nothing behind the head, only a dot can be taken off. -/
theorem parentChars?_of_nil (h : trimReversed (splitHead cs).2.reverse = []) :
    parentChars? cs = if (splitHead cs).1 = ['.'] then some [] else none := by
  unfold parentChars?
  simp only [h]

theorem parentChars?_of_ne_nil (h : trimReversed (splitHead cs).2.reverse ≠ []) :
    parentChars? cs = some ((splitHead cs).1 ++ (trimReversed
      ((trimReversed (splitHead cs).2.reverse).dropWhile (· != '/'))).reverse) := by
  unfold parentChars?
  simp only

/-- The parent is the head of the text, with its components but the last. -/
theorem exists_componentsOf_concat (h : parentChars? cs = some ds) :
    ds <+: cs ∧ ∃ k, componentsOf cs = componentsOf ds ++ [k] ∧ k ≠ .root ∧
      (k = .here → ds = []) := by
  have ht := parts_trimReversed (splitHead cs).2.reverse
  rw [List.reverse_reverse] at ht
  by_cases hn : trimReversed (splitHead cs).2.reverse = []
  · rw [parentChars?_of_nil hn] at h
    split at h
    · next hd =>
        cases h
        rw [hn] at ht
        exact ⟨List.nil_prefix, .here, by rw [componentsOf, hd, ← ht]; rfl, nofun, fun _ => rfl⟩
    · cases h
  · rw [parentChars?_of_ne_nil hn] at h
    cases h
    obtain ⟨k, hk⟩ := (trimmed_trimReversed _).exists_parts_concat hn
    obtain ⟨hroot, hhere⟩ := ne_of_mem_parts (hk ▸ List.mem_append_right _ List.mem_cons_self)
    have hp : (trimReversed ((trimReversed (splitHead cs).2.reverse).dropWhile
        (· != '/'))).reverse <+: (splitHead cs).2 := by
      have hs := List.reverse_prefix.mpr ((trimReversed_suffix _).trans
        ((List.dropWhile_suffix (· != '/')).trans (trimReversed_suffix (splitHead cs).2.reverse)))
      rwa [List.reverse_reverse] at hs
    have hd : (trimReversed ((trimReversed (splitHead cs).2.reverse).dropWhile
        (· != '/'))).reverse ≠ ['.'] := by
      rw [Ne, List.reverse_eq_iff]
      exact (trimmed_trimReversed _).ne_dot
    refine ⟨?_, k, ?_, hroot, fun h => absurd h hhere⟩
    · conv_rhs => rw [← splitHead_append cs]
      exact (List.prefix_append_right_inj _).mpr hp
    · rw [componentsOf, componentsOf, splitHead_of_prefix hp hd, parts_trimReversed,
        List.append_assoc, ← hk, ht]

/-- A parent has the components of the path but the last, and none if that is a single dot. -/
theorem components_of_parent? (h : p.parent? = some q) :
    ∃ k, p.components = q.components ++ [k] ∧ k ≠ .root ∧ (k = .here → q.text = "") := by
  obtain ⟨ds, hds, rfl⟩ := Option.map_eq_some_iff.mp h
  rw [components_eq, components_eq, String.toList_ofList]
  obtain ⟨-, k, hk, hroot, hhere⟩ := exists_componentsOf_concat hds
  exact ⟨k, hk, hroot, fun h => by rw [hhere h]⟩

/-- A parent's text is a piece from the start of the path's. -/
theorem toList_parent?_prefix (h : p.parent? = some q) : q.text.toList <+: p.text.toList := by
  obtain ⟨ds, hds, rfl⟩ := Option.map_eq_some_iff.mp h
  rw [String.toList_ofList]
  exact (exists_componentsOf_concat hds).1

/-- The empty path and the root have no parent, and every other path has one. -/
theorem parent?_eq_none_iff : p.parent? = none ↔ p.components = [] ∨ p.components = [.root] := by
  constructor
  · intro h
    have hc := Option.map_eq_none_iff.mp h
    by_cases hn : trimReversed (splitHead p.text.toList).2.reverse = []
    · have ht := parts_trimReversed (splitHead p.text.toList).2.reverse
      rw [hn, List.reverse_reverse, List.reverse_nil, parts_nil] at ht
      rw [parentChars?_of_nil hn] at hc
      rw [components_eq, componentsOf, ← ht, List.append_nil]
      revert hc
      fun_cases splitHead p.text.toList with
      | case1 => exact fun _ => .inr rfl
      | case2 =>
          intro hc
          cases hc
      | case3 =>
          intro hc
          cases hc
      | case4 => exact fun _ => .inl rfl
    · rw [parentChars?_of_ne_nil hn] at hc
      cases hc
  · intro h
    refine Option.eq_none_iff_forall_ne_some.mpr fun q hq => ?_
    obtain ⟨k, hk, hroot, -⟩ := components_of_parent? hq
    rw [hk] at h
    rcases h with h | h
    · simp at h
    · obtain ⟨-, h⟩ := List.append_inj' (h.trans (List.nil_append _).symm) rfl
      exact hroot (List.singleton_inj.mp h)

theorem isAbsolute_parent? (h : p.parent? = some q) : q.isAbsolute = p.isAbsolute := by
  obtain ⟨k, hk, hroot, -⟩ := components_of_parent? h
  rw [Bool.eq_iff_iff, isAbsolute_iff, isAbsolute_iff, hk]
  cases q.components with
  | nil => simp [hroot]
  | cons => rfl

/-! ### Parents of parents -/

/-- The path `n` parents above, if there are so many. -/
def above? : Nat → Path → Option Path
  | 0, p => some p
  | n + 1, p => p.parent?.bind (above? n)

theorem ancestors_eq (p : Path) : p.ancestors = p :: (p.parent?.map ancestors).getD [] := by
  rw [ancestors]
  split
  · next h => rw [h]; rfl
  · next h => rw [h]; rfl

theorem getElem?_ancestors (n : Nat) (p : Path) : p.ancestors[n]? = above? n p := by
  induction n generalizing p with
  | zero => rw [ancestors_eq]; rfl
  | succ n ih =>
      rw [ancestors_eq, List.getElem?_cons_succ, above?]
      cases p.parent? with
      | none => rfl
      | some q => exact ih q

/-- So many components are taken off as there are parents. -/
theorem components_of_above? {n : Nat} (h : above? n p = some q) :
    ∃ ks, p.components = q.components ++ ks ∧ ks.length = n := by
  induction n generalizing p with
  | zero =>
      cases h
      exact ⟨[], (List.append_nil _).symm, rfl⟩
  | succ n ih =>
      obtain ⟨r, hr, hq⟩ := Option.bind_eq_some_iff.mp h
      obtain ⟨k, hk, -⟩ := components_of_parent? hr
      obtain ⟨ks, hks, hn⟩ := ih hq
      exact ⟨ks ++ [k], by rw [hk, hks, List.append_assoc], by rw [List.length_append, hn]; rfl⟩

/-- Slashes and single dots at the end do not count, and two dots are taken off like a name. -/
example : above? 2 ⟨"./a//./../b/."⟩ = some ⟨"./a"⟩ := by
  decide +kernel

/-- The parents of a relative path end at the empty path, and those of an absolute one at the root. -/
theorem exists_last_above? (p : Path) : ∃ n q, above? n p = some q ∧ q.parent? = none ∧
    if p.isAbsolute then q.components = [.root] else q.text = "" := by
  cases h : p.parent? with
  | none =>
      refine ⟨0, p, rfl, h, ?_⟩
      have ha := isAbsolute_iff (p := p)
      rcases parent?_eq_none_iff.mp h with hc | hc
      · rw [if_neg (by simp [ha, hc])]
        exact components_eq_nil_iff.mp hc
      · rw [if_pos (by simp [ha, hc])]
        exact hc
  | some r =>
      obtain ⟨n, q, hq, hn, he⟩ := exists_last_above? r
      refine ⟨n + 1, q, by rw [above?, h]; exact hq, hn, ?_⟩
      rwa [isAbsolute_parent? h] at he
termination_by p.text.length
decreasing_by exact parent?_length_lt h

end Tokenizer.Path
