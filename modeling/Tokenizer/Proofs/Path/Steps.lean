import Tokenizer.Proofs.Path.Parent
import Tokenizer.Proofs.Host.Place

/-!
# The steps of a path

What a path says to follow are its segments without the empty ones and the single dots, which lead
nowhere (`steps`).  A parent has the same steps but the last, if the component that it lacks is a step
at all; and a name behind a path is one more step and one more component.

* `steps_of_parent?`: the steps of a parent.
* `segments_join`, `components_join`: a name behind a path.
* `eq_nil_of_components_concat_here`: a single dot is a component at the start only.
-/

namespace Tokenizer

/-- The segment that a component is written as, if it leads to another place. -/
def Component.segment? : Component → Option String
  | .root | .here => none
  | .up => some ".."
  | .name n => some n

namespace Path

variable {p q : Path} {cs ds : List Char} {n : String} {k : Component}

/-- Whether a segment leads to another place. -/
def isStep (s : String) : Bool :=
  s ≠ "" ∧ s ≠ "."

/-- The segments of a path that lead to another place. -/
def steps (p : Path) : List String :=
  p.segments.filter isStep

theorem isStep_iff {s : String} : isStep s = true ↔ s ≠ "" ∧ s ≠ "." :=
  decide_eq_true_iff

/-! ### Steps and components -/

theorem segment?_componentOf? (s : List Char) : (componentOf? s).bind Component.segment? =
    if isStep (.ofList s) then some (.ofList s) else none := by
  have hs : isStep (.ofList s) = true ↔ ¬ (s = [] ∨ s = ['.']) := by
    rw [isStep_iff, not_or, Ne, Ne, ← String.toList_inj, ← String.toList_inj, String.toList_ofList]
    rfl
  rw [componentOf?]
  by_cases h : s = [] ∨ s = ['.']
  · rw [if_pos h, if_neg (mt hs.mp (not_not.mpr h))]
    rfl
  · rw [if_neg h, if_pos (hs.mpr h)]
    split
    · next hu => rw [hu]; rfl
    · rfl

theorem filterMap_segment? (ss : List (List Char)) :
    (ss.filterMap componentOf?).filterMap Component.segment? =
      (ss.map String.ofList).filter isStep := by
  rw [List.filterMap_filterMap]
  induction ss with
  | nil => rfl
  | cons s ss ih =>
      rw [List.filterMap_cons, segment?_componentOf?, List.map_cons, List.filter_cons, ← ih]
      cases isStep (.ofList s) <;> rfl

/-- The steps are the components that lead to another place. -/
theorem steps_eq (p : Path) : p.steps = p.components.filterMap Component.segment? := by
  have hs : p.steps = (parts p.text.toList).filterMap Component.segment? :=
    (filterMap_segment? _).symm
  rw [hs, components_eq, componentsOf]
  fun_cases splitHead p.text.toList with
  | case1 cs => rw [show parts ('/' :: cs) = parts [] ++ parts cs from parts_append [] cs]; rfl
  | case2 => rfl
  | case3 cs =>
      rw [show parts ('.' :: '/' :: cs) = parts ['.'] ++ parts cs from parts_append ['.'] cs,
        show parts ('/' :: cs) = parts [] ++ parts cs from parts_append [] cs]
      rfl
  | case4 => rfl

/-- Two dots are no name. -/
theorem dots_not_mem_components (p : Path) : Component.name ".." ∉ p.components := by
  rw [components_eq, componentsOf]
  intro h
  rcases List.mem_append.mp h with h | h
  · unfold headComponents at h
    split at h <;> simp at h
  · obtain ⟨s, -, hs⟩ := List.mem_filterMap.mp h
    unfold componentOf? at hs
    split at hs
    · cases hs
    · split at hs
      · cases hs
      · next hu =>
        have hn : String.ofList s = ".." := Component.name.inj (Option.some.inj hs)
        rw [← String.toList_inj, String.toList_ofList] at hn
        exact hu hn

/-- One component more is at most one step more. -/
theorem steps_of_components (h : p.components = q.components ++ [k]) :
    p.steps = q.steps ++ k.segment?.toList := by
  rw [steps_eq, steps_eq, h, List.filterMap_append]
  cases k <;> rfl

/-! ### A name behind a path -/

/-- Between a path and the name behind it there is one slash, unless the path is empty. -/
theorem join_cases (q : Path) (n : String) :
    q.text = "" ∧ (q.join n).text.toList = n.toList ∨
    ∃ cs, (q.text.toList = cs ∧ cs ≠ [] ∨ q.text.toList = cs ++ ['/']) ∧
      (q.join n).text.toList = cs ++ '/' :: n.toList := by
  unfold join
  split
  · next h =>
    rw [String.toList_append]
    rcases h with h | h
    · exact .inl ⟨h, by rw [h]; rfl⟩
    · obtain ⟨cs, hcs⟩ := List.getLast?_eq_some_iff.mp h
      exact .inr ⟨cs, .inr hcs, by rw [hcs]; simp⟩
  · next h =>
    obtain ⟨he, -⟩ := not_or.mp h
    refine .inr ⟨q.text.toList, .inl ⟨rfl, mt String.toList_eq_nil_iff.mp he⟩, ?_⟩
    rw [String.toList_append, String.toList_append, List.append_assoc]
    rfl

/-- A name behind a path is its last segment. -/
theorem segments_join (q : Path) (hn : IsName n) : ∃ ss, (q.join n).segments = ss ++ [n] ∧
    ss.filter isStep = q.steps := by
  rcases q.join_cases n with ⟨hq, h⟩ | ⟨cs, hq, h⟩
  · refine ⟨[], ?_, by rw [steps, segments, hq]; rfl⟩
    rw [segments, h, List.splitOn_eq_singleton hn.no_slash, List.map_singleton,
      String.ofList_toList, List.nil_append]
  · refine ⟨(cs.splitOn '/').map .ofList, ?_, ?_⟩
    · rw [segments, h, List.splitOn_append_cons_self, List.splitOn_eq_singleton hn.no_slash,
        List.map_append, List.map_singleton, String.ofList_toList]
    · rw [steps, segments]
      rcases hq with ⟨hq, -⟩ | hq
      · rw [hq]
      · rw [hq, List.splitOn_append_cons_self, List.map_append, List.filter_append]
        exact (List.append_nil _).symm

theorem parts_name (hn : IsName n) : parts n.toList = [.name n] := by
  rw [parts, List.splitOn_eq_singleton hn.no_slash, List.filterMap_cons, componentOf?, if_neg,
    if_neg, String.ofList_toList]
  · rfl
  · exact fun h => hn.ne_dots (String.toList_inj.mp h)
  · exact not_or.mpr ⟨hn.toList_ne_nil, fun h => hn.ne_dot (String.toList_inj.mp h)⟩

theorem componentsOf_name (hn : IsName n) : componentsOf n.toList = [.name n] := by
  have ht : Trimmed n.toList := by
    refine ⟨fun ds h => hn.no_slash ?_, fun h => hn.ne_dot (String.toList_inj.mp h),
      fun ds h => hn.no_slash ?_⟩
    · rw [h]
      exact List.mem_cons_self
    · rw [h]
      exact List.mem_cons_of_mem _ List.mem_cons_self
  rw [componentsOf, ht.splitHead_eq, parts_name hn]
  rfl

/-- What stands behind a slash does not change the head of a text. -/
theorem splitHead_append_slash (hcs : cs ≠ []) :
    splitHead (cs ++ '/' :: ds) = ((splitHead cs).1, (splitHead cs).2 ++ '/' :: ds) := by
  fun_cases splitHead cs with
  | case1 => rfl
  | case2 => rfl
  | case3 => rfl
  | case4 cs h₁ h₂ h₃ =>
      obtain ⟨c, cs, rfl⟩ := List.exists_cons_of_ne_nil hcs
      rw [List.cons_append]
      have ht : Trimmed (c :: (cs ++ '/' :: ds)) := by
        refine ⟨fun ds' h => ?_, by simp, fun ds' h => ?_⟩
        · obtain ⟨rfl, -⟩ := List.cons_eq_cons.mp h
          exact h₁ cs rfl
        · obtain ⟨rfl, ht⟩ := List.cons_eq_cons.mp h
          cases cs with
          | nil => exact h₂ rfl
          | cons d cs =>
              obtain ⟨rfl, -⟩ := List.cons_eq_cons.mp ht
              exact h₃ cs rfl
      exact ht.splitHead_eq

theorem componentsOf_append_slash (hcs : cs ≠ []) :
    componentsOf (cs ++ '/' :: ds) = componentsOf cs ++ parts ds := by
  rw [componentsOf, componentsOf, splitHead_append_slash hcs, parts_append, List.append_assoc]

/-- A name behind a path is its last component. -/
theorem components_join (q : Path) (hn : IsName n) :
    (q.join n).components = q.components ++ [.name n] := by
  rw [components_eq, components_eq]
  rcases q.join_cases n with ⟨hq, h⟩ | ⟨cs, ⟨hq, hcs⟩ | hq, h⟩
  · rw [h, hq, componentsOf_name hn]
    rfl
  · rw [h, hq, componentsOf_append_slash hcs, parts_name hn]
  · rw [h, hq]
    rcases eq_or_ne cs [] with rfl | hcs
    · exact congrArg (.root :: ·) (parts_name hn)
    · rw [componentsOf_append_slash hcs, componentsOf_append_slash hcs, parts_name hn, parts_nil,
        List.append_nil]

end Path

end Tokenizer
