import Mathlib.Data.List.Basic
import Tokenizer.Host.FileTree
import Tokenizer.Proofs.Text.Run

/-!
# Paths to places

The path to a place has a slash before each name, and what is done with it as a text can be seen on
the names, as long as these are names that a file may have (`IsName`).

* `segments_path_concat`: between the slashes there are the names.
* `join_path`: another name behind the path leads to the entry of that name.
* `parent?_path_concat`: the parent of the path is the path to the place above.
-/

namespace Tokenizer

/-- A name that a file may have. -/
structure IsName (n : String) : Prop where
  ne_empty : n ≠ ""
  ne_dot : n ≠ "."
  ne_dots : n ≠ ".."
  no_slash : '/' ∉ n.toList
  no_nul : '\x00' ∉ n.toList
  short : n.utf8ByteSize ≤ FileTree.longestName

instance (n : String) : Decidable (IsName n) :=
  decidable_of_iff (n ≠ "" ∧ n ≠ "." ∧ n ≠ ".." ∧ '/' ∉ n.toList ∧ '\x00' ∉ n.toList ∧
    n.utf8ByteSize ≤ FileTree.longestName)
    ⟨fun ⟨h₁, h₂, h₃, h₄, h₅, h₆⟩ => ⟨h₁, h₂, h₃, h₄, h₅, h₆⟩,
      fun ⟨h₁, h₂, h₃, h₄, h₅, h₆⟩ => ⟨h₁, h₂, h₃, h₄, h₅, h₆⟩⟩

theorem IsName.toList_ne_nil {n : String} (h : IsName n) : n.toList ≠ [] := by
  simpa using h.ne_empty

namespace Location

variable {l : Location} {n : String}

/-! ### The characters of a path -/

/-- The names on the way to a place, with a slash before each. -/
def chars (l : Location) : List Char :=
  l.flatMap fun n => '/' :: n.toList

theorem chars_concat (l : Location) (n : String) :
    chars (l ++ [n]) = chars l ++ '/' :: n.toList := by
  simp [chars]

theorem toList_path_cons (n : String) (l : Location) :
    (path (n :: l)).text.toList = chars (n :: l) := by
  simp [path, chars, Text.intercalate_cons, List.flatMap_map]

theorem toList_path_concat (l : Location) (n : String) :
    (path (l ++ [n])).text.toList = chars l ++ '/' :: n.toList := by
  rw [← chars_concat]
  cases l with
  | nil => exact toList_path_cons n []
  | cons m l => exact toList_path_cons m (l ++ [n])

theorem mem_chars {c : Char} (h : c ∈ chars l) : c = '/' ∨ ∃ n ∈ l, c ∈ n.toList := by
  obtain ⟨n, hn, hc⟩ := List.mem_flatMap.mp h
  exact (List.mem_cons.mp hc).imp id fun hc => ⟨n, hn, hc⟩

/-- Between the slashes of a path there are the names, behind a first slash with nothing before it. -/
theorem splitOn_chars (hl : ∀ m ∈ l, IsName m) {cs : List Char} (hcs : '/' ∉ cs) :
    (cs ++ chars l).splitOn '/' = cs :: l.map String.toList := by
  induction l generalizing cs with
  | nil => rw [chars, List.flatMap_nil, List.append_nil, List.splitOn_eq_singleton hcs, List.map_nil]
  | cons m l ih =>
      obtain ⟨hm, hl⟩ := List.forall_mem_cons.mp hl
      rw [List.map_cons, ← ih hl hm.no_slash, ← List.splitOn_append_cons_self_of_not_mem hcs]
      rfl

theorem segments_path_concat (hl : ∀ m ∈ l, IsName m) (hn : IsName n) :
    (path (l ++ [n])).segments = "" :: (l ++ [n]) := by
  have h : ([] ++ chars (l ++ [n])).splitOn '/' = [] :: (l ++ [n]).map String.toList :=
    splitOn_chars (by simpa [or_imp, forall_and] using ⟨hl, hn⟩) (by simp)
  rw [Path.segments, toList_path_concat, ← chars_concat, ← List.nil_append (chars _), h]
  simp

theorem isAbsolute_path_concat (l : Location) (n : String) : (path (l ++ [n])).isAbsolute = true := by
  rw [Path.isAbsolute, toList_path_concat]
  cases l <;> rfl

/-! ### Entries -/

theorem getLast?_path_concat (h : IsName n) :
    (path (l ++ [n])).text.toList.getLast? ≠ some '/' := by
  rw [toList_path_concat, List.getLast?_append_of_ne_nil _ (List.cons_ne_nil _ _),
    List.getLast?_cons_of_ne_nil h.toList_ne_nil]
  exact fun hl => h.no_slash (List.mem_of_getLast? hl)

/-- A name behind the path to a place, which ends in a slash only if the place is the root. -/
theorem join_path (hl : ∀ m ∈ l, IsName m) (n : String) : (path l).join n = path (l ++ [n]) := by
  rcases List.eq_nil_or_concat' l with rfl | ⟨l, m, rfl⟩
  · rfl
  · have hs : ¬ ((path (l ++ [m])).text = "" ∨ (path (l ++ [m])).text.toList.getLast? = some '/') := by
      refine not_or.mpr ⟨fun h => ?_, getLast?_path_concat (hl m (by simp))⟩
      have := toList_path_concat l m
      simp [h] at this
    rw [Path.join, if_neg hs, Path.mk.injEq, ← String.toList_inj, String.toList_append,
      String.toList_append, toList_path_concat, toList_path_concat, chars_concat]
    simp

/-! ### Parents -/

/-- A name keeps what stands before it from being trimmed. -/
theorem trimReversed_name (h : IsName n) {rest : List Char} (hr : ∀ c ∈ rest.head?, c = '/') :
    Path.trimReversed (n.toList.reverse ++ rest) = n.toList.reverse ++ rest := by
  have hs : ∀ c ∈ n.toList.reverse, c ≠ '/' := by
    rintro c hc rfl
    exact h.no_slash (List.mem_reverse.mp hc)
  have hd : n.toList.reverse ≠ ['.'] := fun hd => h.ne_dot (by
    rw [← String.toList_inj, ← List.reverse_reverse n.toList, hd]
    rfl)
  obtain ⟨c, cs, hc⟩ := List.exists_cons_of_ne_nil (List.reverse_ne_nil_iff.mpr h.toList_ne_nil)
  rw [hc] at hs hd ⊢
  rw [List.cons_append, Path.trimReversed.eq_def]
  split
  · next e =>
      cases e
      exact absurd rfl (hs _ List.mem_cons_self)
  -- a dot is trimmed only if it is the whole name
  · next e =>
      cases cs with
      | nil => cases e; exact absurd rfl hd
      | cons d cs =>
          cases e
          exact absurd rfl (hs _ (List.mem_cons_of_mem _ List.mem_cons_self))
  · next e =>
      cases cs with
      | nil => cases e; exact absurd rfl hd
      | cons d cs => cases e
  · rfl

/-- The parent of a path from the root that ends in a name. -/
theorem parentChars?_name (h : IsName n) {b : List Char} (hb : ∀ c ∈ b.getLast?, c = '/') :
    Path.parentChars? ('/' :: (b ++ n.toList)) =
      some ('/' :: (Path.trimReversed b.reverse).reverse) := by
  have hr : ∀ c ∈ b.reverse.head?, c = '/' := by simpa using hb
  have hd : (n.toList.reverse ++ b.reverse).dropWhile (· != '/') = b.reverse := by
    refine Text.dropWhile_append_eq_right (fun c hc => ?_) fun c hc => by simp [hr c hc]
    rw [bne_iff_ne]
    rintro rfl
    exact h.no_slash (List.mem_reverse.mp hc)
  obtain ⟨c, cs, hc⟩ := List.exists_cons_of_ne_nil
    (List.append_ne_nil_of_left_ne_nil (List.reverse_ne_nil_iff.mpr h.toList_ne_nil) b.reverse)
  simp only [Path.parentChars?, Path.splitHead, List.reverse_append, trimReversed_name h hr]
  rw [hc] at hd ⊢
  simp only [hd]
  rfl

theorem parent?_path_nil : (path []).parent? = none := by
  decide

/-- Behind the slash at its start there is nothing to trim at the end of a path to a name. -/
theorem exists_chars_concat (l : Location) (h : IsName n) :
    ∃ b, chars (l ++ [n]) = '/' :: b ∧ Path.trimReversed b.reverse = b.reverse := by
  cases l with
  | nil =>
      have ht : Path.trimReversed (n.toList.reverse ++ []) = n.toList.reverse ++ [] :=
        trimReversed_name h (by simp)
      exact ⟨n.toList, by simp [chars], by simpa using ht⟩
  | cons m l =>
      refine ⟨m.toList ++ chars l ++ ['/'] ++ n.toList, by simp [chars], ?_⟩
      rw [List.reverse_append]
      exact trimReversed_name h (by simp)

/-- The path to the place above. -/
theorem parent?_path_concat (hl : ∀ m ∈ l, IsName m) (hn : IsName n) :
    (path (l ++ [n])).parent? = some (path l) := by
  rw [Path.parent?, toList_path_concat]
  rcases List.eq_nil_or_concat' l with rfl | ⟨l, m, rfl⟩
  · rw [show chars [] ++ '/' :: n.toList = '/' :: ([] ++ n.toList) from rfl,
      parentChars?_name hn (by simp)]
    rfl
  · obtain ⟨b, hb, ht⟩ := exists_chars_concat l (hl m (by simp))
    have hp : (path (l ++ [m])).text.toList = '/' :: b := by
      rw [← hb, toList_path_concat, chars_concat]
    rw [hb, show '/' :: b ++ '/' :: n.toList = '/' :: ((b ++ ['/']) ++ n.toList) by simp,
      parentChars?_name hn (by simp), List.reverse_append]
    change some (Path.mk (.ofList ('/' :: (Path.trimReversed b.reverse).reverse))) = _
    rw [ht, List.reverse_reverse, ← hp, String.ofList_toList]

end Location

end Tokenizer
