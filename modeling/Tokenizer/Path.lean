/-!
# Paths

A path is a text. Its parent is found in the text alone, without a look at any directory: what is cut
off is the last component, with the slashes before it and the single dots among them. A component
`..` is cut off like any other.

* `Path.parent?_length_lt`: a parent's text is shorter than the path's, so that the list of
  `Path.ancestors` ends.
-/

namespace Tokenizer

/-- The name of a place in a file tree. -/
structure Path where
  text : String
deriving DecidableEq

/-- A part of a path. -/
inductive Component
  | root
  | here
  | up
  | name (n : String)
deriving DecidableEq

namespace Path

/-- The path of an entry in the directory `p`. -/
def join (p : Path) (name : String) : Path :=
  ⟨if p.text = "" ∨ p.text.toList.getLast? = some '/' then p.text ++ name
    else p.text ++ "/" ++ name⟩

/-! ### Parts -/

/-- Whether a path starts at the root. -/
def isAbsolute (p : Path) : Bool :=
  p.text.toList.head? == some '/'

/-- What stands between the slashes of a path, empty texts included. -/
def segments (p : Path) : List String :=
  (p.text.toList.splitOn '/').map String.ofList

/-- The head of a path, a slash or a single dot as its first segment, and what follows it. -/
def splitHead : List Char → List Char × List Char
  | '/' :: cs => (['/'], cs)
  | ['.'] => (['.'], [])
  | '.' :: '/' :: cs => (['.'], '/' :: cs)
  | cs => ([], cs)

/-- The part that a segment behind the head stands for, if it stands for one. -/
def componentOf? (segment : List Char) : Option Component :=
  if segment = [] ∨ segment = ['.'] then none
  else if segment = ['.', '.'] then some .up
  else some (.name (.ofList segment))

/-- The parts of a path: repeated slashes count once, and single dots only at the start. -/
def components (p : Path) : List Component :=
  let (head, body) := splitHead p.text.toList
  (match head with
    | ['/'] => [.root]
    | ['.'] => [.here]
    | _ => []) ++ (body.splitOn '/').filterMap componentOf?

/-- Whether a path has the same parts as the path `-`. -/
def isDash (p : Path) : Bool :=
  p.components == [.name "-"]

/-! ### Parents -/

/-- A text from its last character to its first, without the slashes and single dots at its end. -/
def trimReversed : List Char → List Char
  | '/' :: cs => trimReversed cs
  | '.' :: '/' :: cs => trimReversed cs
  | ['.'] => []
  | cs => cs

/-- The parent of a path, as characters. -/
def parentChars? (cs : List Char) : Option (List Char) :=
  let (head, body) := splitHead cs
  match trimReversed body.reverse with
  | [] => if head = ['.'] then some [] else none
  | last => some (head ++ (trimReversed (last.dropWhile (· != '/'))).reverse)

/-- The path without its last component. The root and the empty path have no parent. -/
def parent? (p : Path) : Option Path :=
  (parentChars? p.text.toList).map fun cs => ⟨.ofList cs⟩

theorem length_splitHead (cs : List Char) :
    (splitHead cs).1.length + (splitHead cs).2.length = cs.length := by
  fun_cases splitHead cs <;> simp <;> omega

theorem length_trimReversed_le (cs : List Char) : (trimReversed cs).length ≤ cs.length := by
  fun_induction trimReversed cs <;> simp_all <;> omega

theorem head?_trimReversed (cs : List Char) : (trimReversed cs).head? ≠ some '/' := by
  fun_induction trimReversed cs with
  | case1 cs ih => exact ih
  | case2 cs ih => exact ih
  | case3 => simp
  | case4 cs h => cases cs <;> simp_all

theorem length_parentChars?_lt {cs ds : List Char} (h : parentChars? cs = some ds) :
    ds.length < cs.length := by
  have hl := length_splitHead cs
  have hs := head?_trimReversed (splitHead cs).2.reverse
  have ht := length_trimReversed_le (splitHead cs).2.reverse
  unfold parentChars? at h
  simp only at h
  split at h
  · split at h
    · next hd => rw [hd] at hl; cases h; simp at hl ⊢; omega
    · cases h
  · cases hr : trimReversed (splitHead cs).2.reverse with
    | nil => contradiction
    | cons c rest =>
      rw [hr] at h hs ht
      have hc : (c != '/') = true := by simpa using hs
      have hd := (List.dropWhile_sublist (· != '/') : (rest.dropWhile (· != '/')).Sublist rest).length_le
      have := length_trimReversed_le (rest.dropWhile (· != '/'))
      rw [List.dropWhile_cons, if_pos hc] at h
      cases h
      simp at ht ⊢
      omega

/-- A parent's text is shorter than the path's. -/
theorem parent?_length_lt {p q : Path} (h : p.parent? = some q) :
    q.text.length < p.text.length := by
  obtain ⟨cs, hcs, rfl⟩ := Option.map_eq_some_iff.1 h
  simpa [← String.length_toList] using length_parentChars?_lt hcs

/-- A path and its parents, from the path up. -/
def ancestors (p : Path) : List Path :=
  p ::
    match _ : p.parent? with
    | some q => q.ancestors
    | none => []
termination_by p.text.length
decreasing_by exact parent?_length_lt ‹_›

end Path

end Tokenizer
