import Tokenizer.Proofs.Settings.Search

/-!
# The candidates of a search

A search for a settings file looks at one candidate in the path where it starts and at one in each
parent of it, in this order, and takes the first that is a file.  Nothing is asked of the host here:
any path may be a file.

* `find?_eq_some_iff`, `find?_eq_none_iff`: what is found, and when nothing is.
* `find?_congr`: only the candidates up to the first match count.
* `firstMatch`: the search, and what is loaded from what it finds.
-/

namespace Tokenizer.Settings

variable {host host' : Host Id} {p c : Path} {n : Nat}

/-- The candidate in the path `n` parents above. -/
def candidate? (n : Nat) (p : Path) : Option Path :=
  (p.above? n).map (·.join fileName)

/-- A search comes to the candidate `c`, as no candidate before it is a file. -/
def Reaches (host : Host Id) (p c : Path) : Prop :=
  ∃ n, candidate? n p = some c ∧
    ∀ m < n, ∀ d, candidate? m p = some d → (host.isFile d).run = false

theorem candidate?_eq_some_iff : candidate? n p = some c ↔
    ∃ h : n < (p.ancestors.map (·.join fileName)).length,
      (p.ancestors.map (·.join fileName))[n] = c := by
  rw [← List.getElem?_eq_some_iff, List.getElem?_map, Path.getElem?_ancestors]
  rfl

/-! ### What is found -/

/-- The search finds the first candidate that is a file. -/
theorem find?_eq_some_iff :
    find? host p = some c ↔ Reaches host p c ∧ (host.isFile c).run = true := by
  rw [find?_eq_find?, List.find?_eq_some_iff_getElem]
  constructor
  · rintro ⟨hc, n, hn, he, hb⟩
    refine ⟨⟨n, candidate?_eq_some_iff.mpr ⟨hn, he⟩, fun m hm d hd => ?_⟩, hc⟩
    obtain ⟨_, rfl⟩ := candidate?_eq_some_iff.mp hd
    exact Bool.not_eq_true' _ |>.mp (hb m hm)
  · rintro ⟨⟨n, hn, hb⟩, hc⟩
    obtain ⟨hn, he⟩ := candidate?_eq_some_iff.mp hn
    refine ⟨hc, n, hn, he, fun m hm => ?_⟩
    rw [hb m hm _ (candidate?_eq_some_iff.mpr ⟨hm.trans hn, rfl⟩)]
    rfl

/-- The search finds nothing only if no candidate is a file. -/
theorem find?_eq_none_iff : find? host p = none ↔
    ∀ n c, candidate? n p = some c → (host.isFile c).run = false := by
  rw [find?_eq_find?, List.find?_eq_none]
  constructor
  · intro h n c hc
    obtain ⟨hn, rfl⟩ := candidate?_eq_some_iff.mp hc
    exact eq_false_of_ne_true (h _ (List.getElem_mem hn))
  · intro h c hc
    obtain ⟨n, hn, rfl⟩ := List.getElem_of_mem hc
    rw [h n _ (candidate?_eq_some_iff.mpr ⟨hn, rfl⟩)]
    exact Bool.false_ne_true

/-! ### What does not count -/

/-- Hosts that agree on the candidates that the search comes to lead it to the same candidates. -/
theorem reaches_congr (h : ∀ c, Reaches host p c → host'.isFile c = host.isFile c) :
    Reaches host' p c ↔ Reaches host p c := by
  constructor
  · rintro ⟨n, hc, hb⟩
    -- before the first candidate on which the hosts differ, they do not differ
    have hb' : ∀ m < n, ∀ d, candidate? m p = some d → (host.isFile d).run = false := by
      intro m
      induction m using Nat.strong_induction_on with
      | h m ih =>
          intro hm d hd
          rw [← h d ⟨m, hd, fun k hk => ih k hk (hk.trans hm)⟩]
          exact hb m hm d hd
    exact ⟨n, hc, hb'⟩
  · rintro ⟨n, hc, hb⟩
    refine ⟨n, hc, fun m hm d hd => ?_⟩
    rw [h d ⟨m, hd, fun k hk => hb k (hk.trans hm)⟩]
    exact hb m hm d hd

/-- Only the candidates up to the first match have a say in what is found. -/
theorem find?_congr (h : ∀ c, Reaches host p c → host'.isFile c = host.isFile c) :
    find? host' p = find? host p := by
  refine Option.ext fun c => ?_
  rw [find?_eq_some_iff, find?_eq_some_iff, reaches_congr h]
  exact and_congr_right fun hc => by rw [h c hc]

/-! ### What is loaded -/

theorem findAndLoad_of_some (h : find? host p = some c) : findAndLoad host p = load host c := by
  unfold findAndLoad
  rw [h]
  rfl

theorem findAndLoad_of_none (h : find? host p = none) :
    findAndLoad host p = .error (.notFound p) := by
  unfold findAndLoad
  rw [h]
  rfl

/-- Whatever is read from a file, it is not that there is none. -/
theorem load_ne_notFound (host : Host Id) (c p : Path) : load host c ≠ .error (.notFound p) := by
  rw [load_eq]
  split
  · next text _ =>
    rcases parse_cases text (some (c.parent?.getD ⟨"."⟩)) with ⟨s, hs, -⟩ | ⟨e, he, hne⟩
    · rw [hs]
      exact nofun
    · rw [he]
      exact fun h => hne p (Except.error.inj h)
  · exact nofun

/-- How a search from the path `p` goes, whatever the host holds to be a file. -/
structure FirstMatch (host : Host Id) (p : Path) : Prop where
  /-- Each parent on the way has a shorter text. -/
  shortens : ∀ n q r, p.above? n = some q → q.parent? = some r → r.text.length < q.text.length
  /-- What a parent lacks are components at the end, one for each step up. -/
  components : ∀ n q, p.above? n = some q → ∃ ks, p.components = q.components ++ ks ∧ ks.length = n
  /-- The way ends at the root or at the empty path. -/
  ends : ∃ n q, p.above? n = some q ∧ q.parent? = none ∧
    if p.isAbsolute then q.components = [.root] else q.text = ""
  /-- What is found is the first candidate that is a file. -/
  found : ∀ c, find? host p = some c ↔ Reaches host p c ∧ (host.isFile c).run = true
  /-- Nothing is found exactly if no candidate is a file, up to the last one. -/
  nothing : find? host p = none ↔ ∀ n c, candidate? n p = some c → (host.isFile c).run = false
  /-- That there is no file is reported exactly if nothing is found, and of the path `p`. -/
  notFound : ∀ q, findAndLoad host p = .error (.notFound q) ↔ find? host p = none ∧ q = p
  /-- What is found is loaded. -/
  loaded : ∀ c, find? host p = some c → findAndLoad host p = load host c
  /-- No other file has a say than the candidates up to the first match, and the match alone by what
  is in it. -/
  independent : ∀ host' : Host Id, (∀ c, Reaches host p c → host'.isFile c = host.isFile c) →
    (∀ c, find? host p = some c → host'.read c = host.read c) →
    findAndLoad host' p = findAndLoad host p

/-- **The search for a settings file.**  It ends for every path and every host, with the first candidate
that is a file or with the report that there is none. -/
theorem firstMatch (host : Host Id) (p : Path) : FirstMatch host p := by
  refine ⟨fun _ _ _ _ => Path.parent?_length_lt, fun _ _ => Path.components_of_above?,
    p.exists_last_above?, fun _ => find?_eq_some_iff, find?_eq_none_iff, fun q => ?_,
    fun _ => findAndLoad_of_some, fun host' hf hr => ?_⟩
  · cases h : find? host p with
    | none =>
        rw [findAndLoad_of_none h]
        exact ⟨fun e => ⟨rfl, by cases e; rfl⟩, fun ⟨_, e⟩ => by rw [e]⟩
    | some c =>
        rw [findAndLoad_of_some h]
        exact iff_of_false (load_ne_notFound host c q) nofun
  · have hc := find?_congr hf
    cases h : find? host p with
    | none => rw [findAndLoad_of_none h, findAndLoad_of_none (hc.trans h)]
    | some c =>
        rw [findAndLoad_of_some h, findAndLoad_of_some (hc.trans h), load_eq, load_eq, hr c h]

end Tokenizer.Settings
