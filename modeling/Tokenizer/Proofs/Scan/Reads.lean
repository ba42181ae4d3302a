import Mathlib.Data.List.Basic
import Tokenizer.Scan
import Tokenizer.Proofs.Text.Run

/-!
# What a scan reads

A scan *reads* a text as a result when it takes exactly this text off the head of any longer one
(`Reads`), and it *refuses* a text when it fails on every text that starts with it (`Refuses`).  Both
go along with the ways in which scans are put together, so that a reader of printed text is shown to
read it by following the printer.

* `Reads.bind`, `Reads.orElse_left`, `Reads.orElse_right`: one scan after the other, and one scan or
  else the other.
* `Reads.repeated_bind`: a scan as often as it is there reads one printed item after the other, up to
  a text that it refuses.
-/

namespace Tokenizer.Scan

variable {α β : Type} {p q : Scan α} {s t : List Char} {a : α} {b : β}

/-- `p` takes `s` off the head of any text and comes to `a`. -/
def Reads (p : Scan α) (s : List Char) (a : α) : Prop :=
  ∀ r, p (s ++ r) = some (a, r)

/-- `p` fails on every text that starts with `s`. -/
def Refuses (p : Scan α) (s : List Char) : Prop :=
  ∀ r, p (s ++ r) = none

/-! ### One scan after the other -/

theorem bind_apply (p : Scan α) (f : α → Scan β) (s : List Char) :
    (p >>= f) s = (p s).bind fun x => f x.1 x.2 := rfl

theorem Reads.pure (a : α) : Reads (pure a) [] a :=
  fun _ => rfl

theorem Reads.bind {f : α → Scan β} (hp : Reads p s a) (hf : Reads (f a) t b) :
    Reads (p >>= f) (s ++ t) b := by
  intro r
  rw [bind_apply, List.append_assoc, hp]
  exact hf r

/-- A scan that reads a text, and then nothing more than a result. -/
theorem Reads.bind_pure {f : α → β} (hp : Reads p s a) :
    Reads (do return f (← p)) s (f a) := by
  simpa using hp.bind (f := fun a => Pure.pure (f a)) (Reads.pure (f a))

theorem guard_of {c : Prop} [Decidable c] (h : c) : (guard c : Scan Unit) = Pure.pure () :=
  if_pos h

theorem Reads.guard_bind {c : Prop} [Decidable c] {q : Unit → Scan α} (h : c)
    (hq : Reads (q ()) s a) : Reads (guard c >>= q) s a := by
  rw [guard_of h, pure_bind]
  exact hq

theorem Reads.map (f : α → β) (hp : Reads p s a) : Reads (f <$> p) s (f a) := by
  rw [← bind_pure_comp]
  exact hp.bind_pure

theorem Reads.seqRight {q : Scan β} (hp : Reads p s a) (hq : Reads q t b) :
    Reads (p *> q) (s ++ t) b := by
  rw [seqRight_eq_bind]
  exact hp.bind hq

theorem Refuses.bind {f : α → Scan β} (hp : Refuses p s) : Refuses (p >>= f) s := by
  intro r
  rw [bind_apply, hp]
  rfl

/-- A scan that reads a text, and then one that refuses what comes next. -/
theorem Reads.bind_refuses {f : α → Scan β} (hp : Reads p s a) (hf : Refuses (f a) t) :
    Refuses (p >>= f) (s ++ t) := by
  intro r
  rw [bind_apply, List.append_assoc, hp]
  exact hf r

theorem Refuses.map (f : α → β) (hp : Refuses p s) : Refuses (f <$> p) s := by
  rw [← bind_pure_comp]
  exact hp.bind

theorem Refuses.seqRight {q : Scan β} (hp : Refuses p s) : Refuses (p *> q) s := by
  rw [seqRight_eq_bind]
  exact hp.bind

/-! ### One scan or else the other -/

theorem orElse_apply (p q : Scan α) (s : List Char) : (p <|> q) s = (p s <|> q s) := rfl

theorem Reads.orElse_left (hp : Reads p s a) : Reads (p <|> q) s a := by
  intro r
  rw [orElse_apply, hp]
  rfl

theorem Reads.orElse_right (hp : Refuses p s) (hq : Reads q s a) : Reads (p <|> q) s a := by
  intro r
  rw [orElse_apply, hp, hq]
  rfl

theorem Refuses.orElse (hp : Refuses p s) (hq : Refuses q s) : Refuses (p <|> q) s := by
  intro r
  rw [orElse_apply, hp, hq]
  rfl

/-! ### Characters -/

variable {d : Char → Bool} {c : Char}

theorem reads_char (hc : d c = true) : Reads (char d) [c] c :=
  fun _ => by simp [char, hc]

theorem refuses_char (hc : d c = false) (s : List Char) : Refuses (char d) (c :: s) :=
  fun _ => by simp [char, hc]

theorem reads_exactly (c : Char) : Reads (exactly c) [c] () :=
  Reads.map (fun _ => ()) (reads_char (by simp))

theorem refuses_exactly {x : Char} (hc : c ≠ x) (s : List Char) : Refuses (exactly x) (c :: s) :=
  Refuses.map (fun _ => ()) (refuses_char (by simpa using hc) s)

/-- The longest run of characters of a class, up to a character that is not of it. -/
theorem run_append (hs : ∀ x ∈ s, d x = true) (ht : ∀ x ∈ t.head?, d x = false) :
    run d (s ++ t) = some (s, t) := by
  rw [run, Text.takeWhile_append_eq_left hs ht, Text.dropWhile_append_eq_right hs ht]

theorem head?_cons_append (hc : d c = false) (r : List Char) :
    ∀ x ∈ (c :: t ++ r).head?, d x = false := by
  intro x hx
  obtain rfl : c = x := Option.some.inj hx
  exact hc

theorem Reads.run_bind {f : List Char → Scan β} (hs : ∀ x ∈ s, d x = true) (hc : d c = false)
    (hf : Reads (f s) (c :: t) b) : Reads (run d >>= f) (s ++ c :: t) b := by
  intro r
  rw [bind_apply, List.append_assoc, run_append hs (head?_cons_append hc r)]
  exact hf r

theorem Refuses.run_bind {f : List Char → Scan β} (hs : ∀ x ∈ s, d x = true) (hc : d c = false)
    (hf : Refuses (f s) (c :: t)) : Refuses (run d >>= f) (s ++ c :: t) := by
  intro r
  rw [bind_apply, List.append_assoc, run_append hs (head?_cons_append hc r)]
  exact hf r

theorem Reads.run₁_bind {f : List Char → Scan β} (hs : ∀ x ∈ s, d x = true) (hne : s ≠ [])
    (hc : d c = false) (hf : Reads (f s) (c :: t) b) : Reads (run₁ d >>= f) (s ++ c :: t) b := by
  intro r
  have h : run₁ d (s ++ (c :: t ++ r)) = some (s, c :: t ++ r) := by
    rw [run₁, bind_apply, run_append hs (head?_cons_append hc r), Option.bind_some,
      guard_of (by simpa using hne), pure_bind]
    rfl
  rw [bind_apply, List.append_assoc, h]
  exact hf r

/-- What a scan comes to on a whole text, if another agrees with what it leaves. -/
theorem run'_seqLeft {q : Scan β} {r : List Char} (hp : p s = some (a, t))
    (hq : q t = some (b, r)) : (p <* q).run' s = some a := by
  change Functor.map Prod.fst ((p <* q) s) = some a
  rw [seqLeft_eq_bind, bind_apply, hp, Option.bind_some, bind_apply, hq]
  rfl

/-! ### Repetition -/

section Repetition

variable {δ : Type} {xs : List δ} {print : δ → List Char} {g : δ → α} {r : List Char}

theorem within_append (h : ∀ x ∈ xs, Reads p (print x) (g x)) (hr : p r = none) :
    ∀ bound : List Char, xs.length ≤ bound.length →
      p.within bound (xs.flatMap print ++ r) = some (xs.map g, r) := by
  induction xs with
  | nil =>
      intro bound _
      cases bound with
      | nil => rfl
      | cons _ bound =>
          rw [within, orElse_apply, bind_apply, List.flatMap_nil, List.nil_append, hr]
          rfl
  | cons x xs ih =>
      intro bound hb
      cases bound with
      | nil => cases hb
      | cons _ bound =>
          have ih' := ih (fun y hy => h y (List.mem_cons_of_mem x hy)) bound
            (Nat.le_of_succ_le_succ hb)
          rw [within, orElse_apply, bind_apply, List.flatMap_cons, List.append_assoc,
            h x List.mem_cons_self, Option.bind_some, bind_apply, ih']
          rfl

/-- A scan as often as it is there, up to where it fails. -/
theorem repeated_append (h : ∀ x ∈ xs, Reads p (print x) (g x)) (hne : ∀ x ∈ xs, print x ≠ [])
    (hr : p r = none) : p.repeated (xs.flatMap print ++ r) = some (xs.map g, r) := by
  refine within_append h hr _ ?_
  rw [List.length_append, List.length_flatMap]
  have : xs.length ≤ (xs.map fun x => (print x).length).sum := by
    clear h
    induction xs with
    | nil => exact Nat.le_refl _
    | cons x xs ih =>
        have hx := List.length_pos_iff.mpr (hne x List.mem_cons_self)
        have := ih fun y hy => hne y (List.mem_cons_of_mem x hy)
        rw [List.length_cons, List.map_cons, List.sum_cons]
        omega
  exact Nat.le_add_right_of_le this

theorem Reads.repeated_bind {f : List α → Scan β} (h : ∀ x ∈ xs, Reads p (print x) (g x))
    (hne : ∀ x ∈ xs, print x ≠ []) (ht : Refuses p t) (hf : Reads (f (xs.map g)) t b) :
    Reads (p.repeated >>= f) (xs.flatMap print ++ t) b := by
  intro r
  rw [bind_apply, List.append_assoc, repeated_append h hne (ht r)]
  exact hf r

/-- A first item, and then items with a separator in front, as often as they are there. -/
theorem Reads.separated_bind {separator : Scan Unit} {other : Scan (List α)} {x : δ}
    {first : List Char} {f : List α → Scan β} (hx : Reads p first (g x))
    (h : ∀ y ∈ xs, Reads (separator *> p) (print y) (g y)) (hne : ∀ y ∈ xs, print y ≠ [])
    (ht : Refuses (separator *> p) t) (hf : Reads (f ((x :: xs).map g)) t b) :
    Reads ((p.separated separator <|> other) >>= f) (first ++ (xs.flatMap print ++ t)) b := by
  intro r
  rw [bind_apply, orElse_apply, separated, bind_apply, List.append_assoc, hx, Option.bind_some,
    bind_apply, List.append_assoc, repeated_append h hne (ht r)]
  exact hf r

end Repetition

end Tokenizer.Scan
