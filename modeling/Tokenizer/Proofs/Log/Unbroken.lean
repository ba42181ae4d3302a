import Tokenizer.Log.Filter

/-!
# Filters that are never cut inside a character

A directive is read from its text without the white space at the ends, while its parts are cut from
the text as it was given.  The two are out of step by the white space in front; nothing comes of that
if there is none, or if all characters are single bytes.

The reader of a directive is *aligned* when every place ahead of it is one between two characters of
the given text (`Aligned`).  Each of its steps keeps it aligned and cuts no character (`Unbroken`).

* `Filter.parse_ne_brokenCharacter`: such a filter is read or refused, and breaks nothing off.
-/

namespace Tokenizer.Log

variable {given cs : List Char} {α β : Type}

/-! ### Cuts -/

/-- The bytes up to `n` are whole characters. -/
def IsCut (cs : List Char) (n : Nat) : Prop :=
  ∃ before after, cs = before ++ after ∧ byteCount before = n

theorem foldl_utf8Size (cs : List Char) (n : Nat) :
    cs.foldl (fun n c => n + c.utf8Size) n = n + byteCount cs := by
  induction cs generalizing n with
  | nil => rfl
  | cons c cs ih => rw [byteCount, List.foldl_cons, List.foldl_cons, ih, ih]; omega

@[simp] theorem byteCount_nil : byteCount [] = 0 :=
  rfl

@[simp] theorem byteCount_cons (c : Char) (cs : List Char) :
    byteCount (c :: cs) = c.utf8Size + byteCount cs := by
  rw [byteCount, List.foldl_cons, foldl_utf8Size, Nat.zero_add]

@[simp] theorem byteCount_append (as bs : List Char) :
    byteCount (as ++ bs) = byteCount as + byteCount bs := by
  rw [byteCount, List.foldl_append, foldl_utf8Size]
  rfl

theorem splitAtByte_append (as bs : List Char) :
    splitAtByte (as ++ bs) (byteCount as) = .ok (as, bs) := by
  induction as with
  | nil => rw [byteCount_nil, List.nil_append, splitAtByte]
  | cons c as ih =>
      have hc := c.utf8Size_pos
      rw [byteCount_cons, List.cons_append, splitAtByte]
      · rw [if_neg (by omega), Nat.add_sub_cancel_left, ih]
        rfl
      · omega

/-- Of two cuts, the earlier one is in front of the later one. -/
theorem exists_append_of_byteCount_le {as bs as' bs' : List Char} (he : as ++ bs = as' ++ bs')
    (hle : byteCount as ≤ byteCount as') : ∃ ms, as' = as ++ ms ∧ bs = ms ++ bs' := by
  rcases List.append_eq_append_iff.mp he with ⟨ms, h, h'⟩ | ⟨ms, rfl, rfl⟩
  · exact ⟨ms, h, h'⟩
  · cases ms with
    | nil => exact ⟨[], by simp⟩
    | cons c ms =>
        have hc := c.utf8Size_pos
        simp at hle
        omega

theorem slice_eq_ok {start stop : Nat} (h : IsCut cs start) (h' : IsCut cs stop)
    (hle : start ≤ stop) : ∃ part, slice cs start stop = .ok part := by
  obtain ⟨as, bs, rfl, rfl⟩ := h
  obtain ⟨as', bs', he, rfl⟩ := h'
  obtain ⟨ms, rfl, rfl⟩ := exists_append_of_byteCount_le he hle
  refine ⟨ms, ?_⟩
  simp only [slice, splitAtByte_append, byteCount_append, Nat.add_sub_cancel_left, bind, Except.bind,
    pure, Except.pure]

/-! ### Aligned readers -/

/-- Every place ahead is one between two characters of the given text. -/
def Aligned (given : List Char) (p : Progress) : Prop :=
  ∀ n, IsCut given (p.offset + byteCount (p.ahead.take n))

variable {p : Progress}

/-- Where an aligned reader stands is a cut. -/
theorem Aligned.isCut (h : Aligned given p) : IsCut given p.offset := by
  simpa using h 0

/-- A reader stays aligned when it goes over some of what is ahead. -/
theorem Aligned.advance {read rest : List Char} (h : Aligned given p) (he : p.ahead = read ++ rest) :
    Aligned given ⟨p.offset + byteCount read, rest⟩ := by
  intro n
  have := h (read.length + n)
  rwa [he, List.take_length_add_append, byteCount_append, ← Nat.add_assoc] at this

/-- From an aligned place, a step comes to an aligned place and cuts no character. -/
def Unbroken (given : List Char) (r : Reader α) : Prop :=
  ∀ p, Aligned given p →
    (∀ a p', r p = .ok (a, p') → Aligned given p') ∧ r p ≠ .error .brokenCharacter

namespace Unbroken

theorem pure (a : α) : Unbroken given (Pure.pure a : Reader α) := by
  refine fun p hp => ⟨fun a p' h => ?_, nofun⟩
  cases h
  exact hp

theorem throw {e : FilterError} (he : e ≠ .brokenCharacter) :
    Unbroken given (MonadExcept.throw e : Reader α) := by
  refine fun p _ => ⟨nofun, fun h => he ?_⟩
  cases h
  rfl

theorem throw_bind {e : FilterError} (he : e ≠ .brokenCharacter) (f : α → Reader β) :
    Unbroken given (MonadExcept.throw e >>= f) :=
  throw he

theorem lift {x : Except FilterError α} (hx : x ≠ .error .brokenCharacter) :
    Unbroken given (liftM x : Reader α) := by
  intro p hp
  cases x with
  | error e => exact throw (fun he => hx (he ▸ rfl)) p hp
  | ok a => exact pure a p hp

theorem set (h : Aligned given p) : Unbroken given (MonadStateOf.set p : Reader PUnit) := by
  refine fun _ _ => ⟨fun a p' e => ?_, nofun⟩
  cases e
  exact h

theorem bind {r : Reader α} {f : α → Reader β} (hr : Unbroken given r)
    (hf : ∀ a, Unbroken given (f a)) : Unbroken given (r >>= f) := by
  intro p hp
  obtain ⟨hok, hne⟩ := hr p hp
  have e : (r >>= f) p = (r p >>= fun x => f x.1 x.2) := rfl
  rw [e]
  cases h : r p with
  | error err =>
      refine ⟨nofun, fun h' => hne ?_⟩
      cases h'
      exact h
  | ok x => exact hf x.1 x.2 (hok x.1 x.2 h)

/-- What is done with the place that the reader stands at may rely on its being aligned. -/
theorem get_bind {f : Progress → Reader β} (hf : ∀ p, Aligned given p → Unbroken given (f p)) :
    Unbroken given (MonadState.get >>= f) :=
  fun p hp => hf p hp p hp

end Unbroken

/-! ### The parts of a directive -/

theorem unbroken_mark {c : Char} (hc : c.utf8Size = 1) : Unbroken given (mark c) := by
  unfold mark
  refine .get_bind fun ⟨offset, ahead⟩ hp => ?_
  dsimp only
  split
  · exact .throw_bind (by decide) _
  · next h =>
      obtain ⟨rest, rfl⟩ : ∃ rest, ahead = [c] ++ rest := by
        cases ahead with
        | nil => simp at h
        | cons d rest => exact ⟨rest, by simpa using h⟩
      have := hp.advance rfl
      rw [byteCount_cons, hc] at this
      exact .set this

/-- What stands behind the longest run of a class does not start with a character of it. -/
theorem not_of_drop_takeWhile {q : Char → Bool} {c : Char} {rest : List Char}
    (h : cs.drop (cs.takeWhile q).length = c :: rest) : q c = false := by
  have hd : (cs.takeWhile q ++ cs.dropWhile q).drop (cs.takeWhile q).length = cs.dropWhile q :=
    List.drop_left
  rw [List.takeWhile_append_dropWhile, h] at hd
  have := List.head?_dropWhile_not q cs
  rwa [← hd] at this

theorem unbroken_partBefore {marks : List Char} (hm : marks.all (·.utf8Size == 1) = true) :
    Unbroken given (partBefore given marks) := by
  unfold partBefore
  refine .get_bind fun ⟨start, ahead⟩ hp => ?_
  dsimp only
  split
  · exact .pure _
  · next mark rest h =>
      have hcut := hp (ahead.takeWhile (!marks.contains ·)).length
      obtain ⟨part, hpart⟩ := slice_eq_ok hp.isCut hcut (Nat.le_add_right _ _)
      refine .bind (.lift (by rw [hpart]; exact nofun)) fun part => .bind (.set ?_) fun _ => .pure _
      have hmark : mark ∈ marks := by simpa using not_of_drop_takeWhile h
      have hsize : mark.utf8Size = 1 := by simpa using List.all_eq_true.mp hm mark hmark
      have hahead : ahead =
          ahead.take (ahead.takeWhile (!marks.contains ·)).length ++ [mark] ++ rest := by
        rw [List.append_assoc, List.singleton_append, ← h, List.take_append_drop]
      have := hp.advance hahead
      rwa [byteCount_append, byteCount_cons, hsize, ← Nat.add_assoc] at this

/-- What is not a level is refused. -/
theorem verbosityAfter_ne (cs : List Char) : verbosityAfter cs ≠ .error .brokenCharacter := by
  unfold verbosityAfter
  split
  · exact nofun
  · split <;> exact nofun

theorem unbroken_finalVerbosity : Unbroken given (finalVerbosity given) := by
  unfold finalVerbosity
  refine .get_bind fun p hp => ?_
  obtain ⟨before, rest, rfl, hb⟩ := hp.isCut
  rw [← hb, splitAtByte_append]
  exact .bind (.pure _) fun x => .lift (verbosityAfter_ne x.2)

theorem unbroken_optionalVerbosity : Unbroken given (optionalVerbosity given) := by
  unfold optionalVerbosity
  refine .get_bind fun p _ => ?_
  split
  · exact .pure _
  · exact .bind (unbroken_mark rfl) fun _ => unbroken_finalVerbosity

theorem FieldCondition.parse_ne (cs : List Char) :
    FieldCondition.parse cs ≠ .error .brokenCharacter := by
  unfold FieldCondition.parse
  split <;> split <;> exact nofun

theorem unbroken_narrowing : Unbroken given (narrowing given) := by
  unfold narrowing
  refine .bind (unbroken_partBefore rfl) fun part => ?_
  split
  · exact .throw (by decide)
  · exact .pure _
  · refine .bind (unbroken_partBefore rfl) fun part => ?_
    split
    · refine .bind (.lift (FieldCondition.parse_ne _)) fun field => ?_
      exact .bind (unbroken_mark rfl) fun _ => .pure _
    · exact .throw (by decide)

theorem unbroken_read : Unbroken given (Directive.read given) := by
  unfold Directive.read
  refine .get_bind fun p _ => ?_
  dsimp only
  split
  · exact .throw_bind (by decide) _
  · refine .bind (unbroken_partBefore rfl) fun part => ?_
    split
    · split <;> exact .pure _
    · exact .bind unbroken_finalVerbosity fun _ => .pure _
    · exact .bind unbroken_narrowing fun _ => .bind unbroken_optionalVerbosity fun _ => .pure _

/-! ### Whole filters -/

/-- A text of which the white space at the ends does not count: there is none in front, or all
characters are single bytes. -/
def Plain (cs : List Char) : Prop :=
  (∀ c ∈ cs.head?, Text.isWhiteSpace c = false) ∨ ∀ c ∈ cs, c.utf8Size = 1

/-- Without white space in front, only what is behind is taken off. -/
theorem exists_trim_append (h : ∀ c ∈ cs.head?, Text.isWhiteSpace c = false) :
    ∃ blanks, cs = trim cs ++ blanks := by
  have hcs : cs.dropWhile Text.isWhiteSpace = cs := by
    cases cs with
    | nil => rfl
    | cons c cs => exact List.dropWhile_cons_of_neg (by simp [h c rfl])
  refine ⟨(cs.reverse.takeWhile Text.isWhiteSpace).reverse, ?_⟩
  rw [trim, hcs, ← List.reverse_append, List.takeWhile_append_dropWhile, List.reverse_reverse]

theorem trim_sublist (cs : List Char) : (trim cs).Sublist cs := by
  have h := List.dropWhile_sublist Text.isWhiteSpace (l := (cs.dropWhile Text.isWhiteSpace).reverse)
  have := h.reverse
  rw [List.reverse_reverse] at this
  exact this.trans (List.dropWhile_sublist _)

theorem byteCount_of_single (h : ∀ c ∈ cs, c.utf8Size = 1) : byteCount cs = cs.length := by
  induction cs with
  | nil => rfl
  | cons c cs ih =>
      obtain ⟨hc, hcs⟩ := List.forall_mem_cons.mp h
      rw [byteCount_cons, hc, ih hcs, List.length_cons, Nat.add_comm]

/-- The reader of a plain text starts aligned. -/
theorem aligned_start (h : Plain cs) : Aligned cs ⟨0, trim cs⟩ := by
  intro n
  rw [Nat.zero_add]
  rcases h with h | h
  · obtain ⟨blanks, hcs⟩ := exists_trim_append h
    refine ⟨(trim cs).take n, (trim cs).drop n ++ blanks, ?_, rfl⟩
    rw [← List.append_assoc, List.take_append_drop, ← hcs]
  · -- among single bytes every place is a cut
    have hsub := (List.take_sublist n (trim cs)).trans (trim_sublist cs)
    rw [byteCount_of_single fun c hc => h c (hsub.subset hc)]
    refine ⟨cs.take ((trim cs).take n).length, _, (List.take_append_drop _ _).symm, ?_⟩
    rw [byteCount_of_single fun c hc => h c (List.mem_of_mem_take hc),
      List.length_take_of_le hsub.length_le]

theorem Directive.parse_ne (h : Plain cs) : parse cs ≠ .error .brokenCharacter := by
  have hr := (unbroken_read ⟨0, trim cs⟩ (aligned_start h)).2
  have e : parse cs = (read cs ⟨0, trim cs⟩).map Prod.fst := rfl
  rw [e]
  cases hread : read cs ⟨0, trim cs⟩ with
  | ok x => exact nofun
  | error err =>
      rw [hread] at hr
      exact fun he => hr (congrArg _ (Except.error.inj he))

theorem exists_of_mapM_eq_error {ε : Type} {f : α → Except ε β} {l : List α} {e : ε}
    (h : l.mapM f = .error e) : ∃ a ∈ l, f a = .error e := by
  induction l with
  | nil => cases h
  | cons a l ih =>
      rw [List.mapM_cons] at h
      cases ha : f a with
      | error e' =>
          rw [ha] at h
          cases h
          exact ⟨a, List.mem_cons_self, ha⟩
      | ok b =>
          rw [ha] at h
          cases hl : l.mapM f with
          | error e' =>
              rw [hl] at h
              cases h
              obtain ⟨a', hm, hf⟩ := ih hl
              exact ⟨a', List.mem_cons_of_mem a hm, hf⟩
          | ok bs =>
              rw [hl] at h
              cases h

/-- **Nothing breaks off.**  A filter of which the directives are plain texts is read or refused. -/
theorem Filter.parse_ne_brokenCharacter {text : String}
    (h : ∀ part ∈ text.toList.splitOn ',', Plain part) :
    parse text ≠ .error .brokenCharacter := by
  intro he
  unfold parse at he
  dsimp only at he
  cases hm : ((text.toList.splitOn ',').filter (· != [])).mapM Directive.parse with
  | ok ds =>
      rw [hm] at he
      cases he
  | error e =>
      rw [hm] at he
      cases he
      obtain ⟨part, hpart, hp⟩ := exists_of_mapM_eq_error hm
      exact Directive.parse_ne (h part (List.mem_filter.mp hpart).1) hp

end Tokenizer.Log
