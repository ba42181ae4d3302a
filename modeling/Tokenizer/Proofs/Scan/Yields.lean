import Tokenizer.Proofs.Scan.Reads

/-!
# What a scan comes to

Whatever text a scan is given, what it comes to has a property (`Yields`).  The property goes along with
the ways in which scans are put together, so that it is shown of a whole grammar by its smallest forms.

* `Yields.bind`, `Yields.orElse`: one scan after the other, and one scan or else the other.
* `Yields.repeated`, `Yields.separated`: a scan as often as it is there.
-/

namespace Tokenizer.Scan

variable {α β : Type} {p q : Scan α} {P : α → Prop} {Q : β → Prop}

/-- Whatever `p` comes to has the property `P`. -/
def Yields (p : Scan α) (P : α → Prop) : Prop :=
  ∀ s a r, p s = some (a, r) → P a

theorem yields_true (p : Scan α) : Yields p fun _ => True :=
  fun _ _ _ _ => trivial

theorem Yields.pure {a : α} (h : P a) : Yields (pure a) P := by
  rintro _ _ _ ⟨⟩
  exact h

theorem yields_failure : Yields (failure : Scan α) P := by
  rintro _ _ _ ⟨⟩

theorem Yields.bind {f : α → Scan β} (hp : Yields p P) (hf : ∀ a, P a → Yields (f a) Q) :
    Yields (p >>= f) Q := by
  intro s b r h
  rw [bind_apply, Option.bind_eq_some_iff] at h
  obtain ⟨⟨a, t⟩, ha, hb⟩ := h
  exact hf a (hp s a t ha) t b r hb

/-- What comes last decides, if it does so whatever came first. -/
theorem Yields.of_bind {f : α → Scan β} (hf : ∀ a, Yields (f a) Q) : Yields (p >>= f) Q :=
  (yields_true p).bind fun a _ => hf a

theorem Yields.map {f : α → β} (hp : Yields p P) (hf : ∀ a, P a → Q (f a)) :
    Yields (f <$> p) Q := by
  rw [← bind_pure_comp]
  exact hp.bind fun a ha => .pure (hf a ha)

theorem Yields.seqRight {o : Scan β} (hp : Yields p P) : Yields (o *> p) P := by
  rw [seqRight_eq_bind]
  exact .of_bind fun _ => hp

theorem Yields.seqLeft {o : Scan β} (hp : Yields p P) : Yields (p <* o) P := by
  rw [seqLeft_eq_bind]
  exact hp.bind fun a ha => .of_bind fun _ => .pure ha

theorem Yields.orElse (hp : Yields p P) (hq : Yields q P) : Yields (p <|> q) P := by
  intro s a r h
  rw [orElse_apply] at h
  cases hs : p s with
  | none =>
      rw [hs] at h
      exact hq s a r h
  | some x =>
      rw [hs] at h
      obtain rfl := Option.some.inj h
      exact hp s a r hs

theorem Yields.optional (hp : Yields p P) : Yields (optional p) fun o => ∀ a ∈ o, P a := by
  refine (hp.map fun a ha => ?_).orElse (.pure nofun)
  rintro _ ⟨⟩
  exact ha

/-! ### Repetition -/

theorem Yields.within (hp : Yields p P) :
    ∀ bound : List Char, Yields (p.within bound) fun as => ∀ a ∈ as, P a
  | [] => .pure nofun
  | _ :: bound => by
      have ih := Yields.within hp bound
      refine .orElse (hp.bind fun a ha => ih.bind fun as has => .pure ?_) (.pure nofun)
      exact List.forall_mem_cons.mpr ⟨ha, has⟩

theorem Yields.repeated (hp : Yields p P) : Yields p.repeated fun as => ∀ a ∈ as, P a :=
  .of_bind fun bound => hp.within bound

theorem Yields.separated {separator : Scan Unit} (hp : Yields p P) :
    Yields (p.separated separator) fun as => ∀ a ∈ as, P a :=
  hp.bind fun _ ha => (Yields.seqRight hp).repeated.bind fun _ has =>
    .pure (List.forall_mem_cons.mpr ⟨ha, has⟩)

end Tokenizer.Scan
