import Tokenizer.Settings.Schema
import Tokenizer.Proofs.Change
import Tokenizer.Proofs.Toml.Distinct

/-!
# Fields in any order

Entries set fields in the order of the document.  Since fields with different keys do not get into each
other's way (`Field.Independent`), the draft is the one that the fields come to in their own order, each
with what the document says of it (`setInOrder`).  The first fault still depends on the order.

* `setByKey_eq_ok_iff`: the entries fit exactly if every key is known and the fields, in their own order,
  take what they are given.
* `Field.Takes.setInOrder_eq_ok_iff`: what one field takes.
* `Field.Takes.independent`: fields that store to different places are independent.
-/

namespace Tokenizer.Settings

open Toml (Entries Value)

variable {σ τ : Type} {f g : Field σ} {fields : List (Field σ)} {es : Entries} {d d' : σ}
  {key : String} {v : Value} {q : σ → Except SchemaError σ}

/-- Two fields with different keys that do not get into each other's way. -/
structure Field.Independent (f g : Field σ) : Prop where
  key_ne : f.key ≠ g.key
  commutes : ∀ v w, Commutes (f.set v) (g.set w)

/-- Sets a field to what a document says of it. A field that is not given stays. -/
def Field.setFrom (es : Entries) (f : Field σ) (d : σ) : Except SchemaError σ :=
  match es.get? f.key with
  | some v => f.set v d
  | none => .ok d

/-- Sets fields in their own order to what a document says of them. -/
def setInOrder (fields : List (Field σ)) (es : Entries) (d : σ) : Except SchemaError σ :=
  fields.foldlM (fun d f => f.setFrom es d) d

theorem Field.setFrom_of_get? (h : es.get? f.key = some v) : f.setFrom es d = f.set v d := by
  rw [setFrom, h]

theorem Field.setFrom_of_none (h : es.get? f.key = none) : f.setFrom es d = .ok d := by
  rw [setFrom, h]

/-! ### One entry more -/

theorem Field.setFrom_cons_self : f.setFrom ((f.key, v) :: es) d = f.set v d :=
  setFrom_of_get? List.lookup_cons_self

theorem Field.setFrom_cons_of_ne (h : f.key ≠ key) :
    f.setFrom ((key, v) :: es) d = f.setFrom es d := by
  rw [setFrom, setFrom, Entries.get?, List.lookup_cons, beq_false_of_ne h, Entries.get?]

theorem setInOrder_nil_eq_ok_iff : setInOrder [] es d = .ok d' ↔ d = d' :=
  ⟨Except.ok.inj, congrArg Except.ok⟩

/-- An empty document changes nothing. -/
theorem setInOrder_nil : setInOrder fields [] d = .ok d := by
  induction fields with
  | nil => rfl
  | cons f fields ih => exact ih

theorem setInOrder_cons_of_ne (h : ∀ f ∈ fields, f.key ≠ key) :
    setInOrder fields ((key, v) :: es) d = setInOrder fields es d := by
  induction fields generalizing d with
  | nil => rfl
  | cons f fields ih =>
      obtain ⟨hf, hfields⟩ := List.forall_mem_cons.mp h
      simp only [setInOrder, List.foldlM_cons, Field.setFrom_cons_of_ne hf]
      exact bind_congr fun _ => ih hfields

theorem commutes_setInOrder (h : ∀ f ∈ fields, ∀ v, Commutes (f.set v) q) :
    Commutes (setInOrder fields es) q := by
  refine Commutes.foldlM fun f hf => ?_
  unfold Field.setFrom
  cases es.get? f.key with
  | none => exact commutes_pure
  | some v => exact h f hf v

/-- An entry for one of the fields may be set before the others. -/
theorem setInOrder_cons_eq_ok_iff (hp : fields.Pairwise Field.Independent) (hf : f ∈ fields)
    (hk : f.key ∉ es.keys) :
    setInOrder fields ((f.key, v) :: es) d = .ok d' ↔
      f.set v d >>= setInOrder fields es = .ok d' := by
  obtain ⟨before, after, rfl⟩ := List.append_of_mem hf
  obtain ⟨-, hafter, hbefore⟩ := List.pairwise_append.mp hp
  have hb : ∀ g ∈ before, g.Independent f := fun g hg => hbefore g hg f List.mem_cons_self
  have ha : ∀ g ∈ after, f.Independent g := (List.pairwise_cons.mp hafter).1
  have hc : Commutes (setInOrder before es) (f.set v) :=
    commutes_setInOrder fun g hg w => (hb g hg).commutes w v
  have hsplit : ∀ (es : Entries) (d : σ), setInOrder (before ++ f :: after) es d =
      setInOrder before es d >>= fun d => f.setFrom es d >>= setInOrder after es :=
    fun es d => by rw [setInOrder, List.foldlM_append]; rfl
  have hold (d : σ) : setInOrder (before ++ f :: after) es d =
      setInOrder before es d >>= setInOrder after es := by
    rw [hsplit]
    exact bind_congr fun m => by rw [Field.setFrom_of_none (Entries.get?_eq_none_iff.mpr hk)]; rfl
  have hnew : setInOrder (before ++ f :: after) ((f.key, v) :: es) d =
      setInOrder before es d >>= f.set v >>= setInOrder after es := by
    rw [hsplit, setInOrder_cons_of_ne fun g hg => (hb g hg).key_ne, bind_assoc]
    refine bind_congr fun m => ?_
    rw [Field.setFrom_cons_self]
    exact bind_congr fun m => setInOrder_cons_of_ne fun g hg => (ha g hg).key_ne.symm
  calc setInOrder (before ++ f :: after) ((f.key, v) :: es) d = .ok d'
      ↔ (setInOrder before es d >>= f.set v) >>= setInOrder after es = .ok d' := by rw [hnew]
    _ ↔ (f.set v d >>= setInOrder before es) >>= setInOrder after es = .ok d' := hc.bind_iff
    _ ↔ f.set v d >>= setInOrder (before ++ f :: after) es = .ok d' := by
        rw [bind_assoc]
        simp only [← hold]

/-- **The order of the document does not matter.** -/
theorem setByKey_eq_ok_iff (hp : fields.Pairwise Field.Independent) (hn : es.keys.Nodup) :
    setByKey fields es d = .ok d' ↔
      es.keys ⊆ fields.map Field.key ∧ setInOrder fields es d = .ok d' := by
  induction es generalizing d with
  | nil =>
      rw [setInOrder_nil]
      exact ⟨fun h => ⟨List.nil_subset _, h⟩, fun h => h.2⟩
  | cons e es ih =>
      obtain ⟨key, v⟩ := e
      obtain ⟨hk, hes⟩ := List.nodup_cons.mp hn
      change setField fields d (key, v) >>= setByKey fields es = .ok d' ↔ key :: Entries.keys es ⊆ _ ∧ _
      rw [List.cons_subset, List.mem_map, setField]
      cases hf : fields.find? (·.key == key) with
      | none =>
          refine iff_of_false nofun fun h => ?_
          obtain ⟨⟨f, hmem, hkey⟩, -⟩ := h.1
          exact List.find?_eq_none.mp hf f hmem (beq_iff_eq.mpr hkey)
      | some f =>
          have hmem : f ∈ fields := List.mem_of_find?_eq_some hf
          obtain rfl : f.key = key := by simpa using List.find?_some hf
          rw [setInOrder_cons_eq_ok_iff hp hmem hk, bind_eq_ok_iff, bind_eq_ok_iff]
          constructor
          · rintro ⟨m, hm, h⟩
            obtain ⟨hknown, h⟩ := (ih hes).mp h
            exact ⟨⟨⟨f, hmem, rfl⟩, hknown⟩, m, hm, h⟩
          · rintro ⟨⟨-, hknown⟩, m, hm, h⟩
            exact ⟨m, hm, (ih hes).mpr ⟨hknown, h⟩⟩

/-! ### What fields take -/

/-- The text that a value is. -/
def textOf? : Value → Option String
  | .string s => some s
  | _ => none

/-- The truth value that a value is. -/
def flagOf? : Value → Option Bool
  | .boolean b => some b
  | _ => none

/-- The field stores what `read` reads of a value, and refuses values of which it reads nothing. -/
def Field.Takes {α : Type} (f : Field σ) (read : Value → Option α) (store : α → σ → σ) : Prop :=
  ∀ v, (read v = none ∧ ∃ e, f.set v = fun _ => .error e) ∨
    ∃ a, read v = some a ∧ f.set v = fun d => .ok (store a d)

theorem Field.takes_text {store : String → σ → σ} : (text key store).Takes textOf? store
  | .string s => .inr ⟨s, rfl, rfl⟩
  | .integer _ | .float _ | .boolean _ | .moment _ | .array _ | .table _ _ | .tables _ =>
    .inl ⟨rfl, _, rfl⟩

theorem Field.takes_flag {store : Bool → σ → σ} : (flag key store).Takes flagOf? store
  | .boolean b => .inr ⟨b, rfl, rfl⟩
  | .string _ | .integer _ | .float _ | .moment _ | .array _ | .table _ _ | .tables _ =>
    .inl ⟨rfl, _, rfl⟩

/-- A record is taken as a whole. -/
theorem Field.takes_record {r : Record τ} {store : τ → σ → σ} :
    (record key r store).Takes (fun v => (r.read v).toOption) store := by
  intro v
  have hset : (record key r store).set v = fun d => r.read v >>= fun a => .ok (store a d) := rfl
  cases hr : r.read v with
  | error e => exact .inl ⟨congrArg Except.toOption hr, e, by rw [hset, hr]; rfl⟩
  | ok a => exact .inr ⟨a, congrArg Except.toOption hr, by rw [hset, hr]; rfl⟩

variable {α β : Type} {read : Value → Option α} {store : α → σ → σ}
  {read' : Value → Option β} {store' : β → σ → σ}

/-- A field that is given has to have a value that can be read, which is stored. -/
theorem Field.Takes.setInOrder_eq_ok_iff (h : f.Takes read store) :
    setInOrder (f :: fields) es d = .ok d' ↔
      (∀ v, es.get? f.key = some v → (read v).isSome) ∧
        setInOrder fields es (((es.get? f.key).bind read).elim d fun a => store a d) = .ok d' := by
  change f.setFrom es d >>= setInOrder fields es = .ok d' ↔ _
  cases hv : es.get? f.key with
  | none =>
      rw [Field.setFrom_of_none hv]
      exact ⟨fun h => ⟨nofun, h⟩, fun h => h.2⟩
  | some v =>
      rw [Field.setFrom_of_get? hv]
      rcases h v with ⟨hr, e, hs⟩ | ⟨a, hr, hs⟩
      · rw [hs]
        refine iff_of_false nofun fun h => ?_
        have hv := h.1 v rfl
        rw [hr] at hv
        cases hv
      · rw [hs, Option.bind_some, hr]
        refine ⟨fun h => ⟨?_, h⟩, fun h => h.2⟩
        rintro _ ⟨⟩
        rw [hr]
        rfl

/-- Fields are independent if what they store does not overlap. -/
theorem Field.Takes.independent (hf : f.Takes read store) (hg : g.Takes read' store')
    (hk : f.key ≠ g.key) (h : ∀ a b d, store a (store' b d) = store' b (store a d)) :
    f.Independent g := by
  refine ⟨hk, fun v w => ?_⟩
  rcases hf v with ⟨-, e, hv⟩ | ⟨a, -, hv⟩
  · rw [hv]
    exact commutes_error e
  · rcases hg w with ⟨-, e, hw⟩ | ⟨b, -, hw⟩
    · rw [hw]
      exact (commutes_error e).symm
    · rw [hv, hw]
      exact commutes_ok (h a b)

/-! ### The fields of a settings file -/

theorem independent_outputRecord : outputRecord.fields.Pairwise Field.Independent := by
  refine .cons (List.forall_mem_singleton.mpr ?_) (List.pairwise_singleton _ _)
  exact Field.takes_text.independent Field.takes_flag (by decide) fun _ _ _ => rfl

theorem independent_checkRecord : checkRecord.fields.Pairwise Field.Independent :=
  List.pairwise_singleton _ _

theorem independent_logRecord : logRecord.fields.Pairwise Field.Independent :=
  List.pairwise_singleton _ _

theorem independent_sections : sections.Pairwise Field.Independent := by
  refine .cons (List.forall_mem_cons.mpr ⟨?_, List.forall_mem_singleton.mpr ?_⟩)
    (.cons (List.forall_mem_singleton.mpr ?_) (List.pairwise_singleton _ _))
  · exact Field.takes_record.independent Field.takes_record (by decide) fun _ _ _ => rfl
  · exact Field.takes_record.independent Field.takes_record (by decide) fun _ _ _ => rfl
  · exact Field.takes_record.independent Field.takes_record (by decide) fun _ _ _ => rfl

end Tokenizer.Settings
