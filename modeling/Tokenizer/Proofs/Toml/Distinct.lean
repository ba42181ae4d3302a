import Tokenizer.Toml.Document
import Tokenizer.Proofs.Scan.Yields

/-!
# Keys are given once

No table of a document has a key twice, neither the document itself nor a table at any depth in it
(`Value.IsProper`).  Every line adds to the document by changing the value of one key where it stands,
or by putting a new key at the end.

* `Entries.IsProper.update`: what one change of a value preserves.
* `Entries.IsProper.insert`, `Entries.IsProper.descend`: what it preserves along a path of tables.
* `yields_value`: the values that are written are proper.
* `isProper_of_document?`: so every document is.
-/

namespace Tokenizer.Toml

open Scan

/-- The keys of a table, in their order. -/
def Entries.keys (es : Entries) : List String :=
  es.map Prod.fst

/-- No table in the value has a key twice. -/
inductive Value.IsProper : Value → Prop
  | string (s : String) : IsProper (.string s)
  | integer (n : Int) : IsProper (.integer n)
  | float (x : Number.Binary64) : IsProper (.float x)
  | boolean (b : Bool) : IsProper (.boolean b)
  | moment (m : Moment) : IsProper (.moment m)
  | array {items : List Value} (h : ∀ v ∈ items, IsProper v) : IsProper (.array items)
  | table {origin : Origin} {es : List (String × Value)} (hk : (Entries.keys es).Nodup)
      (h : ∀ e ∈ es, IsProper e.2) : IsProper (.table origin es)
  | tables {ts : List (List (String × Value))} (hk : ∀ es ∈ ts, (Entries.keys es).Nodup)
      (h : ∀ es ∈ ts, ∀ e ∈ es, IsProper e.2) : IsProper (.tables ts)

/-- No key stands twice in the table, nor in a table in it. -/
structure Entries.IsProper (es : Entries) : Prop where
  nodup : es.keys.Nodup
  values : ∀ e ∈ es, e.2.IsProper

variable {es es' : Entries} {ts : List Entries} {origin : Origin} {key : String} {v new : Value}
  {change : Option Value → Option Value}

theorem Value.isProper_table_iff : (Value.table origin es).IsProper ↔ es.IsProper :=
  ⟨fun | .table hk h => ⟨hk, h⟩, fun h => .table h.nodup h.values⟩

theorem Value.isProper_tables_iff : (Value.tables ts).IsProper ↔ ∀ es ∈ ts, es.IsProper :=
  ⟨fun | .tables hk h => fun es hes => ⟨hk es hes, h es hes⟩,
    fun h => .tables (fun es hes => (h es hes).nodup) fun es hes => (h es hes).values⟩

namespace Entries

theorem isProper_nil : IsProper [] :=
  ⟨List.nodup_nil, nofun⟩

theorem isProper_cons_iff {k : String} :
    IsProper ((k, v) :: es) ↔ k ∉ es.keys ∧ v.IsProper ∧ es.IsProper := by
  constructor
  · rintro ⟨hn, hv⟩
    obtain ⟨hk, hn⟩ := List.nodup_cons.mp hn
    obtain ⟨hv, hvs⟩ := List.forall_mem_cons.mp hv
    exact ⟨hk, hv, hn, hvs⟩
  · rintro ⟨hk, hv, hn, hvs⟩
    exact ⟨List.nodup_cons.mpr ⟨hk, hn⟩, List.forall_mem_cons.mpr ⟨hv, hvs⟩⟩

/-! ### One change -/

/-- A change of one value keeps the keys, or adds its own. -/
theorem mem_keys_update (h : update change key es = some es') {k : String} (hk : k ∈ es'.keys) :
    k = key ∨ k ∈ es.keys := by
  induction es generalizing es' with
  | nil =>
      obtain ⟨v, -, h⟩ := Option.bind_eq_some_iff.mp h
      cases h
      exact .inl (List.mem_singleton.mp hk)
  | cons e es ih =>
      obtain ⟨l, v⟩ := e
      unfold update at h
      split at h
      · next hl =>
          obtain ⟨w, -, h⟩ := Option.bind_eq_some_iff.mp h
          cases h
          exact .inr hk
      · obtain ⟨es'', hu, h⟩ := Option.bind_eq_some_iff.mp h
        cases h
        rcases List.mem_cons.mp hk with rfl | hk
        · exact .inr List.mem_cons_self
        · exact (ih hu hk).imp_right (List.mem_cons_of_mem l)

/-- A change of one value into a proper one. -/
theorem IsProper.update (hes : es.IsProper)
    (hc : ∀ old new, (∀ v ∈ old, v.IsProper) → change old = some new → new.IsProper)
    (h : update change key es = some es') : es'.IsProper := by
  induction es generalizing es' with
  | nil =>
      obtain ⟨v, hv, h⟩ := Option.bind_eq_some_iff.mp h
      cases h
      exact isProper_cons_iff.mpr ⟨List.not_mem_nil, hc none v nofun hv, isProper_nil⟩
  | cons e es ih =>
      obtain ⟨l, v⟩ := e
      obtain ⟨hl, hv, hes⟩ := isProper_cons_iff.mp hes
      unfold Entries.update at h
      split at h
      · obtain ⟨w, hw, h⟩ := Option.bind_eq_some_iff.mp h
        cases h
        refine isProper_cons_iff.mpr ⟨hl, hc (some v) w ?_ hw, hes⟩
        rintro _ ⟨⟩
        exact hv
      · next hne =>
          obtain ⟨es'', hu, h⟩ := Option.bind_eq_some_iff.mp h
          cases h
          refine isProper_cons_iff.mpr ⟨fun hk => ?_, hv, ih hes hu⟩
          exact (mem_keys_update hu hk).elim hne hl

theorem isProper_updateLast {change : Entries → Option Entries} {ts ts' : List Entries}
    (hts : ∀ es ∈ ts, es.IsProper)
    (hc : ∀ es es', es.IsProper → change es = some es' → es'.IsProper)
    (h : updateLast change ts = some ts') : ∀ es ∈ ts', es.IsProper := by
  fun_induction updateLast change ts generalizing ts' with
  | case1 => cases h
  | case2 es =>
      obtain ⟨es', he, h⟩ := Option.bind_eq_some_iff.mp h
      cases h
      exact List.forall_mem_singleton.mpr (hc es es' (hts es List.mem_cons_self) he)
  | case3 es rest _ ih =>
      obtain ⟨hes, hrest⟩ := List.forall_mem_cons.mp hts
      obtain ⟨rest', hr, h⟩ := Option.bind_eq_some_iff.mp h
      cases h
      exact List.forall_mem_cons.mpr ⟨hes, ih hrest hr⟩

/-! ### Along a path -/

/-- One more value, at the end of a path of tables. -/
theorem IsProper.insert (hv : v.IsProper) (path : List String) (hes : es.IsProper)
    (h : insert v path key es = some es') : es'.IsProper := by
  induction path generalizing es es' with
  | nil =>
      refine hes.update (fun old new _ hn => ?_) h
      split at hn
      · cases hn
      · cases hn
        exact hv
  | cons step path ih =>
      refine hes.update (fun old new ho hn => ?_) h
      split at hn
      · obtain ⟨inner, hi, rfl⟩ := Option.map_eq_some_iff.mp hn
        exact Value.isProper_table_iff.mpr (ih isProper_nil hi)
      · obtain ⟨inner, hi, rfl⟩ := Option.map_eq_some_iff.mp hn
        exact Value.isProper_table_iff.mpr (ih (Value.isProper_table_iff.mp (ho _ rfl)) hi)
      · split at hn
        · cases hn
        · obtain ⟨inner, hi, rfl⟩ := Option.map_eq_some_iff.mp hn
          exact Value.isProper_table_iff.mpr (ih (Value.isProper_table_iff.mp (ho _ rfl)) hi)
      · split at hn
        · cases hn
        · obtain ⟨inner, hi, rfl⟩ := Option.map_eq_some_iff.mp hn
          exact Value.isProper_tables_iff.mpr
            (isProper_updateLast (Value.isProper_tables_iff.mp (ho _ rfl)) (fun _ _ => ih) hi)
      · cases hn

/-- A change of the table at the end of a path. -/
theorem IsProper.descend {change : Entries → Option Entries}
    (hc : ∀ es es', es.IsProper → change es = some es' → es'.IsProper) (path : List String)
    (hes : es.IsProper) (h : descend change path es = some es') : es'.IsProper := by
  induction path generalizing es es' with
  | nil => exact hc es es' hes h
  | cons step path ih =>
      refine hes.update (fun old new ho hn => ?_) h
      split at hn
      · obtain ⟨inner, hi, rfl⟩ := Option.map_eq_some_iff.mp hn
        exact Value.isProper_table_iff.mpr (ih isProper_nil hi)
      · split at hn
        · cases hn
        · obtain ⟨inner, hi, rfl⟩ := Option.map_eq_some_iff.mp hn
          exact Value.isProper_table_iff.mpr (ih (Value.isProper_table_iff.mp (ho _ rfl)) hi)
      · obtain ⟨inner, hi, rfl⟩ := Option.map_eq_some_iff.mp hn
        exact Value.isProper_tables_iff.mpr
          (isProper_updateLast (Value.isProper_tables_iff.mp (ho _ rfl)) (fun _ _ => ih) hi)
      · cases hn

/-! ### Several changes -/

/-- Changes one after the other, each of which keeps a table proper. -/
theorem IsProper.foldlM {α : Type} {step : Entries → α → Option Entries} {l : List α}
    (hs : ∀ a ∈ l, ∀ es es', es.IsProper → step es a = some es' → es'.IsProper)
    (hes : es.IsProper) (h : l.foldlM step es = some es') : es'.IsProper := by
  induction l generalizing es with
  | nil =>
      cases h
      exact hes
  | cons a l ih =>
      obtain ⟨ha, hl⟩ := List.forall_mem_cons.mp hs
      rw [List.foldlM_cons] at h
      obtain ⟨mid, hm, h⟩ := Option.bind_eq_some_iff.mp h
      exact ih hl (ha es mid hes hm) h

theorem IsProper.insertAll {new : List Entry} (hn : ∀ e ∈ new, e.value.IsProper)
    (hes : es.IsProper) (h : es.insertAll new = some es') : es'.IsProper :=
  hes.foldlM (fun e he _ _ hes => hes.insert (hn e he) e.path) h

/-- With keys given once, what a key has is what stands with it. -/
theorem get?_eq_some_iff (hn : es.keys.Nodup) : es.get? key = some v ↔ (key, v) ∈ es := by
  constructor
  · intro h
    obtain ⟨l₁, l₂, rfl, -⟩ := List.lookup_eq_some_iff.mp h
    exact List.mem_append_right l₁ List.mem_cons_self
  · intro h
    obtain ⟨l₁, l₂, rfl⟩ := List.append_of_mem h
    refine List.lookup_eq_some_iff.mpr ⟨l₁, l₂, rfl, fun e he => ?_⟩
    rw [keys, List.map_append, List.nodup_append] at hn
    rw [bne_iff_ne]
    exact (hn.2.2 e.1 (List.mem_map_of_mem he) key List.mem_cons_self).symm

theorem get?_eq_none_iff : es.get? key = none ↔ key ∉ es.keys := by
  rw [get?, List.lookup_eq_none_iff, keys, List.mem_map]
  simp only [bne_iff_ne, not_exists, not_and]
  exact forall₂_congr fun _ _ => ne_comm

/-- The order of a table does not matter for what its keys have. -/
theorem get?_perm (hn : es.keys.Nodup) (h : es.Perm es') : es.get? key = es'.get? key := by
  have hn' : es'.keys.Nodup := (h.map Prod.fst).nodup_iff.mp hn
  ext v
  rw [get?_eq_some_iff hn, get?_eq_some_iff hn', h.mem_iff]

theorem isProper_of_get? (hes : es.IsProper) (h : es.get? key = some v) : v.IsProper := by
  exact hes.values (key, v) ((get?_eq_some_iff hes.nodup).mp h)

/-- A key that is moved to the end with another value. -/
theorem IsProper.move (hes : es.IsProper) (hv : v.IsProper) :
    IsProper (es.erase key ++ [(key, v)]) := by
  have hsub : (es.erase key).Sublist es := List.filter_sublist
  constructor
  · have hkey : key ∉ (es.erase key).keys := by
      intro h
      obtain ⟨e, he, hk⟩ := List.mem_map.mp h
      simpa [hk] using (List.mem_filter.mp he).2
    rw [keys, List.map_append, List.nodup_append]
    refine ⟨hes.nodup.sublist (hsub.map _), List.pairwise_singleton _ _, fun k hk l hl => ?_⟩
    rintro rfl
    obtain rfl : k = key := List.mem_singleton.mp hl
    exact hkey hk
  · rw [List.forall_mem_append, List.forall_mem_singleton]
    exact ⟨fun e he => hes.values e (hsub.subset he), hv⟩

end Entries

/-! ### Headers -/

variable {new : List Entry}

theorem isProper_openTable (hn : ∀ e ∈ new, e.value.IsProper) (hes : es.IsProper)
    (h : openTable key new es = some es') : es'.IsProper := by
  have hmove : ∀ held : Entries, held.IsProper →
      (do return es.erase key ++ [(key, .table .header (← held.insertAll new))]) = some es' →
      es'.IsProper := by
    intro held hheld h
    obtain ⟨inner, hi, h⟩ := Option.bind_eq_some_iff.mp h
    cases h
    exact hes.move (Value.isProper_table_iff.mpr (hheld.insertAll hn hi))
  unfold openTable at h
  split at h
  · exact hmove [] Entries.isProper_nil h
  · next held hg =>
    exact hmove held (Value.isProper_table_iff.mp (Entries.isProper_of_get? hes hg)) h
  · cases h

theorem isProper_addElement (hn : ∀ e ∈ new, e.value.IsProper) (hes : es.IsProper)
    (h : addElement key new es = some es') : es'.IsProper := by
  refine hes.update (fun old v ho hv => ?_) h
  split at hv
  · obtain ⟨inner, hi, hv⟩ := Option.bind_eq_some_iff.mp hv
    cases hv
    exact Value.isProper_tables_iff.mpr
      (List.forall_mem_singleton.mpr (Entries.isProper_nil.insertAll hn hi))
  · obtain ⟨inner, hi, hv⟩ := Option.bind_eq_some_iff.mp hv
    cases hv
    rw [Value.isProper_tables_iff, List.forall_mem_append, List.forall_mem_singleton]
    exact ⟨Value.isProper_tables_iff.mp (ho _ rfl), Entries.isProper_nil.insertAll hn hi⟩
  · cases hv

theorem isProper_addTo {b : Block} (hb : ∀ e ∈ b.entries, e.value.IsProper) (hes : es.IsProper)
    (h : b.addTo es = some es') : es'.IsProper := by
  refine hes.descend (fun es es' hes h => ?_) b.path h
  split at h
  · exact isProper_addElement hb hes h
  · exact isProper_openTable hb hes h

/-! ### What is written -/

theorem yields_scalar : Yields scalar Value.IsProper := by
  refine .orElse ((yields_true _).map fun s _ => .string s) ?_
  refine .orElse (.of_bind fun _ => .pure (.boolean true)) ?_
  refine .orElse (.of_bind fun _ => .pure (.boolean false)) ?_
  refine .orElse ((yields_true _).map fun m _ => .moment m) ?_
  exact .orElse ((yields_true _).map fun x _ => .float x) ((yields_true _).map fun n _ => .integer n)

theorem yields_array {element : Scan Value} (he : Yields element Value.IsProper) :
    Yields (array element) Value.IsProper := by
  have hitems := (Yields.seqRight (o := padding) he).seqLeft (o := padding)
  refine .of_bind fun _ => .bind (.optional (hitems.separated.bind fun items hi =>
    .of_bind fun _ => .pure hi)) fun items hi => .of_bind fun _ => .of_bind fun _ => .pure ?_
  refine .array fun v hv => ?_
  cases items with
  | none => cases hv
  | some items => exact hi items rfl v hv

theorem yields_entry {value : Scan Value} (hv : Yields value Value.IsProper) :
    Yields (entry value) fun e => e.value.IsProper :=
  .of_bind fun _ => .of_bind fun _ => .of_bind fun _ => hv.bind fun _ hv => .pure hv

theorem yields_inlineTable {value : Scan Value} (hv : Yields value Value.IsProper) :
    Yields (inlineTable value) Value.IsProper := by
  refine .of_bind fun _ => .bind (.optional (yields_entry hv).seqLeft.separated) fun entries he =>
    .of_bind fun _ => .of_bind fun _ => ?_
  have hn : ∀ e ∈ entries.getD [], e.value.IsProper := by
    cases entries with
    | none => nofun
    | some entries => exact he entries rfl
  split
  · next es hes =>
    exact .pure (Value.isProper_table_iff.mpr (Entries.isProper_nil.insertAll hn hes))
  · exact yields_failure

/-- The values that are written are proper. -/
theorem yields_value : ∀ depth, Yields (value depth) Value.IsProper
  | 0 => yields_scalar
  | depth + 1 => yields_scalar.orElse
      ((yields_array (yields_value depth)).orElse (yields_inlineTable (yields_value depth)))

/-- The value in a line, if it is an entry, is proper. -/
def Line.IsProper (l : Line) : Prop :=
  ∀ e, l = .entry e → e.value.IsProper

theorem yields_line : Yields line Line.IsProper := by
  have hentry : Yields (.entry <$> entry (value maxDepth)) Line.IsProper := by
    refine (yields_entry (yields_value _)).map fun e he e' h => ?_
    cases h
    exact he
  refine .of_bind fun _ => .of_bind fun _ => .of_bind fun _ => .bind (.optional (.orElse
    (.of_bind fun _ => .of_bind fun _ => .of_bind fun _ => .pure fun _ h => by cases h) (.orElse
    (.of_bind fun _ => .of_bind fun _ => .of_bind fun _ => .pure fun _ h => by cases h) hentry)))
    fun content hc => .of_bind fun _ => .pure ?_
  cases content with
  | none => exact nofun
  | some l => exact hc l rfl

theorem yields_lines : Yields lines fun ls => ∀ l ∈ ls, l.IsProper :=
  .of_bind fun _ => yields_line.repeated.bind fun _ hls => .of_bind fun _ => .of_bind fun _ =>
    .pure hls

/-! ### Documents -/

/-- The entries of the lines come into the blocks as they are. -/
theorem isProper_blocks {ls : List Line} (hls : ∀ l ∈ ls, l.IsProper) :
    (∀ e ∈ (blocks ls).1, e.value.IsProper) ∧
      ∀ b ∈ (blocks ls).2, ∀ e ∈ b.entries, e.value.IsProper := by
  induction ls with
  | nil => exact ⟨nofun, nofun⟩
  | cons l ls ih =>
      obtain ⟨hl, hls⟩ := List.forall_mem_cons.mp hls
      obtain ⟨hes, hbs⟩ := ih hls
      cases l with
      | blank => exact ⟨hes, hbs⟩
      | entry e => exact ⟨List.forall_mem_cons.mpr ⟨hl e rfl, hes⟩, hbs⟩
      | table | element => exact ⟨nofun, List.forall_mem_cons.mpr ⟨hes, hbs⟩⟩

/-- **Keys are given once.**  This holds of the table that a document denotes, and of all tables in
it. -/
theorem isProper_of_document? {text : String} (h : document? text = some es) : es.IsProper := by
  obtain ⟨⟨ls, r⟩, hl, h⟩ := Option.bind_eq_some_iff.mp h
  obtain ⟨es₀, h₀, h⟩ := Option.bind_eq_some_iff.mp h
  obtain ⟨hes, hbs⟩ := isProper_blocks (yields_lines _ ls r hl)
  exact (Entries.isProper_nil.insertAll hes h₀).foldlM
    (fun b hb _ _ hes => isProper_addTo (hbs b hb) hes) h

end Tokenizer.Toml
