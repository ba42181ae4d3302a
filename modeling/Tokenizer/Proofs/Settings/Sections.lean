import Mathlib.Data.List.Nodup
import Tokenizer.Proofs.Settings.Fields

/-!
# Sections

The schema of a settings file as a table: its sections, their fields and the types of these.  A document
whose sections are tables fits the schema if it has nothing else (`Fits`), and then it comes to one
draft, in which each field is what its section gives it, or what it is by default (`draftOf`).  The
default of a field does not depend on whether the section is there.

* `typed_iff`: a section, entry by entry and field by field.
* `reads_outputRecord`, `reads_checkRecord`, `reads_logRecord`: what a section that is there comes to.
* `Reads.setInOrder_eq_ok_iff`: a section that is missing is read as an empty one.
* `ofEntries_eq_ok_iff`: what a document comes to.
-/

namespace Tokenizer.Settings

open Toml (Entries Value)

variable {es t : Entries} {name : String}

/-! ### The schema -/

/-- The type of the values of a field. -/
inductive FieldType
  | text
  | flag

/-- The value is of the type. -/
def FieldType.Holds : FieldType → Value → Prop
  | text, v => (textOf? v).isSome
  | flag, v => (flagOf? v).isSome

/-- The sections of a settings file, with the types of their fields. -/
def schema : List (String × List (String × FieldType)) :=
  [("output", [("format", .text), ("show_eof", .flag)]),
    ("check", [("deny_illegal", .flag)]),
    ("log", [("level", .text)])]

/-- The entries of a table. -/
def contents : Value → Entries
  | .table _ t => t
  | _ => []

/-- The entries of a section. A section that is missing has none. -/
def entriesOf (es : Entries) (name : String) : Entries :=
  (es.get? name).elim [] contents

/-- The entries have known keys, and values of their types. -/
def Typed (fields : List (String × FieldType)) (t : Entries) : Prop :=
  ∀ e ∈ t, ∃ f ∈ fields, f.1 = e.1 ∧ f.2.Holds e.2

/-- The document fits the schema: it has no other section, and no other field in a section, nor a value
of another type. -/
structure Fits (es : Entries) : Prop where
  known : es.keys ⊆ schema.map Prod.fst
  typed : ∀ s ∈ schema, Typed s.2 (entriesOf es s.1)

/-- The sections of the document are tables. -/
def Tabular (es : Entries) : Prop :=
  ∀ s ∈ schema, ∀ v, es.get? s.1 = some v → ∃ origin t, v = .table origin t

/-- The text that a key has. -/
def text? (t : Entries) (key : String) : Option String :=
  (t.get? key).bind textOf?

/-- The truth value that a key has. -/
def flag? (t : Entries) (key : String) : Option Bool :=
  (t.get? key).bind flagOf?

/-- The format that the document names. -/
def format? (es : Entries) : Option String :=
  text? (entriesOf es "output") "format"

/-- The level that the document gives. -/
def level? (es : Entries) : Option String :=
  text? (entriesOf es "log") "level"

/-- What the output section says, if it has these entries. -/
def outputOf (t : Entries) : OutputDraft :=
  { format := text? t "format"
    showEof := (flag? t "show_eof").getD ({} : OutputSettings).showEof }

/-- What the check section says, if it has these entries. -/
def checkOf (t : Entries) : CheckDraft :=
  { denyIllegal := (flag? t "deny_illegal").getD ({} : CheckSettings).denyIllegal }

/-- What the log section says, if it has these entries. -/
def logOf (t : Entries) : LogDraft :=
  { level := (text? t "level").getD ({} : LogSettings).level }

/-- What the document says. -/
def draftOf (es : Entries) : Draft :=
  { output := outputOf (entriesOf es "output")
    check := checkOf (entriesOf es "check")
    log := logOf (entriesOf es "log") }

/-! ### One section -/

/-- With keys given once, entries are typed if their keys are known and each field is given a value of
its type, if any. -/
theorem typed_iff {fields : List (String × FieldType)} (hf : (fields.map Prod.fst).Nodup)
    (ht : t.keys.Nodup) : Typed fields t ↔ t.keys ⊆ fields.map Prod.fst ∧
      ∀ f ∈ fields, ∀ v, t.get? f.1 = some v → f.2.Holds v := by
  constructor
  · intro h
    refine ⟨fun key hkey => ?_, fun f hf' v hv => ?_⟩
    · obtain ⟨e, he, rfl⟩ := List.mem_map.mp hkey
      obtain ⟨f, hf, hk, -⟩ := h e he
      exact List.mem_map.mpr ⟨f, hf, hk⟩
    · obtain ⟨g, hg, hk, hv⟩ := h (f.1, v) ((Entries.get?_eq_some_iff ht).mp hv)
      obtain rfl : g = f := List.inj_on_of_nodup_map hf hg hf' hk
      exact hv
  · rintro ⟨hk, hv⟩ e he
    obtain ⟨f, hf, hfe⟩ := List.mem_map.mp (hk (List.mem_map_of_mem he))
    refine ⟨f, hf, hfe, hv f hf e.2 ((Entries.get?_eq_some_iff ht).mpr ?_)⟩
    rw [hfe]
    exact he

/-- The record comes to what `said` makes of the entries that it is given, if they are typed. -/
def Reads {σ : Type} (r : Record σ) (types : List (String × FieldType)) (said : Entries → σ) : Prop :=
  ∀ t a, t.keys.Nodup → (setByKey r.fields t r.bare = .ok a ↔ Typed types t ∧ said t = a)

theorem reads_outputRecord :
    Reads outputRecord [("format", .text), ("show_eof", .flag)] outputOf := by
  intro t a ht
  rw [setByKey_eq_ok_iff independent_outputRecord ht, typed_iff (by decide) ht, outputRecord,
    Field.takes_text.setInOrder_eq_ok_iff, Field.takes_flag.setInOrder_eq_ok_iff,
    setInOrder_nil_eq_ok_iff, List.forall_mem_cons, List.forall_mem_singleton, and_assoc, and_assoc]
  refine and_congr_right' (and_congr_right' (and_congr_right' (iff_of_eq (congrArg (· = a) ?_))))
  unfold outputOf text? flag? Field.text Field.flag
  cases (t.get? "format").bind textOf? <;> cases (t.get? "show_eof").bind flagOf? <;> rfl

theorem reads_checkRecord : Reads checkRecord [("deny_illegal", .flag)] checkOf := by
  intro t a ht
  rw [setByKey_eq_ok_iff independent_checkRecord ht, typed_iff (by decide) ht, checkRecord,
    Field.takes_flag.setInOrder_eq_ok_iff, setInOrder_nil_eq_ok_iff, List.forall_mem_singleton,
    and_assoc]
  refine and_congr_right' (and_congr_right' (iff_of_eq (congrArg (· = a) ?_)))
  unfold checkOf flag? Field.flag
  cases (t.get? "deny_illegal").bind flagOf? <;> rfl

theorem reads_logRecord : Reads logRecord [("level", .text)] logOf := by
  intro t a ht
  rw [setByKey_eq_ok_iff independent_logRecord ht, typed_iff (by decide) ht, logRecord,
    Field.takes_text.setInOrder_eq_ok_iff, setInOrder_nil_eq_ok_iff, List.forall_mem_singleton,
    and_assoc]
  refine and_congr_right' (and_congr_right' (iff_of_eq (congrArg (· = a) ?_)))
  unfold logOf text? Field.text
  cases (t.get? "level").bind textOf? <;> rfl

/-! ### One document -/

theorem nodup_entriesOf (hp : es.IsProper) (name : String) : (entriesOf es name).keys.Nodup := by
  unfold entriesOf
  cases hv : es.get? name with
  | none => exact List.nodup_nil
  | some v =>
      cases Entries.isProper_of_get? hp hv with
      | table hk => exact hk
      | _ => exact List.nodup_nil

/-- A section that is a table comes to what its record reads.  So does a section that is missing, if what
stands in its place is what an empty section says. -/
theorem Reads.setInOrder_eq_ok_iff {σ τ : Type} {r : Record τ} {types : List (String × FieldType)}
    {said : Entries → τ} {store : τ → σ → σ} {rest : List (Field σ)} {d d' : σ}
    (hr : Reads r types said) (hp : es.IsProper)
    (h : ∀ v, es.get? name = some v → ∃ origin t, v = .table origin t)
    (hd : store (said []) d = d) :
    setInOrder (.record name r store :: rest) es d = .ok d' ↔
      Typed types (entriesOf es name) ∧
        setInOrder rest es (store (said (entriesOf es name)) d) = .ok d' := by
  have hn := nodup_entriesOf hp name
  change Field.setFrom es (.record name r store) d >>= setInOrder rest es = .ok d' ↔ _
  unfold entriesOf at hn ⊢
  cases hv : es.get? name with
  | none =>
      rw [Field.setFrom_of_none hv, Option.elim_none, hd]
      exact (and_iff_right nofun).symm
  | some v =>
      obtain ⟨origin, t, rfl⟩ := h v hv
      rw [hv] at hn
      rw [Field.setFrom_of_get? hv]
      change (setByKey r.fields t r.bare >>= fun a => .ok (store a d)) >>= _ = _ ↔ _
      rw [bind_assoc, bind_eq_ok_iff_of fun a => hr t a hn]
      rfl

theorem fits_iff : Fits es ↔ es.keys ⊆ ["output", "check", "log"] ∧
    Typed [("format", .text), ("show_eof", .flag)] (entriesOf es "output") ∧
    Typed [("deny_illegal", .flag)] (entriesOf es "check") ∧
    Typed [("level", .text)] (entriesOf es "log") := by
  constructor
  · rintro ⟨hk, h⟩
    exact ⟨hk, h _ (.head _), h _ (.tail _ (.head _)), h _ (.tail _ (.tail _ (.head _)))⟩
  · rintro ⟨hk, houtput, hcheck, hlog⟩
    refine ⟨hk, List.forall_mem_cons.mpr ⟨houtput, List.forall_mem_cons.mpr ⟨hcheck, ?_⟩⟩⟩
    exact List.forall_mem_cons.mpr ⟨hlog, nofun⟩

/-- **What a document comes to.** -/
theorem ofEntries_eq_ok_iff {d : Draft} (hp : es.IsProper) (ht : Tabular es) :
    Draft.ofEntries es = .ok d ↔ Fits es ∧ draftOf es = d := by
  have houtput (v : Value) (hv : es.get? "output" = some v) := ht _ (.head _) v hv
  have hcheck (v : Value) (hv : es.get? "check" = some v) := ht _ (.tail _ (.head _)) v hv
  have hlog (v : Value) (hv : es.get? "log" = some v) := ht _ (.tail _ (.tail _ (.head _))) v hv
  rw [Draft.ofEntries, setByKey_eq_ok_iff independent_sections hp.nodup, sections, fits_iff,
    reads_outputRecord.setInOrder_eq_ok_iff hp houtput rfl,
    reads_checkRecord.setInOrder_eq_ok_iff hp hcheck rfl,
    reads_logRecord.setInOrder_eq_ok_iff hp hlog rfl, setInOrder_nil_eq_ok_iff, and_assoc, and_assoc,
    and_assoc]
  rfl

end Tokenizer.Settings
