import Mathlib
import Tokenizer.Proofs.Settings.Sections
import Tokenizer.Proofs.Settings.Search

/-!
# Settings are overlaid on the defaults

A text that denotes a document whose sections are tables comes to settings exactly if the document fits
the schema, its format is known and its level has something to see.  They are the defaults with what
the document gives in their place (`overlay`), so that neither the order of the document matters
(`Reordered`) nor whether the defaults are spelled out (`Unsaid`).

* `outcome_parse`: the four outcomes, of which each has its own condition.
* `Alike.fits_iff`, `Alike.overlay_eq`: what documents that are alike have in common.
* `overlays_parse`: what a text comes to, and texts that come to the same.
-/

namespace Tokenizer.Settings

open Toml (Entries Value)

variable {es es' mid t t' written : Entries} {root : Option Path} {s : Settings}
  {text text' name key : String}

/-! ### Outcomes -/

/-- The text denotes a document whose sections are tables. -/
structure Denotes (text : String) (es : Entries) : Prop where
  document : Toml.document? text = some es
  tabular : Tabular es

/-- The format is left out, or is one of the two that there are. -/
def FormatKnown (es : Entries) : Prop :=
  ∀ name, format? es = some name → name = "text" ∨ name = "json"

/-- The level is left out, or has a character that is no white space. -/
def LevelVisible (es : Entries) : Prop :=
  ∀ level, level? es = some level → ∃ c ∈ level.toList, Text.isWhiteSpace c = false

/-- The default settings, with what the document gives in their place. -/
def overlay (es : Entries) (root : Option Path) : Settings :=
  let defaults : Settings := {}
  let output := entriesOf es "output"
  let check := entriesOf es "check"
  { output.format := ((format? es).bind Format.ofName?).getD defaults.output.format
    output.showEof := (flag? output "show_eof").getD defaults.output.showEof
    check.denyIllegal := (flag? check "deny_illegal").getD defaults.check.denyIllegal
    log.level := (level? es).getD defaults.log.level
    rootDirectory := root }

/-- What a document comes to, and when. -/
inductive Outcome (es : Entries) (root : Option Path) : Except SettingsError Settings → Prop
  | settings (hf : Fits es) (hk : FormatKnown es) (hv : LevelVisible es) :
      Outcome es root (.ok (overlay es root))
  | schema (hf : ¬ Fits es) (e : SchemaError) : Outcome es root (.error (.schema e))
  | unknownFormat (hf : Fits es) {name : String} (hn : format? es = some name)
      (hk : ¬ (name = "text" ∨ name = "json")) : Outcome es root (.error (.unknownFormat name))
  | emptyLevel (hf : Fits es) (hk : FormatKnown es) (hv : ¬ LevelVisible es) :
      Outcome es root (.error .emptyLevel)

namespace Outcome

variable {r : Except SettingsError Settings} (h : Outcome es root r)

include h

theorem eq_ok_iff :
    r = .ok s ↔ (Fits es ∧ FormatKnown es ∧ LevelVisible es) ∧ s = overlay es root := by
  cases h with
  | settings hf hk hv =>
      exact ⟨fun e => ⟨⟨hf, hk, hv⟩, (Except.ok.inj e).symm⟩, fun h => congrArg _ h.2.symm⟩
  | schema hf => exact iff_of_false nofun fun h => hf h.1.1
  | unknownFormat _ hn hk => exact iff_of_false nofun fun h => hk (h.1.2.1 _ hn)
  | emptyLevel _ _ hv => exact iff_of_false nofun fun h => hv h.1.2.2

theorem schema_iff : (∃ e, r = .error (.schema e)) ↔ ¬ Fits es := by
  cases h with
  | schema hf e => exact iff_of_true ⟨e, rfl⟩ hf
  | settings hf | unknownFormat hf | emptyLevel hf =>
      exact iff_of_false (fun ⟨_, e⟩ => nomatch e) fun h => h hf

theorem unknownFormat_iff : r = .error (.unknownFormat name) ↔
    Fits es ∧ format? es = some name ∧ ¬ (name = "text" ∨ name = "json") := by
  cases h with
  | settings _ hk | emptyLevel _ hk =>
      exact iff_of_false nofun fun h => h.2.2 (hk name h.2.1)
  | schema hf => exact iff_of_false nofun fun h => hf h.1
  | unknownFormat hf hn hk =>
      constructor
      · rintro ⟨⟩
        exact ⟨hf, hn, hk⟩
      · rintro ⟨-, hn', -⟩
        rw [Option.some.inj (hn.symm.trans hn')]

theorem emptyLevel_iff :
    r = .error .emptyLevel ↔ Fits es ∧ FormatKnown es ∧ ¬ LevelVisible es := by
  cases h with
  | settings _ _ hv => exact iff_of_false nofun fun h => h.2.2 hv
  | schema hf => exact iff_of_false nofun fun h => hf h.1
  | unknownFormat _ hn hk => exact iff_of_false nofun fun h => hk (h.2.1 _ hn)
  | emptyLevel hf hk hv => exact iff_of_true rfl ⟨hf, hk, hv⟩

end Outcome

/-! ### In terms of the draft -/

theorem ofName?_eq_none_iff : Format.ofName? name = none ↔ ¬ (name = "text" ∨ name = "json") := by
  rw [Format.ofName?, List.find?_eq_none, List.forall_mem_cons, List.forall_mem_singleton, not_or,
    beq_iff_eq, beq_iff_eq]
  exact and_congr ne_comm ne_comm

/-- The format that is not named is the text format. -/
theorem Draft.format?_eq (d : Draft) :
    d.format? = Format.ofName? (d.output.format.getD Format.text.name) := by
  unfold Draft.format?
  cases d.output.format with
  | none => rfl
  | some name => rfl

theorem draftOf_format : (draftOf es).output.format = format? es :=
  rfl

theorem draftOf_level : (draftOf es).log.level = (level? es).getD ({} : LogSettings).level :=
  rfl

theorem formatKnown_iff : FormatKnown es ↔ (draftOf es).format? ≠ none := by
  rw [FormatKnown, Draft.format?, draftOf_format]
  cases format? es with
  | none => exact iff_of_true nofun nofun
  | some name =>
      rw [Option.elim_some, Ne, ofName?_eq_none_iff, not_not]
      exact ⟨fun h => h name rfl, fun h _ e => Option.some.inj e ▸ h⟩

theorem levelVisible_iff :
    LevelVisible es ↔ (draftOf es).log.level.toList.all Text.isWhiteSpace = false := by
  rw [LevelVisible, draftOf_level, List.all_eq_false]
  cases level? es with
  | none => exact iff_of_true nofun ⟨'w', by decide, by decide⟩
  | some level => simp only [Option.some.injEq, forall_eq', Option.getD_some, Bool.not_eq_true]

theorem overlay_eq : overlay es root =
    { output := ⟨(draftOf es).format?.getD .text, (draftOf es).output.showEof⟩
      check := ⟨(draftOf es).check.denyIllegal⟩
      log := ⟨(draftOf es).log.level⟩
      rootDirectory := root } := by
  have hformat : ((format? es).bind Format.ofName?).getD .text =
      (draftOf es).format?.getD .text := by
    rw [Draft.format?, draftOf_format]
    cases format? es <;> rfl
  rw [← hformat]
  rfl

/-- **What a text comes to.** -/
theorem outcome_parse (h : Denotes text es) (root : Option Path) :
    Outcome es root (Settings.parse text root) := by
  have hd (d : Draft) := ofEntries_eq_ok_iff (d := d) (Toml.isProper_of_document? h.document) h.tabular
  simp only [Settings.parse, h.document, ofEntries]
  cases he : Draft.ofEntries es with
  | error e =>
      refine .schema (fun hf => ?_) e
      rw [(hd _).mpr ⟨hf, rfl⟩] at he
      cases he
  | ok d =>
      obtain ⟨hf, rfl⟩ := (hd d).mp he
      change Outcome es root (ofDraft (draftOf es) root)
      cases hformat : (draftOf es).format? with
      | none =>
          obtain ⟨name, hn, hu⟩ := ofDraft_of_unknown hformat root
          rw [hu]
          refine .unknownFormat hf hn (ofName?_eq_none_iff.mp ?_)
          rwa [Draft.format?_eq, hn] at hformat
      | some format =>
          have hk : FormatKnown es := formatKnown_iff.mpr (by simp [hformat])
          rw [ofDraft_of_format hformat]
          split
          · next hw => exact .emptyLevel hf hk fun hv => by simp [levelVisible_iff.mp hv] at hw
          · next hw =>
            have hv : LevelVisible es := levelVisible_iff.mpr (by simpa using hw)
            have hs : Outcome es root (.ok (overlay es root)) := .settings hf hk hv
            rwa [overlay_eq, hformat] at hs

/-! ### Documents that are alike -/

/-- Two entries are the same, or tables with the same entries in another order. -/
inductive SameInside : String × Value → String × Value → Prop
  | refl (e : String × Value) : SameInside e e
  | table {origin origin' : Toml.Origin} {t t' : Entries} (key : String) (h : t.Perm t') :
      SameInside (key, .table origin t) (key, .table origin' t')

/-- The documents are the same but for the order of their entries, and of those of their sections. -/
def Reordered (es es' : Entries) : Prop :=
  ∃ mid, es.Perm mid ∧ List.Forall₂ SameInside mid es'

/-- The sections with all their defaults spelled out. -/
def spelledOut : List (String × Entries) :=
  let defaults : Settings := {}
  [("output", [("format", .string defaults.output.format.name),
      ("show_eof", .boolean defaults.output.showEof)]),
    ("check", [("deny_illegal", .boolean defaults.check.denyIllegal)]),
    ("log", [("level", .string defaults.log.level)])]

/-- The documents are the same but for sections of which neither gives more than defaults: they may be
missing, empty, or spelled out in part or as a whole. -/
def Unsaid (es es' : Entries) : Prop :=
  ∀ name, es.get? name = es'.get? name ∨
    ∃ s ∈ spelledOut, s.1 = name ∧ entriesOf es name ⊆ s.2 ∧ entriesOf es' name ⊆ s.2

/-- Two sections that say the same, if `written` is what holds by default. -/
def SaySame (written t t' : Entries) : Prop :=
  t.Perm t' ∨ t ⊆ written ∧ t' ⊆ written

/-- The documents have the same keys as far as these are unknown, and sections that say the same. -/
structure Alike (es es' : Entries) : Prop where
  known : es.keys ⊆ schema.map Prod.fst ↔ es'.keys ⊆ schema.map Prod.fst
  sections : ∀ s ∈ spelledOut, SaySame s.2 (entriesOf es s.1) (entriesOf es' s.1)

theorem Typed.mono {fields : List (String × FieldType)} (h : Typed fields t') (hs : t ⊆ t') :
    Typed fields t :=
  fun e he => h e (hs he)

theorem SaySame.typed_iff {fields : List (String × FieldType)} (h : SaySame written t t')
    (hw : Typed fields written) : Typed fields t ↔ Typed fields t' := by
  rcases h with h | ⟨h, h'⟩
  · exact ⟨fun ht => ht.mono h.symm.subset, fun ht => ht.mono h.subset⟩
  · exact iff_of_true (hw.mono h) (hw.mono h')

/-- What is not more than the defaults gives a key its default, if any value. -/
theorem getD_of_subset {α : Type} {read : Value → Option α} {a : α} (ht : t.keys.Nodup)
    (hw : written.keys.Nodup) (h : t ⊆ written) (ha : (written.get? key).bind read = some a) :
    ((t.get? key).bind read).getD a = a := by
  cases hv : t.get? key with
  | none => rfl
  | some v =>
      have hmem : (key, v) ∈ written := h ((Entries.get?_eq_some_iff ht).mp hv)
      rw [(Entries.get?_eq_some_iff hw).mpr hmem] at ha
      rw [ha, Option.getD_some]

theorem SaySame.getD_eq {α : Type} {read : Value → Option α} {a : α} (h : SaySame written t t')
    (ht : t.keys.Nodup) (ht' : t'.keys.Nodup) (hw : written.keys.Nodup)
    (ha : (written.get? key).bind read = some a) :
    ((t.get? key).bind read).getD a = ((t'.get? key).bind read).getD a := by
  rcases h with h | ⟨h, h'⟩
  · rw [Entries.get?_perm ht h]
  · rw [getD_of_subset ht hw h ha, getD_of_subset ht' hw h' ha]

theorem Alike.fits_iff (h : Alike es es') : Fits es ↔ Fits es' := by
  rw [Settings.fits_iff, Settings.fits_iff]
  refine and_congr h.known (and_congr ?_ (and_congr ?_ ?_))
  · exact (h.sections _ (.head _)).typed_iff (by simp [Typed, FieldType.Holds, textOf?, flagOf?])
  · exact (h.sections _ (.tail _ (.head _))).typed_iff (by simp [Typed, FieldType.Holds, flagOf?])
  · exact (h.sections _ (.tail _ (.tail _ (.head _)))).typed_iff
      (by simp [Typed, FieldType.Holds, textOf?])

section

variable (h : Alike es es') (hp : es.IsProper) (hp' : es'.IsProper)

include h hp hp'

theorem Alike.getD_eq {α : Type} {read : Value → Option α} {a : α} {s : String × Entries}
    (hs : s ∈ spelledOut) (hw : s.2.keys.Nodup) (ha : (s.2.get? key).bind read = some a) :
    (((entriesOf es s.1).get? key).bind read).getD a =
      (((entriesOf es' s.1).get? key).bind read).getD a :=
  (h.sections s hs).getD_eq (nodup_entriesOf hp _) (nodup_entriesOf hp' _) hw ha

theorem Alike.format?_eq : (draftOf es).format? = (draftOf es').format? := by
  rw [Draft.format?_eq, Draft.format?_eq]
  exact congrArg _ (h.getD_eq hp hp' (.head _) (by decide) rfl)

theorem Alike.level_eq : (draftOf es).log.level = (draftOf es').log.level :=
  h.getD_eq hp hp' (.tail _ (.tail _ (.head _))) (by decide) rfl

theorem Alike.overlay_eq : overlay es root = overlay es' root := by
  have heof : (draftOf es).output.showEof = (draftOf es').output.showEof :=
    h.getD_eq hp hp' (.head _) (by decide) rfl
  have hdeny : (draftOf es).check.denyIllegal = (draftOf es').check.denyIllegal :=
    h.getD_eq hp hp' (.tail _ (.head _)) (by decide) rfl
  rw [Settings.overlay_eq, Settings.overlay_eq, h.format?_eq hp hp', h.level_eq hp hp', heof, hdeny]

end

/-! ### Another order -/

theorem SameInside.key_eq_and_perm {e e' : String × Value} (h : SameInside e e') :
    e.1 = e'.1 ∧ (contents e.2).Perm (contents e'.2) := by
  cases h with
  | refl => exact ⟨rfl, .refl _⟩
  | table key ht => exact ⟨rfl, ht⟩

theorem keys_of_sameInside (h : List.Forall₂ SameInside mid es') : mid.keys = es'.keys := by
  induction h with
  | nil => rfl
  | cons h _ ih => exact congrArg₂ List.cons h.key_eq_and_perm.1 ih

theorem entriesOf_cons {e : String × Value} :
    entriesOf (e :: es) name = if name = e.1 then contents e.2 else entriesOf es name := by
  rw [entriesOf, Entries.get?, List.lookup_cons, entriesOf, Entries.get?]
  by_cases hn : name = e.1
  · rw [if_pos hn, beq_iff_eq.mpr hn, Option.elim_some]
  · rw [if_neg hn, beq_false_of_ne hn]

theorem entriesOf_of_sameInside (h : List.Forall₂ SameInside mid es') (name : String) :
    (entriesOf mid name).Perm (entriesOf es' name) := by
  induction h with
  | nil => exact .refl _
  | cons h _ ih =>
      obtain ⟨hkey, hperm⟩ := h.key_eq_and_perm
      rw [entriesOf_cons, entriesOf_cons, hkey]
      split
      · exact hperm
      · exact ih

theorem Reordered.alike (h : Reordered es es') (hp : es.IsProper) : Alike es es' := by
  obtain ⟨mid, hperm, hsame⟩ := h
  have hkeys : es.keys.Perm es'.keys := by
    rw [← keys_of_sameInside hsame]
    exact hperm.map Prod.fst
  have hentries (name : String) : entriesOf es name = entriesOf mid name := by
    rw [entriesOf, entriesOf, Entries.get?_perm hp.nodup hperm]
  constructor
  · exact ⟨List.Subset.trans hkeys.symm.subset, List.Subset.trans hkeys.subset⟩
  · intro s _
    rw [hentries]
    exact .inl (entriesOf_of_sameInside hsame s.1)

/-! ### Defaults that are left out -/

theorem Unsaid.symm (h : Unsaid es es') : Unsaid es' es := by
  intro name
  rcases h name with he | ⟨s, hs, hn, h, h'⟩
  · exact .inl he.symm
  · exact .inr ⟨s, hs, hn, h', h⟩

theorem Unsaid.known (h : Unsaid es es') (hk : es.keys ⊆ schema.map Prod.fst) :
    es'.keys ⊆ schema.map Prod.fst := by
  intro name hname
  rcases h name with he | ⟨s, hs, rfl, -⟩
  · refine hk (not_not.mp fun hn => ?_)
    rw [← Entries.get?_eq_none_iff, he, Entries.get?_eq_none_iff] at hn
    exact hn hname
  · exact List.mem_map_of_mem hs

theorem Unsaid.alike (h : Unsaid es es') : Alike es es' := by
  refine ⟨⟨h.known, h.symm.known⟩, fun s hs => ?_⟩
  rcases h s.1 with he | ⟨s', hs', hn, hsub, hsub'⟩
  · rw [entriesOf, he, entriesOf]
    exact .inl (.refl _)
  · obtain rfl : s' = s := List.inj_on_of_nodup_map (by decide) hs' hs hn
    exact .inr ⟨hsub, hsub'⟩

/-! ### Settings -/

/-- What a text comes to that denotes the document `es`. -/
structure Overlays (text : String) (es : Entries) : Prop where
  eq_ok_iff : ∀ root s, Settings.parse text root = .ok s ↔
    (Fits es ∧ FormatKnown es ∧ LevelVisible es) ∧ s = overlay es root
  schema_iff : ∀ root, (∃ e, Settings.parse text root = .error (.schema e)) ↔ ¬ Fits es
  unknownFormat_iff : ∀ root name, Settings.parse text root = .error (.unknownFormat name) ↔
    Fits es ∧ format? es = some name ∧ ¬ (name = "text" ∨ name = "json")
  emptyLevel_iff : ∀ root, Settings.parse text root = .error .emptyLevel ↔
    Fits es ∧ FormatKnown es ∧ ¬ LevelVisible es
  /-- The document in another order comes to the same settings. -/
  reordered : ∀ text' es', Denotes text' es' → Reordered es es' →
    ∀ root s, Settings.parse text' root = .ok s ↔ Settings.parse text root = .ok s
  /-- So does the document with defaults left out, or spelled out. -/
  unsaid : ∀ text' es', Denotes text' es' → Unsaid es es' →
    ∀ root s, Settings.parse text' root = .ok s ↔ Settings.parse text root = .ok s

theorem Alike.parse_eq_ok_iff (h : Alike es es') (hd : Denotes text es) (hd' : Denotes text' es')
    (root : Option Path) (s : Settings) :
    Settings.parse text' root = .ok s ↔ Settings.parse text root = .ok s := by
  have hp := Toml.isProper_of_document? hd.document
  have hp' := Toml.isProper_of_document? hd'.document
  rw [(outcome_parse hd root).eq_ok_iff, (outcome_parse hd' root).eq_ok_iff, h.fits_iff,
    formatKnown_iff, formatKnown_iff, h.format?_eq hp hp', levelVisible_iff, levelVisible_iff,
    h.level_eq hp hp', h.overlay_eq hp hp']

/-- **Settings are overlaid on the defaults.** -/
theorem overlays_parse (h : Denotes text es) : Overlays text es := by
  have hp := Toml.isProper_of_document? h.document
  have ho := outcome_parse h
  constructor
  case eq_ok_iff => exact fun root s => (ho root).eq_ok_iff
  case schema_iff => exact fun root => (ho root).schema_iff
  case unknownFormat_iff => exact fun root name => (ho root).unknownFormat_iff
  case emptyLevel_iff => exact fun root => (ho root).emptyLevel_iff
  case reordered => exact fun text' es' h' hr => (hr.alike hp).parse_eq_ok_iff h h'
  case unsaid => exact fun text' es' h' hu => hu.alike.parse_eq_ok_iff h h'

/-- A text with two sections, one field in each. -/
def spokenText : String := "[log]\nlevel = \" x\"\n[output]\nformat = \"json\"\n"

/-- The document that the text denotes. -/
def spokenEntries : Entries :=
  [("log", .table .header [("level", .string " x")]),
    ("output", .table .header [("format", .string "json")])]

theorem denotes_spokenText : Denotes spokenText spokenEntries := by
  refine ⟨by cbv, fun s hs v hv => ?_⟩
  simp only [schema, List.mem_cons, List.not_mem_nil, or_false] at hs
  rcases hs with rfl | rfl | rfl
  · cases hv
    exact ⟨_, _, rfl⟩
  · cases hv
  · cases hv
    exact ⟨_, _, rfl⟩

/-- The level keeps its blank, and what is left out keeps its default. -/
theorem overlays_parse_spokenText : Denotes spokenText spokenEntries ∧
    Overlays spokenText spokenEntries ∧ Settings.parse spokenText (some ⟨"/etc"⟩) = .ok
      { output := ⟨.json, true⟩, check := ⟨true⟩, log := ⟨" x"⟩, rootDirectory := some ⟨"/etc"⟩ } :=
  ⟨denotes_spokenText, overlays_parse denotes_spokenText, by cbv⟩

/-- The format is looked at before the level. -/
example : Settings.parse "[log]\nlevel = \"\"\n[output]\nformat = \"xml\"\n" none =
    .error (.unknownFormat "xml") := by
  cbv

end Tokenizer.Settings
