import Tokenizer.Proofs.Command.Stages
import Tokenizer.Proofs.Host.Following

/-!
# The source of a run

A run takes its source from the file that a path names or from the standard input.  What it gets is
all of that, as text (`World.Supplies`), or nothing (`World.Refuses`).

* `supplies_or_refuses`: it is one of the two.
* `readSource_eq_ok_iff`, `readSource_eq_error_iff`: what a run takes for its source, and why there
  may be none.
-/

namespace Tokenizer

/-! ### Text -/

theorem fromUTF8?_eq_some_iff {content : ByteArray} {text : String} :
    String.fromUTF8? content = some text ↔ content = text.toUTF8 := by
  constructor
  · intro h
    unfold String.fromUTF8? at h
    split at h
    · cases h
      rfl
    · cases h
  · rintro rfl
    exact dif_pos text.isValidUTF8

theorem decodeUtf8_toUTF8 (text : String) : decodeUtf8 text.toUTF8 = .ok text := by
  rw [decodeUtf8, fromUTF8?_eq_some_iff.mpr rfl]

theorem decodeUtf8_of_not_text {content : ByteArray} (h : ∀ text : String, content ≠ text.toUTF8) :
    decodeUtf8 content = .error .notText := by
  have hn : String.fromUTF8? content = none :=
    Option.eq_none_iff_forall_ne_some.mpr fun text ht => h text (fromUTF8?_eq_some_iff.mp ht)
  rw [decodeUtf8, hn]

/-! ### What there is to read -/

namespace World

/-- The source of a run is the text `text`: it stands in the file that a path names, which may be
read, or on the standard input. -/
inductive Supplies (w : World) (denied : Location → Option ReadFault) :
    Option Path → String → Prop
  | input {text : String} (h : w.input = text.toUTF8) : Supplies w denied none text
  | file {p : Path} {l : Location} {text : String} (hl : w.locate p = .ok l) (hd : denied l = none)
      (he : w.tree.entry? l = some (.file text.toUTF8)) : Supplies w denied (some p) text

/-- The source of a run, under the name that it has in reports, cannot be read. -/
inductive Refuses (w : World) (denied : Location → Option ReadFault) :
    Option Path → String → ReadFault → Prop
  | input (h : ∀ text : String, w.input ≠ text.toUTF8) : Refuses w denied none "<stdin>" .notText
  | nowhere {p : Path} {fault : ReadFault} (h : w.locate p = .error fault) :
      Refuses w denied (some p) p.text fault
  | denied {p : Path} {l : Location} {fault : ReadFault} (hl : w.locate p = .ok l)
      (h : denied l = some fault) : Refuses w denied (some p) p.text fault
  | missing {p : Path} {l : Location} (hl : w.locate p = .ok l) (hd : denied l = none)
      (he : w.tree.entry? l = none) : Refuses w denied (some p) p.text .missing
  | directory {p : Path} {l : Location} (hl : w.locate p = .ok l) (hd : denied l = none)
      (he : w.tree.entry? l = some .directory) : Refuses w denied (some p) p.text .directory
  | notText {p : Path} {l : Location} {content : ByteArray} (hl : w.locate p = .ok l)
      (hd : denied l = none) (he : w.tree.entry? l = some (.file content))
      (h : ∀ text : String, content ≠ text.toUTF8) : Refuses w denied (some p) p.text .notText

end World

namespace Command

/-! ### What a run reads -/

variable {w : World} {denied : Location → Option ReadFault} {source? : Option Path}

theorem readSource_none (host : Host Id) :
    readSource host none = host.standardInput.mapError (.source "<stdin>") :=
  rfl

theorem readSource_some (host : Host Id) (p : Path) :
    readSource host (some p) = (host.read p).mapError (.source p.text) :=
  rfl

theorem standardInput_denying (w : World) (denied : Location → Option ReadFault) :
    (w.denying denied).standardInput = decodeUtf8 w.input :=
  rfl

theorem read_denying_of_locate {p : Path} {l : Location} (hl : w.locate p = .ok l)
    (hd : denied l = none) : (w.denying denied).read p = w.tree.readAt l := by
  simp only [World.denying, hl, hd]

theorem readSource_of_supplies {text : String} (h : w.Supplies denied source? text) :
    readSource (w.denying denied) source? = .ok text := by
  cases h with
  | input h =>
      rw [readSource_none, standardInput_denying, h, decodeUtf8_toUTF8]
      rfl
  | file hl hd he =>
      rw [readSource_some, read_denying_of_locate hl hd, FileTree.readAt, he]
      dsimp only
      rw [decodeUtf8_toUTF8]
      rfl

theorem readSource_of_refuses {name : String} {fault : ReadFault}
    (h : w.Refuses denied source? name fault) :
    readSource (w.denying denied) source? = .error (.source name fault) := by
  cases h with
  | input h =>
      rw [readSource_none, standardInput_denying, decodeUtf8_of_not_text h]
      rfl
  | nowhere h =>
      simp only [readSource_some, World.denying, h]
      rfl
  | denied hl h =>
      simp only [readSource_some, World.denying, hl, h]
      rfl
  | missing hl hd he | directory hl hd he =>
      rw [readSource_some, read_denying_of_locate hl hd, FileTree.readAt, he]
      rfl
  | notText hl hd he h =>
      rw [readSource_some, read_denying_of_locate hl hd, FileTree.readAt, he]
      dsimp only
      rw [decodeUtf8_of_not_text h]
      rfl

/-- Bytes are text or not. -/
theorem text_or_not (content : ByteArray) :
    (∃ text : String, content = text.toUTF8) ∨ ∀ text : String, content ≠ text.toUTF8 := by
  by_cases h : ∃ text : String, content = text.toUTF8
  · exact .inl h
  · exact .inr (not_exists.mp h)

theorem supplies_or_refuses (w : World) (denied : Location → Option ReadFault)
    (source? : Option Path) : (∃ text, w.Supplies denied source? text) ∨
      ∃ name fault, w.Refuses denied source? name fault := by
  cases source? with
  | none =>
      rcases text_or_not w.input with ⟨text, h⟩ | h
      · exact .inl ⟨text, .input h⟩
      · exact .inr ⟨_, _, .input h⟩
  | some p =>
      cases hl : w.locate p with
      | error fault => exact .inr ⟨_, _, .nowhere hl⟩
      | ok l =>
          cases hd : denied l with
          | some fault => exact .inr ⟨_, _, .denied hl hd⟩
          | none =>
              cases he : w.tree.entry? l with
              | none => exact .inr ⟨_, _, .missing hl hd he⟩
              | some e =>
                  cases e with
                  | directory => exact .inr ⟨_, _, .directory hl hd he⟩
                  | file content =>
                      rcases text_or_not content with ⟨text, rfl⟩ | h
                      · exact .inl ⟨text, .file hl hd he⟩
                      · exact .inr ⟨_, _, .notText hl hd he h⟩

theorem readSource_eq_ok_iff {text : String} :
    readSource (w.denying denied) source? = .ok text ↔ w.Supplies denied source? text := by
  refine ⟨fun h => ?_, readSource_of_supplies⟩
  rcases supplies_or_refuses w denied source? with ⟨text', ht⟩ | ⟨name, fault, hr⟩
  · rw [readSource_of_supplies ht] at h
    cases h
    exact ht
  · rw [readSource_of_refuses hr] at h
    cases h

theorem readSource_eq_error_iff {f : Failure} :
    readSource (w.denying denied) source? = .error f ↔
      ∃ name fault, w.Refuses denied source? name fault ∧ f = .source name fault := by
  constructor
  · intro h
    rcases supplies_or_refuses w denied source? with ⟨text, ht⟩ | ⟨name, fault, hr⟩
    · rw [readSource_of_supplies ht] at h
      cases h
    · rw [readSource_of_refuses hr] at h
      cases h
      exact ⟨name, fault, hr, rfl⟩
  · rintro ⟨name, fault, hr, rfl⟩
    exact readSource_of_refuses hr

end Command

end Tokenizer
