import Tokenizer.Token.Listing
import Tokenizer.Proofs.Json.Reader

/-!
# Listings can be read back

A reader for each form of a listing.  The one for text takes a line apart at the padding, which is
safe because no name of a kind holds a blank (`no_blank_name`); the one for JSON reads any JSON text
and then expects an array of objects.

* `reads_textLine`: a line is read as its token.
* `parse?_jsonListing`: a JSON listing is the array of the tokens' objects.
* `listing_lossless`: both readers give the tokens back, so that no two lists of tokens are listed
  alike.
-/

namespace Tokenizer.Token

open Scan Text

/-! ### Names of kinds -/

theorem name_ne_nil (k : Kind) : k.name.toList ≠ [] :=
  (by decide +kernel : ∀ k ∈ Kind.all, k.name.toList ≠ []) k (Kind.mem_all k)

theorem no_blank_name (k : Kind) : ∀ c ∈ k.name.toList, c ≠ ' ' ∧ c ≠ '\n' := by
  have h : ∀ k ∈ Kind.all, k.name.toList.all (fun c => c != ' ' && c != '\n') = true := by
    decide +kernel
  simpa using h k (Kind.mem_all k)

/-! ### Text -/

/-- A token by the name of its kind, blanks and the quoted text, up to the end of the line. -/
def textToken : Scan Token := do
  let name ← run₁ (· != ' ')
  let _ ← run₁ (· == ' ')
  let literal ← quoted
  exactly '\n'
  let some kind := Kind.ofName? (.ofList name) | failure
  return ⟨kind, literal⟩

/-- The tokens that a text lists, a line each. -/
def ofText? (s : String) : Option (List Token) :=
  (textToken.repeated <* endOfText).run' s.toList

/-- A line in three parts: the name, at least one blank, and the quoted text. -/
theorem toList_textLine (t : Token) : t.textLine.toList = t.kind.name.toList ++
    (List.replicate (kindColumn - t.kind.name.toList.length + 1) ' ' ++ (quote t.literal).toList) := by
  simp [textLine, List.rightpad, List.replicate_succ']

theorem no_lineFeed_textLine (t : Token) : '\n' ∉ t.textLine.toList := by
  rw [toList_textLine]
  simp only [List.mem_append, not_or]
  refine ⟨fun h => (no_blank_name t.kind _ h).2 rfl, fun h => ?_, no_lineFeed_quote t.literal⟩
  exact absurd (List.eq_of_mem_replicate h) (by decide)

/-- A line is read as its token. -/
theorem reads_textLine (t : Token) : Reads textToken (t.textLine.toList ++ ['\n']) t := by
  have literal : Reads quoted ('"' :: (t.literal.toList.flatMap (escapeChar .quoted) ++ ['"']))
      t.literal := by
    rw [← toList_quote]
    exact reads_quote t.literal
  rw [toList_textLine, List.replicate_succ, toList_quote, List.append_assoc, List.cons_append,
    List.cons_append]
  refine Reads.run₁_bind (fun c hc => by simpa using (no_blank_name t.kind c hc).1)
    (name_ne_nil t.kind) rfl ?_
  rw [List.append_assoc, ← List.cons_append]
  refine Reads.run₁_bind (fun c hc => ?_) (List.cons_ne_nil _ _) rfl ?_
  · rcases List.mem_cons.mp hc with rfl | hc
    · rfl
    · rw [List.eq_of_mem_replicate hc]; rfl
  · refine literal.bind ((reads_exactly '\n').bind (t := []) ?_)
    rw [String.ofList_toList, Kind.ofName?_name]
    exact Reads.pure t

theorem toList_textListing (ts : List Token) :
    (textListing ts).toList = ts.flatMap fun t => t.textLine.toList ++ ['\n'] := by
  simp [textListing, List.flatMap_map]

/-- Every token has a line of its own, and nothing stands behind the last. -/
theorem splitOn_textListing (ts : List Token) : (textListing ts).toList.splitOn '\n' =
    ts.map (fun t => t.textLine.toList) ++ [[]] := by
  rw [toList_textListing]
  induction ts with
  | nil => rfl
  | cons t ts ih =>
      rw [List.flatMap_cons, List.append_assoc, List.singleton_append,
        List.splitOn_append_cons_self_of_not_mem (no_lineFeed_textLine t), ih]
      rfl

theorem ofText?_textListing (ts : List Token) : ofText? (textListing ts) = some ts := by
  have h := repeated_append (r := []) (g := id) (fun t (_ : t ∈ ts) => reads_textLine t) (by simp)
    rfl
  rw [List.append_nil, ← toList_textListing, List.map_id] at h
  exact run'_seqLeft (r := []) (b := ()) h rfl

/-! ### JSON -/

/-- A token as a JSON value. -/
def toJson (t : Token) : Json :=
  .object [("kind", .string t.kind.name), ("literal", .string t.literal)]

/-- The token of a JSON object, if it is one. -/
def ofObject? : Json → Option Token
  | .object [("kind", .string kind), ("literal", .string literal)] =>
    (Kind.ofName? kind).map (⟨·, literal⟩)
  | _ => none

/-- The tokens that a JSON text lists. -/
def ofJson? (s : String) : Option (List Token) := do
  match ← Json.parse? s with
  | .array items => items.mapM ofObject?
  | _ => none

/-- The line of a member, with the line feed in front of it. -/
def memberLine (m : String × String) : List Char :=
  '\n' :: (List.replicate 4 ' ' ++ ((jsonString m.1).toList ++
    (':' :: ' ' :: (jsonString m.2).toList)))

/-- The lines of an object, with the line feed in front of them. -/
def blockLines (t : Token) : List Char :=
  ['\n', ' ', ' '] ++ '\x7b' :: (memberLine ("kind", t.kind.name) ++
    ([("literal", t.literal)].flatMap (fun m => ',' :: memberLine m) ++
      (['\n', ' ', ' '] ++ ['\x7d'])))

theorem lineFeed_cons_jsonBlock (t : Token) : '\n' :: t.jsonBlock.toList = blockLines t := by
  simp [jsonBlock, blockLines, memberLine, members, List.replicate]

theorem reads_memberLine (n : Nat) (m : String × String) :
    Reads (Json.member (Json.value (n + 1))) (memberLine m) (m.1, .string m.2) :=
  Json.reads_member (g := '\n' :: List.replicate 4 ' ') (List.all_eq_true.mp rfl)
    (Json.reads_value_string (g := [' ']) (List.all_eq_true.mp rfl) m.2)

theorem reads_blockLines (n : Nat) (t : Token) :
    Reads (Json.value (n + 2)) (blockLines t) t.toJson :=
  Json.reads_value_object (List.all_eq_true.mp rfl)
    (Json.reads_bracketed (fun m _ => reads_memberLine n m) (List.all_eq_true.mp rfl) rfl (by decide))

/-- The lines of an array of at least one object. -/
def arrayLines (t : Token) (ts : List Token) : List Char :=
  '[' :: (blockLines t ++ (ts.flatMap (fun u => ',' :: blockLines u) ++ (['\n'] ++ [']'])))

theorem reads_arrayLines (n : Nat) (t : Token) (ts : List Token) :
    Reads (Json.value (n + 3)) (arrayLines t ts) (.array ((t :: ts).map toJson)) :=
  Json.reads_value_array (g := []) (List.all_eq_true.mp rfl)
    (Json.reads_bracketed (fun u _ => reads_blockLines n u) (List.all_eq_true.mp rfl) rfl (by decide))

theorem toList_jsonListing (t : Token) (ts : List Token) :
    (jsonListing (t :: ts)).toList = arrayLines t ts ++ ['\n'] := by
  simp [jsonListing, arrayLines, ← lineFeed_cons_jsonBlock, intercalate_cons, List.flatMap_map]

/-- Two brackets and a line feed are enough to show that three levels of values fit into the text. -/
theorem parse?_arrayLines {s : String} {t : Token} {ts : List Token} {g : List Char}
    (hs : s.toList = arrayLines t ts ++ g) (hg : ∀ c ∈ g, Json.isBlank c = true) :
    Json.parse? s = some (.array ((t :: ts).map toJson)) := by
  refine Json.parse?_of_reads hs ?_ hg
  obtain ⟨n, hn⟩ : ∃ n, s.toList.length + 1 = n + 3 := by
    refine Nat.exists_eq_add_of_le' ?_
    simp [hs, arrayLines]
    omega
  rw [hn]
  exact reads_arrayLines n t ts

/-- A JSON listing is an array and a line feed. -/
theorem exists_jsonListing_eq (ts : List Token) : ∃ array, jsonListing ts = array ++ "\n" ∧
    Json.parse? array = some (.array (ts.map toJson)) := by
  cases ts with
  | nil => exact ⟨"[]", rfl, rfl⟩
  | cons t ts =>
      refine ⟨.ofList (arrayLines t ts), ?_, parse?_arrayLines (g := []) (by simp) (by simp)⟩
      rw [← String.toList_inj, toList_jsonListing, String.toList_append, String.toList_ofList]
      rfl

theorem parse?_jsonListing (ts : List Token) :
    Json.parse? (jsonListing ts) = some (.array (ts.map toJson)) := by
  cases ts with
  | nil => rfl
  | cons t ts => exact parse?_arrayLines (toList_jsonListing t ts) (List.all_eq_true.mp rfl)

theorem ofObject?_toJson (t : Token) : ofObject? t.toJson = some t := by
  simp [ofObject?, toJson, Kind.ofName?_name]

theorem mapM_ofObject? (ts : List Token) : (ts.map toJson).mapM ofObject? = some ts := by
  induction ts with
  | nil => rfl
  | cons t ts ih => simp [ofObject?_toJson, ih]

theorem ofJson?_jsonListing (ts : List Token) : ofJson? (jsonListing ts) = some ts := by
  rw [ofJson?, parse?_jsonListing]
  exact mapM_ofObject? ts

/-! ### Both forms -/

/-- **Listings are lossless.**  As text, every token has a line of its own; as JSON, every token has an
object in an array, which a line feed ends.  Either form can be read back as the tokens, so that both
forms of a list say the same and no two lists are listed alike. -/
theorem listing_lossless (ts : List Token) :
    (listing .text ts).toList.splitOn '\n' = ts.map (fun t => t.textLine.toList) ++ [[]] ∧
    ofText? (listing .text ts) = some ts ∧
    (∃ array, listing .json ts = array ++ "\n" ∧
      Json.parse? array = some (.array (ts.map toJson))) ∧
    ofJson? (listing .json ts) = some ts ∧
    ∀ format us, listing format ts = listing format us → ts = us := by
  refine ⟨splitOn_textListing ts, ofText?_textListing ts, exists_jsonListing_eq ts,
    ofJson?_jsonListing ts, fun format us h => ?_⟩
  cases format with
  | text =>
      have h := congrArg ofText? (show textListing ts = textListing us from h)
      rw [ofText?_textListing, ofText?_textListing] at h
      exact Option.some.inj h
  | json =>
      have h := congrArg ofJson? (show jsonListing ts = jsonListing us from h)
      rw [ofJson?_jsonListing, ofJson?_jsonListing] at h
      exact Option.some.inj h

end Tokenizer.Token
