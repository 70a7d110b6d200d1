import LogSift.MatcherFile.Load
import LogSift.Proofs.Matcher.Limits
import LogSift.Proofs.MatcherFile.Document

/-!
# How loading ends

Loading gives matchers, at least one, or an error. It announces that there may be no file, that the
system may refuse it, and that the file or a matcher in it may be at fault
(`LoadError.IsAnnounced`). There are five other ways to fail (`IsStray`): the file is nested too
deep for the stack, a number in a JSON document is too long, a scalar of a YAML document has no
value of its type, a sub-pattern runs into a limit, or an owner is no text. A file that escapes
a lone surrogate is none of these: it is left out (`IsLeftOut`).

* `parseText_eq`: a text that the stack holds is left to the reader of its notation.
* `readDocument_eq_stray_iff`, `matchersOf_eq_stray_iff`: the stray errors of these steps. Those of
  the owners are all that `ownerTexts` has.
* `load_of_holds`, `load_eq_ok_iff`: what loading does with the document in a file.
* `exists_held_of_load`: the matchers of a file come from the entries of its document.
* `load_ends`: the errors that are not announced are those five, for files that are not left out.
-/

namespace LogSift.MatcherFile

open Matcher (Description Source IsLimited SubPattern itemsOf)

/-- Whether an error is one of those that loading announces: there is no such file, the system
refuses it, or the file or a matcher in it is at fault. -/
def LoadError.IsAnnounced : LoadError → Prop
  | .integer _ | .yamlScalar _ | .loneSurrogate | .tooDeep | .document (.ownerNotText _ _) => False
  | .document (.matcher e) => e.family = .configuration
  | _ => True

/-! ## Reading -/

/-- Whether there is a file at a path with a text in a notation. -/
structure IsWritten (d : Directory) (p : Path) (n : Notation) (text : String) : Prop where
  found : d.exists? p = .ok true
  read : readText d p = .ok text
  suffix : notationOf? p.suffix = some n

/-- Whether there is a file at a path with a document. -/
def Holds (stack : Stack) (d : Directory) (p : Path) (document : Value) : Prop :=
  d.exists? p = .ok true ∧ readDocument stack d p = .ok document

/-- How a text gives no document although nothing is announced of it: it is too deep for the stack,
or it follows the grammar of its notation and one of its scalars has no value. -/
inductive IsStrayText (stack : Stack) (text : String) : Notation → LoadError → Prop
  | deep {n : Notation} : stack.overflows n text = true → IsStrayText stack text n .tooDeep
  | integer {fault : Number.IntegerFault} : stack.overflows .json text = false →
    Json.read text = .error (.integer fault) → IsStrayText stack text .json (.integer fault)
  | scalar {fault : Yaml.Fault} : stack.overflows .yaml text = false →
    Yaml.read text = .error fault → fault ≠ .malformed → fault ≠ .loneSurrogate →
    IsStrayText stack text .yaml (.yamlScalar fault)

/-- Whether a text is left out because it escapes a lone surrogate. -/
inductive IsLeftOutText (stack : Stack) (text : String) : Notation → Prop
  | json : stack.overflows .json text = false → Json.read text = .error .loneSurrogate →
    IsLeftOutText stack text .json
  | yaml : stack.overflows .yaml text = false → Yaml.read text = .error .loneSurrogate →
    IsLeftOutText stack text .yaml

theorem isAnnounced_of_readText {d : Directory} {p : Path} {e : LoadError}
    (h : readText d p = .error e) : e.IsAnnounced := by
  unfold readText at h
  split at h
  · cases h
    trivial
  · split at h
    · cases h
      trivial
    · cases h

/-- The error of loading for an error of the JSON reader. -/
def LoadError.ofJson (path : String) : Json.Error → LoadError
  | .malformed fault line column position => .json path fault line column position
  | .integer fault => .integer fault
  | .loneSurrogate => .loneSurrogate

/-- The error of loading for a fault of the YAML reader. -/
def LoadError.ofYaml (path : String) : Yaml.Fault → LoadError
  | .malformed => .yaml path
  | .loneSurrogate => .loneSurrogate
  | fault => .yamlScalar fault

/-- What the reader of a notation makes of a text. -/
def readAs (path text : String) : Notation → Except LoadError Value
  | .json => (Json.read text).mapError (.ofJson path)
  | .yaml => (Yaml.read text).mapError (.ofYaml path)

theorem parseText_eq (stack : Stack) (path text : String) (n : Notation) :
    parseText stack path text n =
      if stack.overflows n text then .error .tooDeep else readAs path text n := by
  unfold parseText
  congr 1
  cases n with
  | json =>
    dsimp only [readAs]
    cases Json.read text with
    | ok v => rfl
    | error e => cases e <;> rfl
  | yaml =>
    dsimp only [readAs]
    cases Yaml.read text with
    | ok v => rfl
    | error e => cases e <;> rfl

theorem readAs_of_parseText {stack : Stack} {path text : String} {n : Notation} {document : Value}
    (h : parseText stack path text n = .ok document) : readAs path text n = .ok document := by
  rw [parseText_eq] at h
  split at h
  · cases h
  · exact h

theorem parseText_eq_stray_iff {stack : Stack} {path text : String} {n : Notation} {e : LoadError} :
    parseText stack path text n = .error e ∧ ¬ e.IsAnnounced ↔
      IsStrayText stack text n e ∨ IsLeftOutText stack text n ∧ e = .loneSurrogate := by
  rw [parseText_eq]
  constructor
  · rintro ⟨h, hstray⟩
    split at h
    · next hdeep =>
      cases h
      exact .inl (.deep hdeep)
    · next hheld =>
      have hheld : stack.overflows n text = false := by simpa using hheld
      cases n with
      | json =>
        obtain ⟨cause, hread, rfl⟩ := Outcome.mapError_eq_error.1 h
        cases cause with
        | malformed fault line column position => exact absurd trivial hstray
        | integer fault => exact .inl (.integer hheld hread)
        | loneSurrogate => exact .inr ⟨.json hheld hread, rfl⟩
      | yaml =>
        obtain ⟨cause, hread, rfl⟩ := Outcome.mapError_eq_error.1 h
        unfold LoadError.ofYaml at hstray ⊢
        split
        · exact absurd trivial hstray
        · exact .inr ⟨.yaml hheld hread, rfl⟩
        · next hgrammar hwhole => exact .inl (.scalar hheld hread hgrammar hwhole)
  · have hread : ∀ {cause}, stack.overflows n text = false → readAs path text n = .error cause →
        (if stack.overflows n text then .error .tooDeep else readAs path text n) =
          .error cause := by
      intro cause hheld hread
      rw [hheld, hread]
      rfl
    rintro (h | ⟨h, rfl⟩)
    · cases h with
      | deep hdeep => exact ⟨if_pos hdeep, id⟩
      | integer hheld hjson => exact ⟨hread hheld (by rw [readAs, hjson]; rfl), id⟩
      | @scalar fault hheld hyaml hgrammar hwhole =>
        refine ⟨hread hheld ?_, id⟩
        rw [readAs, hyaml, Outcome.mapError_error, LoadError.ofYaml]
        · exact hgrammar
        · exact hwhole
    · cases h with
      | json hheld hjson => exact ⟨hread hheld (by rw [readAs, hjson]; rfl), id⟩
      | yaml hheld hyaml => exact ⟨hread hheld (by rw [readAs, hyaml]; rfl), id⟩

theorem readDocument_of_text {stack : Stack} {d : Directory} {p : Path} {n : Notation}
    {text : String} (hread : readText d p = .ok text) (hn : notationOf? p.suffix = some n) :
    readDocument stack d p = parseText stack p.text text n := by
  rw [readDocument, hread, Outcome.ok_bind, hn]

theorem readDocument_eq_stray_iff {stack : Stack} {d : Directory} {p : Path} {e : LoadError} :
    readDocument stack d p = .error e ∧ ¬ e.IsAnnounced ↔
      ∃ n text, readText d p = .ok text ∧ notationOf? p.suffix = some n ∧
        (IsStrayText stack text n e ∨ IsLeftOutText stack text n ∧ e = .loneSurrogate) := by
  constructor
  · rintro ⟨h, hstray⟩
    rcases Outcome.bind_eq_error.1 h with h | ⟨text, hread, h⟩
    · exact absurd (isAnnounced_of_readText h) hstray
    · split at h
      · next n hn => exact ⟨n, text, hread, hn, parseText_eq_stray_iff.1 ⟨h, hstray⟩⟩
      · cases h
        exact absurd trivial hstray
  · rintro ⟨n, text, hread, hn, h⟩
    rw [readDocument_of_text hread hn]
    exact parseText_eq_stray_iff.2 h

/-! ## Matchers -/

/-- How an entry that passes the checks gives no matcher: its first sub-pattern that cannot be built
runs into a limit. -/
def IsLimitedEntry (entry : Value) (e : Matcher.Error) : Prop :=
  (Source.value entry).validate = .ok () ∧
    ∃ entries given items i part, entry = .map entries ∧
      Entries.field? "pattern" entries = some given ∧ itemsOf given = .ok items ∧
      items[i]? = some (.map part) ∧ IsLimited part e ∧
      ∀ (j : Nat) item, j < i → items[j]? = some item → ∃ s, SubPattern.ofValue j item = .ok s

theorem isRefused_limit_iff {entry : Value} {e : Matcher.Error} :
    IsRefused entry e ∧ e.family ≠ .configuration ↔ IsLimitedEntry entry e := by
  constructor
  · rintro ⟨h, hfamily⟩
    rcases h with h | ⟨hvalid, entries, given, items, i, hentry, hgiven, hitems, hfirst⟩
    · exact absurd (Matcher.family_of_validate h) hfamily
    · obtain ⟨⟨item, hitem, hbuild⟩, hbefore⟩ := hfirst
      simp only [Nat.zero_add] at hbuild hbefore
      obtain ⟨part, rfl, hlimit⟩ := SubPattern.ofValue_eq_limit_iff.1 ⟨hbuild, hfamily⟩
      exact ⟨hvalid, entries, given, items, i, part, hentry, hgiven, hitems, hitem, hlimit, hbefore⟩
  · rintro ⟨hvalid, entries, given, items, i, part, hentry, hgiven, hitems, hitem, hlimit, hbefore⟩
    have hbuild : SubPattern.ofValue (0 + i) (.map part) = .error e :=
      (SubPattern.ofValue_eq_limit_iff.2 ⟨part, rfl, hlimit⟩).1
    refine ⟨.inr ⟨hvalid, entries, given, items, i, hentry, hgiven, hitems,
      ⟨_, hitem, hbuild⟩, ?_⟩, Matcher.family_of_isLimited hlimit⟩
    simpa only [Nat.zero_add] using hbefore

theorem matchersOf_eq_stray_iff {document : Value} {e : DocumentError} :
    matchersOf document = .error e ∧ ¬ (LoadError.document e).IsAnnounced ↔
      ∃ before entry after cause, held document = .list (before ++ entry :: after) ∧
        (∀ b ∈ before, ∃ m, IsDescribedBy b m) ∧ IsLimitedEntry entry cause ∧
        e = .matcher cause := by
  simp only [matchersOf_eq_error_iff, ← isRefused_limit_iff]
  constructor
  · rintro ⟨⟨-, rfl⟩ | ⟨before, entry, after, cause, hheld, hbefore, hentry, rfl⟩, hstray⟩
    · exact absurd trivial hstray
    · exact ⟨before, entry, after, cause, hheld, hbefore, ⟨hentry, hstray⟩, rfl⟩
  · rintro ⟨before, entry, after, cause, hheld, hbefore, ⟨hentry, hfamily⟩, rfl⟩
    exact ⟨.inr ⟨before, entry, after, cause, hheld, hbefore, hentry, rfl⟩, hfamily⟩

/-! ## Loading -/

/-- The matchers of the document in a file; their owners have to be texts. -/
theorem load_of_holds {stack : Stack} {d : Directory} {p : Path} {document : Value}
    (h : Holds stack d p document) :
    load stack d p = (do
      let matchers ← matchersOf document
      let _ ← ownerTexts 0 matchers
      return matchers).mapError .document := by
  obtain ⟨hfound, hread⟩ := h
  unfold load
  rw [hfound, hread]
  dsimp only [Outcome.ok_bind]
  cases matchersOf document with
  | error e => rfl
  | ok matchers =>
    dsimp only [Outcome.ok_bind]
    cases ownerTexts 0 matchers with
    | error e => rfl
    | ok owners => rfl

theorem load_of_unread {stack : Stack} {d : Directory} {p : Path} {e : LoadError}
    (hfound : d.exists? p = .ok true) (h : readDocument stack d p = .error e) :
    load stack d p = .error e := by
  unfold load
  rw [hfound, h]
  rfl

theorem load_eq_ok_iff {stack : Stack} {d : Directory} {p : Path} {matchers : List Description} :
    load stack d p = .ok matchers ↔ ∃ document, Holds stack d p document ∧
      matchersOf document = .ok matchers ∧
      ∃ owners : List String, matchers.map Description.owner = owners.map Value.text := by
  constructor
  · intro h
    have hholds : ∃ document, Holds stack d p document := by
      unfold load at h
      split at h
      · cases h
      · cases h
      · next hfound =>
        obtain ⟨document, hread, -⟩ := Outcome.bind_eq_ok.1 h
        exact ⟨document, hfound, hread⟩
    obtain ⟨document, hholds⟩ := hholds
    rw [load_of_holds hholds, Outcome.mapError_eq_ok] at h
    obtain ⟨_, hmatchers, h⟩ := Outcome.bind_eq_ok.1 h
    obtain ⟨owners, howners, h⟩ := Outcome.bind_eq_ok.1 h
    cases h
    exact ⟨document, hholds, hmatchers, owners, ownerTexts_eq_ok_iff.1 howners⟩
  · rintro ⟨document, hholds, hmatchers, owners, howners⟩
    rw [load_of_holds hholds, hmatchers, Outcome.ok_bind, ownerTexts_eq_ok_iff.2 howners]
    rfl

/-- The matchers of a file come from the entries that its document holds. -/
theorem exists_held_of_load {stack : Stack} {d : Directory} {p : Path}
    {matchers : List Description} {m : Description} (h : load stack d p = .ok matchers)
    (hm : m ∈ matchers) :
    ∃ document entries, readDocument stack d p = .ok document ∧ held document = .list entries ∧
      ∃ entry ∈ entries, IsDescribedBy entry m := by
  obtain ⟨document, ⟨-, hread⟩, hmatchers, -⟩ := load_eq_ok_iff.1 h
  obtain ⟨entries, hheld, -, hall⟩ := matchersOf_eq_ok_iff.1 hmatchers
  exact ⟨document, entries, hread, hheld, Matcher.exists_left_of_forall₂ hall hm⟩

theorem isJson_of_held {document : Value} {entries : List Value} (hjson : document.isJson = true)
    (h : held document = .list entries) : ∀ entry ∈ entries, entry.isJson = true := by
  have hheld : (held document).isJson = true := by
    refine held_of_document (P := fun v => v.isJson = true) hjson (fun v hv => ?_)
      fun {fields _ _} hmap hv => ?_
    · simpa [Value.isJson, Value.itemsJson] using hv
    · have hfields : Value.entriesJson fields = true := hmap
      exact Entries.isJson_of_get? hfields hv
  rw [h] at hheld
  exact Value.itemsJson_iff.1 hheld

/-- The matchers of a JSON file come from JSON values. -/
theorem exists_entry_of_load {stack : Stack} {d : Directory} {p : Path}
    {matchers : List Description} {m : Description} (hn : notationOf? p.suffix = some .json)
    (h : load stack d p = .ok matchers) (hm : m ∈ matchers) :
    ∃ entry, entry.isJson = true ∧ IsDescribedBy entry m := by
  obtain ⟨document, entries, hread, hheld, entry, hentry, hm⟩ := exists_held_of_load h hm
  obtain ⟨text, htext, -⟩ := Outcome.bind_eq_ok.1 hread
  have hdocument : Json.read text = .ok document :=
    Outcome.mapError_eq_ok.1
      (readAs_of_parseText ((readDocument_of_text htext hn).symm.trans hread))
  exact ⟨entry, isJson_of_held (Json.isDocument_of_read hdocument).json hheld entry hentry, hm⟩

/-- How a file with a document can fail to give matchers although the document and the matchers in
it are in order so far as loading announces: a matcher runs into a limit, or an owner is no text. -/
inductive IsStrayDocument (document : Value) : DocumentError → Prop
  | limit {before after : List Value} {entry : Value} {cause : Matcher.Error} :
    held document = .list (before ++ entry :: after) →
    (∀ b ∈ before, ∃ m, IsDescribedBy b m) → IsLimitedEntry entry cause →
    IsStrayDocument document (.matcher cause)
  | owner {before after : List Description} {m : Description} :
    matchersOf document = .ok (before ++ m :: after) →
    (∀ b ∈ before, ∃ s, b.owner = .text s) → (∀ s, m.owner ≠ .text s) →
    IsStrayDocument document (.ownerNotText before.length m.owner.fullKind)

/-- How loading fails unannounced. -/
inductive IsStray (stack : Stack) (d : Directory) (p : Path) : LoadError → Prop
  | text {n : Notation} {text : String} {e : LoadError} :
    IsWritten d p n text → IsStrayText stack text n e → IsStray stack d p e
  | document {document : Value} {e : DocumentError} :
    Holds stack d p document → IsStrayDocument document e → IsStray stack d p (.document e)

/-- Whether a file is left out because it escapes a lone surrogate. -/
def IsLeftOut (stack : Stack) (d : Directory) (p : Path) : Prop :=
  ∃ n text, IsWritten d p n text ∧ IsLeftOutText stack text n

theorem load_eq_stray_iff {stack : Stack} {d : Directory} {p : Path} {document : Value}
    {e : LoadError} (h : Holds stack d p document) :
    load stack d p = .error e ∧ ¬ e.IsAnnounced ↔
      ∃ cause, IsStrayDocument document cause ∧ e = .document cause := by
  rw [load_of_holds h, Outcome.mapError_eq_error]
  constructor
  · rintro ⟨⟨cause, hcause, rfl⟩, hstray⟩
    refine ⟨cause, ?_, rfl⟩
    rcases Outcome.bind_eq_error.1 hcause with hcause | ⟨matchers, hmatchers, hcause⟩
    · obtain ⟨before, entry, after, e, hheld, hbefore, hentry, rfl⟩ :=
        matchersOf_eq_stray_iff.1 ⟨hcause, hstray⟩
      exact .limit hheld hbefore hentry
    · rcases Outcome.bind_eq_error.1 hcause with hcause | ⟨_, -, hcause⟩
      · obtain ⟨before, m, after, rfl, hbefore, hm, rfl⟩ := ownerTexts_eq_error_iff.1 hcause
        rw [Nat.zero_add]
        exact .owner hmatchers hbefore hm
      · cases hcause
  · rintro ⟨cause, hcause, rfl⟩
    cases hcause with
    | limit hheld hbefore hentry =>
      obtain ⟨herror, hstray⟩ :=
        matchersOf_eq_stray_iff.2 ⟨_, _, _, _, hheld, hbefore, hentry, rfl⟩
      exact ⟨⟨_, Outcome.bind_eq_error.2 (.inl herror), rfl⟩, hstray⟩
    | @owner before after m hmatchers hbefore hm =>
      have howners : ownerTexts 0 (before ++ m :: after) =
          .error (.ownerNotText before.length m.owner.fullKind) :=
        ownerTexts_eq_error_iff.2 ⟨before, m, after, rfl, hbefore, hm, by rw [Nat.zero_add]⟩
      refine ⟨⟨_, ?_, rfl⟩, id⟩
      rw [hmatchers, Outcome.ok_bind, howners]
      rfl

/-- Where there is no file the error is announced. -/
theorem isAnnounced_of_not_found {stack : Stack} {d : Directory} {p : Path} {e : LoadError}
    (hfound : d.exists? p ≠ .ok true) (h : load stack d p = .error e) : e.IsAnnounced := by
  unfold load at h
  split at h
  · cases h
    trivial
  · cases h
    trivial
  · next htrue => exact absurd htrue hfound

theorem ne_nil_of_load {stack : Stack} {d : Directory} {p : Path} {matchers : List Description}
    (h : load stack d p = .ok matchers) : matchers ≠ [] := by
  obtain ⟨document, -, hmatchers, -⟩ := load_eq_ok_iff.1 h
  obtain ⟨entries, -, hne, hall⟩ := matchersOf_eq_ok_iff.1 hmatchers
  rintro rfl
  exact hne (List.forall₂_nil_right_iff.1 hall)

/-- **How loading ends.** If it gives matchers there is at least one. The errors that it does not
announce are just those of a file that is too deep for the stack, of a text that is no document
although it follows the grammar, of a matcher that runs into a limit, and of an owner that is no
text; and that of a file that is left out, of which nothing is said. -/
theorem load_ends (stack : Stack) (d : Directory) (p : Path) :
    (∀ matchers, load stack d p = .ok matchers → matchers ≠ []) ∧
      ∀ e, load stack d p = .error e ∧ ¬ e.IsAnnounced ↔
        IsStray stack d p e ∨ IsLeftOut stack d p ∧ e = .loneSurrogate := by
  refine ⟨fun matchers h => ne_nil_of_load h, fun e => ⟨?_, ?_⟩⟩
  · rintro ⟨h, hstray⟩
    have hfound : d.exists? p = .ok true := by
      by_contra hfound
      exact hstray (isAnnounced_of_not_found hfound h)
    cases hread : readDocument stack d p with
    | error e' =>
      rw [load_of_unread hfound hread] at h
      cases h
      obtain ⟨n, text, htext, hn, hcause⟩ := readDocument_eq_stray_iff.1 ⟨hread, hstray⟩
      exact hcause.imp (.text ⟨hfound, htext, hn⟩)
        (.imp_left fun hleft => ⟨n, text, ⟨hfound, htext, hn⟩, hleft⟩)
    | ok document =>
      obtain ⟨cause, hcause, rfl⟩ := (load_eq_stray_iff ⟨hfound, hread⟩).1 ⟨h, hstray⟩
      exact .inl (.document ⟨hfound, hread⟩ hcause)
  · have hunread : ∀ {n text}, IsWritten d p n text →
        IsStrayText stack text n e ∨ IsLeftOutText stack text n ∧ e = .loneSurrogate →
        load stack d p = .error e ∧ ¬ e.IsAnnounced := by
      intro n text hwritten hcause
      obtain ⟨hread, hstray⟩ :=
        readDocument_eq_stray_iff.2 ⟨n, text, hwritten.read, hwritten.suffix, hcause⟩
      exact ⟨load_of_unread hwritten.found hread, hstray⟩
    rintro (h | ⟨⟨n, text, hwritten, hleft⟩, he⟩)
    · cases h with
      | text hwritten hstray => exact hunread hwritten (.inl hstray)
      | document hholds hcause => exact (load_eq_stray_iff hholds).2 ⟨_, hcause, rfl⟩
    · exact hunread hwritten (.inr ⟨hleft, he⟩)

/-- A directory with one file of matchers. -/
def withMatchers (text : String) : Directory :=
  { files := [⟨.ofText "m.json", Text.Utf8.encode text⟩] }

/-- A matcher whose expression is well-formed and repeats a character too often. -/
def largeRepetition : Directory :=
  withMatchers
    "\x7b\"owner\": \"o\", \"pattern\": [\x7b\"regexp\": \"a\x7b4294967295\x7d\"\x7d]\x7d"

/-- The error of a matcher in a file, if an error is one. -/
def LoadError.matcher? : LoadError → Option Matcher.Error
  | .document (.matcher e) => some e
  | _ => none

theorem LoadError.eq_of_matcher? {e : LoadError} {cause : Matcher.Error}
    (h : e.matcher? = some cause) : e = .document (.matcher cause) := by
  unfold LoadError.matcher? at h
  split at h
  · cases h
    rfl
  · cases h

/-- The repetition runs into a limit. -/
theorem load_largeRepetition : ∃ cause : Matcher.Error, cause.family ≠ .configuration ∧
    load .unbounded largeRepetition (.ofText "m.json") = .error (.document (.matcher cause)) := by
  have hlimit : ∃ e ∈ Outcome.error? (load .unbounded largeRepetition (.ofText "m.json")),
      ∃ cause ∈ e.matcher?, cause.family ≠ .configuration := by decide +kernel
  obtain ⟨e, he, cause, hcause, hfamily⟩ := hlimit
  rw [LoadError.eq_of_matcher? hcause] at he
  exact ⟨cause, hfamily, Outcome.error?_eq_some.1 he⟩

/-- A matcher file that loads, and one that fails with a stray error. -/
theorem load_ends_withMatchers :
    (∃ matchers, load .unbounded (withMatchers
        "\x7b\"owner\": \"o\", \"pattern\": [\x7b\"regexp\": \"x\"\x7d]\x7d") (.ofText "m.json") =
        .ok matchers ∧ matchers ≠ []) ∧
      ∃ e, IsStray .unbounded largeRepetition (.ofText "m.json") e := by
  constructor
  · have hload : (Outcome.error? (load .unbounded (withMatchers
        "\x7b\"owner\": \"o\", \"pattern\": [\x7b\"regexp\": \"x\"\x7d]\x7d")
        (.ofText "m.json"))).isNone = true := by decide +kernel
    obtain ⟨matchers, hmatchers⟩ := Outcome.error?_eq_none.1 (Option.isNone_iff_eq_none.1 hload)
    exact ⟨matchers, hmatchers, (load_ends _ _ _).1 _ hmatchers⟩
  · obtain ⟨cause, hfamily, hload⟩ := load_largeRepetition
    rcases ((load_ends _ _ _).2 _).1 ⟨hload, hfamily⟩ with hstray | ⟨-, hleft⟩
    · exact ⟨_, hstray⟩
    · cases hleft

/-- Loading fails with an error that it does not announce. -/
theorem load_unannounced :
    ∃ e, load .unbounded largeRepetition (.ofText "m.json") = .error e ∧ ¬ e.IsAnnounced := by
  obtain ⟨cause, hfamily, hload⟩ := load_largeRepetition
  exact ⟨_, hload, hfamily⟩

end LogSift.MatcherFile
