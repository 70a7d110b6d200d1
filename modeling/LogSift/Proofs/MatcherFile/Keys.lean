import LogSift.Proofs.Matcher.Keys
import LogSift.Proofs.MatcherFile.Load
import LogSift.Proofs.YamlValue

/-!
# Keys of documents

The matchers of a file come from values of which no map has a key twice.

* `hasDistinctKeys_of_readDocument`: no map in a document has one, in either notation.
* `exists_distinct_of_load`: nor have the entries of a document from which matchers are built.
-/

namespace LogSift.MatcherFile

open Matcher (Description)

/-- No map in a document has a key twice. -/
theorem hasDistinctKeys_of_readDocument {stack : Stack} {d : Directory} {p : Path}
    {document : Value} (h : readDocument stack d p = .ok document) :
    document.hasDistinctKeys = true := by
  obtain ⟨text, -, h⟩ := Outcome.bind_eq_ok.1 h
  split at h
  · next n _ =>
    cases n with
    | json =>
      have hread : Json.read text = .ok document :=
        Outcome.mapError_eq_ok.1 (readAs_of_parseText h)
      exact (Json.isDocument_of_read hread).distinct
    | yaml =>
      have hread : Yaml.read text = .ok document :=
        Outcome.mapError_eq_ok.1 (readAs_of_parseText h)
      exact Yaml.hasDistinctKeys_of_read hread
  · cases h

theorem hasDistinctKeys_of_held {document : Value} {entries : List Value}
    (hdocument : document.hasDistinctKeys = true) (h : held document = .list entries) :
    ∀ entry ∈ entries, entry.hasDistinctKeys = true := by
  have hheld : (held document).hasDistinctKeys = true := by
    refine held_of_document (P := fun v => v.hasDistinctKeys = true) hdocument (fun v hv => ?_)
      fun hmap hv => Entries.hasDistinctKeys_of_get? hmap hv
    simpa [Value.hasDistinctKeys, Value.itemsDistinct] using hv
  rw [h] at hheld
  exact Value.itemsDistinct_iff.1 hheld

/-- The matchers of a file come from values of which no map has a key twice. -/
theorem exists_distinct_of_load {stack : Stack} {d : Directory} {p : Path}
    {matchers : List Description} {m : Description} (h : load stack d p = .ok matchers)
    (hm : m ∈ matchers) :
    ∃ entry, entry.hasDistinctKeys = true ∧ IsDescribedBy entry m := by
  obtain ⟨document, entries, hread, hheld, entry, hentry, hm⟩ := exists_held_of_load h hm
  exact ⟨entry, hasDistinctKeys_of_held (hasDistinctKeys_of_readDocument hread) hheld entry hentry,
    hm⟩

end LogSift.MatcherFile
