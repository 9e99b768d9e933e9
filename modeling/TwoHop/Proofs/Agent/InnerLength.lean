import TwoHop.Proofs.Agent.Exchange
import TwoHop.Proofs.Header.Decimals

namespace TwoHop.Proofs.Agent.InnerLength

open TwoHop.Header
open Header.Maps Header.Values Header.Decimals Wire.Values
open Exchange (passed_erase)

variable {r : Browsed} {n : Nat}

def forwarded (r : Browsed) (text name : String) : List String :=
  named (LocalAgent.envelope r text).headers.pairs name

lemma map_toUTF8_forwarded (hm : Proper r.headers) (text name : String) :
    (forwarded r text name).map String.toUTF8 = if name = "expect" then [] else passed r.headers name := by
  have hvalues := (seated_ofMap (proper_erase hm "expect")).2 name
  rw [forwarded, named_pairs, LocalAgent.envelope, valuesOf_removeHopByHop, hvalues, ← passed_erase hm, passed]
  split
  · rfl
  · exact map_toUTF8_filterMap _

structure Agreed (headers : Map) (n : Nat) : Prop where
  plain : ∀ v ∈ headers.values "content-length", Plain v n
  within : n ≤ maxLength

lemma map_toUTF8_lengths (hm : Proper r.headers) (ha : Agreed r.headers n) (text : String) :
    (forwarded r text "content-length").map String.toUTF8 = r.headers.values "content-length" := by
  have hkept : "content-length" ∉ hopByHop := by decide
  have htext : ∀ v ∈ r.headers.values "content-length", isText v = true := by
    intro v hv
    obtain ⟨cs, rfl, -⟩ := ha.plain v hv
    rw [isText, fromUTF8?_eq_some_iff.mpr rfl, Option.isSome_some]
  rw [map_toUTF8_forwarded hm, if_neg (by decide), passed, if_neg hkept, List.filter_eq_self.mpr htext]

lemma announcedLength_of_chunked {headers : Map} (h : headers.contains "transfer-encoding" = true) :
    announcedLength headers = none := if_pos h

lemma announcedLength_of_agreed {headers : Map} (ha : Agreed headers n)
    (h : headers.contains "transfer-encoding" = false) (hthere : headers.values "content-length" ≠ []) :
    announcedLength headers = some n := by
  obtain ⟨value, values, hvalues⟩ := List.exists_cons_of_ne_nil hthere
  have hplain := ha.plain value (by rw [hvalues]; exact List.mem_cons_self)
  rw [announcedLength_of_plain hplain h hvalues, if_pos ha.within]

/-- A request in chunks is handed on with the lengths that it names, and its body without any. -/
theorem inner_length (hm : Proper r.headers) (ha : Agreed r.headers n) (text : String) :
    let lengths := forwarded r text "content-length"
    let known := announcedLength r.headers
    lengths.map String.toUTF8 = r.headers.values "content-length" ∧
    (∀ s ∈ lengths, Plain s.toUTF8 n) ∧
    (r.headers.contains "transfer-encoding" = false → lengths ≠ [] → known = some n) ∧
    (r.headers.contains "transfer-encoding" = true → known = none) ∧
    ((lengths ≠ [] → known = some n) ↔
      ¬ (r.headers.contains "transfer-encoding" = true ∧ r.headers.values "content-length" ≠ [])) := by
  intro lengths known
  have hlengths : lengths.map String.toUTF8 = r.headers.values "content-length" :=
    map_toUTF8_lengths hm ha text
  have hthere : r.headers.values "content-length" ≠ [] ↔ lengths ≠ [] := by
    rw [← hlengths, ne_eq, List.map_eq_nil_iff]
  have hfixed (h : r.headers.contains "transfer-encoding" = false) (hl : lengths ≠ []) :
      known = some n := announcedLength_of_agreed ha h (hthere.mpr hl)
  have hchunked (h : r.headers.contains "transfer-encoding" = true) : known = none :=
    announcedLength_of_chunked h
  refine ⟨hlengths, ?_, hfixed, hchunked, ?_⟩
  · intro s hs
    apply ha.plain
    rw [← hlengths]
    exact List.mem_map_of_mem hs
  · rw [hthere]
    constructor
    · rintro hknown ⟨h, hl⟩
      rw [hchunked h] at hknown
      cases hknown hl
    · intro hnot hl
      apply hfixed _ hl
      rw [Bool.eq_false_iff]
      exact fun h => hnot ⟨h, hl⟩

def bothPairs : List (String × ByteArray) :=
  [("Host", "db".toUTF8), ("Content-Length", "5".toUTF8), ("Transfer-Encoding", "chunked".toUTF8)]

def both : Browsed where
  method := .post
  uri := ⟨none, none, "/up"⟩
  headers := ⟨#[⟨"host", #["db".toUTF8]⟩, ⟨"content-length", #["5".toUTF8]⟩,
    ⟨"transfer-encoding", #["chunked".toUTF8]⟩]⟩

theorem inner_length_differs :
    received bothPairs = some both.headers ∧ both.headers.values "content-length" = ["5".toUTF8] ∧
    announcedLength both.headers = none ∧ forwarded both "http://db/up" "content-length" = ["5"] := by
  decide +kernel

def measuredPairs : List (String × ByteArray) :=
  [("Host", "db".toUTF8), ("Content-Length", "5".toUTF8), ("Content-Length", "5".toUTF8)]

def measured : Browsed where
  method := .post
  uri := ⟨none, none, "/up"⟩
  headers := ⟨#[⟨"host", #["db".toUTF8]⟩, ⟨"content-length", #["5".toUTF8, "5".toUTF8]⟩]⟩

theorem inner_length_measured :
    (forwarded measured "http://db/up" "content-length").map String.toUTF8 = ["5".toUTF8, "5".toUTF8] ∧
    announcedLength measured.headers = some 5 := by
  have hreceived : received measuredPairs = some measured.headers := by decide +kernel
  have hvalues : measured.headers.values "content-length" = ["5".toUTF8, "5".toUTF8] := by
    decide
  have hagreed : Agreed measured.headers 5 := by
    refine ⟨?_, by decide⟩
    intro v hv
    rw [hvalues] at hv
    obtain rfl | rfl := List.mem_pair.mp hv <;> exact plain_toString 5
  obtain ⟨hlengths, -, hfixed, -⟩ :=
    inner_length (proper_received hreceived) hagreed "http://db/up"
  rw [hvalues] at hlengths
  refine ⟨hlengths, hfixed (by decide +kernel) ?_⟩
  intro hnone
  rw [hnone] at hlengths
  cases hlengths

end TwoHop.Proofs.Agent.InnerLength
