import Mathlib.Tactic.Common
import TwoHop.Flow.Source
import TwoHop.Proofs.Bytes

/-! What a source gives does not depend on how it is asked. -/

namespace TwoHop.Proofs.Flow.Content

open TwoHop.Flow

inductive Ending
  | clean
  | fault (error : IoError)
  | silent

/-- Asked again and again, with any limits, the source gives chunks that make up these bytes, and
then stops in this way. -/
inductive Gives : Source → ByteArray → Ending → Prop
  | ended {s : Source} (limit : Nat) : (s.pull limit).1 = .ended → Gives s .empty .clean
  | fault {s : Source} {e : IoError} (limit : Nat) : (s.pull limit).1 = .fault e →
      Gives s .empty (.fault e)
  | waits {s : Source} (limit : Nat) : (s.pull limit).1 = .waits → Gives s .empty .silent
  | chunk {s t : Source} {b rest : ByteArray} {e : Ending} (limit : Nat) :
      s.pull limit = (.chunk b, t) → Gives t rest e → Gives s (b ++ rest) e

def outlookOf (kind : SourceKind) : List Item → ByteArray × Ending
  | [] => (.empty, .clean)
  | .data b :: rest =>
    match kind with
    | .reader _ =>
      if b.isEmpty then (.empty, .clean)
      else (b ++ (outlookOf kind rest).1, (outlookOf kind rest).2)
    | _ => (b ++ (outlookOf kind rest).1, (outlookOf kind rest).2)
  | .fault e :: _ =>
    match kind with
    | .body _ => (.empty, .fault (e.withKind .other))
    | _ => (.empty, .fault e)
  | .trailers :: rest =>
    match kind with
    | .reader _ => (.empty, .clean)
    | _ => outlookOf kind rest
  | .silence :: _ => (.empty, .silent)

def outlook (s : Source) : ByteArray × Ending :=
  if s.kind = .chunks ∧ s.ended = true then (.empty, .clean) else outlookOf s.kind s.items

def Pulled (before : ByteArray × Ending) : Pull × Source → Prop
  | (.chunk b, t) => before = (b ++ (outlook t).1, (outlook t).2)
  | (.ended, _) => before = (.empty, .clean)
  | (.fault e, _) => before = (.empty, .fault e)
  | (.waits, _) => before = (.empty, .silent)

lemma pulled_pullChunk {s : Source} (hk : s.kind = .chunks) : Pulled (outlook s) s.pullChunk := by
  obtain ⟨kind, items, ended, asked⟩ := s
  cases hk
  cases ended with
  | true => simp [Source.pullChunk, outlook, Pulled]
  | false =>
    cases items with
    | nil => simp [Source.pullChunk, outlook, outlookOf, Pulled]
    | cons i rest => cases i <;> simp [Source.pullChunk, outlook, outlookOf, Pulled]

lemma pulled_pullRead {s : Source} {capacity : Nat} (want : Nat) (hk : s.kind = .reader capacity) :
    Pulled (outlook s) (s.pullRead want) := by
  obtain ⟨kind, items, ended, asked⟩ := s
  cases hk
  cases items with
  | nil => simp [Source.pullRead, outlook, outlookOf, Pulled]
  | cons i rest =>
    cases i with
    | data b =>
      by_cases hb : b.isEmpty = true
      · simp [Source.pullRead, outlook, outlookOf, Pulled, hb]
      · by_cases hle : b.size ≤ want
        · simp [Source.pullRead, outlook, outlookOf, Pulled, hb, hle]
        · have hcut := Bytes.extract_append_rejoin (Nat.le_of_not_le hle)
          have hrest : (b.extract want b.size).isEmpty = false := by
            simp only [ByteArray.isEmpty, ByteArray.size_extract, beq_eq_false_iff_ne]
            omega
          simp [Source.pullRead, outlook, outlookOf, Pulled, hb, hle, hrest,
            ← ByteArray.append_assoc, hcut]
    | fault e => simp [Source.pullRead, outlook, outlookOf, Pulled]
    | trailers => simp [Source.pullRead, outlook, outlookOf, Pulled]
    | silence => simp [Source.pullRead, outlook, outlookOf, Pulled]

lemma outlookOf_nextOfBody (knowsEnd : Bool) (items : List Item) :
    Pulled (outlookOf (.body knowsEnd) items) ((Source.nextOfBody items).1,
      { kind := .body knowsEnd, items := (Source.nextOfBody items).2 }) := by
  induction items with
  | nil => simp [Source.nextOfBody, outlookOf, Pulled]
  | cons i rest ih =>
    cases i with
    | trailers => simpa [Source.nextOfBody, outlookOf] using ih
    | data b => simp [Source.nextOfBody, outlook, outlookOf, Pulled]
    | fault e => simp [Source.nextOfBody, outlookOf, Pulled]
    | silence => simp [Source.nextOfBody, outlookOf, Pulled]

lemma outlook_body {s : Source} {knowsEnd : Bool} (hk : s.kind = .body knowsEnd) :
    outlook s = outlookOf (.body knowsEnd) s.items := by
  simp [outlook, hk]

lemma pulled_pullBody {s : Source} {knowsEnd : Bool} (hk : s.kind = .body knowsEnd) :
    Pulled (outlook s) s.pullBody := by
  obtain ⟨kind, items, ended, asked⟩ := s
  cases hk
  have h := outlookOf_nextOfBody knowsEnd items
  simp only [Source.pullBody]
  revert h
  cases (Source.nextOfBody items).1 with
  | chunk b | ended | fault _ | waits => exact id

lemma pulled_pull (s : Source) (limit : Nat) : Pulled (outlook s) (s.pull limit) := by
  obtain ⟨kind, items, ended, asked⟩ := s
  cases kind with
  | chunks => exact pulled_pullChunk (s := ⟨.chunks, items, ended, asked.push limit⟩) rfl
  | reader capacity =>
    exact pulled_pullRead (s := ⟨.reader capacity, items, ended, asked.push limit⟩) _ rfl
  | body knowsEnd => exact pulled_pullBody (s := ⟨.body knowsEnd, items, ended, asked.push limit⟩) rfl

lemma outlook_of_exhausted {s : Source} (h : s.isExhausted = true) :
    outlook s = (.empty, .clean) := by
  cases hk : s.kind with
  | chunks =>
    simp only [Source.isExhausted, hk] at h
    simp [outlook, hk, h]
  | reader capacity => simp [Source.isExhausted, hk] at h
  | body knowsEnd =>
    simp only [Source.isExhausted, hk, Bool.and_eq_true, List.isEmpty_iff] at h
    rw [outlook_body hk, h.2, outlookOf]

lemma outlook_of_gives {s : Source} {b : ByteArray} {e : Ending} (h : Gives s b e) :
    outlook s = (b, e) := by
  induction h with
  | @ended s limit h | @fault s e limit h | @waits s limit h =>
    have hp := pulled_pull s limit
    rwa [← Prod.eta (s.pull limit), h] at hp
  | @chunk s t b rest e limit h _ ih =>
    have hp := pulled_pull s limit
    rw [h] at hp
    simpa only [Pulled, ih] using hp

lemma gives_outlook (s : Source) : Gives s (outlook s).1 (outlook s).2 := by
  have hp := pulled_pull s 1
  match h : s.pull 1 with
  | (.ended, _) =>
    rw [h] at hp
    rw [hp]
    exact .ended 1 (by rw [h])
  | (.fault e, _) =>
    rw [h] at hp
    rw [hp]
    exact .fault 1 (by rw [h])
  | (.waits, _) =>
    rw [h] at hp
    rw [hp]
    exact .waits 1 (by rw [h])
  | (.chunk b, t) =>
    rw [h] at hp
    rw [hp]
    have hlt := (Source.weight_pull h).1
    exact .chunk 1 h (gives_outlook t)
termination_by s.weight

lemma gives_of_outlook {s : Source} {b : ByteArray} {e : Ending} (h : outlook s = (b, e)) :
    Gives s b e := by
  have hgives := gives_outlook s
  rwa [h] at hgives

end TwoHop.Proofs.Flow.Content
