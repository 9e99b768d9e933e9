import TwoHop.Frame.Scanner
import TwoHop.Proofs.Scanner.Heading

/-! However a stream is cut into chunks, a scanner finds the same frame or the same fault in it. -/

namespace TwoHop.Proofs.Scanner.Fragmentation

open TwoHop.Frame TwoHop.Frame.Scanner
open Proofs.Bytes Heading

def pushAll (s : Scanner) : List ByteArray → List (Except FrameFault (Option Scanned)) × Scanner
  | [] => ([], s)
  | c :: cs => ((s.push c).1 :: (pushAll (s.push c).2 cs).1, (pushAll (s.push c).2 cs).2)

def firstAnswer (s : Scanner) : List ByteArray → Option (Except FrameFault (ByteArray × ByteArray))
  | [] => none
  | c :: cs =>
    match s.push c with
    | (.ok none, t) => firstAnswer t cs
    | (.ok (some f), _) => some (.ok (f.body, f.remaining ++ join cs))
    | (.error e, _) => some (.error e)

def verdict (seen : ByteArray) : Option (Except FrameFault Scanned) :=
  if seen.size < headerSize then none
  else match parseHeader seen with
    | .error e => some (.error e)
    | .ok n =>
      if seen.size < size n then none
      else some (.ok ⟨seen.extract headerSize (size n), seen.extract (size n) seen.size⟩)

def holding (seen : ByteArray) : Scanner where
  stage :=
    if seen.size < headerSize then .awaitingHeader
    else match parseHeader seen with
      | .error _ => .failed
      | .ok n => .awaitingBody n
  buffer := seen

def settled (seen : ByteArray) : Except FrameFault Scanned → Scanner
  | .error _ => ⟨.failed, seen⟩
  | .ok _ => ⟨.done, .empty⟩

lemma holding_empty : holding .empty = fresh := rfl

lemma verdict_short {seen : ByteArray} (h : seen.size < headerSize) : verdict seen = none := by
  rw [verdict, if_pos h]

lemma verdict_bad {seen : ByteArray} {e : FrameFault} (h : headerSize ≤ seen.size)
    (hp : parseHeader seen = .error e) : verdict seen = some (.error e) := by
  rw [verdict, if_neg (Nat.not_lt.mpr h), hp]

lemma verdict_partial {seen : ByteArray} {n : Nat} (hp : parseHeader seen = .ok n)
    (h : seen.size < size n) : verdict seen = none := by
  rw [verdict, hp]
  simp [h]

lemma verdict_whole {seen : ByteArray} {n : Nat} (hp : parseHeader seen = .ok n)
    (h : size n ≤ seen.size) :
    verdict seen =
      some (.ok ⟨seen.extract headerSize (size n), seen.extract (size n) seen.size⟩) := by
  have hs : headerSize ≤ seen.size := (parseHeader_eq_ok_iff.mp hp).1
  rw [verdict, if_neg (Nat.not_lt.mpr hs), hp]
  simp only [if_neg (Nat.not_lt.mpr h)]

lemma holding_short {seen : ByteArray} (h : seen.size < headerSize) :
    holding seen = ⟨.awaitingHeader, seen⟩ := by
  rw [holding, if_pos h]

lemma holding_partial {seen : ByteArray} {n : Nat} (hp : parseHeader seen = .ok n) :
    holding seen = ⟨.awaitingBody n, seen⟩ := by
  have hs : headerSize ≤ seen.size := (parseHeader_eq_ok_iff.mp hp).1
  rw [holding, if_neg (Nat.not_lt.mpr hs), hp]

lemma verdict_eq_none {seen : ByteArray} (h : verdict seen = none) :
    seen.size < headerSize ∨ ∃ n, parseHeader seen = .ok n ∧ seen.size < size n := by
  by_cases hs : seen.size < headerSize
  · exact Or.inl hs
  · rw [verdict, if_neg hs] at h
    cases hp : parseHeader seen with
    | error e => simp [hp] at h
    | ok n =>
      refine Or.inr ⟨n, rfl, ?_⟩
      by_contra hn
      simp [hp, hn] at h

lemma crosses_iff {before after boundary : Nat} :
    crosses before after boundary = true ↔ before < boundary ∧ boundary ≤ after := by
  simp [crosses]

lemma takeBody_eq {seen : ByteArray} {n before : Nat} (hp : parseHeader seen = .ok n)
    (hb : before < size n) :
    ((.ok (takeBody before n seen).1, (takeBody before n seen).2) :
        Except FrameFault (Option Scanned) × Scanner) =
      match verdict seen with
      | none => (.ok none, holding seen)
      | some (.error e) => (.error e, settled seen (.error e))
      | some (.ok f) => (.ok (some f), settled seen (.ok f)) := by
  by_cases hn : seen.size < size n
  · rw [verdict_partial hp hn, holding_partial hp]
    simp [takeBody, crosses, Nat.not_le.mpr hn]
  · rw [verdict_whole hp (Nat.not_lt.mp hn)]
    simp [takeBody, crosses, hb, Nat.not_lt.mp hn, settled]

lemma push_holding {seen : ByteArray} (chunk : ByteArray) (h : verdict seen = none) :
    (holding seen).push chunk =
      match verdict (seen ++ chunk) with
      | none => (.ok none, holding (seen ++ chunk))
      | some (.error e) => (.error e, settled (seen ++ chunk) (.error e))
      | some (.ok f) => (.ok (some f), settled (seen ++ chunk) (.ok f)) := by
  rcases verdict_eq_none h with hs | ⟨n, hp, hn⟩
  · rw [holding_short hs, push]
    dsimp only
    by_cases hc : (seen ++ chunk).size < headerSize
    · rw [verdict_short hc, holding_short hc, if_neg]
      rw [crosses_iff]
      omega
    · rw [if_pos (crosses_iff.mpr ⟨hs, Nat.not_lt.mp hc⟩), parseHeader_head]
      cases hp : parseHeader (seen ++ chunk) with
      | error e =>
        rw [verdict_bad (Nat.not_lt.mp hc) hp]
        rfl
      | ok n =>
        apply takeBody_eq hp
        simp only [size]
        omega
  · have hp' : parseHeader (seen ++ chunk) = .ok n := by
      rw [parseHeader_append chunk (parseHeader_eq_ok_iff.mp hp).1, hp]
    rw [holding_partial hp, push]
    exact takeBody_eq hp' hn

lemma verdict_eq_error {seen : ByteArray} {e : FrameFault} (h : verdict seen = some (.error e)) :
    headerSize ≤ seen.size ∧ parseHeader seen = .error e := by
  by_cases hs : seen.size < headerSize
  · simp [verdict_short hs] at h
  · have hs : headerSize ≤ seen.size := Nat.not_lt.mp hs
    cases hp : parseHeader seen with
    | error f =>
      rw [verdict_bad hs hp] at h
      cases h
      exact ⟨hs, rfl⟩
    | ok n =>
      rcases Nat.lt_or_ge seen.size (size n) with hn | hn
      · simp [verdict_partial hp hn] at h
      · simp [verdict_whole hp hn] at h

lemma verdict_eq_ok {seen : ByteArray} {f : Scanned} (h : verdict seen = some (.ok f)) :
    ∃ n, parseHeader seen = .ok n ∧ size n ≤ seen.size ∧
      f = ⟨seen.extract headerSize (size n), seen.extract (size n) seen.size⟩ := by
  by_cases hs : seen.size < headerSize
  · simp [verdict_short hs] at h
  · have hs : headerSize ≤ seen.size := Nat.not_lt.mp hs
    cases hp : parseHeader seen with
    | error e => simp [verdict_bad hs hp] at h
    | ok n =>
      rcases Nat.lt_or_ge seen.size (size n) with hn | hn
      · simp [verdict_partial hp hn] at h
      · rw [verdict_whole hp hn] at h
        exact ⟨n, rfl, hn, (Except.ok.inj (Option.some.inj h)).symm⟩

lemma verdict_frame {body : ByteArray} (rest : ByteArray) (h : Legal body.size) :
    verdict (header body.size ++ body ++ rest) = some (.ok ⟨body, rest⟩) := by
  have hsize : (header body.size ++ body).size = size body.size := by
    rw [ByteArray.size_append, size_header, size]
  have hp : parseHeader (header body.size ++ body ++ rest) = .ok body.size := by
    rw [ByteArray.append_assoc, parseHeader_append _ (by simp), parseHeader_header h]
  rw [verdict_whole hp (by rw [ByteArray.size_append]; omega), ← hsize,
    extract_append_within rest (Nat.le_refl _),
    ByteArray.extract_append_eq_right (size_header _).symm (by rw [hsize, size, size_header]),
    ByteArray.extract_append_eq_right rfl (ByteArray.size_append)]

lemma frame_of_verdict {seen : ByteArray} {f : Scanned} (h : verdict seen = some (.ok f)) :
    Legal f.body.size ∧ seen = header f.body.size ++ f.body ++ f.remaining := by
  obtain ⟨n, hp, hn, rfl⟩ := verdict_eq_ok h
  obtain ⟨-, hl, hhead⟩ := parseHeader_eq_ok_iff.mp hp
  have hsize : headerSize + n ≤ seen.size := hn
  have hbody : (seen.extract headerSize (size n)).size = n := by
    rw [ByteArray.size_extract, size]
    omega
  refine ⟨by rwa [hbody], ?_⟩
  rw [hbody, ← hhead, ← ByteArray.extract_eq_extract_append_extract headerSize (Nat.zero_le _)
    (by rw [size]; omega), extract_append_rejoin hn]

lemma verdict_append_error {seen : ByteArray} {e : FrameFault} (more : ByteArray)
    (h : verdict seen = some (.error e)) : verdict (seen ++ more) = some (.error e) := by
  obtain ⟨hs, hp⟩ := verdict_eq_error h
  refine verdict_bad ?_ (by rw [parseHeader_append more hs, hp])
  rw [ByteArray.size_append]
  omega

lemma verdict_append_ok {seen : ByteArray} {f : Scanned} (more : ByteArray)
    (h : verdict seen = some (.ok f)) :
    verdict (seen ++ more) = some (.ok ⟨f.body, f.remaining ++ more⟩) := by
  obtain ⟨n, hp, hn, rfl⟩ := verdict_eq_ok h
  have hp' : parseHeader (seen ++ more) = .ok n := by
    rw [parseHeader_append more (parseHeader_eq_ok_iff.mp hp).1, hp]
  rw [verdict_whole hp' (by rw [ByteArray.size_append]; omega), extract_append_within more hn,
    extract_append_rest more hn]

lemma verdict_none_of_append {seen more : ByteArray} (h : verdict (seen ++ more) = none) :
    verdict seen = none := by
  cases hv : verdict seen with
  | none => rfl
  | some o =>
    cases o with
    | error e => simp [verdict_append_error more hv] at h
    | ok f => simp [verdict_append_ok more hv] at h

lemma pushAll_none {seen : ByteArray} {chunks : List ByteArray}
    (h : verdict (seen ++ join chunks) = none) :
    pushAll (holding seen) chunks =
      (List.replicate chunks.length (.ok none), holding (seen ++ join chunks)) := by
  -- The scanner is determined by the bytes it has seen, so the chunks may be pushed one by one.
  induction chunks generalizing seen with
  | nil => simp [pushAll]
  | cons c cs ih =>
    rw [join_cons, ← ByteArray.append_assoc] at h
    have hc : verdict (seen ++ c) = none := verdict_none_of_append h
    have hp : (holding seen).push c = (.ok none, holding (seen ++ c)) := by
      rw [push_holding c (verdict_none_of_append hc), hc]
    rw [pushAll, hp, ih h, join_cons, ByteArray.append_assoc, List.length_cons, List.replicate_succ]

lemma exists_deciding {seen : ByteArray} (chunks : List ByteArray) (hn : verdict seen = none)
    (h : verdict (seen ++ join chunks) ≠ none) :
    ∃ before chunk rest, chunks = before ++ chunk :: rest ∧ verdict (seen ++ join before) = none ∧
      verdict (seen ++ join before ++ chunk) ≠ none := by
  induction chunks generalizing seen with
  | nil => simp [hn] at h
  | cons c cs ih =>
    by_cases hc : verdict (seen ++ c) = none
    · obtain ⟨before, chunk, rest, rfl, hb, hd⟩ := ih hc (by
        rwa [ByteArray.append_assoc, ← join_cons])
      refine ⟨c :: before, chunk, rest, rfl, ?_, ?_⟩
      · rwa [join_cons, ← ByteArray.append_assoc]
      · rwa [join_cons, ← ByteArray.append_assoc]
    · exact ⟨[], c, cs, rfl, by simpa using hn, by simpa using hc⟩

lemma firstAnswer_holding {seen : ByteArray} {chunks : List ByteArray} (hn : verdict seen = none) :
    firstAnswer (holding seen) chunks =
      (verdict (seen ++ join chunks)).map (Except.map fun f => (f.body, f.remaining)) := by
  induction chunks generalizing seen with
  | nil => simp [firstAnswer, hn]
  | cons c cs ih =>
    rw [firstAnswer, push_holding c hn, join_cons, ← ByteArray.append_assoc]
    cases hc : verdict (seen ++ c) with
    | none => exact ih hc
    | some o =>
      cases o with
      | error e =>
        rw [verdict_append_error _ hc]
        rfl
      | ok f =>
        rw [verdict_append_ok _ hc]
        rfl

lemma pushAll_append (s : Scanner) (as bs : List ByteArray) :
    (pushAll s (as ++ bs)).2 = (pushAll (pushAll s as).2 bs).2 := by
  induction as generalizing s with
  | nil => rfl
  | cons a as ih => exact ih _

lemma pushAll_failed {s : Scanner} (h : s.stage = .failed) (chunks : List ByteArray) :
    (pushAll s chunks).2.stage = .failed := by
  induction chunks generalizing s with
  | nil => exact h
  | cons c cs ih =>
    apply ih
    obtain ⟨stage, buffer⟩ := s
    cases h
    rfl

lemma verdict_empty : verdict .empty = none := verdict_short (by decide)

lemma pushAll_fresh {chunks : List ByteArray} (h : verdict (join chunks) = none) :
    pushAll fresh chunks = (List.replicate chunks.length (.ok none), holding (join chunks)) := by
  rw [← holding_empty, pushAll_none (by simpa using h), ByteArray.empty_append]

def Quiet (chunks : List ByteArray) : Prop := ∀ a ∈ (pushAll fresh chunks).1, a = .ok none

lemma quiet_of_verdict {chunks : List ByteArray} (h : verdict (join chunks) = none) :
    Quiet chunks := by
  intro a ha
  rw [pushAll_fresh h] at ha
  exact (List.mem_replicate.mp ha).2

lemma pushAll_short {chunks : List ByteArray} (h : (join chunks).size < headerSize) :
    (pushAll fresh chunks).2 = ⟨.awaitingHeader, join chunks⟩ := by
  rw [pushAll_fresh (verdict_short h), holding_short h]

lemma pushAll_partial {chunks : List ByteArray} {n : Nat} (hp : parseHeader (join chunks) = .ok n)
    (h : (join chunks).size < size n) :
    (pushAll fresh chunks).2 = ⟨.awaitingBody n, join chunks⟩ := by
  rw [pushAll_fresh (verdict_partial hp h), holding_partial hp]

lemma push_deciding {before : List ByteArray} {chunk : ByteArray}
    {o : Except FrameFault Scanned} (hb : verdict (join before) = none)
    (ho : verdict (join before ++ chunk) = some o) :
    (pushAll fresh before).2.push chunk = (o.map some, settled (join before ++ chunk) o) := by
  rw [pushAll_fresh hb, push_holding chunk hb, ho]
  cases o <;> rfl

lemma exists_refusing {chunks : List ByteArray} {e : FrameFault}
    (hs : headerSize ≤ (join chunks).size) (hp : parseHeader (join chunks) = .error e) :
    ∃ before chunk rest, chunks = before ++ chunk :: rest ∧
      (join before).size < headerSize ∧ headerSize ≤ (join (before ++ [chunk])).size ∧
      Quiet before ∧
      (pushAll fresh before).2.push chunk = (.error e, ⟨.failed, join (before ++ [chunk])⟩) := by
  have hv : verdict (join chunks) = some (.error e) := verdict_bad hs hp
  obtain ⟨before, chunk, rest, rfl, hb, hd⟩ := exists_deciding chunks verdict_empty (by
    simp [hv])
  rw [ByteArray.empty_append] at hb hd
  have hall : join (before ++ chunk :: rest) = join before ++ chunk ++ join rest := by
    rw [join_append, join_cons, ByteArray.append_assoc]
  have hsize : headerSize ≤ (join before ++ chunk).size := by
    by_contra hc
    exact hd (verdict_short (Nat.not_le.mp hc))
  have hpc : parseHeader (join before ++ chunk) = .error e := by
    rw [← hp, hall, parseHeader_append _ hsize]
  have hbefore : (join before).size < headerSize := by
    rcases verdict_eq_none hb with h | ⟨n, hn, _⟩
    · exact h
    · rw [parseHeader_append chunk (parseHeader_eq_ok_iff.mp hn).1, hn] at hpc
      cases hpc
  refine ⟨before, chunk, rest, rfl, hbefore, ?_, quiet_of_verdict hb, ?_⟩
  · rwa [join_concat]
  · rw [push_deciding hb (verdict_bad hsize hpc), join_concat]
    rfl

lemma exists_completing {chunks : List ByteArray} {n : Nat}
    (hp : parseHeader (join chunks) = .ok n) (hs : size n ≤ (join chunks).size) :
    ∃ before chunk rest remaining, chunks = before ++ chunk :: rest ∧
      (join before).size < size n ∧ size n ≤ (join (before ++ [chunk])).size ∧ Quiet before ∧
      (pushAll fresh before).2.push chunk =
        (.ok (some ⟨(join chunks).extract headerSize (size n), remaining⟩), ⟨.done, .empty⟩) ∧
      remaining ++ join rest = (join chunks).extract (size n) (join chunks).size := by
  have hv := verdict_whole hp hs
  obtain ⟨before, chunk, rest, hcut, hb, hd⟩ := exists_deciding chunks verdict_empty (by
    simp [hv])
  rw [ByteArray.empty_append] at hb hd
  have hall : join chunks = join before ++ chunk ++ join rest := by
    rw [hcut, join_append, join_cons, ByteArray.append_assoc]
  have hbefore : (join before).size < size n := by
    rcases verdict_eq_none hb with h | ⟨m, hm, hlt⟩
    · simp only [size]
      omega
    · have he : parseHeader (join chunks) = .ok m := by
        rw [hall, ByteArray.append_assoc, parseHeader_append _ (parseHeader_eq_ok_iff.mp hm).1, hm]
      rw [hp] at he
      cases he
      exact hlt
  obtain ⟨o, ho⟩ := Option.ne_none_iff_exists'.mp hd
  cases o with
  | error e =>
    have he := verdict_append_error (join rest) ho
    rw [← hall, hv] at he
    cases he
  | ok f =>
    obtain ⟨m, hm, hreach, _⟩ := verdict_eq_ok ho
    have he : parseHeader (join chunks) = .ok m := by
      rw [hall, parseHeader_append _ (parseHeader_eq_ok_iff.mp hm).1, hm]
    rw [hp] at he
    cases he
    have hf := verdict_append_ok (join rest) ho
    rw [← hall, hv] at hf
    simp only [Option.some.injEq, Except.ok.injEq, Scanned.mk.injEq] at hf
    refine ⟨before, chunk, rest, f.remaining, hcut, hbefore, ?_, quiet_of_verdict hb, ?_, hf.2.symm⟩
    · rwa [join_concat]
    · rw [push_deciding hb ho, hf.1]
      rfl

theorem fragmentation_invariance (chunks : List ByteArray) :
    (∀ cuts, join cuts = join chunks → firstAnswer fresh cuts = firstAnswer fresh chunks) ∧
    ((join chunks).size < headerSize → Quiet chunks ∧
      ∀ before, before <+: chunks →
        (pushAll fresh before).2.stage = .awaitingHeader ∧
        (pushAll fresh before).2.wanted = headerSize - (join before).size) ∧
    (∀ e, headerSize ≤ (join chunks).size →
      parseHeader ((join chunks).extract 0 headerSize) = .error e →
      ∃ before chunk rest, chunks = before ++ chunk :: rest ∧
        (join before).size < headerSize ∧ headerSize ≤ (join (before ++ [chunk])).size ∧
        Quiet before ∧ ((pushAll fresh before).2.push chunk).1 = .error e ∧
        ∀ more, (pushAll fresh (before ++ chunk :: more)).2.stage = .failed) ∧
    (∀ n, parseHeader ((join chunks).extract 0 headerSize) = .ok n →
      (join chunks).size < headerSize + n → Quiet chunks ∧
      ∀ before, before <+: chunks → headerSize ≤ (join before).size →
        (pushAll fresh before).2.stage = .awaitingBody n ∧
        (pushAll fresh before).2.wanted = headerSize + n - (join before).size) ∧
    (∀ n, parseHeader ((join chunks).extract 0 headerSize) = .ok n →
      headerSize + n ≤ (join chunks).size →
      ∃ before chunk rest remaining, chunks = before ++ chunk :: rest ∧
        (join before).size < headerSize + n ∧ headerSize + n ≤ (join (before ++ [chunk])).size ∧
        Quiet before ∧
        ((pushAll fresh before).2.push chunk).1 =
          .ok (some ⟨(join chunks).extract headerSize (headerSize + n), remaining⟩) ∧
        remaining ++ join rest = (join chunks).extract (headerSize + n) (join chunks).size) := by
  simp only [parseHeader_head]
  refine ⟨?_, ?_, ?_, ?_, ?_⟩
  · intro cuts hcuts
    rw [← holding_empty, firstAnswer_holding verdict_empty, firstAnswer_holding verdict_empty,
      hcuts]
  · intro hs
    refine ⟨quiet_of_verdict (verdict_short hs), ?_⟩
    rintro before ⟨rest, rfl⟩
    have hb : (join before).size < headerSize := by
      rw [join_append, ByteArray.size_append] at hs
      omega
    rw [pushAll_short hb]
    exact ⟨rfl, rfl⟩
  · intro e hs hp
    obtain ⟨before, chunk, rest, hcut, hlt, hle, hq, hpush⟩ := exists_refusing hs hp
    refine ⟨before, chunk, rest, hcut, hlt, hle, hq, by rw [hpush], ?_⟩
    intro more
    rw [pushAll_append]
    exact pushAll_failed (by rw [hpush]) more
  · intro n hp hs
    refine ⟨quiet_of_verdict (verdict_partial hp hs), ?_⟩
    rintro before ⟨rest, rfl⟩ hle
    rw [join_append] at hp hs
    rw [parseHeader_append _ hle] at hp
    have hb : (join before).size < size n := by
      rw [ByteArray.size_append] at hs
      simp only [size]
      omega
    rw [pushAll_partial hp hb]
    exact ⟨rfl, rfl⟩
  · intro n hp hs
    obtain ⟨before, chunk, rest, remaining, hcut, hlt, hle, hq, hpush, hrest⟩ :=
      exists_completing hp hs
    exact ⟨before, chunk, rest, remaining, hcut, hlt, hle, hq, by rw [hpush]; rfl, hrest⟩

def greeting : List ByteArray :=
  [[0xDE, 0xAD, 0xBE].toByteArray, .empty, [0xEF, 0, 0, 0, 5, 104].toByteArray,
    [101, 108, 108, 111, 1, 2, 3].toByteArray]

theorem fragmentation_greeting :
    parseHeader ((join greeting).extract 0 headerSize) = .ok 5 ∧
      ∃ before chunk rest remaining, greeting = before ++ chunk :: rest ∧
        (join before).size < 13 ∧ 13 ≤ (join (before ++ [chunk])).size ∧ Quiet before ∧
        ((pushAll fresh before).2.push chunk).1 =
          .ok (some ⟨(join greeting).extract 8 13, remaining⟩) ∧
        remaining ++ join rest = (join greeting).extract 13 (join greeting).size :=
  ⟨by decide,
    (fragmentation_invariance greeting).2.2.2.2 5 (by decide) (by decide)⟩

end TwoHop.Proofs.Scanner.Fragmentation
