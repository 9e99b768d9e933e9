import TwoHop.Proofs.Flow.Hearing

/-! A scan asks its source for what the frame still lacks and for no more. A reader is therefore left
where the frame ends. -/

namespace TwoHop.Proofs.Flow.Demand

open TwoHop.Frame TwoHop.Flow
open Scanner.Heading Scanner.Fragmentation Content Scanning Intake Hearing
open Proofs.Bytes

def missing (seen : ByteArray) : Nat :=
  if seen.size < headerSize then headerSize - seen.size
  else match parseHeader seen with
    | .ok n => headerSize + n - seen.size
    | .error _ => 0

/-- On its way to what it is now, the source was asked each time for what was missing of the bytes
read before, and never for nothing. -/
def Frugal (source now : Source) : Prop :=
  ∃ limits, now.asked.toList = source.asked.toList ++ limits ∧ (replay source limits).2 = now ∧
    ∀ before limit later, limits = before ++ limit :: later →
      limit = missing (join (replay source before).1) ∧ 1 ≤ limit

def left : ScanResult → Source
  | .found _ h => (h.parts.map (·.source)).getD {}
  | .failed _ source => source
  | .waits s => s.source

variable {source now after : Source} {seen : ByteArray}

lemma becomes_of_frugal (h : Frugal source now) : Becomes source now := by
  obtain ⟨limits, hasked, hnow, -⟩ := h
  exact ⟨limits, hasked, hnow⟩

lemma frugal_refl (source : Source) : Frugal source source := by
  refine ⟨[], (List.append_nil _).symm, rfl, ?_⟩
  intro before limit later h
  simp at h

lemma frugal_pull (h : Frugal source now) (hpos : 1 ≤ missing (join (heard source now))) :
    Frugal source (now.pull (missing (join (heard source now)))).2 := by
  obtain ⟨limits, hasked, hnow, hlimits⟩ := h
  rw [heard_of_replay hasked] at hpos ⊢
  refine ⟨limits ++ [missing (join (replay source limits).1)], ?_, ?_, ?_⟩
  · rw [asked_pull, Array.toList_push, hasked, List.append_assoc]
  · rw [replay_append, hnow]
    rfl
  · intro before limit later hcut
    rcases List.eq_nil_or_concat later with rfl | ⟨earlier, last, rfl⟩
    · obtain ⟨rfl, hlast⟩ := List.append_inj' hcut rfl
      cases hlast
      exact ⟨rfl, hpos⟩
    · rw [List.concat_eq_append, ← List.cons_append, ← List.append_assoc] at hcut
      exact hlimits before limit earlier (List.append_inj' hcut rfl).1

lemma wanted_holding (seen : ByteArray) : (holding seen).wanted = missing seen := by
  rw [holding, Scanner.wanted, missing]
  by_cases hs : seen.size < headerSize
  · rw [if_pos hs, if_pos hs]
  · rw [if_neg hs, if_neg hs]
    cases parseHeader seen with
    | ok n => rfl
    | error e => rfl

lemma missing_pos (hv : verdict seen = none) : 1 ≤ missing seen := by
  rcases verdict_eq_none hv with hs | ⟨n, hp, hn⟩
  · rw [missing, if_pos hs]
    omega
  · rw [missing, hp]
    simp only [size] at hn
    dsimp only
    split <;> omega

lemma size_pullRead {s t : Source} {want : Nat} {b : ByteArray} (h : s.pullRead want = (.chunk b, t)) :
    b.size ≤ want := by
  rw [Source.pullRead] at h
  split at h
  · cases h
  · split at h
    · cases h
    · split at h
      · next hle =>
        cases h
        exact hle
      · cases h
        rw [ByteArray.size_extract]
        omega
  · cases h
  · cases h
  · cases h

lemma size_pull {s t : Source} {capacity limit : Nat} {b : ByteArray} (hk : s.kind = .reader capacity)
    (hl : 1 ≤ limit) (h : s.pull limit = (.chunk b, t)) : b.size ≤ limit := by
  obtain ⟨kind, items, ended, asked⟩ := s
  cases hk
  have hb := size_pullRead (s := ⟨.reader capacity, items, ended, asked.push limit⟩) h
  omega

structure Tracks (source : Source) (s : Scan) (seen : ByteArray) : Prop where
  hears : Hears source s seen
  frugal : Frugal source s.source
  total : total s seen = outlook source
  kind : s.source.kind = source.kind

def Met (source : Source) : ScanResult → Prop
  | .found body h => ∃ after, h = .make .empty after ∧ after.kind = source.kind ∧
      join (heard source after) = framed body
  | .failed (.frame _) after => (join (heard source after)).size = headerSize ∧
      outlook source = (join (heard source after) ++ (outlook after).1, (outlook after).2)
  | .failed (.io e) after => join (heard source after) = (outlook source).1 ∧
      ∃ last limit, Becomes source last ∧ last.pull limit = (.fault e, after)
  | .failed _ after => join (heard source after) = (outlook source).1
  | .waits s => join (heard source s.source) = (outlook source).1

def Stepped (source : Source) : ScanResult ⊕ Scan → Prop
  | .inr t => ∃ seen, Tracks source t seen
  | .inl r => Frugal source (left r) ∧ ∀ capacity, source.kind = .reader capacity → Met source r

section Boundary

variable {b : ByteArray} (hv : verdict seen = none) (hb : b.size ≤ missing seen)

include hv hb

lemma size_le_of_heading {n : Nat} (hp : parseHeader (seen ++ b) = .ok n) :
    (seen ++ b).size ≤ headerSize + n := by
  rw [ByteArray.size_append]
  rcases verdict_eq_none hv with hs | ⟨m, hm, hlt⟩
  · rw [missing, if_pos hs] at hb
    omega
  · have hs := (parseHeader_eq_ok_iff.mp hm).1
    rw [parseHeader_append b hs, hm] at hp
    cases hp
    rw [missing, if_neg (Nat.not_lt.mpr hs), hm] at hb
    simp only [size] at hb hlt
    omega

lemma remaining_of_verdict {f : Scanned} (hf : verdict (seen ++ b) = some (.ok f)) :
    f.remaining = .empty := by
  obtain ⟨n, hp, -, rfl⟩ := verdict_eq_ok hf
  have hsize := size_le_of_heading hv hb hp
  rw [ByteArray.extract_eq_empty_iff, size]
  omega

lemma size_of_refused {e : FrameFault} (he : verdict (seen ++ b) = some (.error e)) :
    (seen ++ b).size = headerSize := by
  obtain ⟨hs, hp⟩ := verdict_eq_error he
  rcases verdict_eq_none hv with hlt | ⟨n, hn, -⟩
  · rw [missing, if_pos hlt] at hb
    rw [ByteArray.size_append] at hs ⊢
    omega
  · rw [parseHeader_append b (parseHeader_eq_ok_iff.mp hn).1, hn] at hp
    cases hp

end Boundary

lemma stepped_step {s : Scan} (h : Tracks source s seen) : Stepped source s.step := by
  obtain ⟨scanner, now⟩ := s
  obtain ⟨⟨⟨rfl, hv⟩, hbecomes, hseen⟩, hfrugal, htotal, hkind⟩ := h
  dsimp only at hbecomes hseen hfrugal hkind
  rw [total] at htotal
  have hpos := missing_pos hv
  have hnext : Frugal source (now.pull (missing seen)).2 := by
    rw [← hseen] at hpos ⊢
    exact frugal_pull hfrugal hpos
  have hheard : join (heard source (now.pull (missing seen)).2) =
      seen ++ join (chunkOf (now.pull (missing seen)).1) := by
    rw [heard_pull hbecomes, join_append, hseen]
  have hpulled := pulled_pull now (missing seen)
  have hsame := (kind_pull now (missing seen)).trans hkind
  simp only [Scan.step, wanted_holding]
  generalize hp : now.pull (missing seen) = pulled at hnext hheard hpulled hsame
  obtain ⟨answer, after⟩ := pulled
  dsimp only at hnext hheard hsame
  cases answer with
  | waits =>
    have hnow : outlook now = (.empty, .silent) := hpulled
    refine ⟨hfrugal, fun _ _ => ?_⟩
    rw [Met, hseen, ← htotal, hnow, ByteArray.append_empty]
  | ended =>
    have hnow : outlook now = (.empty, .clean) := hpulled
    refine ⟨hnext, fun _ _ => hheard.trans ?_⟩
    rw [← htotal, hnow]
    rfl
  | fault e =>
    have hnow : outlook now = (.empty, .fault e) := hpulled
    refine ⟨hnext, fun _ _ => ⟨hheard.trans ?_, now, missing seen, hbecomes, hp⟩⟩
    rw [← htotal, hnow]
    rfl
  | chunk b =>
    have hnow : outlook now = (b ++ (outlook after).1, (outlook after).2) := hpulled
    have hread : join (heard source after) = seen ++ b := by
      rw [hheard, chunkOf, join_cons, join_nil, ByteArray.append_empty]
    rw [hnow, ← ByteArray.append_assoc] at htotal
    have hlimit : ∀ capacity, source.kind = .reader capacity → b.size ≤ missing seen :=
      fun capacity hk => size_pull (hkind.trans hk) hpos hp
    dsimp only
    rw [push_holding b hv]
    cases hc : verdict (seen ++ b) with
    | none =>
      exact ⟨seen ++ b, ⟨⟨rfl, hc⟩, becomes_of_frugal hnext, hread⟩, hnext, htotal, hsame⟩
    | some o =>
      cases o with
      | error e =>
        refine ⟨hnext, fun capacity hk => ?_⟩
        rw [Met, hread]
        exact ⟨size_of_refused hv (hlimit capacity hk) hc, htotal.symm⟩
      | ok f =>
        refine ⟨hnext, fun capacity hk => ⟨after, ?_, hsame, ?_⟩⟩
        · rw [remaining_of_verdict hv (hlimit capacity hk) hc]
        · rw [hread, (frame_of_verdict hc).2, remaining_of_verdict hv (hlimit capacity hk) hc,
            ByteArray.append_empty]
          rfl

lemma stepped_run {s : Scan} (h : Tracks source s seen) : Stepped source (.inl s.run) := by
  induction s using Scan.run.induct generalizing seen with
  | case1 s r hr =>
    have hstep := stepped_step h
    rw [run_of_inl hr]
    rwa [hr] at hstep
  | case2 s t ht ih =>
    have hstep := stepped_step h
    rw [ht] at hstep
    obtain ⟨seen', ht'⟩ := hstep
    rw [run_of_inr ht]
    exact ih ht'

lemma stepped_scan (source : Source) : Stepped source (.inl (scan source)) := by
  have hstart : Tracks source { source } .empty := by
    refine ⟨⟨⟨rfl, verdict_empty⟩, becomes_refl source, ?_⟩, frugal_refl source, ?_, rfl⟩
    · rw [heard_refl, join_nil]
    · simp [total]
  exact stepped_run hstart

lemma make_inj {remaining remaining' : ByteArray} {source source' : Source}
    (h : Handover.make remaining source = .make remaining' source') :
    remaining = remaining' ∧ source = source' := by
  simp only [Handover.make, Handover.mk.injEq, Option.some.injEq, Parts.mk.injEq, true_and] at h
  exact ⟨h.1.1, h.1.2.1⟩

section Reader

variable {capacity : Nat} {bytes rest : ByteArray} {ending : Ending}
  (hk : source.kind = .reader capacity) (hg : Gives source bytes ending)

include hk hg

lemma scan_reader_framed {body : ByteArray} (hl : Legal body.size) (hbytes : bytes = framed body ++ rest) :
    ∃ after, scan source = .found body (.make .empty after) ∧ after.kind = source.kind ∧
      join (heard source after) = framed body ∧ Gives after rest ending := by
  have ho := outlook_of_gives hg
  have hv : verdict (outlook source).1 = some (.ok ⟨body, rest⟩) := by
    rw [ho, hbytes]
    exact verdict_framed rest hl
  obtain ⟨remaining, now, hs, hrest, hend⟩ := scan_of_verdict hv
  have hmet := (stepped_scan source).2 capacity hk
  rw [hs] at hmet
  obtain ⟨after, hmake, hkind, hheard⟩ := hmet
  obtain ⟨rfl, rfl⟩ := make_inj hmake
  refine ⟨now, hs, hkind, hheard, gives_of_outlook (Prod.ext ?_ ?_)⟩
  · exact (hrest.trans ByteArray.empty_append).symm
  · rw [hend, ho]

lemma scan_reader_refused {head : ByteArray} {e : FrameFault} (hsize : head.size = headerSize)
    (hbytes : bytes = head ++ rest) (he : parseHeader head = .error e) :
    ∃ after, scan source = .failed (.frame e) after ∧ join (heard source after) = head ∧
      Gives after rest ending := by
  have ho := outlook_of_gives hg
  have hv : verdict (outlook source).1 = some (.error e) := by
    rw [ho, hbytes]
    exact verdict_append_error rest (verdict_bad (Nat.le_of_eq hsize.symm) he)
  have hexplained := explained_scan source
  have hmet := (stepped_scan source).2 capacity hk
  generalize scan source = r at hexplained hmet
  cases r with
  | found body h =>
    obtain ⟨remaining, now, -, hfound, -⟩ := hexplained
    rw [hv] at hfound
    cases hfound
  | waits s =>
    rw [Explained, hv] at hexplained
    cases hexplained.1
  | failed f after =>
    rcases hexplained with ⟨e', hrefused, rfl⟩ | ⟨hnone, -⟩
    · rw [hv] at hrefused
      cases hrefused
      obtain ⟨hread, hrest⟩ := hmet
      rw [ho, hbytes] at hrest
      obtain ⟨hhead, hleft⟩ := append_inj (Prod.mk.inj hrest).1 (hsize.trans hread.symm)
      refine ⟨after, rfl, hhead.symm, gives_of_outlook (Prod.ext hleft.symm ?_)⟩
      exact (Prod.mk.inj hrest).2.symm
    · rw [hv] at hnone
      cases hnone

end Reader

def Short (bytes : ByteArray) (expected : Nat) : Prop :=
  (bytes.size < headerSize ∧ expected = headerSize) ∨
    ∃ n, parseHeader bytes = .ok n ∧ bytes.size < headerSize + n ∧ expected = headerSize + n

lemma verdict_of_short {bytes : ByteArray} {expected : Nat} (h : Short bytes expected) :
    verdict bytes = none ∧ (holding bytes).expected = expected := by
  rcases h with ⟨hs, rfl⟩ | ⟨n, hp, hs, rfl⟩
  · rw [holding_short hs]
    exact ⟨verdict_short hs, rfl⟩
  · rw [holding_partial hp]
    exact ⟨verdict_partial hp hs, rfl⟩

def Reported (source : Source) (received expected : Nat) : Ending → ScanResult → Prop
  | .clean, .failed f _ => f = .prematureEnd received expected
  | .fault e, .failed f after => f = .io e ∧
      ∃ last limit, Becomes source last ∧ last.pull limit = (.fault e, after)
  | .silent, .waits _ => True
  | _, _ => False

lemma scan_reader_short {capacity expected : Nat} {bytes : ByteArray} {ending : Ending}
    (hk : source.kind = .reader capacity) (hg : Gives source bytes ending)
    (hshort : Short bytes expected) : join (heard source (left (scan source))) = bytes ∧
      Reported source bytes.size expected ending (scan source) := by
  have ho := outlook_of_gives hg
  obtain ⟨hv, hexpected⟩ := verdict_of_short hshort
  have hexplained := explained_scan source
  have hmet := (stepped_scan source).2 capacity hk
  rw [ho] at hexplained
  generalize scan source = r at hexplained hmet
  cases r with
  | found body h =>
    obtain ⟨remaining, now, -, hfound, -⟩ := hexplained
    rw [hv] at hfound
    cases hfound
  | waits s =>
    obtain ⟨-, hend⟩ := hexplained
    dsimp only at hend
    subst hend
    rw [Met, ho] at hmet
    exact ⟨hmet, trivial⟩
  | failed f after =>
    rcases hexplained with ⟨e, hrefused, -⟩ | ⟨-, ⟨hend, rfl⟩ | ⟨e, hend, rfl⟩⟩
    · rw [hv] at hrefused
      cases hrefused
    · dsimp only at hend
      subst hend
      have hread : join (heard source after) = (outlook source).1 := hmet
      rw [ho] at hread
      exact ⟨hread, congrArg (Fault.prematureEnd _) hexpected⟩
    · dsimp only at hend
      subst hend
      obtain ⟨hread, hlast⟩ := hmet
      rw [ho] at hread
      exact ⟨hread, rfl, hlast⟩

theorem limit_discipline (source : Source) :
    let after := left (scan source)
    Frugal source after ∧
    ∀ capacity bytes ending, source.kind = .reader capacity → Gives source bytes ending →
      (∀ body rest, Legal body.size → bytes = framed body ++ rest →
        scan source = .found body (.make .empty after) ∧
        (Handover.make .empty after).sourceEnded = false ∧
        join (heard source after) = framed body ∧ Gives after rest ending) ∧
      (∀ head rest e, head.size = headerSize → bytes = head ++ rest → parseHeader head = .error e →
        scan source = .failed (.frame e) after ∧ join (heard source after) = head ∧
        Gives after rest ending) ∧
      (∀ expected, Short bytes expected → join (heard source after) = bytes ∧
        Reported source bytes.size expected ending (scan source)) := by
  intro after
  refine ⟨(stepped_scan source).1, ?_⟩
  intro capacity bytes ending hk hg
  refine ⟨?_, ?_, fun expected hshort => scan_reader_short hk hg hshort⟩
  · intro body rest hl hbytes
    obtain ⟨now, hs, hkind, hheard, hrest⟩ := scan_reader_framed hk hg hl hbytes
    have hafter : after = now := congrArg left hs
    rw [hafter]
    refine ⟨hs, ?_, hheard, hrest⟩
    rw [Handover.make, Source.isExhausted, hkind, hk]
  · intro head rest e hsize hbytes he
    obtain ⟨now, hs, hheard, hrest⟩ := scan_reader_refused hk hg hsize hbytes he
    have hafter : after = now := congrArg left hs
    rw [hafter]
    exact ⟨hs, hheard, hrest⟩

def trickle : Source :=
  .reader [.data [0xDE, 0xAD, 0xBE].toByteArray, .data [0xEF].toByteArray,
    .data [0, 0, 0, 2].toByteArray, .data [104, 105, 1, 2].toByteArray, .silence]

theorem limit_discipline_trickle : ∃ after,
    scan trickle = .found [104, 105].toByteArray (.make .empty after) ∧ Frugal trickle after ∧
      (join (heard trickle after)).size = 10 ∧ Gives after [1, 2].toByteArray .silent := by
  obtain ⟨hfrugal, hreader⟩ := limit_discipline trickle
  obtain ⟨hfound, -, -⟩ := hreader 8192 _ _ rfl (gives_outlook trickle)
  obtain ⟨hs, -, hheard, hrest⟩ := hfound [104, 105].toByteArray [1, 2].toByteArray (by decide) (by rfl)
  exact ⟨_, hs, hfrugal, by rw [hheard, size_framed]; rfl, hrest⟩

end TwoHop.Proofs.Flow.Demand
