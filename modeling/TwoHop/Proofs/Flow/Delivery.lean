import TwoHop.Flow.Copy
import TwoHop.Proofs.Bytes
import TwoHop.Proofs.Flow.Content

namespace TwoHop.Proofs.Flow.Delivery

open TwoHop.Flow
open Content

variable {κ : Type} {P : κ → Prop} {data : κ → ByteArray}

def unread (t : Transfer κ) : ByteArray × Ending :=
  if t.copy.sourceEnded then (.empty, .clean) else outlook t.source

def reading (copied : Nat) : ByteArray × Ending → Option (Except Fault Nat)
  | (b, .clean) => some (.ok (copied + b.size))
  | (_, .fault e) => some (.error (.io e))
  | (_, .silent) => none

def forecast (t : Transfer κ) : ByteArray × Option (Except Fault Nat) :=
  match t.copy.phase with
  | .reading => ((unread t).1, reading t.copy.total (unread t))
  | .writing rest => (rest ++ (unread t).1, reading t.copy.total (unread t))
  | .closing r | .done r => (.empty, some r)

def Sound (P : κ → Prop) (t : Transfer κ) : Prop :=
  match t.copy.phase with
  | .reading => t.copy.sourceEnded = false ∧ P t.sink
  | .writing rest => 0 < rest.size ∧ P t.sink
  | .closing r => t.copy.policy.ends r = true ∧ P t.sink
  | .done r => t.copy.policy.ends r = false → P t.sink

structure Continues (data : κ → ByteArray) (t u : Transfer κ) : Prop where
  bytes : data u.sink ++ (forecast u).1 = data t.sink ++ (forecast t).1
  result : (forecast u).2 = (forecast t).2
  policy : u.copy.policy = t.copy.policy
  untouched : t.copy.sourceEnded = true → u.copy.sourceEnded = true ∧ u.source = t.source

lemma reading_append (copied : Nat) (b c : ByteArray) (e : Ending) :
    reading copied (b ++ c, e) = reading (copied + b.size) (c, e) := by
  cases e <;> simp [reading, ByteArray.size_append, Nat.add_assoc]

lemma sound_conclude {c : Copy} {r : Except Fault Nat} {s : Source} {k : κ} {m : Meter}
    (hk : P k) : Sound P (⟨c.conclude r, s, k, m⟩ : Transfer κ) := by
  rw [Copy.conclude]
  cases hr : c.policy.ends r with
  | true => exact ⟨hr, hk⟩
  | false => exact fun _ => hk

lemma forecast_conclude (c : Copy) (r : Except Fault Nat) (s : Source) (k : κ) (m : Meter) :
    forecast (⟨c.conclude r, s, k, m⟩ : Transfer κ) = (.empty, some r) := by
  rw [Copy.conclude]
  cases c.policy.ends r <;> rfl

lemma sound_resume {c : Copy} {s : Source} {k : κ} {m : Meter} (hk : P k) :
    Sound P (⟨c.resume, s, k, m⟩ : Transfer κ) := by
  rw [Copy.resume]
  by_cases he : c.sourceEnded = true
  · rw [if_pos he]
    exact sound_conclude hk
  · rw [if_neg he]
    exact ⟨Bool.eq_false_iff.mpr he, hk⟩

lemma forecast_resume (c : Copy) (s : Source) (k : κ) (m : Meter) :
    forecast (⟨c.resume, s, k, m⟩ : Transfer κ) =
      ((unread (⟨c, s, k, m⟩ : Transfer κ)).1,
        reading c.total (unread (⟨c, s, k, m⟩ : Transfer κ))) := by
  rw [Copy.resume]
  cases he : c.sourceEnded with
  | true => simp [forecast_conclude, unread, he, reading]
  | false => simp [forecast, unread, he]

@[simp] lemma resume_policy (c : Copy) : c.resume.policy = c.policy := by
  rw [Copy.resume, Copy.conclude]
  split <;> rfl

@[simp] lemma resume_sourceEnded (c : Copy) : c.resume.sourceEnded = c.sourceEnded := by
  rw [Copy.resume, Copy.conclude]
  split <;> rfl

lemma continues_read {t u : Transfer κ} (hp : t.copy.phase = .reading) (hs : Sound P t)
    (h : t.read = some u) : Sound P u ∧ Continues data t u := by
  obtain ⟨⟨policy, phase, sourceEnded, copied⟩, source, sink, meter⟩ := t
  cases hp
  obtain ⟨he, hk⟩ := hs
  dsimp only at he hk
  subst he
  have hpull := pulled_pull source defaultReadSize
  have hf : forecast (⟨⟨policy, .reading, false, copied⟩, source, sink, meter⟩ : Transfer κ) =
      ((outlook source).1, reading copied (outlook source)) := rfl
  simp only [Transfer.read] at h
  generalize source.pull defaultReadSize = pulled at hpull h
  obtain ⟨answer, source'⟩ := pulled
  cases answer with
  | waits => cases h
  | ended =>
    cases h
    refine ⟨sound_conclude hk, ?_, ?_, rfl, by simp⟩
    · simp [forecast_conclude, hf, show outlook source = _ from hpull]
    · simp [forecast_conclude, hf, show outlook source = _ from hpull, reading]
  | fault e =>
    cases h
    refine ⟨sound_conclude hk, ?_, ?_, rfl, by simp⟩
    · simp [forecast_conclude, hf, show outlook source = _ from hpull]
    · simp [forecast_conclude, hf, show outlook source = _ from hpull, reading]
  | chunk b =>
    have ho : outlook source = (b ++ (outlook source').1, (outlook source').2) := hpull
    dsimp only at h
    by_cases hb : b.isEmpty = true
    · rw [if_pos hb, Option.some.injEq] at h
      subst h
      rw [Bytes.eq_empty_of_isEmpty hb, ByteArray.empty_append] at ho
      refine ⟨⟨rfl, hk⟩, ?_, ?_, rfl, by simp⟩
      · simp [forecast, unread, ho]
      · simp [forecast, unread, ho]
    · rw [if_neg hb, Option.some.injEq] at h
      subst h
      refine ⟨⟨Bytes.size_pos_of_not_isEmpty hb, hk⟩, ?_, ?_, rfl, by simp⟩
      · rw [hf, ho]
        rfl
      · rw [hf, ho, reading_append]
        rfl

variable [Sink κ]

structure Faithful (P : κ → Prop) (data : κ → ByteArray) : Prop where
  offer : ∀ {k b}, P k → 0 < b.size → (∃ l, Sink.offer k b = (.waits, l)) ∨
    ∃ n l, Sink.offer k b = (.took n, l) ∧ 0 < n ∧ P l ∧ data l = data k ++ b.extract 0 n
  finish : ∀ {k}, P k → (Sink.finish k).1 = .ok () ∧ data (Sink.finish k).2 = data k

lemma continues_write (hA : Faithful P data) {t u : Transfer κ} {rest : ByteArray}
    (hp : t.copy.phase = .writing rest) (hs : Sound P t) (h : t.write rest = some u) :
    Sound P u ∧ Continues data t u := by
  obtain ⟨⟨policy, phase, sourceEnded, copied⟩, source, sink, meter⟩ := t
  cases hp
  obtain ⟨hpos, hk⟩ := hs
  simp only [Transfer.write, Sink.write] at h
  rcases hA.offer hk hpos with ⟨l, ho⟩ | ⟨n, l, ho, hn, hl, hd⟩
  · simp [ho, Written.ofOffer] at h
  · by_cases hle : rest.size ≤ n
    · simp only [ho, Written.ofOffer, hle, if_true, Option.some.injEq] at h
      subst h
      rw [Bytes.extract_to_end hle, ByteArray.extract_zero_size] at hd
      refine ⟨sound_resume hl, ?_, ?_, by simp, fun h => ⟨by simpa using h, rfl⟩⟩
      · rw [forecast_resume, hd, ByteArray.append_assoc]
        rfl
      · rw [forecast_resume]
        rfl
    · simp only [ho, Written.ofOffer, hle, if_false, Nat.ne_of_gt hn, Option.some.injEq] at h
      subst h
      have hcut := Bytes.extract_append_rejoin (Nat.le_of_not_le hle)
      refine ⟨⟨?_, hl⟩, ?_, rfl, rfl, fun h => ⟨h, rfl⟩⟩
      · rw [ByteArray.size_extract]
        omega
      · show data l ++ (rest.extract n rest.size ++ _) = data sink ++ (rest ++ _)
        conv_rhs => rw [← hcut]
        rw [hd]
        simp only [ByteArray.append_assoc]
        rfl

lemma continues_step (hA : Faithful P data) {t u : Transfer κ} (hs : Sound P t)
    (h : t.step = some u) : Sound P u ∧ Continues data t u := by
  rw [Transfer.step] at h
  split at h
  · next hp => exact continues_read hp hs h
  · next rest hp => exact continues_write hA hp hs h
  · next r hp =>
    obtain ⟨⟨policy, phase, sourceEnded, copied⟩, source, sink, meter⟩ := t
    cases hp
    obtain ⟨hr, hk⟩ := hs
    obtain ⟨hok, hd⟩ := hA.finish hk
    dsimp only at hok hd hr
    simp only [hok, closedResult, Option.some.injEq] at h
    subst h
    refine ⟨fun hn => ?_, ?_, rfl, rfl, fun h => ⟨h, rfl⟩⟩
    · simp [hr] at hn
    · simp [forecast, hd]
  · cases h

lemma offer_of_write_none {t : Transfer κ} {rest : ByteArray} (h : t.write rest = none) :
    (Sink.offer t.sink rest).1 = .waits := by
  simp only [Transfer.write, Sink.write] at h
  generalize Sink.offer t.sink rest = offered at h
  obtain ⟨o, l⟩ := offered
  cases o with
  | waits => rfl
  | refused e => simp [Written.ofOffer] at h
  | took n =>
    by_cases hle : rest.size ≤ n
    · simp [Written.ofOffer, hle] at h
    · by_cases hn : n = 0
      · simp [Written.ofOffer, hn, show rest.size ≠ 0 by omega] at h
      · simp [Written.ofOffer, hle, hn] at h

lemma forecast_of_stop {t : Transfer κ} (hs : Sound P t) (h : t.step = none) :
    ((forecast t).1 = .empty ∧ t.result? = (forecast t).2) ∨
      ∃ rest, 0 < rest.size ∧ P t.sink ∧ (Sink.offer t.sink rest).1 = .waits := by
  obtain ⟨⟨policy, phase, sourceEnded, copied⟩, source, sink, meter⟩ := t
  cases phase with
  | reading =>
    obtain ⟨he, hk⟩ := hs
    dsimp only at he
    subst he
    have hpull := pulled_pull source defaultReadSize
    simp only [Transfer.step, Transfer.read] at h
    generalize source.pull defaultReadSize = pulled at hpull h
    obtain ⟨answer, source'⟩ := pulled
    cases answer with
    | waits =>
      have ho : outlook source = (.empty, .silent) := hpull
      apply Or.inl
      simp [forecast, unread, ho, reading, Transfer.result?, Copy.result?]
    | ended | fault e => cases h
    | chunk b =>
      dsimp only at h
      split at h <;> cases h
  | writing rest => exact Or.inr ⟨rest, hs.1, hs.2, offer_of_write_none h⟩
  | closing r => simp [Transfer.step] at h
  | done r => exact Or.inl ⟨rfl, rfl⟩

structure Accepting (P : κ → Prop) (data : κ → ByteArray) : Prop extends Faithful P data where
  prompt : ∀ {k b}, P k → 0 < b.size → (Sink.offer k b).1 ≠ .waits

lemma run_of_none {t : Transfer κ} (h : t.step = none) : t.run = t := by
  rw [Transfer.run]
  split <;> simp_all

lemma run_of_some {t u : Transfer κ} (h : t.step = some u) : t.run = u.run := by
  rw [Transfer.run]
  split <;> simp_all

lemma run_delivers (hA : Accepting P data) {t : Transfer κ} (hs : Sound P t) :
    data t.run.sink = data t.sink ++ (forecast t).1 ∧ t.run.result? = (forecast t).2 ∧
      (t.copy.sourceEnded = true → t.run.source = t.source) := by
  induction t using Transfer.run.induct with
  | case1 t h =>
    rcases forecast_of_stop hs h with ⟨hb, hr⟩ | ⟨rest, hpos, hk, hw⟩
    · rw [run_of_none h, hb, hr, ByteArray.append_empty]
      exact ⟨rfl, rfl, fun _ => rfl⟩
    · exact absurd hw (hA.prompt hk hpos)
  | case2 t u h ih =>
    obtain ⟨hu, hc⟩ := continues_step hA.toFaithful hs h
    obtain ⟨hb, hr, hsource⟩ := ih hu
    rw [run_of_some h, hb, hr, hc.bytes, hc.result]
    refine ⟨rfl, rfl, fun he => ?_⟩
    rw [hsource (hc.untouched he).1, (hc.untouched he).2]

omit [Sink κ] in
lemma sound_start {policy : Policy} {ahead : ByteArray} {source : Source} {ended : Bool} {k : κ}
    {meter : Meter} (hk : P k) : Sound P (.start policy ahead source ended k meter) := by
  rw [Transfer.start]
  by_cases ha : ahead.isEmpty = true
  · rw [if_pos ha]
    exact sound_resume hk
  · rw [if_neg ha]
    exact ⟨Bytes.size_pos_of_not_isEmpty ha, hk⟩

def toCopy (ahead : ByteArray) (source : Source) (ended : Bool) : ByteArray × Ending :=
  if ended then (ahead, .clean) else (ahead ++ (outlook source).1, (outlook source).2)

omit [Sink κ] in
lemma forecast_start (policy : Policy) (ahead : ByteArray) (source : Source) (ended : Bool) (k : κ)
    (meter : Meter) : forecast (.start policy ahead source ended k meter) =
      ((toCopy ahead source ended).1, reading 0 (toCopy ahead source ended)) := by
  rw [Transfer.start]
  by_cases ha : ahead.isEmpty = true
  · rw [if_pos ha, forecast_resume, Bytes.eq_empty_of_isEmpty ha]
    cases ended <;> simp [unread, toCopy]
  · rw [if_neg ha]
    have he : unread (⟨{ policy, sourceEnded := ended }, source, k, meter⟩ : Transfer κ) =
        if ended then (.empty, .clean) else outlook source := rfl
    cases ended with
    | true => simp [forecast, Copy.beginWrite, unread, toCopy, reading]
    | false => simp [forecast, Copy.beginWrite, unread, toCopy, reading_append]

end TwoHop.Proofs.Flow.Delivery
