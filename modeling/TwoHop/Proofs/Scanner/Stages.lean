import Mathlib.Tactic.Common
import TwoHop.Proofs.Scanner.Fragmentation

/-! A scanner in any hands. Whatever is done to it in whatever order, it holds less than its stage
needs, finds one frame at most, and stays where it came to an end. -/

namespace TwoHop.Proofs.Scanner.Stages

open TwoHop.Frame TwoHop.Frame.Scanner
open Heading Fragmentation

inductive Call
  | push (chunk : ByteArray)
  | finish

inductive Answer
  | pushed (answer : Except FrameFault (Option Scanned))
  | finished (f : Fault)

def Answer.isFrame : Answer → Bool
  | .pushed (.ok (some _)) => true
  | _ => false

def call (s : Scanner) : Call → Answer × Scanner
  | .push chunk => (.pushed (s.push chunk).1, (s.push chunk).2)
  | .finish => (.finished s.prematureEnd.1, s.prematureEnd.2)

def run (s : Scanner) : List Call → List Answer × Scanner
  | [] => ([], s)
  | c :: calls => ((call s c).1 :: (run (call s c).2 calls).1, (run (call s c).2 calls).2)

def goal? : Stage → Option Nat
  | .awaitingHeader => some headerSize
  | .awaitingBody n => some (size n)
  | .done | .failed => none

def room (s : Scanner) : Nat := if (goal? s.stage).isSome then 1 else 0

structure Sound (s : Scanner) : Prop where
  short : ∀ g ∈ goal? s.stage, s.buffer.size < g
  body : ∀ n, s.stage = .awaitingBody n → Legal n ∧ headerSize ≤ s.buffer.size

inductive Turn (s : Scanner) : Call → Answer → Scanner → Prop
  | waits {chunk : ByteArray} {stage : Stage} : (goal? s.stage).isSome → (goal? stage).isSome →
      Turn s (.push chunk) (.pushed (.ok none)) ⟨stage, s.buffer ++ chunk⟩
  | found {chunk : ByteArray} (f : Scanned) : (goal? s.stage).isSome →
      Turn s (.push chunk) (.pushed (.ok (some f))) ⟨.done, .empty⟩
  | refused {chunk : ByteArray} (e : FrameFault) : (goal? s.stage).isSome →
      Turn s (.push chunk) (.pushed (.error e)) ⟨.failed, s.buffer ++ chunk⟩
  | late {chunk : ByteArray} (e : FrameFault) : goal? s.stage = none →
      Turn s (.push chunk) (.pushed (.error e)) s
  | finished (f : Fault) : Turn s .finish (.finished f) ⟨.failed, s.buffer⟩

variable {s : Scanner}

lemma turn_takeBody {chunk : ByteArray} (hs : (goal? s.stage).isSome) (before n : Nat) :
    Turn s (.push chunk) (.pushed (.ok (takeBody before n (s.buffer ++ chunk)).1))
      (takeBody before n (s.buffer ++ chunk)).2 := by
  rw [takeBody]
  split
  · apply Turn.found
    exact hs
  · apply Turn.waits hs
    rfl

lemma turn_push (s : Scanner) (chunk : ByteArray) :
    Turn s (.push chunk) (.pushed (s.push chunk).1) (s.push chunk).2 := by
  obtain ⟨stage, buffer⟩ := s
  cases stage with
  | awaitingHeader =>
    rw [push]
    dsimp only
    split
    · split
      · apply Turn.refused
        rfl
      · exact turn_takeBody rfl buffer.size _
    · exact Turn.waits rfl rfl
  | awaitingBody n => exact turn_takeBody rfl buffer.size n
  | done => exact Turn.late .afterDone rfl
  | failed => exact Turn.late .afterFailed rfl

lemma turn_call (s : Scanner) (c : Call) : Turn s c (call s c).1 (call s c).2 := by
  cases c with
  | push chunk => exact turn_push s chunk
  | finish => exact Turn.finished s.prematureEnd.1

lemma sound_of_over (h : goal? s.stage = none) : Sound s where
  short g hg := by simp [h] at hg
  body n hn := by simp [hn, goal?] at h

lemma sound_takeBody {before n : Nat} {buffer : ByteArray} (hn : Legal n)
    (hbuffer : headerSize ≤ buffer.size) (hbefore : before < size n) :
    Sound (takeBody before n buffer).2 := by
  rw [takeBody]
  split
  · apply sound_of_over
    rfl
  · next hcross =>
    rw [crosses_iff, not_and, Nat.not_le] at hcross
    refine Sound.mk ?_ ?_
    · rintro g ⟨⟩
      exact hcross hbefore
    · rintro m ⟨⟩
      exact ⟨hn, hbuffer⟩

lemma sound_push (h : Sound s) (chunk : ByteArray) : Sound (s.push chunk).2 := by
  obtain ⟨stage, buffer⟩ := s
  cases stage with
  | awaitingHeader =>
    have hshort : buffer.size < headerSize := h.short _ rfl
    rw [push]
    dsimp only
    split
    · next hcross =>
      have hreached := (crosses_iff.mp hcross).2
      split
      · apply sound_of_over
        rfl
      · next n hparsed =>
        apply sound_takeBody (parseHeader_eq_ok_iff.mp hparsed).2.1 hreached
        rw [size]
        omega
    · next hcross =>
      rw [crosses_iff, not_and, Nat.not_le] at hcross
      refine Sound.mk ?_ ?_
      · rintro g ⟨⟩
        exact hcross hshort
      · rintro n ⟨⟩
  | awaitingBody n =>
    obtain ⟨hn, hbuffer⟩ := h.body n rfl
    apply sound_takeBody hn ?_ (h.short _ rfl)
    rw [ByteArray.size_append]
    exact Nat.le_add_right_of_le hbuffer
  | done | failed => exact h

lemma sound_call (h : Sound s) (c : Call) : Sound (call s c).2 := by
  cases c with
  | push chunk => exact sound_push h chunk
  | finish =>
    apply sound_of_over
    rfl

lemma sound_run (h : Sound s) (calls : List Call) : Sound (run s calls).2 := by
  induction calls generalizing s with
  | nil => exact h
  | cons c calls ih => exact ih (sound_call h c)

lemma sound_fresh : Sound fresh where
  short := by
    rintro g ⟨⟩
    decide
  body := by rintro n ⟨⟩

lemma wanted_of_goal {g : Nat} (h : goal? s.stage = some g) : s.wanted = g - s.buffer.size := by
  rw [wanted]
  cases hs : s.stage <;> rw [hs] at h <;> cases h <;> rfl

lemma wanted_of_over (h : goal? s.stage = none) : s.wanted = 0 := by
  rw [wanted]
  cases hs : s.stage <;> rw [hs] at h <;> first | rfl | cases h

lemma goal?_eq_none_iff {stage : Stage} : goal? stage = none ↔ stage = .done ∨ stage = .failed := by
  cases stage <;> simp [goal?]

lemma Sound.wanted_add_size (h : Sound s) {g : Nat} (hg : goal? s.stage = some g) :
    s.wanted + s.buffer.size = g := by
  have hshort := h.short g hg
  rw [wanted_of_goal hg]
  omega

lemma Sound.wanted_eq_zero_iff (h : Sound s) : s.wanted = 0 ↔ s.stage = .done ∨ s.stage = .failed := by
  rw [← goal?_eq_none_iff]
  refine ⟨?_, wanted_of_over⟩
  intro hzero
  by_contra hgoal
  obtain ⟨g, hg⟩ := Option.ne_none_iff_exists'.mp hgoal
  have hshort := h.short g hg
  have hsum := h.wanted_add_size hg
  omega

lemma frames_turn {c : Call} {a : Answer} {t : Scanner} (h : Turn s c a t) :
    a.isFrame.toNat + room t ≤ room s := by
  cases h with
  | waits hs ht => simp [Answer.isFrame, room, hs, ht]
  | found f hs => exact Nat.le_of_eq (if_pos hs).symm
  | refused e hs => exact Nat.zero_le _
  | late e hs => exact Nat.le_of_eq (Nat.zero_add _)
  | finished f => exact Nat.zero_le _

lemma frames_run (s : Scanner) (calls : List Call) :
    (run s calls).1.countP Answer.isFrame + room (run s calls).2 ≤ room s := by
  -- A frame that is found takes up the only room there is, for good.
  induction calls generalizing s with
  | nil => exact Nat.le_of_eq (Nat.zero_add _)
  | cons c calls ih =>
    have hfirst := frames_turn (turn_call s c)
    have hrest := ih (call s c).2
    rw [run, List.countP_cons]
    cases hframe : (call s c).1.isFrame <;> simp [hframe] at hfirst ⊢ <;> omega

lemma failed_run (h : s.stage = .failed) (calls : List Call) : (run s calls).2.stage = .failed := by
  induction calls generalizing s with
  | nil => exact h
  | cons c calls ih =>
    apply ih
    have hturn := turn_call s c
    have hended : goal? s.stage = none := by rw [h, goal?]
    generalize (call s c).1 = a, (call s c).2 = t at hturn
    cases hturn with
    | waits hs | found f hs | refused e hs => simp [hended] at hs
    | late e hs => exact h
    | finished f => rfl

theorem scanner_invariant (calls : List Call) :
    let s := (run fresh calls).2
    (s.stage = .awaitingHeader → s.buffer.size < 8 ∧ s.wanted + s.buffer.size = 8) ∧
    (∀ n, s.stage = .awaitingBody n → 1 ≤ n ∧ n ≤ 8388608 ∧
      8 ≤ s.buffer.size ∧ s.buffer.size < 8 + n ∧ s.wanted + s.buffer.size = 8 + n) ∧
    (s.wanted = 0 ↔ s.stage = .done ∨ s.stage = .failed) ∧
    (s.stage = .done → ∀ chunk, s.push chunk = (.error .afterDone, s)) ∧
    (s.stage = .failed → ∀ chunk, s.push chunk = (.error .afterFailed, s)) ∧
    (run fresh calls).1.countP Answer.isFrame ≤ 1 ∧
    (s.stage = .failed → ∀ more, (run s more).2.stage = .failed) ∧
    (s.stage = .done → ∀ c, (call s c).2 ≠ s → c = .finish ∧ (call s c).2.stage = .failed) := by
  intro s
  have hs : Sound s := sound_run sound_fresh calls
  refine ⟨?_, ?_, hs.wanted_eq_zero_iff, ?_, ?_, ?_, failed_run, ?_⟩
  · intro hstage
    have hgoal : goal? s.stage = some 8 := by rw [hstage, goal?, headerSize]
    exact ⟨hs.short 8 hgoal, hs.wanted_add_size hgoal⟩
  · intro n hstage
    have hgoal : goal? s.stage = some (8 + n) := by rw [hstage, goal?, size, headerSize]
    obtain ⟨⟨hpos, hmost⟩, hheader⟩ := hs.body n hstage
    exact ⟨hpos, hmost, hheader, hs.short _ hgoal, hs.wanted_add_size hgoal⟩
  · intro hstage chunk
    generalize s = t at hstage
    obtain ⟨stage, buffer⟩ := t
    cases hstage
    rfl
  · intro hstage chunk
    generalize s = t at hstage
    obtain ⟨stage, buffer⟩ := t
    cases hstage
    rfl
  · calc (run fresh calls).1.countP Answer.isFrame
      _ ≤ (run fresh calls).1.countP Answer.isFrame + room s := Nat.le_add_right _ _
      _ ≤ room fresh := frames_run fresh calls
      _ = 1 := rfl
  · intro hstage c hmoved
    have hended : goal? s.stage = none := by rw [hstage, goal?]
    have hturn := turn_call s c
    generalize (call s c).1 = a, (call s c).2 = t at hturn hmoved
    cases hturn with
    | waits hs | found f hs | refused e hs => simp [hended] at hs
    | late e hs => exact absurd rfl hmoved
    | finished f => exact ⟨rfl, rfl⟩

def pushes (chunks : List ByteArray) : List Call := chunks.map .push

theorem scanner_invariant_worn :
    let part := (run fresh (pushes (greeting.take 3))).2
    let whole := (run fresh (pushes greeting)).2
    let ended := (run fresh (pushes greeting ++ [.finish, .push (header 5)])).2
    (part.stage = .awaitingBody 5 ∧ part.wanted + part.buffer.size = 8 + 5) ∧
    (whole.stage = .done ∧ ∀ chunk, whole.push chunk = (.error .afterDone, whole)) ∧
    (ended.stage = .failed ∧ ∀ more, (run ended more).2.stage = .failed) := by
  intro part whole ended
  have hpart : part.stage = .awaitingBody 5 := by decide
  have hwhole : whole.stage = .done := by decide
  have hended : ended.stage = .failed := by decide
  obtain ⟨-, hbody, -⟩ := scanner_invariant (pushes (greeting.take 3))
  obtain ⟨-, -, -, hdone, -⟩ := scanner_invariant (pushes greeting)
  obtain ⟨-, -, -, -, -, -, hfailed, -⟩ :=
    scanner_invariant (pushes greeting ++ [.finish, .push (header 5)])
  obtain ⟨-, -, -, -, hsum⟩ := hbody 5 hpart
  exact ⟨⟨hpart, hsum⟩, ⟨hwhole, hdone hwhole⟩, hended, hfailed hended⟩

end TwoHop.Proofs.Scanner.Stages
