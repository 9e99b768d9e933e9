import TwoHop.Proofs.Flow.Delivery
import TwoHop.Proofs.Flow.Intake

/-! How a copy ends, and what it has done to its source and its sink by then, whichever of the two
fails first. -/

namespace TwoHop.Proofs.Flow.Copying

open TwoHop.Flow
open Content Delivery Intake
open Proofs.Bytes

variable {κ : Type} [Sink κ]

def script (s : Source) : List ByteArray × Ending :=
  match _ : s.pull defaultReadSize with
  | (.chunk b, t) => (b :: (script t).1, (script t).2)
  | (.ended, _) => ([], .clean)
  | (.fault e, _) => ([], .fault e)
  | (.waits, _) => ([], .silent)
termination_by s.weight
decreasing_by all_goals exact (Source.weight_pull ‹_›).1

def polled (s : Source) (times : Nat) : Source :=
  (replay s (List.replicate times defaultReadSize)).2

def polls : List ByteArray × Ending → Nat
  | (chunks, .silent) => chunks.length
  | (chunks, _) => chunks.length + 1

def pieces (chunks : List ByteArray) : List ByteArray := chunks.filter (0 < ·.size)

/-- A sink that accepts so many writes, each of them whole, and then refuses one. It tells what was
written to it and how often it was finished. -/
structure Tally (κ : Type) [Sink κ] where
  Sound : κ → Prop
  room : κ → Option Nat
  writes : κ → List ByteArray
  finishes : κ → Nat
  fault : IoError
  closing : Except IoError Unit
  takes : ∀ {k b}, Sound k → room k ≠ some 0 → 0 < b.size → ∃ l,
    Sink.offer k b = (.took b.size, l) ∧ Sound l ∧ room l = (room k).map (· - 1) ∧
      writes l = writes k ++ [b] ∧ finishes l = finishes k
  refuses : ∀ {k b}, Sound k → room k = some 0 → 0 < b.size → ∃ l,
    Sink.offer k b = (.refused fault, l) ∧ Sound l ∧ writes l = writes k ∧ finishes l = finishes k
  finish : ∀ {k}, Sound k → ∃ l, Sink.finish k = (closing, l) ∧
    writes l = writes k ∧ finishes l = finishes k + 1

def Tally.outlet (fault : IoError) (finishFails : Bool) : Tally Outlet where
  Sound k := k.most = none ∧ k.fault = fault ∧ k.finishFails = finishFails
  room := Outlet.room
  writes k := k.writes.toList
  finishes := Outlet.finished
  fault := fault
  closing := if finishFails then .error fault else .ok ()
  takes {k b} := by
    rintro ⟨hmost, rfl, rfl⟩ hroom -
    have hoffer : Sink.offer k b =
        (.took b.size, { k with room := k.room.map (· - 1), writes := k.writes.push b }) := by
      simp [Sink.offer, Outlet.offer, hroom, hmost]
    exact ⟨_, hoffer, ⟨hmost, rfl, rfl⟩, rfl, Array.toList_push, rfl⟩
  refuses {k b} := by
    rintro ⟨hmost, rfl, rfl⟩ hroom -
    exact ⟨k, by simp [Sink.offer, Outlet.offer, hroom], ⟨hmost, rfl, rfl⟩, rfl, rfl⟩
  finish {k} := by
    rintro ⟨-, rfl, rfl⟩
    exact ⟨_, rfl, rfl, rfl⟩

variable {S : Tally κ} {policy : Policy} {copied before asks : Nat} {k : κ} {s after : Source}
  {chunks : List ByteArray} {b : ByteArray} {e : Ending} {t : Transfer κ}

def Tally.accepts (S : Tally κ) (k : κ) (chunks : List ByteArray) : Nat :=
  (S.room k).getD (pieces chunks).length

def settled (policy : Policy) (closing : Except IoError Unit) (copied : Nat) :
    Ending → Option (Except Fault Nat)
  | .clean => some (match policy.endOnSuccess, closing with
    | true, .error e => .error (.sinkWrite e)
    | _, _ => .ok copied)
  | .fault e => some (.error (.io e))
  | .silent => none

def closes (policy : Policy) : Ending → Nat
  | .clean => policy.endOnSuccess.toNat
  | .fault _ => policy.endOnFailure.toNat
  | .silent => 0

structure Ends (S : Tally κ) (policy : Policy) (copied : Nat) (k : κ) (s : Source) (before : Nat)
    (chunks : List ByteArray) (e : Ending) (asks : Nat) (t : Transfer κ) : Prop where
  writes : S.writes t.sink = S.writes k ++ (pieces chunks).take (S.accepts k chunks)
  refused : S.accepts k chunks < (pieces chunks).length →
    t.result? = some (.error (.sinkWrite S.fault)) ∧
    S.finishes t.sink = S.finishes k + policy.endOnFailure.toNat ∧
    ∃ front b, front ++ [b] <+: chunks ∧ 0 < b.size ∧
      (pieces front).length = S.accepts k chunks ∧ t.source = polled s (front.length + before)
  through : (pieces chunks).length ≤ S.accepts k chunks →
    t.result? = settled policy S.closing (copied + (join (pieces chunks)).size) e ∧
    S.finishes t.sink = S.finishes k + closes policy e ∧ t.source = polled s asks

lemma pieces_cons_of_pos (hb : 0 < b.size) (chunks : List ByteArray) :
    pieces (b :: chunks) = b :: pieces chunks :=
  List.filter_cons_of_pos (by simpa using hb)

lemma pieces_cons_of_empty (hb : b.size = 0) (chunks : List ByteArray) :
    pieces (b :: chunks) = pieces chunks :=
  List.filter_cons_of_neg (by simp [hb])

lemma polled_succ (s : Source) (times : Nat) :
    polled s (times + 1) = polled (s.pull defaultReadSize).2 times := rfl

lemma closedResult_error (f : Fault) (e : Except IoError Unit) :
    closedResult (.error f) e = .error f := by
  cases e <;> rfl

lemma run_conclude (hk : S.Sound k) (c : Copy) (r : Except Fault Nat) (s : Source) (m : Meter) :
    let t := (⟨c.conclude r, s, k, m⟩ : Transfer κ).run
    t.result? = some (if c.policy.ends r then closedResult r S.closing else r) ∧
    S.writes t.sink = S.writes k ∧ S.finishes t.sink = S.finishes k + (c.policy.ends r).toNat ∧
    t.source = s := by
  intro t
  cases hr : c.policy.ends r with
  | false =>
    have hstep : (⟨c.conclude r, s, k, m⟩ : Transfer κ).step = none := by
      simp [Transfer.step, Copy.conclude, hr]
    rw [show t = _ from run_of_none hstep]
    refine ⟨?_, rfl, rfl, rfl⟩
    simp [Transfer.result?, Copy.result?, Copy.conclude, hr]
  | true =>
    obtain ⟨l, hfinish, hwrites, hfinishes⟩ := S.finish hk
    have hstep : (⟨c.conclude r, s, k, m⟩ : Transfer κ).step =
        some ⟨{ c with phase := .done (closedResult r S.closing) }, s, l, m⟩ := by
      simp [Transfer.step, Copy.conclude, hr, hfinish]
    rw [show t = _ from (run_of_some hstep).trans (run_of_none rfl)]
    exact ⟨rfl, hwrites, hfinishes, rfl⟩

lemma ends_nil (hresult : t.result? = settled policy S.closing copied e)
    (hwrites : S.writes t.sink = S.writes k)
    (hfinishes : S.finishes t.sink = S.finishes k + closes policy e)
    (hsource : t.source = polled s asks) : Ends S policy copied k s before [] e asks t where
  writes := by simp [hwrites, pieces]
  refused h := absurd h (Nat.not_lt_zero _)
  through _ := ⟨hresult, hfinishes, hsource⟩

lemma ends_clean (hk : S.Sound k) (c : Copy) (hsource : after = polled s asks) (m : Meter) :
    Ends S c.policy c.total k s before [] .clean asks
      (⟨c.conclude (.ok c.total), after, k, m⟩ : Transfer κ).run := by
  obtain ⟨hresult, hwrites, hfinishes, hafter⟩ := run_conclude hk c (.ok c.total) after m
  refine ends_nil ?_ hwrites hfinishes (hafter.trans hsource)
  rw [hresult]
  unfold Policy.ends settled
  cases c.policy.endOnSuccess <;> cases S.closing <;> rfl

lemma ends_fault (hk : S.Sound k) (c : Copy) {f : IoError} (hsource : after = polled s asks)
    (m : Meter) : Ends S c.policy copied k s before [] (.fault f) asks
      (⟨c.conclude (.error (.io f)), after, k, m⟩ : Transfer κ).run := by
  obtain ⟨hresult, hwrites, hfinishes, hafter⟩ := run_conclude hk c (.error (.io f)) after m
  refine ends_nil ?_ hwrites hfinishes (hafter.trans hsource)
  rw [hresult, closedResult_error, ite_self, settled]

lemma ends_skip (hb : b.size = 0) (h : Ends S policy copied k s 1 chunks e asks t) :
    Ends S policy copied k s 0 (b :: chunks) e asks t := by
  have haccepts : S.accepts k (b :: chunks) = S.accepts k chunks := by
    rw [Tally.accepts, pieces_cons_of_empty hb, Tally.accepts]
  obtain ⟨hwrites, hrefused, hthrough⟩ := h
  refine ⟨?_, ?_, ?_⟩
  · rw [haccepts, pieces_cons_of_empty hb, hwrites]
  · rw [haccepts, pieces_cons_of_empty hb]
    intro hless
    obtain ⟨hresult, hfinishes, front, c, hfront, hc, hlength, hsource⟩ := hrefused hless
    refine ⟨hresult, hfinishes, b :: front, c, (List.prefix_cons_inj b).mpr hfront, hc, ?_, hsource⟩
    rw [pieces_cons_of_empty hb, hlength]
  · rw [haccepts, pieces_cons_of_empty hb]
    exact hthrough

lemma ends_refused (hb : 0 < b.size) (hk : S.Sound k) (hroom : S.room k = some 0) {ended : Bool}
    {m : Meter} : Ends S policy copied k s 0 (b :: chunks) e asks
      (⟨⟨policy, .writing b, ended, copied + b.size⟩, s, k, m⟩ : Transfer κ).run := by
  obtain ⟨l, hoffer, hl, hwrites, hfinishes⟩ := S.refuses hk hroom hb
  have hstep : (⟨⟨policy, .writing b, ended, copied + b.size⟩, s, k, m⟩ : Transfer κ).step =
      some ⟨(⟨policy, .writing b, ended, copied + b.size⟩ : Copy).conclude
        (.error (.sinkWrite S.fault)), s, l, m⟩ := by
    simp [Transfer.step, Transfer.write, Sink.write, Written.ofOffer, hoffer]
  have haccepts : S.accepts k (b :: chunks) = 0 := by simp [Tally.accepts, hroom]
  obtain ⟨hresult, hwrites', hfinishes', hsource⟩ := run_conclude hl
    ⟨policy, .writing b, ended, copied + b.size⟩ (.error (.sinkWrite S.fault)) s m
  rw [run_of_some hstep]
  refine ⟨?_, ?_, ?_⟩
  · rw [haccepts, List.take_zero, List.append_nil, hwrites', hwrites]
  · intro
    refine ⟨?_, ?_, [], b, ⟨chunks, rfl⟩, hb, haccepts.symm, hsource⟩
    · rw [hresult, closedResult_error, ite_self]
    · rw [hfinishes', hfinishes, Policy.ends]
  · rw [haccepts, pieces_cons_of_pos hb]
    intro hnone
    simp at hnone

lemma ends_taken (hb : 0 < b.size) {l : κ} (hroom : S.room k ≠ some 0)
    (hless : S.room l = (S.room k).map (· - 1)) (hwrites : S.writes l = S.writes k ++ [b])
    (hfinishes : S.finishes l = S.finishes k) (h : Ends S policy (copied + b.size) l s 1 chunks e asks t) :
    Ends S policy copied k s 0 (b :: chunks) e asks t := by
  have hpieces := pieces_cons_of_pos hb chunks
  have haccepts : S.accepts k (b :: chunks) = S.accepts l chunks + 1 := by
    rw [Tally.accepts, Tally.accepts, hless, hpieces]
    cases hk : S.room k with
    | none => rfl
    | some n =>
      have hpos : n ≠ 0 := fun hn => hroom (hk.trans (congrArg some hn))
      simp only [Option.map_some, Option.getD_some]
      omega
  obtain ⟨hwrites', hrefused, hthrough⟩ := h
  refine ⟨?_, ?_, ?_⟩
  · rw [hwrites', hwrites, haccepts, hpieces, List.take_succ_cons, List.append_assoc]
    rfl
  · rw [haccepts, hpieces, List.length_cons]
    intro hlt
    obtain ⟨hresult, hfinishes', front, c, hfront, hc, hlength, hsource⟩ :=
      hrefused (Nat.lt_of_succ_lt_succ hlt)
    refine ⟨hresult, hfinishes ▸ hfinishes', b :: front, c, ?_, hc, ?_, hsource⟩
    · exact (List.prefix_cons_inj b).mpr hfront
    · rw [pieces_cons_of_pos hb, List.length_cons, hlength]
  · rw [haccepts, hpieces, List.length_cons, join_cons, ByteArray.size_append, ← Nat.add_assoc]
    intro hle
    rw [← hfinishes]
    exact hthrough (Nat.le_of_succ_le_succ hle)

lemma ends_write (hb : 0 < b.size) (hk : S.Sound k) {ended : Bool} {m : Meter}
    (h : ∀ l, S.Sound l → Ends S policy (copied + b.size) l s 1 chunks e asks
      (⟨(⟨policy, .writing b, ended, copied + b.size⟩ : Copy).resume, s, l, m⟩ : Transfer κ).run) :
    Ends S policy copied k s 0 (b :: chunks) e asks
      (⟨⟨policy, .writing b, ended, copied + b.size⟩, s, k, m⟩ : Transfer κ).run := by
  by_cases hroom : S.room k = some 0
  · exact ends_refused hb hk hroom
  · obtain ⟨l, hoffer, hl, hless, hwrites, hfinishes⟩ := S.takes hk hroom hb
    have hstep : (⟨⟨policy, .writing b, ended, copied + b.size⟩, s, k, m⟩ : Transfer κ).step =
        some ⟨(⟨policy, .writing b, ended, copied + b.size⟩ : Copy).resume, s, l, m⟩ := by
      simp [Transfer.step, Transfer.write, Sink.write, Written.ofOffer, hoffer]
    rw [run_of_some hstep]
    exact ends_taken hb hroom hless hwrites hfinishes (h l hl)

lemma ends_pull {answer : Pull} (hpull : s.pull defaultReadSize = (answer, after))
    (h : Ends S policy copied k after 0 chunks e asks t) :
    Ends S policy copied k s 1 chunks e (asks + 1) t := by
  have hpolled (times : Nat) : polled s (times + 1) = polled after times := by
    rw [polled_succ, hpull]
  obtain ⟨hwrites, hrefused, hthrough⟩ := h
  refine ⟨hwrites, ?_, ?_⟩
  · intro hless
    obtain ⟨hresult, hfinishes, front, c, hfront, hc, hlength, hsource⟩ := hrefused hless
    exact ⟨hresult, hfinishes, front, c, hfront, hc, hlength, hsource.trans (hpolled _).symm⟩
  · rw [hpolled]
    exact hthrough

lemma script_of_pull (s : Source) : script s = match s.pull defaultReadSize with
    | (.chunk b, t) => (b :: (script t).1, (script t).2)
    | (.ended, _) => ([], .clean)
    | (.fault e, _) => ([], .fault e)
    | (.waits, _) => ([], .silent) := by
  rw [script]
  split <;> simp_all

lemma script_items (chunks : List ByteArray) (f : IoError) (rest : List Item) (asked : Array Nat) :
    script ⟨.chunks, chunks.map .data ++ .fault f :: rest, false, asked⟩ = (chunks, .fault f) := by
  induction chunks generalizing asked with
  | nil =>
    rw [script_of_pull]
    rfl
  | cons b chunks ih =>
    have hpull : (⟨.chunks, (b :: chunks).map .data ++ .fault f :: rest, false, asked⟩ : Source).pull
        defaultReadSize = (.chunk b, ⟨.chunks, chunks.map .data ++ .fault f :: rest, false,
          asked.push defaultReadSize⟩) := rfl
    rw [script_of_pull, hpull]
    dsimp only
    rw [ih]

lemma polls_cons (b : ByteArray) (due : List ByteArray × Ending) :
    polls (b :: due.1, due.2) = polls due + 1 := by
  obtain ⟨chunks, e⟩ := due
  cases e <;> rfl

lemma ends_reading (hk : S.Sound k) (m : Meter) :
    Ends S policy copied k s 1 (script s).1 (script s).2 (polls (script s))
      (⟨⟨policy, .reading, false, copied⟩, s, k, m⟩ : Transfer κ).run := by
  -- One chunk at a time, along the script; what was copied so far and the sink go with it.
  induction s using script.induct generalizing copied k m with
  | case1 s b after hpull ih =>
    rw [script_of_pull, hpull, polls_cons]
    apply ends_pull hpull
    by_cases hb : b.isEmpty = true
    · have hstep : (⟨⟨policy, .reading, false, copied⟩, s, k, m⟩ : Transfer κ).step =
          some ⟨⟨policy, .reading, false, copied⟩, after, k, m⟩ := by
        simp [Transfer.step, Transfer.read, hpull, hb]
      rw [run_of_some hstep]
      exact ends_skip (by simp [Bytes.eq_empty_of_isEmpty hb]) (ih hk m)
    · have hstep : (⟨⟨policy, .reading, false, copied⟩, s, k, m⟩ : Transfer κ).step =
          some ⟨⟨policy, .writing b, false, copied + b.size⟩, after, k, m.record b.size⟩ := by
        simp [Transfer.step, Transfer.read, hpull, hb, Copy.beginWrite]
      rw [run_of_some hstep]
      exact ends_write (Bytes.size_pos_of_not_isEmpty hb) hk fun l hl => ih hl (m.record b.size)
  | case2 s after hpull =>
    have hscript : script s = ([], .clean) := by rw [script_of_pull, hpull]
    have hstep : (⟨⟨policy, .reading, false, copied⟩, s, k, m⟩ : Transfer κ).step =
        some ⟨(⟨policy, .reading, false, copied⟩ : Copy).conclude (.ok copied), after, k, m⟩ := by
      simp [Transfer.step, Transfer.read, hpull]
    rw [hscript, run_of_some hstep]
    refine ends_clean hk ⟨policy, .reading, false, copied⟩ ?_ m
    show after = (s.pull defaultReadSize).2
    rw [hpull]
  | case3 s f after hpull =>
    have hscript : script s = ([], .fault f) := by rw [script_of_pull, hpull]
    have hstep : (⟨⟨policy, .reading, false, copied⟩, s, k, m⟩ : Transfer κ).step =
        some ⟨(⟨policy, .reading, false, copied⟩ : Copy).conclude (.error (.io f)), after, k, m⟩ := by
      simp [Transfer.step, Transfer.read, hpull]
    rw [hscript, run_of_some hstep]
    refine ends_fault hk ⟨policy, .reading, false, copied⟩ ?_ m
    show after = (s.pull defaultReadSize).2
    rw [hpull]
  | case4 s after hpull =>
    have hscript : script s = ([], .silent) := by rw [script_of_pull, hpull]
    have hstep : (⟨⟨policy, .reading, false, copied⟩, s, k, m⟩ : Transfer κ).step = none := by
      simp [Transfer.step, Transfer.read, hpull]
    rw [hscript, run_of_none hstep]
    exact ends_nil rfl rfl rfl rfl

def upcoming (s : Source) (ended : Bool) : List ByteArray × Ending :=
  if ended then ([], .clean) else script s

lemma ends_resume (hk : S.Sound k) {phase : Phase} (ended : Bool) (m : Meter) :
    Ends S policy copied k s 1 (upcoming s ended).1 (upcoming s ended).2
      (if ended then 0 else polls (script s))
      (⟨(⟨policy, phase, ended, copied⟩ : Copy).resume, s, k, m⟩ : Transfer κ).run := by
  cases ended with
  | true => exact ends_clean hk ⟨policy, phase, true, copied⟩ rfl m
  | false => exact ends_reading hk m

theorem copy_outcome (S : Tally κ) (policy : Policy) (ahead : ByteArray) (source : Source)
    (ended : Bool) {k : κ} (meter : Meter) (hk : S.Sound k) :
    let due := upcoming source ended
    let offered := pieces (ahead :: due.1)
    let accepted := (S.room k).getD offered.length
    let t := (Transfer.start policy ahead source ended k meter).run
    S.writes t.sink = S.writes k ++ offered.take accepted ∧
    (accepted < offered.length →
      t.result? = some (.error (.sinkWrite S.fault)) ∧
      S.finishes t.sink = S.finishes k + policy.endOnFailure.toNat ∧
      ∃ front b, front ++ [b] <+: ahead :: due.1 ∧ 0 < b.size ∧ (pieces front).length = accepted ∧
        t.source = polled source front.length) ∧
    (offered.length ≤ accepted →
      t.result? = settled policy S.closing (join offered).size due.2 ∧
      S.finishes t.sink = S.finishes k + closes policy due.2 ∧
      t.source = polled source (if ended then 0 else polls due)) := by
  intro due offered accepted t
  have hends : Ends S policy 0 k source 0 (ahead :: due.1) due.2
      (if ended then 0 else polls (script source)) t := by
    by_cases ha : ahead.isEmpty = true
    · have hstart : t = (⟨Copy.resume { policy, sourceEnded := ended }, source, k, meter.opened⟩ :
          Transfer κ).run := by
        simp only [t, Transfer.start, ha, if_true]
      rw [hstart]
      exact ends_skip (by simp [Bytes.eq_empty_of_isEmpty ha]) (ends_resume hk ended _)
    · have hstart : t = (⟨⟨policy, .writing ahead, ended, 0 + ahead.size⟩, source, k,
          meter.opened.record ahead.size⟩ : Transfer κ).run := by
        simp only [t, Transfer.start, ha]
        rfl
      rw [hstart]
      exact ends_write (Bytes.size_pos_of_not_isEmpty ha) hk fun l hl => ends_resume hl ended _
  refine ⟨hends.writes, hends.refused, ?_⟩
  intro hall
  obtain ⟨hresult, hfinishes, hsource⟩ := hends.through hall
  refine ⟨?_, hfinishes, ?_⟩
  · rw [hresult, Nat.zero_add]
  · rw [hsource]
    cases ended <;> rfl

def spilled : Source where
  items := [.data .empty, .data [1].toByteArray, .fault ⟨.connectionReset, "reset", []⟩,
    .data [2].toByteArray]

theorem copy_outcome_spilled :
    let t := (Transfer.start {} [0].toByteArray spilled false ({ finishFails := true } : Outlet) {}).run
    t.sink.writes.toList = [[0].toByteArray, [1].toByteArray] ∧
    t.result? = some (.error (.io ⟨.connectionReset, "reset", []⟩)) ∧
    t.sink.finished = 1 ∧ t.source.items = [.data [2].toByteArray] ∧ t.source.asked.size = 3 := by
  have hdue : upcoming spilled false =
      ([.empty, [1].toByteArray], .fault ⟨.connectionReset, "reset", []⟩) :=
    script_items [.empty, [1].toByteArray] _ [.data [2].toByteArray] #[]
  obtain ⟨hwrites, -, hthrough⟩ := copy_outcome (Tally.outlet ({} : Outlet).fault true) {}
    [0].toByteArray spilled false {} (k := { finishFails := true }) ⟨rfl, rfl, rfl⟩
  rw [hdue] at hwrites hthrough
  obtain ⟨hresult, hfinishes, hsource⟩ := hthrough (Nat.le_refl _)
  refine ⟨hwrites, hresult, hfinishes, ?_, ?_⟩
  · rw [hsource]
    rfl
  · rw [hsource]
    rfl

end TwoHop.Proofs.Flow.Copying
