import Mathlib.Algebra.Order.BigOperators.Group.List
import Mathlib.Algebra.Order.Ring.Nat
import Mathlib.Logic.Relation
import TwoHop.Flow.Relay
import TwoHop.Proofs.Bytes

namespace TwoHop.Proofs.Flow.Metering

open TwoHop.Flow

inductive Copier : Type 1
  | copy {κ : Type} [Sink κ] (transfer : Transfer κ)
  | body (relay : Relay)

structure Books where
  handed : List ByteArray := []
  accepted : Nat := 0
  refused : List ByteArray := []

def Books.add (a b : Books) : Books :=
  ⟨a.handed ++ b.handed, a.accepted + b.accepted, a.refused ++ b.refused⟩

structure Job where
  leg : Option Leg
  copier : Copier
  books : Books

structure Site where
  traffic : Traffic
  jobs : List Job

def sizes (chunks : List ByteArray) : Nat := (chunks.map ByteArray.size).sum

def worthwhile (b : ByteArray) : List ByteArray := if b.isEmpty then [] else [b]

def entry {κ : Type} [Sink κ] (t : Transfer κ) : Books :=
  match t.copy.phase with
  | .reading =>
    match (t.source.pull defaultReadSize).1 with
    | .chunk b => { handed := worthwhile b }
    | _ => {}
  | .writing rest =>
    match (Sink.write t.sink rest).1 with
    | .all => { accepted := rest.size }
    | .more left => { accepted := rest.size - left.size }
    | .failed _ => { refused := [rest] }
    | .waits => {}
  | _ => {}

namespace Copier

def copied : Copier → Copy
  | copy t => t.copy
  | body r => r.transfer.copy

def meter : Copier → Meter
  | copy t => t.meter
  | body r => r.transfer.meter

def withMeter (m : Meter) : Copier → Copier
  | copy t => copy { t with meter := m }
  | body r => body { r with transfer := { r.transfer with meter := m } }

def step : Copier → Option Copier
  | copy t => t.step.map copy
  | body r => r.feed.map body

def entry : Copier → Books
  | copy t => Metering.entry t
  | body r => if r.feeding = .copying then Metering.entry r.transfer else {}

def result? (copier : Copier) : Option (Except Fault Nat) := copier.copied.result?

inductive Begins (m : Meter) (ahead : ByteArray) : Copier → Prop
  | copy {κ : Type} [Sink κ] (policy : Policy) (source : Source) (ended : Bool) (sink : κ) :
      Begins m ahead (.copy (.start policy ahead source ended sink m))
  | body (policy : Policy) (source : Source) (ended : Bool) :
      Begins m ahead (.body (.start policy ahead source ended m))

inductive Stirs : Copier → Copier → Prop
  | copy {κ : Type} [Sink κ] (t : Transfer κ) (source : Source) (sink : κ) :
      Stirs (.copy t) (.copy { t with source, sink })
  | body (r : Relay) (source : Source) (sink : Queue) :
      Stirs (.body r) (.body { r with transfer := { r.transfer with source, sink } })

end Copier

open Copier

-- A shared meter is lent to one copier for one step, and put back before the next.
def lent (traffic : Traffic) : Option Leg → Copier → Copier
  | some l, copier => copier.withMeter (traffic.meter l)
  | none, copier => copier

def settled (traffic : Traffic) : Option Leg → Copier → Traffic
  | some l, copier => traffic.modify (fun _ => copier.meter) l
  | none, _ => traffic

inductive Move : Site → Site → Prop
  | begin {traffic : Traffic} {jobs : List Job} {copier : Copier} (leg : Option Leg) (own : Meter)
      (ahead : ByteArray) : Begins (leg.elim own traffic.meter) ahead copier →
      Move ⟨traffic, jobs⟩
        ⟨settled traffic leg copier, jobs ++ [⟨leg, copier, { handed := worthwhile ahead }⟩]⟩
  | step {traffic : Traffic} {j : Job} {copier : Copier} (front back : List Job) :
      (lent traffic j.leg j.copier).step = some copier →
      Move ⟨traffic, front ++ j :: back⟩ ⟨settled traffic j.leg copier,
        front ++ { j with copier, books := j.books.add j.copier.entry } :: back⟩
  | stir {traffic : Traffic} {j : Job} {copier : Copier} (front back : List Job) :
      Stirs j.copier copier →
      Move ⟨traffic, front ++ j :: back⟩ ⟨traffic, front ++ { j with copier } :: back⟩

abbrev Moves : Site → Site → Prop := Relation.ReflTransGen Move

def on (l : Leg) (jobs : List Job) : List Job := jobs.filter (·.leg = some l)

def pending : Phase → List ByteArray
  | .writing rest => [rest]
  | _ => []

def outcome? : Phase → Option (Except Fault Nat)
  | .closing r | .done r => some r
  | _ => none

structure Adds (b : Books) (total : Nat) (left : List ByteArray) : Prop where
  total : total = sizes b.handed
  balance : sizes b.handed = b.accepted + sizes b.refused + sizes left
  parts : ∀ rest ∈ b.refused ++ left, ∃ front, front ++ rest ∈ b.handed

structure Balanced (b : Books) (c : Copy) : Prop where
  adds : Adds b c.total (pending c.phase)
  once : b.refused.length ≤ 1
  late : b.refused ≠ [] → ∃ f, outcome? c.phase = some (.error f)
  whole : ∀ n, outcome? c.phase = some (.ok n) → n = c.total

inductive Turns (c : Copy) : Books → Copy → Prop
  | idle : Turns c {} c
  | hand {b : ByteArray} : c.phase = .reading → Turns c { handed := [b] } (c.beginWrite b)
  | ended : c.phase = .reading → Turns c {} (c.conclude (.ok c.total))
  | fault (f : Fault) : c.phase = .reading → Turns c {} (c.conclude (.error f))
  | whole {rest : ByteArray} : c.phase = .writing rest → Turns c { accepted := rest.size } c.resume
  | part {front left : ByteArray} : c.phase = .writing (front ++ left) →
      Turns c { accepted := front.size } { c with phase := .writing left }
  | refusal {rest : ByteArray} (f : Fault) : c.phase = .writing rest →
      Turns c { refused := [rest] } (c.conclude (.error f))
  | close {result : Except Fault Nat} (e : Except IoError Unit) : c.phase = .closing result →
      Turns c {} { c with phase := .done (closedResult result e) }

variable {b books : Books} {c d : Copy} {copier later : Copier} {m : Meter} {x y : Site}

section

variable {κ : Type} [Sink κ] {t u : Transfer κ} {r s : Relay}

lemma record_zero (m : Meter) : m.record 0 = m := by
  obtain ⟨pipes, bytes⟩ := m
  simp [Meter.record]

lemma turns_read (hphase : t.copy.phase = .reading) (h : t.read = some u) :
    Turns t.copy (entry t) u.copy ∧ u.meter = t.meter.record (sizes (entry t).handed) := by
  rw [Transfer.read] at h
  rw [entry, hphase]
  split at h
  · cases h
  · next source hpull =>
    cases h
    simp only [hpull]
    exact ⟨.ended hphase, (record_zero _).symm⟩
  · next e source hpull =>
    cases h
    simp only [hpull]
    exact ⟨.fault _ hphase, (record_zero _).symm⟩
  · next chunk source hpull =>
    simp only [hpull, worthwhile]
    split at h
    · next hempty =>
      cases h
      rw [if_pos hempty]
      exact ⟨.idle, (record_zero _).symm⟩
    · next hempty =>
      cases h
      rw [if_neg hempty]
      exact ⟨.hand hphase, by simp [sizes]⟩

lemma front_of_more {k l : κ} {rest left : ByteArray} (h : Sink.write k rest = (.more left, l)) :
    ∃ front, rest = front ++ left := by
  have hwritten := congrArg Prod.fst h
  rw [Sink.write] at hwritten
  dsimp only at hwritten
  cases hoffer : (Sink.offer k rest).1 with
  | waits => rw [hoffer] at hwritten; cases hwritten
  | refused e => rw [hoffer] at hwritten; cases hwritten
  | took n =>
    rw [hoffer, Written.ofOffer] at hwritten
    split at hwritten
    · cases hwritten
    · split at hwritten
      · cases hwritten
      · next hless _ =>
        cases hwritten
        exact ⟨rest.extract 0 n, (Bytes.extract_append_rejoin (by omega)).symm⟩

lemma turns_write {rest : ByteArray} (hphase : t.copy.phase = .writing rest) (h : t.write rest = some u) :
    Turns t.copy (entry t) u.copy ∧ u.meter = t.meter.record (sizes (entry t).handed) := by
  rw [Transfer.write] at h
  rw [entry, hphase]
  split at h
  · cases h
  · next sink hwrite =>
    cases h
    simp only [hwrite]
    exact ⟨.whole hphase, (record_zero _).symm⟩
  · next left sink hwrite =>
    cases h
    obtain ⟨front, rfl⟩ := front_of_more hwrite
    simp only [hwrite, ByteArray.size_append, Nat.add_sub_cancel]
    exact ⟨.part hphase, (record_zero _).symm⟩
  · next e sink hwrite =>
    cases h
    simp only [hwrite]
    exact ⟨.refusal _ hphase, (record_zero _).symm⟩

lemma turns_step (h : t.step = some u) :
    Turns t.copy (entry t) u.copy ∧ u.meter = t.meter.record (sizes (entry t).handed) := by
  rw [Transfer.step] at h
  split at h
  · next hphase => exact turns_read hphase h
  · next rest hphase => exact turns_write hphase h
  · next result hphase =>
    cases h
    rw [entry, hphase]
    exact ⟨.close _ hphase, (record_zero _).symm⟩
  · cases h

lemma turns_feed (h : r.feed = some s) :
    Turns r.transfer.copy (Copier.body r).entry s.transfer.copy ∧
      s.transfer.meter = r.transfer.meter.record (sizes (Copier.body r).entry.handed) := by
  have hdone {result} (hresult : r.transfer.result? = some result) : entry r.transfer = {} := by
    rw [Transfer.result?, Copy.result?] at hresult
    rw [entry]
    split at hresult
    · next hphase => rw [hphase]
    · cases hresult
  rw [Relay.feed] at h
  rw [Copier.entry]
  split at h
  · next hcopying =>
    rw [if_pos hcopying]
    split at h
    · obtain ⟨u, hu, rfl⟩ := Option.map_eq_some_iff.mp h
      exact turns_step hu
    · next hresult =>
      cases h
      rw [hdone hresult]
      exact ⟨.idle, (record_zero _).symm⟩
    · next hresult =>
      cases h
      rw [hdone hresult]
      exact ⟨.idle, (record_zero _).symm⟩
  · next e haborting =>
    rw [if_neg (by simp [haborting])]
    split at h
    · cases h
    · cases h
      exact ⟨.idle, (record_zero _).symm⟩
  · cases h

lemma turns_copier (h : copier.step = some later) :
    Turns copier.copied copier.entry later.copied ∧
      later.meter = copier.meter.record (sizes copier.entry.handed) := by
  cases copier with
  | copy t =>
    obtain ⟨u, hu, rfl⟩ := Option.map_eq_some_iff.mp h
    exact turns_step hu
  | body r =>
    obtain ⟨s, hs, rfl⟩ := Option.map_eq_some_iff.mp h
    exact turns_feed hs

end

lemma sizes_append (as bs : List ByteArray) : sizes (as ++ bs) = sizes as + sizes bs := by
  rw [sizes, List.map_append, List.sum_append, sizes, sizes]

lemma sizes_singleton (b : ByteArray) : sizes [b] = b.size := Nat.add_zero _

variable {total : Nat} {chunk front rest : ByteArray}

lemma Adds.hand (h : Adds b total []) (chunk : ByteArray) :
    Adds (b.add { handed := [chunk] }) (total + chunk.size) [chunk] where
  total := by rw [Books.add, sizes_append, sizes_singleton, h.total]
  balance := by
    have hbalance := h.balance
    simp only [Books.add, sizes_append, List.append_nil, sizes_singleton, Nat.add_zero] at hbalance ⊢
    simp only [sizes, List.map_nil, List.sum_nil, Nat.add_zero] at hbalance ⊢
    omega
  parts := by
    intro part hpart
    simp only [Books.add, List.append_nil, List.mem_append, List.mem_singleton] at hpart ⊢
    rcases hpart with hrefused | rfl
    · obtain ⟨front, hfront⟩ := h.parts part (List.mem_append_left _ hrefused)
      exact ⟨front, Or.inl hfront⟩
    · exact ⟨.empty, Or.inr (ByteArray.empty_append)⟩

lemma Adds.accept {left : List ByteArray} (h : Adds b total [rest]) {n : Nat}
    (hsize : rest.size = n + sizes left) (hleft : ∀ part ∈ left, ∃ front, front ++ part = rest) :
    Adds (b.add { accepted := n }) total left where
  total := by rw [Books.add, List.append_nil, h.total]
  balance := by
    have hbalance := h.balance
    rw [sizes_singleton] at hbalance
    simp only [Books.add, List.append_nil]
    omega
  parts := by
    intro part hpart
    simp only [Books.add, List.append_nil, List.mem_append] at hpart ⊢
    rcases hpart with hrefused | hmem
    · exact h.parts part (List.mem_append_left _ hrefused)
    · obtain ⟨front, rfl⟩ := hleft part hmem
      obtain ⟨before, hbefore⟩ := h.parts _ (List.mem_append_right _ List.mem_cons_self)
      exact ⟨before ++ front, by rwa [ByteArray.append_assoc]⟩

lemma Adds.refuse (h : Adds b total [rest]) : Adds (b.add { refused := [rest] }) total [] where
  total := by rw [Books.add, List.append_nil, h.total]
  balance := by
    rw [Books.add, List.append_nil, Nat.add_zero, sizes_append, ← Nat.add_assoc, ← h.balance]
    rfl
  parts := by
    rw [Books.add, List.append_nil, List.append_nil]
    exact h.parts

lemma pending_conclude (c : Copy) (result : Except Fault Nat) : pending (c.conclude result).phase = [] := by
  rw [Copy.conclude]
  cases c.policy.ends result <;> rfl

lemma outcome?_conclude (c : Copy) (result : Except Fault Nat) :
    outcome? (c.conclude result).phase = some result := by
  rw [Copy.conclude]
  cases c.policy.ends result <;> rfl

lemma ok_of_closedResult {result : Except Fault Nat} {e : Except IoError Unit} {n : Nat}
    (h : closedResult result e = .ok n) : result = .ok n := by
  cases e with
  | ok => exact h
  | error e => cases result <;> cases h

lemma Balanced.refused_nil (h : Balanced b c) (hopen : outcome? c.phase = none) : b.refused = [] := by
  by_contra hrefused
  obtain ⟨f, hf⟩ := h.late hrefused
  rw [hopen] at hf
  cases hf

lemma Adds.fail (h : Adds b c.total []) (honce : b.refused.length ≤ 1) (f : Fault) :
    Balanced b (c.conclude (.error f)) where
  adds := by rwa [pending_conclude]
  once := honce
  late _ := ⟨f, outcome?_conclude c _⟩
  whole n hn := by
    rw [outcome?_conclude] at hn
    cases hn

lemma Adds.succeed (h : Adds b c.total []) (hrefused : b.refused = []) :
    Balanced b (c.conclude (.ok c.total)) where
  adds := by rwa [pending_conclude]
  once := by simp [hrefused]
  late hsome := absurd hrefused hsome
  whole n hn := by
    rw [outcome?_conclude] at hn
    cases hn
    rfl

lemma Adds.go_on (h : Adds b c.total (pending c.phase)) (hrefused : b.refused = [])
    (hopen : outcome? c.phase = none) : Balanced b c where
  adds := h
  once := by simp [hrefused]
  late hsome := absurd hrefused hsome
  whole n hn := by
    rw [hopen] at hn
    cases hn

lemma Adds.resume (h : Adds b c.total []) (hrefused : b.refused = []) : Balanced b c.resume := by
  rw [Copy.resume]
  split
  · exact h.succeed hrefused
  · exact Adds.go_on h hrefused rfl

lemma balanced_turns (h : Balanced b c) (ht : Turns c books d) : Balanced (b.add books) d := by
  -- Nothing has been refused as long as the copy is not over; this is what makes a refusal the only one.
  have hkeep : b.add {} = b := by simp [Books.add]
  have hadds {p : Phase} (hphase : c.phase = p) : Adds b c.total (pending p) := hphase ▸ h.adds
  have hnone {p : Phase} (hphase : c.phase = p) (hopen : outcome? p = none) : b.refused = [] :=
    h.refused_nil (hphase ▸ hopen)
  cases ht with
  | idle => rwa [hkeep]
  | ended hphase =>
    rw [hkeep]
    exact (hadds hphase).succeed (hnone hphase rfl)
  | fault f hphase =>
    rw [hkeep]
    exact (hadds hphase).fail h.once f
  | @hand chunk hphase =>
    apply Adds.go_on ((hadds hphase).hand chunk) _ rfl
    simp [Books.add, hnone hphase rfl]
  | @whole rest hphase =>
    apply Adds.resume ((hadds hphase).accept (by simp [sizes]) (by simp))
    simp [Books.add, hnone hphase rfl]
  | @part front left hphase =>
    have haccept : Adds (b.add { accepted := front.size }) c.total [left] :=
      (hadds hphase).accept (by simp [sizes]) (by simp)
    apply Adds.go_on (c := { c with phase := .writing left }) haccept _ rfl
    simp [Books.add, hnone hphase rfl]
  | @refusal rest f hphase =>
    apply (hadds hphase).refuse.fail
    simp [Books.add, hnone hphase rfl]
  | @close result e hphase =>
    rw [hkeep]
    have hclosing := hadds hphase
    refine ⟨hclosing, h.once, ?_, ?_⟩
    · intro hsome
      obtain ⟨f, hf⟩ := h.late hsome
      rw [hphase] at hf
      cases hf
      cases e <;> exact ⟨f, rfl⟩
    · intro n hn
      apply h.whole n
      rw [hphase, outcome?, ok_of_closedResult (Option.some.inj hn)]

lemma adds_nothing : Adds {} 0 [] := ⟨rfl, rfl, by simp⟩

lemma balanced_start {κ : Type} (policy : Policy) (ahead : ByteArray) (source : Source) (ended : Bool)
    (sink : κ) (m : Meter) :
    Balanced { handed := worthwhile ahead } (Transfer.start policy ahead source ended sink m).copy ∧
      (Transfer.start policy ahead source ended sink m).meter =
        m.opened.record (sizes (worthwhile ahead)) := by
  rw [Transfer.start, worthwhile]
  split
  · exact ⟨adds_nothing.resume rfl, (record_zero _).symm⟩
  · refine ⟨?_, by rw [sizes_singleton]⟩
    have hadds := adds_nothing.hand ahead
    rw [Nat.zero_add] at hadds
    apply Adds.go_on _ rfl rfl
    simpa [Books.add, Copy.beginWrite, pending] using hadds

lemma balanced_begins {ahead : ByteArray} (h : Begins m ahead copier) :
    Balanced { handed := worthwhile ahead } copier.copied ∧
      copier.meter = m.opened.record (sizes (worthwhile ahead)) := by
  cases h with
  | copy policy source ended sink => exact balanced_start policy ahead source ended sink m
  | body policy source ended => exact balanced_start _ ahead source ended _ m

lemma stirs_copied (h : Stirs copier later) : later.copied = copier.copied := by
  cases h <;> rfl

lemma lent_entry (traffic : Traffic) (leg : Option Leg) (copier : Copier) :
    (lent traffic leg copier).entry = copier.entry ∧ (lent traffic leg copier).copied = copier.copied := by
  cases leg <;> cases copier <;> exact ⟨rfl, rfl⟩

lemma lent_meter (traffic : Traffic) (l : Leg) (copier : Copier) :
    (lent traffic (some l) copier).meter = traffic.meter l := by
  cases copier <;> rfl

lemma settled_meter (traffic : Traffic) (leg : Option Leg) (copier : Copier) (l : Leg) :
    (settled traffic leg copier).meter l = if leg = some l then copier.meter else traffic.meter l := by
  cases leg with
  | none => simp [settled]
  | some k => simp [settled, Traffic.meter_modify, eq_comm]

def counted (m : Meter) (jobs : List Job) : Meter where
  pipes := m.pipes + jobs.length.toUInt64
  bytes := m.bytes + (sizes (jobs.flatMap (·.books.handed))).toUInt64

variable {front back jobs : List Job} {j : Job} {l : Leg}

lemma counted_begin (m : Meter) (jobs : List Job) (j : Job) :
    counted m (jobs ++ [j]) = (counted m jobs).opened.record (sizes j.books.handed) := by
  simp [counted, Meter.opened, Meter.record, sizes_append, UInt64.add_assoc]

lemma counted_step (m : Meter) (front back : List Job) (j : Job) (copier : Copier) (books : Books) :
    counted m (front ++ { j with copier, books := j.books.add books } :: back) =
      (counted m (front ++ j :: back)).record (sizes books.handed) := by
  have hhanded : sizes ((front ++ { j with copier, books := j.books.add books } :: back).flatMap
      (·.books.handed)) = sizes ((front ++ j :: back).flatMap (·.books.handed)) + sizes books.handed := by
    simp only [List.flatMap_append, List.flatMap_cons, sizes_append, Books.add]
    omega
  rw [counted, hhanded]
  simp [counted, Meter.record, UInt64.add_assoc]

lemma on_nil (l : Leg) : on l [] = [] := rfl

lemma on_append (l : Leg) (front back : List Job) : on l (front ++ back) = on l front ++ on l back :=
  List.filter_append ..

lemma on_cons (l : Leg) (j : Job) (jobs : List Job) :
    on l (j :: jobs) = if j.leg = some l then j :: on l jobs else on l jobs := by
  rw [on, List.filter_cons]
  simp only [decide_eq_true_eq]
  rfl

structure Accounts (traffic : Traffic) (x : Site) : Prop where
  balanced : ∀ j ∈ x.jobs, Balanced j.books j.copier.copied
  shown : ∀ l, x.traffic.meter l = counted (traffic.meter l) (on l x.jobs)

variable {traffic before : Traffic} {leg : Option Leg}

lemma accounts_begin {own : Meter} {ahead : ByteArray} (h : Accounts before ⟨traffic, jobs⟩)
    (hbegins : Begins (leg.elim own traffic.meter) ahead copier) : Accounts before
      ⟨settled traffic leg copier, jobs ++ [⟨leg, copier, { handed := worthwhile ahead }⟩]⟩ := by
  obtain ⟨hbalanced, hmeter⟩ := balanced_begins hbegins
  refine ⟨?_, ?_⟩
  · intro j hj
    rcases List.mem_append.mp hj with hold | hnew
    · exact h.balanced j hold
    · cases List.mem_singleton.mp hnew
      exact hbalanced
  · intro l
    have hshown := h.shown l
    simp only [on_append, on_cons, on_nil, settled_meter] at hshown ⊢
    split
    · next hleg =>
      subst hleg
      rw [hmeter, Option.elim_some, hshown]
      exact (counted_begin (before.meter l) (on l jobs)
        ⟨some l, copier, { handed := worthwhile ahead }⟩).symm
    · rw [List.append_nil]
      exact hshown

lemma balanced_replace {i j : Job} (h : ∀ k ∈ front ++ i :: back, Balanced k.books k.copier.copied)
    (hj : Balanced i.books i.copier.copied → Balanced j.books j.copier.copied) :
    ∀ k ∈ front ++ j :: back, Balanced k.books k.copier.copied := by
  obtain ⟨hfront, hrest⟩ := List.forall_mem_append.mp h
  obtain ⟨hi, hback⟩ := List.forall_mem_cons.mp hrest
  exact List.forall_mem_append.mpr ⟨hfront, List.forall_mem_cons.mpr ⟨hj hi, hback⟩⟩

lemma accounts_step (h : Accounts before ⟨traffic, front ++ j :: back⟩)
    (hstep : (lent traffic j.leg j.copier).step = some copier) : Accounts before
      ⟨settled traffic j.leg copier,
        front ++ { j with copier, books := j.books.add j.copier.entry } :: back⟩ := by
  obtain ⟨hturns, hmeter⟩ := turns_copier hstep
  obtain ⟨hentry, hcopied⟩ := lent_entry traffic j.leg j.copier
  rw [hentry] at hturns hmeter
  rw [hcopied] at hturns
  refine ⟨balanced_replace h.balanced fun hj => balanced_turns hj hturns, ?_⟩
  intro l
  have hshown := h.shown l
  simp only [on_append, on_cons, settled_meter] at hshown ⊢
  split
  · next hleg =>
    rw [if_pos hleg] at hshown
    rw [hleg, lent_meter, hshown] at hmeter
    rw [hmeter]
    exact (counted_step (before.meter l) (on l front) (on l back) j copier j.copier.entry).symm
  · next hleg =>
    rw [if_neg hleg] at hshown
    exact hshown

lemma accounts_stir (h : Accounts before ⟨traffic, front ++ j :: back⟩) (hstirs : Stirs j.copier copier) :
    Accounts before ⟨traffic, front ++ { j with copier } :: back⟩ := by
  refine ⟨balanced_replace h.balanced fun hj => ?_, ?_⟩
  · rw [stirs_copied hstirs]
    exact hj
  · intro l
    have hshown := h.shown l
    simp only [on_append, on_cons] at hshown ⊢
    rw [hshown]
    split <;> simp [counted]

lemma accounts_move (h : Accounts before x) (hmove : Move x y) : Accounts before y := by
  cases hmove with
  | begin leg own ahead hbegins => exact accounts_begin h hbegins
  | step front back hstep => exact accounts_step h hstep
  | stir front back hstirs => exact accounts_stir h hstirs

lemma accounts_moves (h : Moves ⟨traffic, []⟩ x) : Accounts traffic x := by
  induction h with
  | refl => exact ⟨by simp, fun l => by simp [counted, on, sizes]⟩
  | tail _ hmove ih => exact accounts_move ih hmove

lemma toNat_add_toUInt64 (a : UInt64) (n : Nat) : (a + n.toUInt64).toNat = (a.toNat + n) % 2 ^ 64 := by
  rw [UInt64.toNat_add, Nat.toUInt64_eq, UInt64.toNat_ofNat', Nat.add_mod_mod]

lemma closed_of_result? {result : Except Fault Nat} (hresult : c.result? = some result) :
    pending c.phase = [] ∧ outcome? c.phase = some result := by
  rw [Copy.result?] at hresult
  split at hresult
  · next hphase =>
    cases hresult
    rw [hphase]
    exact ⟨rfl, rfl⟩
  · cases hresult

lemma Balanced.finished (h : Balanced b c) {result : Except Fault Nat} (hresult : c.result? = some result) :
    sizes b.handed = b.accepted + sizes b.refused := by
  have hbalance := h.adds.balance
  rwa [(closed_of_result? hresult).1] at hbalance

lemma Balanced.succeeded (h : Balanced b c) {n : Nat} (hresult : c.result? = some (.ok n)) :
    n = sizes b.handed ∧ n = b.accepted ∧ b.refused = [] := by
  have houtcome := (closed_of_result? hresult).2
  have hrefused : b.refused = [] := by
    by_contra hsome
    obtain ⟨f, hf⟩ := h.late hsome
    rw [houtcome] at hf
    cases hf
  have htotal : n = sizes b.handed := (h.whole n houtcome).trans h.adds.total
  have hfinished := h.finished hresult
  rw [hrefused] at hfinished
  exact ⟨htotal, htotal.trans hfinished, hrefused⟩

lemma sum_of_succeeded (h : ∀ j ∈ jobs, Balanced j.books j.copier.copied) {totals : List Nat}
    (hresults : jobs.map (·.copier.result?) = totals.map fun n => some (.ok n)) :
    sizes (jobs.flatMap (·.books.handed)) = totals.sum := by
  induction jobs generalizing totals with
  | nil =>
    cases totals with
    | nil => rfl
    | cons n totals => cases hresults
  | cons j jobs ih =>
    cases totals with
    | nil => cases hresults
    | cons n totals =>
      obtain ⟨hj, hjobs⟩ := List.forall_mem_cons.mp h
      obtain ⟨hresult, hrest⟩ := List.cons.inj hresults
      rw [List.flatMap_cons, sizes_append, ih hjobs hrest, ← (hj.succeeded hresult).1, List.sum_cons]

lemma sum_of_finished (h : ∀ j ∈ jobs, Balanced j.books j.copier.copied)
    (hresults : ∀ j ∈ jobs, j.copier.result?.isSome = true) :
    sizes (jobs.flatMap (·.books.handed)) =
      (jobs.map (·.books.accepted)).sum + sizes (jobs.flatMap (·.books.refused)) := by
  induction jobs with
  | nil => rfl
  | cons j jobs ih =>
    obtain ⟨hj, hjobs⟩ := List.forall_mem_cons.mp h
    obtain ⟨hresult, hrest⟩ := List.forall_mem_cons.mp hresults
    obtain ⟨result, hresult⟩ := Option.isSome_iff_exists.mp hresult
    rw [List.flatMap_cons, sizes_append, ih hjobs hrest, hj.finished hresult, List.map_cons,
      List.sum_cons, List.flatMap_cons, sizes_append]
    omega

/-- A meter shows how many copies have begun and what they have handed over, both modulo 2⁶⁴. What is
handed over is what they return when all went well, and what was accepted and refused in any case. -/
theorem bytes_counted_once {traffic : Traffic} {x : Site} (h : Moves ⟨traffic, []⟩ x) :
    (∀ l,
      (x.traffic.meter l).pipes.toNat =
        ((traffic.meter l).pipes.toNat + (on l x.jobs).length) % 2 ^ 64 ∧
      (x.traffic.meter l).bytes.toNat =
        ((traffic.meter l).bytes.toNat + sizes ((on l x.jobs).flatMap (·.books.handed))) % 2 ^ 64 ∧
      (∀ totals : List Nat,
        (on l x.jobs).map (·.copier.result?) = totals.map (fun n => some (.ok n)) →
          (x.traffic.meter l).bytes.toNat = ((traffic.meter l).bytes.toNat + totals.sum) % 2 ^ 64) ∧
      ((∀ j ∈ on l x.jobs, j.copier.result?.isSome = true) →
        (x.traffic.meter l).bytes.toNat = ((traffic.meter l).bytes.toNat +
          (((on l x.jobs).map (·.books.accepted)).sum +
            sizes ((on l x.jobs).flatMap (·.books.refused)))) % 2 ^ 64) ∧
      (on l x.jobs = [] → x.traffic.meter l = traffic.meter l)) ∧
    ∀ j ∈ x.jobs,
      sizes j.books.handed =
        j.books.accepted + sizes j.books.refused + sizes (pending j.copier.copied.phase) ∧
      (∀ rest ∈ j.books.refused, ∃ front, front ++ rest ∈ j.books.handed) ∧
      j.books.refused.length ≤ 1 ∧
      ∀ n, j.copier.result? = some (.ok n) →
        n = sizes j.books.handed ∧ n = j.books.accepted ∧ j.books.refused = [] := by
  obtain ⟨hbalanced, hshown⟩ := accounts_moves h
  refine ⟨?_, ?_⟩
  · intro l
    have hon : ∀ j ∈ on l x.jobs, Balanced j.books j.copier.copied :=
      fun j hj => hbalanced j (List.mem_filter.mp hj).1
    have hbytes : (x.traffic.meter l).bytes.toNat =
        ((traffic.meter l).bytes.toNat + sizes ((on l x.jobs).flatMap (·.books.handed))) % 2 ^ 64 := by
      rw [hshown l]
      exact toNat_add_toUInt64 _ _
    refine ⟨?_, hbytes, ?_, ?_, ?_⟩
    · rw [hshown l]
      exact toNat_add_toUInt64 _ _
    · intro totals htotals
      rw [hbytes, sum_of_succeeded hon htotals]
    · intro hfinished
      rw [hbytes, sum_of_finished hon hfinished]
    · intro hnone
      rw [hshown l, hnone]
      simp [counted, sizes]
  · intro j hj
    have hbook := hbalanced j hj
    refine ⟨hbook.adds.balance, ?_, hbook.once, fun n hn => hbook.succeeded hn⟩
    exact fun rest hrest => hbook.adds.parts rest (List.mem_append_left _ hrest)

theorem bytes_counted_once_refusal : ∃ x, Moves ⟨{}, []⟩ x ∧
    (x.traffic.meter .httpUp).pipes.toNat = 2 ∧ (x.traffic.meter .httpUp).bytes.toNat = 3 + 2 ∧
    x.traffic.meter .httpDown = {} := by
  have hcopy : Moves ⟨{}, []⟩ _ := .single (.begin (some .httpUp) {} "ab".toUTF8
    (.copy ⟨false, false⟩ {} true ({ room := some 0 } : Outlet)))
  have hbody := hcopy.tail (.begin (some .httpUp) {} "xyz".toUTF8 (.body ⟨false, false⟩ {} true))
  have hrefused := hbody.tail (.step [] [_] rfl)
  have hmoves := hrefused.tail (.step [_] [] rfl)
  obtain ⟨hmeters, -⟩ := bytes_counted_once hmoves
  obtain ⟨hpipes, -, -, hbytes, -⟩ := hmeters .httpUp
  obtain ⟨-, -, -, -, hother⟩ := hmeters .httpDown
  exact ⟨_, hmoves, hpipes, hbytes (by decide), hother rfl⟩

end TwoHop.Proofs.Flow.Metering
