import TwoHop.Proofs.Flow.Conservation
import TwoHop.Proofs.Flow.Intake

/-! A relayed body and its reader, who take turns in any order: the reader holds the front of what
was to be relayed, and is told of the end only when it holds all of it. -/

namespace TwoHop.Proofs.Flow.Reading

open TwoHop.Flow
open Content Delivery Relaying Conservation Intake
open Proofs.Bytes

inductive Turn
  | feed
  | read
  deriving DecidableEq

structure Session where
  relay : Relay
  held : List ByteArray := []
  stop : Option Ending := none

namespace Session

def feed (x : Session) : Session := { x with relay := x.relay.feed.getD x.relay }

def read (x : Session) : Session :=
  match x.relay.read with
  | (.chunk b, r) => { x with relay := r, held := x.held ++ [b] }
  | (.fault e, r) => { x with relay := r, stop := some (.fault e) }
  | (.ended, r) => { x with relay := r, stop := some .clean }
  | (.waits, r) => { x with relay := r }

def turn (x : Session) : Turn → Session
  | .feed => x.feed
  | .read => if x.stop.isSome then x else x.read

def run (x : Session) (turns : List Turn) : Session := turns.foldl turn x

def weight (x : Session) : Nat := x.relay.weight

end Session

inductive Tells : Read → Ending → Prop
  | ended : Tells .ended .clean
  | fault (e : IoError) : Tells (.fault e) (.fault e)

def Follows (r : Relay) (x : Session) : Prop :=
  match x.stop with
  | none => Reads r x.held x.relay
  | some e => ∃ s, Reads r x.held s ∧ Tells s.read.1 e

variable {r : Relay} {x : Session}

lemma read_waits {r s : Relay} (h : r.read = (.waits, s)) : s = r := by
  obtain ⟨⟨copy, source, ⟨capacity, items, sender, reader, hpos⟩, meter⟩, feeding⟩ := r
  simp only [Relay.read, Relay.queue, Queue.read] at h
  split at h
  · simp at h
  · simp at h
  · simp only [Prod.mk.injEq] at h
    exact h.2.symm

lemma follows_start (r : Relay) : Follows r { relay := r } := Reads.start r

lemma follows_turn (h : Follows r x) (t : Turn) : Follows r (x.turn t) := by
  obtain ⟨now, held, stop⟩ := x
  cases stop with
  | some e => cases t <;> exact h
  | none =>
    have hreads : Reads r held now := h
    cases t with
    | feed =>
      show Reads r held (now.feed.getD now)
      cases hf : now.feed with
      | none => exact hreads
      | some s => exact hreads.feed hf
    | read =>
      simp only [Session.turn, Session.read, Option.isSome_none, Bool.false_eq_true, if_false]
      split
      · next b s hread => exact hreads.chunk hread
      · next e s hread => exact ⟨now, hreads, by rw [hread]; exact .fault e⟩
      · next s hread => exact ⟨now, hreads, by rw [hread]; exact .ended⟩
      · next s hread =>
        rw [read_waits hread]
        exact hreads

lemma follows_run (h : Follows r x) (turns : List Turn) : Follows r (x.run turns) := by
  induction turns generalizing x with
  | nil => exact h
  | cons t turns ih => exact ih (follows_turn h t)

lemma turn_cases (x : Session) (t : Turn) :
    x.turn t = x ∨ (x.turn t).stop.isSome ∨ (x.turn t).weight < x.weight := by
  cases t with
  | feed =>
    cases hf : x.relay.feed with
    | none => exact Or.inl (by simp [Session.turn, Session.feed, hf])
    | some s =>
      have hlt := Relay.weight_feed hf
      exact Or.inr (Or.inr (by simpa [Session.turn, Session.feed, Session.weight, hf] using hlt))
  | read =>
    by_cases hstop : x.stop.isSome = true
    · exact Or.inl (if_pos hstop)
    · rw [Session.turn, if_neg hstop, Session.read]
      split
      · next b s hread => exact Or.inr (Or.inr (Relay.weight_read hread))
      · exact Or.inr (Or.inl rfl)
      · exact Or.inr (Or.inl rfl)
      · next s hread =>
        rw [read_waits hread]
        exact Or.inl rfl

lemma stop_turn {e : Ending} (h : x.stop = some e) (t : Turn) : (x.turn t).stop = some e := by
  cases t with
  | feed => exact h
  | read => simp [Session.turn, h]

lemma stop_run {e : Ending} (h : x.stop = some e) (turns : List Turn) :
    (x.run turns).stop = some e := by
  induction turns generalizing x with
  | nil => exact h
  | cons t turns ih => exact ih (stop_turn h t)

lemma run_cases (x : Session) (turns : List Turn) :
    (x.run turns = x ∧ ∀ t ∈ turns, x.turn t = x) ∨ (x.run turns).stop.isSome ∨
      (x.run turns).weight < x.weight := by
  induction turns generalizing x with
  | nil => exact Or.inl ⟨rfl, by simp⟩
  | cons t turns ih =>
    show (Session.run (x.turn t) turns = x ∧ _) ∨ (Session.run (x.turn t) turns).stop.isSome ∨
      (Session.run (x.turn t) turns).weight < x.weight
    rcases turn_cases x t with hsame | hstop | hless
    · rw [hsame]
      rcases ih x with ⟨hrun, hall⟩ | hrest
      · exact Or.inl ⟨hrun, by simpa [hsame] using hall⟩
      · exact Or.inr hrest
    · obtain ⟨e, he⟩ := Option.isSome_iff_exists.mp hstop
      exact Or.inr (Or.inl (by rw [stop_run he]; rfl))
    · rcases ih (x.turn t) with ⟨hrun, -⟩ | hstop | hless'
      · exact Or.inr (Or.inr (by rwa [hrun]))
      · exact Or.inr (Or.inl hstop)
      · exact Or.inr (Or.inr (Nat.lt_trans hless' hless))

lemma silent_of_idle (hr : InStep x.relay) (hstop : x.stop = none) (hfeed : x.turn .feed = x)
    (hread : x.turn .read = x) : (promise x.relay).2 = .silent := by
  have hstuck : x.relay.feed = none := by
    cases hf : x.relay.feed with
    | none => rfl
    | some s =>
      have hlt := Relay.weight_feed hf
      have hsame : s = x.relay := by simpa [Session.turn, Session.feed, hf] using congrArg Session.relay hfeed
      rw [hsame] at hlt
      exact absurd hlt (Nat.lt_irrefl _)
  have ha := answered_read hr
  rw [Session.turn, hstop, if_neg (by simp), Session.read] at hread
  split at hread
  · have hheld := congrArg Session.held hread
    simp at hheld
  · have hend := congrArg Session.stop hread
    simp [hstop] at hend
  · have hend := congrArg Session.stop hread
    simp [hstop] at hend
  · next s hs =>
    rw [hs] at ha
    rw [show promise x.relay = _ from ha hstuck]

lemma progress (hr : InStep r) (hends : (promise r).2 ≠ .silent) (h : Follows r x)
    {turns : List Turn} (hfeed : .feed ∈ turns) (hread : .read ∈ turns) :
    (x.run turns).stop.isSome ∨ (x.run turns).weight < x.weight := by
  rcases run_cases x turns with ⟨hsame, hidle⟩ | hrest
  · cases hstop : x.stop with
    | some e => exact Or.inl (by rw [stop_run hstop]; rfl)
    | none =>
      rw [Follows, hstop] at h
      obtain ⟨hnow, hpromise⟩ := promise_reads hr h
      have hsilent := silent_of_idle hnow hstop (hidle _ hfeed) (hidle _ hread)
      rw [hpromise] at hends
      exact absurd hsilent hends
  · exact hrest

lemma stop_of_rounds (hr : InStep r) (hends : (promise r).2 ≠ .silent) (h : Follows r x)
    {rounds : List (List Turn)} (hmany : x.weight < rounds.length)
    (hboth : ∀ round ∈ rounds, .feed ∈ round ∧ .read ∈ round) :
    (x.run rounds.flatten).stop.isSome := by
  induction rounds generalizing x with
  | nil => exact absurd hmany (Nat.not_lt_zero _)
  | cons round rounds ih =>
    rw [List.flatten_cons, Session.run, List.foldl_append]
    obtain ⟨hfeed, hread⟩ := hboth round List.mem_cons_self
    rcases progress hr hends h hfeed hread with hstop | hless
    · obtain ⟨e, he⟩ := Option.isSome_iff_exists.mp hstop
      exact Option.isSome_iff_exists.mpr ⟨e, stop_run he rounds.flatten⟩
    · apply ih (follows_run h round)
      · rw [List.length_cons] at hmany
        exact Nat.lt_of_lt_of_le hless (Nat.le_of_lt_succ hmany)
      · exact fun round hround => hboth round (List.mem_cons_of_mem _ hround)

def toldOf : Ending → Ending
  | .fault e => .fault ⟨.other, (Fault.io e).text, []⟩
  | other => other

lemma promise_of_start (policy : Policy) (ahead : ByteArray) {source : Source} (ended : Bool)
    (meter : Meter) {bytes : ByteArray} {ending : Ending} (hg : Gives source bytes ending) :
    promise (.start policy ahead source ended meter) =
      if ended then (ahead, .clean) else (ahead ++ bytes, toldOf ending) := by
  rw [promise_start, toCopy, outlook_of_gives hg]
  cases ended with
  | true => rfl
  | false => cases ending <;> rfl

lemma told {e : Ending} (hr : InStep r) (h : Follows r x) (hstop : x.stop = some e) :
    promise r = (join x.held, e) := by
  rw [Follows, hstop] at h
  obtain ⟨s, hreads, htells⟩ := h
  obtain ⟨hs, hpromise⟩ := promise_reads hr hreads
  have ha := answered_read hs
  generalize s.read = answer at ha htells
  obtain ⟨answer, t⟩ := answer
  cases htells with
  | ended | fault e =>
    rw [hpromise, show promise s = _ from ha, ByteArray.append_empty]

lemma begins_held (hr : InStep r) (h : Follows r x) : Begins (promise r).1 (join x.held) := by
  cases hstop : x.stop with
  | some e =>
    rw [told hr h hstop]
    exact begins_refl _
  | none =>
    rw [Follows, hstop] at h
    rw [(promise_reads hr h).2]
    exact begins_append _ _

end TwoHop.Proofs.Flow.Reading
