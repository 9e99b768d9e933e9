import TwoHop.Proofs.Flow.Intake
import TwoHop.Proofs.Flow.Scanning

namespace TwoHop.Proofs.Flow.Hearing

open TwoHop.Frame TwoHop.Flow
open Scanner.Heading Scanner.Fragmentation Content Scanning Intake
open Proofs.Bytes

def Hears (source : Source) (s : Scan) (seen : ByteArray) : Prop :=
  Holds s seen ∧ Becomes source s.source ∧ join (heard source s.source) = seen

def Found (source : Source) (body : ByteArray) (h : Handover) : Prop :=
  ∃ remaining after, h = .make remaining after ∧ Becomes source after ∧
    join (heard source after) = framed body ++ remaining

def Heard (source : Source) : ScanResult ⊕ Scan → Prop
  | .inr t => ∃ seen, Hears source t seen
  | .inl (.found body h) => Found source body h
  | .inl _ => True

variable {source : Source}

lemma heard_step {s : Scan} {seen : ByteArray} (h : Hears source s seen) : Heard source s.step := by
  obtain ⟨scanner, now⟩ := s
  obtain ⟨⟨rfl, hv⟩, hbecomes, hseen⟩ := h
  dsimp only at hbecomes hseen
  have hafter := becomes_pull hbecomes (holding seen).wanted
  have hheard := heard_pull hbecomes (holding seen).wanted
  simp only [Scan.step]
  generalize now.pull (holding seen).wanted = pulled at hafter hheard ⊢
  obtain ⟨answer, after⟩ := pulled
  cases answer with
  | waits | ended | fault _ => trivial
  | chunk b =>
    have hbytes : join (heard source after) = seen ++ b := by
      rw [show heard source after = _ from hheard, chunkOf, join_concat, hseen]
    dsimp only
    rw [push_holding b hv]
    cases hc : verdict (seen ++ b) with
    | none => exact ⟨seen ++ b, ⟨rfl, hc⟩, hafter, hbytes⟩
    | some o =>
      cases o with
      | error e => trivial
      | ok f => exact ⟨f.remaining, after, rfl, hafter, hbytes.trans (frame_of_verdict hc).2⟩

lemma found_run {s : Scan} {seen body : ByteArray} {h : Handover} (hs : Hears source s seen)
    (hrun : s.run = .found body h) : Found source body h := by
  induction s using Scan.run.induct generalizing seen with
  | case1 s r hr =>
    have hstep := heard_step hs
    rw [run_of_inl hr] at hrun
    rwa [hr, hrun] at hstep
  | case2 s t ht ih =>
    have hstep := heard_step hs
    rw [ht] at hstep
    obtain ⟨seen', hs'⟩ := hstep
    rw [run_of_inr ht] at hrun
    exact ih hs' hrun

lemma heard_of_scan {body remaining : ByteArray} {after : Source}
    (h : scan source = .found body (.make remaining after)) : Becomes source after ∧
      join (heard source after) = framed body ++ remaining := by
  have hstart : Hears source { source } .empty :=
    ⟨⟨rfl, verdict_empty⟩, becomes_refl source, by rw [heard_refl, join_nil]⟩
  obtain ⟨remaining', after', hmake, hbecomes, hheard⟩ := found_run hstart h
  simp only [Handover.make, Handover.mk.injEq, Option.some.injEq, Parts.mk.injEq, true_and] at hmake
  obtain ⟨⟨rfl, rfl, -⟩, -⟩ := hmake
  exact ⟨hbecomes, hheard⟩

lemma verdict_framed {body : ByteArray} (rest : ByteArray) (h : Legal body.size) :
    verdict (framed body ++ rest) = some (.ok ⟨body, rest⟩) := verdict_frame rest h

lemma framed_unique {α ε : Type} {decode : ByteArray → Except ε α} {bytes rest rest' : ByteArray}
    {v v' : α} (h : ∃ frame, Legal frame.size ∧ bytes = framed frame ++ rest ∧ decode frame = .ok v)
    (h' : ∃ frame, Legal frame.size ∧ bytes = framed frame ++ rest' ∧ decode frame = .ok v') :
    v = v' ∧ rest = rest' := by
  obtain ⟨frame, hl, rfl, hd⟩ := h
  obtain ⟨frame', hl', hbytes, hd'⟩ := h'
  have hv := verdict_framed rest hl
  rw [hbytes, verdict_framed rest' hl'] at hv
  cases hv
  rw [hd] at hd'
  cases hd'
  exact ⟨rfl, rfl⟩

lemma scan_framed {body rest : ByteArray} {ending : Ending}
    (hg : Gives source (framed body ++ rest) ending) (hl : Legal body.size) :
    ∃ remaining after, scan source = .found body (.make remaining after) ∧
      Becomes source after ∧ join (heard source after) = framed body ++ remaining := by
  have hv : verdict (outlook source).1 = some (.ok ⟨body, rest⟩) := by
    rw [outlook_of_gives hg]
    exact verdict_framed rest hl
  obtain ⟨remaining, after, hs, -⟩ := scan_of_verdict hv
  exact ⟨remaining, after, hs, heard_of_scan hs⟩

end TwoHop.Proofs.Flow.Hearing
