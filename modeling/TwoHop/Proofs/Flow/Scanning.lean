import TwoHop.Flow.Scan
import TwoHop.Proofs.Flow.Content
import TwoHop.Proofs.Scanner.Fragmentation

namespace TwoHop.Proofs.Flow.Scanning

open TwoHop.Frame TwoHop.Flow
open Content Scanner.Fragmentation

def Explained (total : ByteArray × Ending) : ScanResult → Prop
  | .found body h => ∃ remaining source, h = .make remaining source ∧
      verdict total.1 = some (.ok ⟨body, remaining ++ (outlook source).1⟩) ∧
      (outlook source).2 = total.2
  | .failed f _ =>
    (∃ e, verdict total.1 = some (.error e) ∧ f = .frame e) ∨
    (verdict total.1 = none ∧
      ((total.2 = .clean ∧ f = .prematureEnd total.1.size (holding total.1).expected) ∨
        ∃ e, total.2 = .fault e ∧ f = .io e))
  | .waits _ => verdict total.1 = none ∧ total.2 = .silent

def Holds (s : Scan) (seen : ByteArray) : Prop := s.scanner = holding seen ∧ verdict seen = none

def total (s : Scan) (seen : ByteArray) : ByteArray × Ending :=
  (seen ++ (outlook s.source).1, (outlook s.source).2)

def Follows (before : ByteArray × Ending) : ScanResult ⊕ Scan → Prop
  | .inl r => Explained before r
  | .inr t => ∃ seen, Holds t seen ∧ total t seen = before

lemma follows_step {s : Scan} {seen : ByteArray} (h : Holds s seen) :
    Follows (total s seen) s.step := by
  obtain ⟨scanner, source⟩ := s
  obtain ⟨rfl, hv⟩ := h
  have hp := pulled_pull source (holding seen).wanted
  simp only [Scan.step, total]
  generalize source.pull (holding seen).wanted = pulled at hp ⊢
  obtain ⟨answer, source'⟩ := pulled
  cases answer with
  | waits =>
    simp only [Pulled] at hp
    simp [Follows, Explained, hp, hv]
  | ended =>
    simp only [Pulled] at hp
    simp [Follows, Explained, hp, hv, Scanner.prematureEnd, holding]
  | fault e =>
    simp only [Pulled] at hp
    simp [Follows, Explained, hp, hv]
  | chunk b =>
    simp only [Pulled] at hp
    rw [hp]
    dsimp only
    rw [push_holding b hv, ← ByteArray.append_assoc]
    cases hc : verdict (seen ++ b) with
    | none => exact ⟨seen ++ b, ⟨rfl, hc⟩, rfl⟩
    | some o =>
      cases o with
      | error e => exact Or.inl ⟨e, verdict_append_error _ hc, rfl⟩
      | ok f => exact ⟨f.remaining, source', rfl, verdict_append_ok _ hc, rfl⟩

lemma run_of_inl {s : Scan} {r : ScanResult} (h : s.step = .inl r) : s.run = r := by
  rw [Scan.run]
  split <;> simp_all

lemma run_of_inr {s t : Scan} (h : s.step = .inr t) : s.run = t.run := by
  rw [Scan.run]
  split <;> simp_all

lemma explained_run {s : Scan} {seen : ByteArray} (h : Holds s seen) :
    Explained (total s seen) s.run := by
  induction s using Scan.run.induct generalizing seen with
  | case1 s r hr =>
    have hs := follows_step h
    rw [hr] at hs
    rw [run_of_inl hr]
    exact hs
  | case2 s t ht ih =>
    have hs := follows_step h
    rw [ht] at hs
    obtain ⟨seen', hh, he⟩ := hs
    rw [run_of_inr ht, ← he]
    exact ih hh

lemma explained_scan (source : Source) : Explained (outlook source) (scan source) := by
  have h : Holds { source } .empty := ⟨rfl, verdict_empty⟩
  have ht : total { source } .empty = outlook source := by simp [total]
  rw [← ht]
  exact explained_run h

lemma scan_of_verdict {source : Source} {f : Scanned}
    (h : verdict (outlook source).1 = some (.ok f)) : ∃ remaining after,
      scan source = .found f.body (.make remaining after) ∧
      f.remaining = remaining ++ (outlook after).1 ∧ (outlook after).2 = (outlook source).2 := by
  have he := explained_scan source
  generalize scan source = result at he ⊢
  cases result with
  | found body rest =>
    obtain ⟨remaining, after, rfl, hv, hend⟩ := he
    rw [h] at hv
    cases hv
    exact ⟨remaining, after, rfl, rfl, hend⟩
  | failed fault after =>
    rcases he with ⟨e, hv, -⟩ | ⟨hv, -⟩
    · rw [h] at hv
      cases hv
    · rw [h] at hv
      cases hv
  | waits s =>
    obtain ⟨hv, -⟩ := he
    rw [h] at hv
    cases hv

end TwoHop.Proofs.Flow.Scanning
