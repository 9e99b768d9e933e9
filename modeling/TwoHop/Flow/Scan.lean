import TwoHop.Frame.Scanner
import TwoHop.Flow.Handover

/-! A scan reads one frame off a source. It asks for no more than the stage at hand still needs. -/

namespace TwoHop.Flow

structure Scan where
  scanner : Frame.Scanner := .fresh
  source : Source

inductive ScanResult
  | found (body : ByteArray) (rest : Handover)
  | failed (fault : Fault) (source : Source)
  | waits (scan : Scan)

namespace Scan

def step (s : Scan) : ScanResult ⊕ Scan :=
  match s.source.pull s.scanner.wanted with
  | (.waits, _) => .inl (.waits s)
  | (.ended, source) => .inl (.failed s.scanner.prematureEnd.1 source)
  | (.fault e, source) => .inl (.failed (.io e) source)
  | (.chunk b, source) =>
    match s.scanner.push b with
    | (.error f, _) => .inl (.failed (.frame f) source)
    | (.ok (some found), _) => .inl (.found found.body (.make found.remaining source))
    | (.ok none, scanner) => .inr ⟨scanner, source⟩

theorem weight_step {s t : Scan} (h : s.step = .inr t) : t.source.weight < s.source.weight := by
  revert h
  unfold step
  split
  · simp
  · simp
  · simp
  · rename_i hs
    have := Source.weight_pull hs
    split
    · simp
    · simp
    · rintro ⟨⟩
      exact this.1

def run (s : Scan) : ScanResult :=
  match _ : s.step with
  | .inl r => r
  | .inr t => run t
termination_by s.source.weight
decreasing_by exact weight_step ‹_›

end Scan

def scan (source : Source) : ScanResult := Scan.run { source }

end TwoHop.Flow
