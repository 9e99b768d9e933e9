import TwoHop.Agent.Exchange
import TwoHop.Proofs.Flow.Conservation
import TwoHop.Proofs.Flow.Hearing

/-! A body on its way to the other agent: what is read off it on one side arrives on the other, cut
anywhere, and is handed on there without its frame. -/

namespace TwoHop.Proofs.Flow.Transport

open TwoHop.Frame TwoHop.Flow
open Scanner.Heading Content Delivery Relaying Scanning Conservation Hearing
open Proofs.Bytes

inductive Alike : Ending → Ending → Prop
  | clean : Alike .clean .clean
  | fault (e f : IoError) : Alike (.fault e) (.fault f)
  | silent : Alike .silent .silent

lemma Alike.refl (e : Ending) : Alike e e := by
  cases e with
  | clean => exact .clean
  | fault e => exact .fault e e
  | silent => exact .silent

lemma Alike.trans {e f g : Ending} (h : Alike e f) (h' : Alike f g) : Alike e g := by
  cases h with
  | clean => exact h'
  | fault e f =>
    cases h' with
    | fault _ g => exact .fault e g
  | silent => exact h'

def closing : Ending → List Item
  | .clean => []
  | .fault e => [.fault e]
  | .silent => [.silence]

def sent (length : Option UInt64) (payload : ByteArray × Ending) : ByteArray × Ending :=
  if length = some 0 then (.empty, .clean) else payload

lemma carries_whole (b : ByteArray) : Carries (.whole b) b .clean where
  bytes := by
    rw [Body.contents]
    by_cases hb : b.isEmpty = true
    · rw [if_pos hb, eq_empty_of_isEmpty hb]
      rfl
    · rw [if_neg hb]
      exact ByteArray.append_empty
  fault := rfl
  steps := by
    rintro r ⟨⟩

lemma carries_framedBody {payload : Source} {bytes : ByteArray} {ending : Ending}
    (hg : Gives payload bytes ending) (frame : ByteArray) (length : Option UInt64) :
    Carries (framedBody frame length payload) (frame ++ (sent length (bytes, ending)).1)
      (sent length (bytes, ending)).2 := by
  rw [framedBody, sent]
  by_cases hl : length = some 0
  · rw [if_pos hl, if_pos hl, ByteArray.append_empty]
    exact carries_whole frame
  · rw [if_neg hl, if_neg hl]
    apply carries_relayed (inStep_start _ _ _ _ _)
    rw [promise_start, toCopy, if_neg (by simp), outlook_of_gives hg, shown_reading]

end TwoHop.Proofs.Flow.Transport
