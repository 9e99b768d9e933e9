import TwoHop.Bytes
import TwoHop.Fault.Io

namespace TwoHop.Flow

inductive Offer
  | waits
  | took (count : Nat)
  | refused (error : IoError)
  deriving DecidableEq

class Sink (κ : Type) where
  offer : κ → ByteArray → Offer × κ
  flush : κ → Except IoError Unit × κ
  finish : κ → Except IoError Unit × κ

inductive Written
  | waits
  | all
  | more (rest : ByteArray)
  | failed (error : IoError)
  deriving DecidableEq

/-- A sink that takes no byte of several would be offered them for ever. -/
def tookNothing : IoError := .ofKind .writeZero

def Written.ofOffer (rest : ByteArray) : Offer → Written
  | .waits => .waits
  | .refused e => .failed e
  | .took n =>
    if rest.size ≤ n then .all
    else if n = 0 then .failed tookNothing
    else .more (rest.extract n rest.size)

theorem Written.size_lt_of_ofOffer {rest left : ByteArray} {o : Offer}
    (h : Written.ofOffer rest o = .more left) : left.size < rest.size := by
  cases o with
  | waits => simp [ofOffer] at h
  | refused e => simp [ofOffer] at h
  | took n =>
    simp only [ofOffer] at h
    split at h
    · simp at h
    · split at h
      · simp at h
      · simp only [Written.more.injEq] at h
        subst h
        simp only [ByteArray.size_extract]
        omega

def Sink.write {κ : Type} [Sink κ] (k : κ) (rest : ByteArray) : Written × κ :=
  let (o, k) := Sink.offer k rest
  (.ofOffer rest o, k)

theorem Sink.size_lt_of_write {κ : Type} [Sink κ] {k l : κ} {rest left : ByteArray}
    (h : Sink.write k rest = (.more left, l)) : left.size < rest.size :=
  Written.size_lt_of_ofOffer (congrArg Prod.fst h)

end TwoHop.Flow
