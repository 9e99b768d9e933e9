import TwoHop.Envelope.Message
import TwoHop.Status
import TwoHop.Flow.Relay
import TwoHop.Text.Blank

namespace TwoHop

open TwoHop.Flow

structure Reply where
  status : Status
  phrase : Option String := none
  headers : Header.Map := .empty
  body : Body := .empty

namespace Reply

def plainText : String := "text/plain; charset=utf-8"

def ofText (status : Status) (message : String) : Reply :=
  if message.isEmpty then { status }
  else {
    status
    headers := Header.Map.empty.set "content-type" plainText.toUTF8
    body := .whole message.toUTF8 }

def ofFault (f : Fault) : Reply := ofText f.status f.detail

end Reply

def maxLength : Nat := 18446744073709551615

def announcedLength (headers : Header.Map) : Option Nat :=
  if headers.contains "transfer-encoding" then none
  else if headers.contains "content-length" then do
    Text.decimal? maxLength (Text.trimList (← headers.text? "content-length").toList)
  else some 0

def isBodyless (method : Method) (status : Status) : Bool :=
  method == .head || status.isInformational || status.code == 204 || status.code == 304

def Bodyless (method : Method) (status : Status) : Prop :=
  method = .head ∨ (100 ≤ status.code ∧ status.code < 200) ∨ status.code = 204 ∨ status.code = 304

instance (method : Method) (status : Status) : Decidable (Bodyless method status) :=
  inferInstanceAs (Decidable (_ ∨ _))

theorem isBodyless_iff {method : Method} {status : Status} :
    isBodyless method status = true ↔ Bodyless method status := by
  have hleast : 100 ≤ status.code := UInt16.le_iff_toNat_le.2 status.legal.1
  have hinformational : status.isInformational = true ↔ 100 ≤ status.code ∧ status.code < 200 := by
    rw [Status.isInformational, decide_eq_true_iff, and_iff_right hleast, UInt16.lt_iff_toNat_lt]
    rfl
  simp only [isBodyless, Bodyless, Bool.or_eq_true, beq_iff_eq, hinformational, or_assoc]

end TwoHop
