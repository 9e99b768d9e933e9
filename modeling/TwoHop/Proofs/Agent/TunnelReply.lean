import TwoHop.Proofs.Agent.Chain

namespace TwoHop.Proofs.Agent.TunnelReply

open TwoHop.Frame TwoHop.Flow
open Flow.Content Flow.Intake Flow.Hearing
open Scanner.Heading Proofs.Bytes
open Wire.RoundTrip (decode_of_legal)
open Chain (Fresh verdict_of_decoded verdict_of_gives ask_of_verdict handleConnect_of_ask gives_two
  nearAgent towards nonce16 legal_asking)

def IsSuccess (s : Status) : Prop := 200 ≤ s.code.toNat ∧ s.code.toNat < 300

instance (s : Status) : Decidable (IsSuccess s) := inferInstanceAs (Decidable (_ ∧ _))

structure Tells (v : Verdict) (l : Outlet) (parts : Parts) (served : LocalAgent.TunnelServed)
    (reply : Reply) : Prop where
  replied : served.fate = .replied reply
  accepted : v.code = 200 → served.opened = some (l, parts) ∧ reply = { status := .ok }
  refused : v.code ≠ 200 → served.opened = none ∧
    reply.status.code = (if 100 ≤ v.code.toNat ∧ v.code.toNat ≤ 999 then v.code else 502) ∧
    reply.body = .whole (v.message.getD "").toUTF8
  misled : (IsSuccess reply.status ∧ served.opened = none) ↔
    201 ≤ v.code.toNat ∧ v.code.toNat < 300

variable {a : LocalAgent} {r : Browsed} {t : Target} {now : Int64} {nonce : ByteArray}
  {dial : String → Dial} {v : Verdict}

lemma body_ofText (status : Status) (message : String) :
    (Reply.ofText status message).body = .whole message.toUTF8 := by
  rw [Reply.ofText]
  split
  · next hempty =>
    rw [String.isEmpty_iff.mp hempty]
    rfl
  · rfl

lemma status_ofText (status : Status) (message : String) :
    (Reply.ofText status message).status = status := by
  rw [Reply.ofText]
  split <;> rfl

lemma code_refusal (v : Verdict) : (LocalAgent.refusal v).status.code =
    if 100 ≤ v.code.toNat ∧ v.code.toNat ≤ 999 then v.code else 502 := by
  rw [LocalAgent.refusal, status_ofText, Status.ofCode?]
  split <;> rfl

lemma not_isSuccess_ofFault (f : Fault) : ¬ IsSuccess (Reply.ofFault f).status := by
  rw [Reply.ofFault, status_ofText]
  unfold Fault.status
  split <;> decide

lemma isOk_iff (v : Verdict) : v.isOk = true ↔ v.code = 200 := beq_iff_eq

lemma isSuccess_refusal (hother : v.code ≠ 200) :
    IsSuccess (LocalAgent.refusal v).status ↔ 201 ≤ v.code.toNat ∧ v.code.toNat < 300 := by
  have hcode : v.code.toNat ≠ 200 := fun h => hother (UInt16.toNat_inj.mp h)
  rw [IsSuccess, code_refusal]
  split
  · omega
  · have hgateway : (502 : UInt16).toNat = 502 := rfl
    omega

lemma tells_of_ask {l : Outlet} {parts : Parts}
    (htarget : Destination.tunnelTarget? r.uri r.headers = some t)
    (hask : a.ask (a.tunnelRequest now nonce r t) dial = .ok (v, l, parts)) :
    ∃ reply, Tells v l parts (a.handleConnect now nonce r dial) reply := by
  have hserved := handleConnect_of_ask htarget hask
  by_cases hok : v.code = 200
  · rw [if_pos ((isOk_iff v).mpr hok)] at hserved
    rw [hserved]
    exact ⟨{ status := .ok }, {
      replied := rfl
      accepted := fun _ => ⟨rfl, rfl⟩
      refused := fun hother => absurd hok hother
      misled := by simp [hok] }⟩
  · rw [if_neg (by rwa [isOk_iff])] at hserved
    rw [hserved]
    exact ⟨LocalAgent.refusal v, {
      replied := rfl
      accepted := fun h => absurd h hok
      refused := fun _ => ⟨rfl, code_refusal v, body_ofText _ _⟩
      misled := (and_iff_left rfl).trans (isSuccess_refusal hok) }⟩

theorem tunnel_reply (htarget : Destination.tunnelTarget? r.uri r.headers = some t) (a : LocalAgent)
    (now : Int64) (nonce : ByteArray) (dial : String → Dial) :
    let request := a.tunnelRequest now nonce r t
    let served := a.handleConnect now nonce r dial
    (∀ v l parts, a.ask request dial = .ok (v, l, parts) → ∃ reply, Tells v l parts served reply) ∧
    (∀ halt, a.ask request dial = .error halt → served.opened = none ∧
      ∀ reply, served.fate = .replied reply → ¬ IsSuccess reply.status) ∧
    ∀ back k body v more ending, a.dialRemote dial = .ok ⟨back, k⟩ → Fresh k →
      Legal request.encode.size → Legal body.size → Verdict.decode body = .ok v →
      Gives back (framed body ++ more) ending → ∃ l parts, a.ask request dial = .ok (v, l, parts) ∧
        l.data = framed request.encode ∧ Becomes back parts.source ∧
        join (heard back parts.source) = framed body ++ parts.remaining := by
  intro request served
  refine ⟨fun v l parts hask => tells_of_ask htarget hask, ?_, ?_⟩
  · intro halt hask
    have hserved : served = { fate := .ofExcept (.error halt), asked := some request } := by
      show a.handleConnect now nonce r dial = _
      rw [LocalAgent.handleConnect, htarget]
      dsimp only
      rw [hask]
    rw [hserved]
    refine ⟨rfl, ?_⟩
    intro reply hreply
    cases halt with
    | fault f =>
      cases hreply
      exact not_isSuccess_ofFault f
    | crash c | silence => cases hreply
  · intro back k body v more ending hdial hk hfits hl hd hg
    obtain ⟨parts, hverdict, hbecomes, hheard⟩ := verdict_of_decoded a hg hl hd
    obtain ⟨l, hask, hdata⟩ := ask_of_verdict hdial hk hfits hverdict
    exact ⟨l, parts, hask, hdata, hbecomes, hheard⟩

def saying (v : Verdict) : Source := { items := [.data (framed v.encode), .data .empty] }

def told (v : Verdict) : LocalAgent.TunnelServed :=
  nearAgent.handleConnect 0 nonce16 towards fun _ => .connected { source := saying v }

lemma targets : Destination.tunnelTarget? towards.uri towards.headers = some ⟨"db", 22⟩ := by decide

lemma dials (source : Source) :
    nearAgent.dialRemote (fun _ => .connected { source }) = .ok ⟨source, {}⟩ := rfl

lemma fresh : Fresh {} := ⟨⟨rfl, by simp⟩, rfl⟩

lemma tells_told {v : Verdict} (hl : Legal v.encode.size) :
    ∃ l parts reply, Tells v l parts (told v) reply := by
  obtain ⟨parts, hverdict, -⟩ := verdict_of_gives nearAgent (gives_two (framed v.encode) .empty) hl
  obtain ⟨l, hask, -⟩ := ask_of_verdict (dials (saying v)) fresh legal_asking hverdict
  exact ⟨l, parts, tells_of_ask targets hask⟩

/-- The browser is told of a success, and there is no tunnel. -/
theorem tunnel_reply_misleads :
    (told (.refused 204 "gone")).opened = none ∧
    ∃ reply, (told (.refused 204 "gone")).fate = .replied reply ∧ IsSuccess reply.status := by
  obtain ⟨l, parts, reply, htells⟩ := tells_told (v := .refused 204 "gone") (by decide)
  obtain ⟨hsuccess, hopened⟩ := htells.misled.mpr (by decide)
  exact ⟨hopened, reply, htells.replied, hsuccess⟩

theorem tunnel_reply_refused :
    (told (.refused 99 "gone")).opened = none ∧
    ∃ reply, (told (.refused 99 "gone")).fate = .replied reply ∧ reply.status.code = 502 ∧
      reply.body = .whole "gone".toUTF8 := by
  have hl : Legal (Verdict.refused 99 "gone").encode.size := by decide
  obtain ⟨htells, -, hread⟩ := tunnel_reply targets nearAgent 0 nonce16
    fun _ => .connected { source := saying (.refused 99 "gone") }
  obtain ⟨l, parts, hask, -⟩ := hread _ {} _ (.refused 99 "gone") .empty .clean (dials _) fresh legal_asking hl
    (decode_of_legal (k := .verdict) hl) (gives_two _ _)
  obtain ⟨reply, hreply⟩ := htells _ l parts hask
  obtain ⟨hopened, hcode, hbody⟩ := hreply.refused (by decide)
  exact ⟨hopened, reply, hreply.replied, hcode, hbody⟩

end TwoHop.Proofs.Agent.TunnelReply
