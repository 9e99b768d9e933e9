import TwoHop.Proofs.Agent.Crowding
import TwoHop.Proofs.Header.Sifting
import TwoHop.Proofs.Wire.Acceptance

/-! The local agent passes on what the remote agent answers only if a whole response stands at its
front. Anything else becomes a complaint to the browser, and no byte behind the frame gets through. -/

namespace TwoHop.Proofs.Agent.Vetting

open TwoHop.Frame TwoHop.Flow TwoHop.Header
open Flow.Content Flow.Hearing Flow.Conservation
open Scanner.Heading Scanner.Fragmentation Header.Values Header.Capacity Header.Sifting
open Wire.RoundTrip Wire.Acceptance
open Chain (nearAgent nonce16)
open Exchange (asked_eq conclude_of_ok conclude_of_found fate_of_asked
  handleRequest_of_outbound outbound_of_legal upload)
open Posting (Scans Torn Unfinished complaint ofFault_eq scans_scan status_of_torn)
open Crowding (carried gives_carried conclude_of_answered unwrap_make)

def Bears (bytes : ByteArray) (response : Response) (rest : ByteArray) : Prop :=
  ∃ frame, Legal frame.size ∧ bytes = framed frame ++ rest ∧ Response.decode frame = .ok response

structure Sound (status : Status) (bytes : ByteArray) (response : Response) (rest : ByteArray) :
    Prop where
  accepted : status = .ok
  bears : Bears bytes response rest
  code : 100 ≤ response.statusCode.toNat ∧ response.statusCode.toNat ≤ 999
  few : response.headers.removeHopByHop.size ≤ 24576

structure Relays (response : Response) (rest : ByteArray) (ending : Ending) (reply : Reply) :
    Prop where
  status : reply.status.code = response.statusCode
  named : ∀ name, reply.headers.contains name = true ↔ reply.headers.values name ≠ []
  headers : ∀ name, reply.headers.values name =
    if IsHopByHop name then [] else taken response.headers.pairs name
  body : Carries reply.body rest ending

inductive Broken (status : Status) (bytes : ByteArray) (ending : Ending) : Fault → Prop
  | status : status ≠ .ok → Broken status bytes ending (.protocol (.remoteStatus status))
  | torn {f : Fault} : status = .ok → Torn bytes ending f → Broken status bytes ending f
  | message {frame rest : ByteArray} {e : DecodeFault} : status = .ok → Legal frame.size →
      bytes = framed frame ++ rest → Response.decode frame = .error e →
      Broken status bytes ending (.decode e)
  | code {response : Response} {rest : ByteArray} : status = .ok → Bears bytes response rest →
      ¬ (100 ≤ response.statusCode.toNat ∧ response.statusCode.toNat ≤ 999) →
      Broken status bytes ending (.decode (.invalidStatus response.statusCode))

inductive Refused (status : Status) (bytes : ByteArray) (ending : Ending) : Fate → Prop
  | broken {f : Fault} : Broken status bytes ending f →
      Refused status bytes ending (.replied (complaint .badGateway f.detail))
  | crowded {response : Response} {rest : ByteArray} : status = .ok → Bears bytes response rest →
      100 ≤ response.statusCode.toNat ∧ response.statusCode.toNat ≤ 999 →
      24576 < response.headers.removeHopByHop.size →
      Refused status bytes ending (.crashed (.headerCount response.headers.removeHopByHop.size))
  | unfinished : status = .ok → Unfinished bytes ending → Refused status bytes ending .waiting

variable {status : Status} {bytes rest : ByteArray} {ending : Ending} {response : Response}

lemma bears_unique {response' : Response} {rest' : ByteArray} (h : Bears bytes response rest)
    (h' : Bears bytes response' rest') : response = response' ∧ rest = rest' := framed_unique h h'

lemma status_of_broken {f : Fault} (h : Broken status bytes ending f) : f.status = .badGateway := by
  cases h with
  | status | message | code => rfl
  | torn _ ht => exact status_of_torn ht

lemma code_of_ofCode? {code : UInt16} {s : Status} (h : Status.ofCode? code = some s) :
    s.code = code := by
  rw [Status.ofCode?] at h
  split at h <;> cases h
  rfl

lemma ofCode?_eq_none_iff {code : UInt16} :
    Status.ofCode? code = none ↔ ¬ (100 ≤ code.toNat ∧ code.toNat ≤ 999) := by
  rw [Status.ofCode?]
  split
  · next hcode => simp [hcode]
  · next hcode => simpa using hcode

def Concludes (status : Status) (bytes : ByteArray) (ending : Ending) : Except Halt Reply → Prop
  | .ok reply => ∃ response rest, Sound status bytes response rest ∧ Relays response rest ending reply
  | .error (.fault f) => Broken status bytes ending f
  | .error (.crash c) => Refused status bytes ending (.crashed c)
  | .error .silence => status = .ok ∧ Unfinished bytes ending

lemma concludes_unwrap {frame remaining : ByteArray} {after : Source} (hl : Legal frame.size)
    (hbytes : bytes = framed frame ++ (remaining ++ (outlook after).1))
    (hend : (outlook after).2 = ending) :
    Concludes .ok bytes ending (LocalAgent.unwrap frame (.make remaining after)) := by
  cases hd : Response.decode frame with
  | error e =>
    rw [LocalAgent.unwrap, hd]
    exact Broken.message rfl hl hbytes hd
  | ok response =>
    have hlowered : Lowered response.headers :=
      lowered_of_built (builtIn_of_decode (k := .response) hd)
    have hbears : Bears bytes response (remaining ++ (outlook after).1) := ⟨frame, hl, hbytes, hd⟩
    cases hs : Status.ofCode? response.statusCode with
    | none =>
      simp only [LocalAgent.unwrap, hd, hs, orFault, Except.mapError, bind, Except.bind]
      exact Broken.code rfl hbears (ofCode?_eq_none_iff.mp hs)
    | some status =>
      have hcode : 100 ≤ response.statusCode.toNat ∧ response.statusCode.toNat ≤ 999 := by
        rw [← code_of_ofCode? hs]
        exact status.legal
      obtain ⟨b, hcarries, hunwrap⟩ := unwrap_make hd hs remaining after
      rw [hunwrap]
      -- Only the number of the headers can still stop the response.
      rcases Nat.lt_or_ge 24576 response.headers.removeHopByHop.size with hmany | hfew
      · rw [toMap_of_many hmany]
        exact Refused.crowded rfl hbears hcode hmany
      · obtain ⟨m, hm, hcontains, hvalues⟩ := toMap_sifted hlowered hfew
        rw [hm]
        rw [hend] at hcarries
        exact ⟨response, _, ⟨rfl, hbears, hcode, hfew⟩, code_of_ofCode? hs, hcontains, hvalues, hcarries⟩

variable {a : LocalAgent} {received : Received}

lemma conclude_of_refused (h : received.status ≠ .ok) :
    a.conclude (.response received) = .error (.fault (.protocol (.remoteStatus received.status))) := by
  simp only [LocalAgent.conclude, Answer.get, orFault, Except.mapError, bind, Except.bind, if_pos h]
  rfl

lemma concludes_conclude (hg : Gives received.body bytes ending) :
    Concludes received.status bytes ending (a.conclude (.response received)) := by
  by_cases hok : received.status = .ok
  · have hscan := scans_scan hg
    rw [conclude_of_ok hok, hok]
    generalize scan received.body = result at hscan ⊢
    cases result with
    | waits s => exact ⟨rfl, hscan⟩
    | failed f after => exact Broken.torn rfl hscan
    | found frame h =>
      obtain ⟨remaining, after, rfl, hl, hbytes, hend⟩ := hscan
      exact concludes_unwrap hl hbytes hend
  · rw [conclude_of_refused hok]
    exact Broken.status hok

lemma conclude_of_sound (a : LocalAgent) (hg : Gives received.body bytes ending)
    (h : Sound received.status bytes response rest) : ∃ reply,
      a.conclude (.response received) = .ok reply ∧ Relays response rest ending reply := by
  obtain ⟨hok, ⟨frame, hl, rfl, hd⟩, hcode, hfew⟩ := h
  have hstatus : Status.ofCode? response.statusCode = some ⟨response.statusCode, hcode⟩ :=
    dif_pos hcode
  obtain ⟨m, hm, -⟩ := toMap_of_few hfew
  obtain ⟨reply, hreply, -⟩ := (conclude_of_answered hd hstatus hl hok hg a).2 m hm
  have hconcludes := concludes_conclude (a := a) hg
  rw [hreply] at hconcludes
  obtain ⟨response', rest', hsound, hrelays⟩ := hconcludes
  obtain ⟨rfl, rfl⟩ := bears_unique ⟨frame, hl, rfl, hd⟩ hsound.bears
  exact ⟨reply, hreply, hrelays⟩

lemma unwrap_congr (frame : ByteArray) {rest rest' : Handover} {b b' : Body}
    (hb : (rest.body {} {}).1 = .ok b) (hb' : (rest'.body {} {}).1 = .ok b') :
    LocalAgent.unwrap frame rest' =
      (LocalAgent.unwrap frame rest).map fun reply => { reply with body := b' } := by
  simp only [LocalAgent.unwrap, hb, hb', orFault, orCrash, bind, Except.bind]
  cases Response.decode frame with
  | error e => rfl
  | ok response =>
    dsimp only [Except.mapError]
    cases Status.ofCode? response.statusCode with
    | none => rfl
    | some status => cases response.headers.removeHopByHop.toMap <;> rfl

lemma conclude_of_unsound {frame rest' : ByteArray} {ending' : Ending} {other : Received}
    (hl : Legal frame.size) (hg : Gives received.body (framed frame ++ rest) ending)
    (hunsound : ∀ response behind, ¬ Sound received.status (framed frame ++ rest) response behind)
    (hstatus : other.status = received.status)
    (hg' : Gives other.body (framed frame ++ rest') ending') :
    a.conclude (.response other) = a.conclude (.response received) := by
  by_cases hok : received.status = .ok
  · obtain ⟨remaining, after, hs, -⟩ := scan_framed hg hl
    obtain ⟨remaining', after', hs', -⟩ := scan_framed hg' hl
    have hconcludes := concludes_conclude (a := a) hg
    rw [conclude_of_found hok hs] at hconcludes ⊢
    rw [conclude_of_found (hstatus.trans hok) hs',
      unwrap_congr frame (body_make remaining after {} {}) (body_make remaining' after' {} {})]
    -- An error has no body in which the two could differ.
    cases hunwrap : LocalAgent.unwrap frame (.make remaining after) with
    | error halt => rfl
    | ok reply =>
      rw [hunwrap] at hconcludes
      obtain ⟨response, behind, hsound, -⟩ := hconcludes
      exact absurd hsound (hunsound response behind)
  · have hother : other.status ≠ .ok := by
      rw [hstatus]
      exact hok
    rw [conclude_of_refused hok, conclude_of_refused hother, hstatus]

lemma refused_of_concludes {result : Except Halt Reply} (h : Concludes status bytes ending result)
    (hunsound : ∀ response rest, ¬ Sound status bytes response rest) :
    Refused status bytes ending (Fate.ofExcept result) := by
  cases result with
  | ok reply =>
    obtain ⟨response, rest, hsound, -⟩ := h
    exact absurd hsound (hunsound response rest)
  | error halt =>
    cases halt with
    | fault f =>
      rw [Fate.ofExcept, ofFault_eq, status_of_broken h]
      exact .broken h
    | crash c => exact h
    | silence => exact .unfinished h.1 h.2

theorem answer_vetted (a : LocalAgent) {now : Int64} {nonce : ByteArray} {r : Browsed}
    {remote : Outbound → Answer} {out : Outbound} {received : Received} {bytes : ByteArray}
    {ending : Ending} (hasked : (a.handleRequest now nonce r remote).asked = some out)
    (hanswer : remote out = .response received) (hgives : Gives received.body bytes ending) :
    let fate := (a.handleRequest now nonce r remote).fate
    ((∃ reply, a.conclude (remote out) = .ok reply) ↔
      ∃ response rest, Sound received.status bytes response rest) ∧
    (∀ response rest, Sound received.status bytes response rest →
      ∃ reply, fate = .replied reply ∧ Relays response rest ending reply) ∧
    ((∀ response rest, ¬ Sound received.status bytes response rest) →
      Refused received.status bytes ending fate ∧
      ∀ frame rest, Legal frame.size → bytes = framed frame ++ rest →
        ∀ (other : Received) rest' ending', other.status = received.status →
          Gives other.body (framed frame ++ rest') ending' →
          (a.handleRequest now nonce r fun _ => .response other).fate = fate) ∧
    (received.status ≠ .ok → fate = .replied (complaint .badGateway
      ("Upstream protocol error: Remote agent replied " ++ received.status.text))) := by
  intro fate
  have hfate : fate = .ofExcept (a.conclude (.response received)) := by
    rw [← hanswer]
    exact fate_of_asked hasked
  have hconcludes := concludes_conclude (a := a) hgives
  rw [hanswer]
  refine ⟨⟨?_, ?_⟩, ?_, ?_, ?_⟩
  · rintro ⟨reply, hreply⟩
    rw [hreply] at hconcludes
    obtain ⟨response, rest, hsound, -⟩ := hconcludes
    exact ⟨response, rest, hsound⟩
  · rintro ⟨response, rest, hsound⟩
    obtain ⟨reply, hreply, -⟩ := conclude_of_sound a hgives hsound
    exact ⟨reply, hreply⟩
  · intro response rest hsound
    obtain ⟨reply, hreply, hrelays⟩ := conclude_of_sound a hgives hsound
    exact ⟨reply, by rw [hfate, hreply]; rfl, hrelays⟩
  · intro hunsound
    refine ⟨?_, ?_⟩
    · rw [hfate]
      exact refused_of_concludes hconcludes hunsound
    · rintro frame rest hl rfl other rest' ending' hstatus hg'
      rw [asked_eq remote fun _ => .response other] at hasked
      rw [fate_of_asked hasked, hfate, conclude_of_unsound hl hgives hunsound hstatus hg']
  · intro hstatus
    rw [hfate, conclude_of_refused hstatus]
    exact congrArg Fate.replied (ofFault_eq _)

def absence : Response where
  statusCode := 404
  headers := (Headers.empty.insert "Connection" "close").insert "X-Id" "7"

lemma legal_absence : Legal absence.encode.size := by decide +kernel

lemma decode_absence : Response.decode absence.encode = .ok absence :=
  decode_of_loweredIn (k := .response) legal_absence
    (lowered_insert (lowered_insert lowered_empty "Connection" "close") "X-Id" "7")

def answerOf (status : Status) : Received where
  status := status
  body := carried (framed absence.encode ++ [1].toByteArray)

lemma asked_upload (remote : Outbound → Answer) :
    ∃ out, (nearAgent.handleRequest 0 nonce16 upload remote).asked = some out := by
  have hexpect : LocalAgent.expectsOther upload.headers = false := by decide
  have htext : Destination.absoluteUri? upload.uri upload.headers = some "http://db/up" := by
    decide +kernel
  have hlegal : Legal (LocalAgent.envelope upload "http://db/up").encode.size := by decide +kernel
  obtain ⟨out, hout, -⟩ := outbound_of_legal nearAgent 0 nonce16 hlegal
  exact ⟨out, by rw [handleRequest_of_outbound hexpect htext hout]⟩

lemma gives_answerOf (status : Status) :
    Gives (answerOf status).body (framed absence.encode ++ [1].toByteArray) .clean := by
  have h := gives_carried (framed absence.encode ++ [1].toByteArray)
  rwa [ByteArray.append_empty] at h

theorem answer_vetted_absence :
    (∃ reply, (nearAgent.handleRequest 0 nonce16 upload fun _ => .response (answerOf .ok)).fate =
        .replied reply ∧ reply.status.code = 404 ∧ reply.headers.contains "connection" = false ∧
      reply.headers.values "x-id" = ["7".toUTF8] ∧ Carries reply.body [1].toByteArray .clean) ∧
    (nearAgent.handleRequest 0 nonce16 upload fun _ => .response (answerOf .badRequest)).fate =
      .replied (complaint .badGateway
        "Upstream protocol error: Remote agent replied 400 Bad Request") := by
  have hsound : Sound .ok (framed absence.encode ++ [1].toByteArray) absence [1].toByteArray :=
    ⟨rfl, ⟨_, legal_absence, rfl, decode_absence⟩, by decide, by decide +kernel⟩
  have hconnection : IsHopByHop "connection" := by decide +kernel
  have hid : ¬ IsHopByHop "x-id" := by decide +kernel
  obtain ⟨out, hasked⟩ := asked_upload fun _ => .response (answerOf .ok)
  obtain ⟨out', hasked'⟩ := asked_upload fun _ => .response (answerOf .badRequest)
  obtain ⟨-, hrelayed, -⟩ := answer_vetted nearAgent hasked rfl (gives_answerOf .ok)
  obtain ⟨-, -, -, hreason⟩ := answer_vetted nearAgent hasked' rfl (gives_answerOf .badRequest)
  obtain ⟨reply, hreply, hrelays⟩ := hrelayed _ _ hsound
  refine ⟨⟨reply, hreply, hrelays.status, ?_, ?_, hrelays.body⟩, ?_⟩
  · rw [Bool.eq_false_iff, Ne, hrelays.named, hrelays.headers, if_pos hconnection, not_not]
  · rw [hrelays.headers, if_neg hid]
    decide +kernel
  · have htext : (answerOf .badRequest).status.text = "400 Bad Request" := by decide
    rw [hreason (by decide), htext]
    rfl

end TwoHop.Proofs.Agent.Vetting
