import TwoHop.Proofs.Agent.Chain
import TwoHop.Proofs.Flow.Transport
import TwoHop.Proofs.Header.Values
import TwoHop.Proofs.Wire.RoundTrip

/-! A request goes through both agents to its destination, and the response comes back through
both: apart from the headers of single connections and values that are not text, both arrive as
they were sent. -/

namespace TwoHop.Proofs.Agent.Exchange

open TwoHop.Frame TwoHop.Flow TwoHop.Header
open Scanner.Heading Flow.Content Flow.Conservation Flow.Transport
open Header.Maps Header.Values
open Wire.RoundTrip
open Chain (nearAgent nonce16)

variable {a : LocalAgent} {now : Int64} {nonce : ByteArray} {r : Browsed} {text : String} {uri : Uri}
  {method : Method} {response : Received} {rest : Handover} {body : Body}

lemma passed_erase {m : Map} (hm : Proper m) (erased name : String) :
    passed (m.erase erased) name = if name = erased then [] else passed m name := by
  rw [passed, values_erase hm, passed]
  by_cases hn : name = erased
  · simp [hn]
  · simp [hn]

lemma outbound_eq (a : LocalAgent) (now : Int64) (nonce : ByteArray)
    (hl : Legal (LocalAgent.envelope r text).encode.size) :
    a.outbound now nonce r text = .ok {
      method := .post
      uri := a.remoteUri
      headers := LocalAgent.outboundHeaders (a.secret.sign now nonce)
        (framed (LocalAgent.envelope r text).encode) (LocalAgent.bodyLength r)
      body := framedBody (framed (LocalAgent.envelope r text).encode) (LocalAgent.bodyLength r) r.body } := by
  rw [LocalAgent.outbound, encode_of_legal hl]
  rfl

lemma outbound_of_legal (a : LocalAgent) (now : Int64) (nonce : ByteArray)
    (hl : Legal (LocalAgent.envelope r text).encode.size) :
    ∃ out, a.outbound now nonce r text = .ok out ∧ out.body =
      framedBody (framed (LocalAgent.envelope r text).encode) (LocalAgent.bodyLength r) r.body :=
  ⟨_, outbound_eq a now nonce hl, rfl⟩

lemma carry_eq (method : Method) (hl : Legal (RemoteAgent.envelope response).encode.size) :
    RemoteAgent.carry method response = .ok {
      status := .ok
      headers := RemoteAgent.replyHeaders (framed (RemoteAgent.envelope response).encode)
        (RemoteAgent.payloadLength method response)
      body := framedBody (framed (RemoteAgent.envelope response).encode)
        (RemoteAgent.payloadLength method response) response.body } := by
  rw [RemoteAgent.carry, encode_of_legal hl]
  rfl

lemma decode_response_of_legal (hl : Legal (RemoteAgent.envelope response).encode.size) :
    Response.decode (RemoteAgent.envelope response).encode = .ok (RemoteAgent.envelope response) :=
  decode_of_loweredIn (k := .response) hl (lowered_removeHopByHop (lowered_ofMap response.headers))

lemma relay_of_found {inbound : Source} {frame : ByteArray} {asked : Outbound}
    (hs : scan inbound = .found frame rest) (ho : RemoteAgent.outbound frame rest = .ok asked)
    (destination : Outbound → Answer) : (RemoteAgent.relay inbound destination).asked = some asked ∧
      (RemoteAgent.relay inbound destination).fate =
        .ofExcept (RemoteAgent.conclude asked (destination asked)) := by
  rw [RemoteAgent.relay, hs]
  dsimp only
  rw [ho]
  exact ⟨rfl, rfl⟩

lemma conclude_of_ok {received : Received} (hok : received.status = .ok) :
    a.conclude (.response received) = match scan received.body with
      | .waits _ => .error .silence
      | .failed f _ => .error (.fault f)
      | .found frame rest => LocalAgent.unwrap frame rest := by
  simp only [LocalAgent.conclude, Answer.get, orFault, Except.mapError, bind, Except.bind, hok]
  rfl

lemma conclude_of_found {received : Received} {frame : ByteArray} (hok : received.status = .ok)
    (hs : scan received.body = .found frame rest) :
    a.conclude (.response received) = LocalAgent.unwrap frame rest := by
  rw [conclude_of_ok hok, hs]

lemma handleRequest_of_outbound {out : Outbound} (hexpect : LocalAgent.expectsOther r.headers = false)
    (htext : Destination.absoluteUri? r.uri r.headers = some text)
    (hout : a.outbound now nonce r text = .ok out) (remote : Outbound → Answer) :
    a.handleRequest now nonce r remote =
      { fate := .ofExcept (a.conclude (remote out)), asked := some out, body := r.body } := by
  simp [LocalAgent.handleRequest, hexpect, htext, hout]

lemma asked_eq (remote remote' : Outbound → Answer) : (a.handleRequest now nonce r remote).asked =
    (a.handleRequest now nonce r remote').asked := by
  rw [LocalAgent.handleRequest, LocalAgent.handleRequest]
  split
  · rfl
  · split
    · rfl
    · split <;> rfl

lemma fate_of_asked {out : Outbound} {remote : Outbound → Answer}
    (h : (a.handleRequest now nonce r remote).asked = some out) :
    (a.handleRequest now nonce r remote).fate = .ofExcept (a.conclude (remote out)) := by
  rw [LocalAgent.handleRequest] at h ⊢
  generalize LocalAgent.expectsOther r.headers = other at h ⊢
  cases other with
  | true => cases h
  | false =>
    rw [if_neg Bool.false_ne_true] at h ⊢
    generalize Destination.absoluteUri? r.uri r.headers = target at h ⊢
    cases target with
    | none => cases h
    | some uri =>
      dsimp only at h ⊢
      generalize a.outbound now nonce r uri = asked at h ⊢
      cases asked with
      | error c => cases h
      | ok out =>
        cases h
        rfl

variable {bytes content : ByteArray} {ending : Ending}

def upload : Browsed where
  method := .post
  uri := ⟨none, none, "/up"⟩
  headers := ⟨#[⟨"host", #["db".toUTF8]⟩, ⟨"te", #["gzip".toUTF8]⟩,
    ⟨"transfer-encoding", #["chunked".toUTF8]⟩,
    ⟨"x-note", #["a".toUTF8, ⟨#[0xFF]⟩, "b".toUTF8]⟩]⟩
  body := { kind := .body false, items := [.data [1, 2].toByteArray, .data [3].toByteArray] }

def stored : Received where
  status := .ok
  headers := ⟨#[⟨"server", #["db".toUTF8]⟩, ⟨"connection", #["close".toUTF8]⟩]⟩
  body := { kind := .body false, items := [.data [4, 5].toByteArray, .fault Queue.droppedFault] }

end TwoHop.Proofs.Agent.Exchange
