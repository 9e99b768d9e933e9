import TwoHop.Agent.Local
import TwoHop.Proofs.Agent.Admission
import TwoHop.Proofs.Fault.Rendering
import TwoHop.Proofs.Token.Signing

/-! A tunnel through both agents, one behind the other. What one of them leaves on the connection
between them is what the other one needs. -/

namespace TwoHop.Proofs.Agent.Chain

open TwoHop.Frame TwoHop.Flow
open Flow.Content Flow.Intake Flow.Hearing Flow.Direction Flow.Tunnel
open Scanner.Heading Wire.Fields Wire.RoundTrip Token.Signing Calling Admission
open Proofs.Bytes
open Fault.Rendering (begins_renderChain)

structure Fresh (k : Outlet) : Prop where
  willing : Willing k
  empty : k.data = .empty

lemma run_fresh {c : Call} {k : Outlet} (hp : c.phase = .start)
    (hl : Legal c.verdict.encode.size) (hk : Fresh k) :
    (c.run {} k).2.2.data = framed c.verdict.encode ∧
      ∃ l : Outlet, (c.run {} k).1.result? =
        some (if c.closes then l.finish.1.map fun _ => true else .ok true) := by
  obtain ⟨l, hw, -⟩ := writeAll_willing hk.willing (framed c.verdict.encode)
  obtain ⟨hsink, hresult⟩ := run_of_sent hp hl hw
  refine ⟨?_, l.flush.2, hresult⟩
  rw [hsink, hungUp_data, (data_of_writeAll hw).1, hk.empty, ByteArray.empty_append]

lemma legal_ok : Legal Verdict.ok.encode.size := by decide

section Remote

variable {b : RemoteAgent} {now : Int64} {source : Source} {request : TunnelRequest} {parts : Parts}
  {dial : String → Dial} {k : Outlet}

lemma tunnelRequest_of_gives {later : ByteArray} {ending : Ending}
    (hg : Gives source (framed request.encode ++ later) ending) (hl : Legal request.encode.size)
    (hd : TunnelRequest.decode request.encode = .ok request) :
    ∃ parts, RemoteAgent.tunnelRequest source = .ok (request, parts) ∧
      Becomes source parts.source ∧
      join (heard source parts.source) = framed request.encode ++ parts.remaining := by
  obtain ⟨remaining, after, hs, hbecomes, hheard⟩ := scan_framed hg hl
  refine ⟨⟨remaining, after, after.isExhausted⟩, ?_, hbecomes, hheard⟩
  rw [RemoteAgent.tunnelRequest, hs]
  show ((TunnelRequest.decode request.encode).mapError Fault.decode >>= fun r =>
    pure (r, (⟨remaining, after, after.isExhausted⟩ : Parts))) = _
  rw [hd]
  rfl

lemma decision_of_fault (ht : RemoteAgent.tunnelRequest source = .ok (request, parts))
    (ha : b.admits now request = true) {f : Fault}
    (hf : (dial (addressOf request)).get (addressOf request) = .error f) :
    b.decision now source dial = { call := .rejectFault f, dialled := some (addressOf request) } := by
  rw [addressOf] at hf
  simp [RemoteAgent.decision, ht, ha, hf, addressOf]

lemma decision_of_connected (ht : RemoteAgent.tunnelRequest source = .ok (request, parts))
    (ha : b.admits now request = true) {c : Connection}
    (hc : dial (addressOf request) = .connected c) :
    b.decision now source dial = {
      call := .reply .ok, dialled := some (addressOf request), destination := some (c, parts) } := by
  rw [addressOf] at hc
  simp [RemoteAgent.decision, ht, ha, hc, Dial.get, addressOf]

lemma dialled_of_admitted (ht : RemoteAgent.tunnelRequest source = .ok (request, parts))
    (ha : b.admits now request = true) :
    (b.handleTunnel now ⟨source, k⟩ dial).dialled = some (addressOf request) := by
  show (b.decision now source dial).dialled = _
  cases hdial : dial (addressOf request) with
  | connected c => rw [decision_of_connected ht ha hdial]
  | failed e => rw [decision_of_fault ht ha (by rw [hdial]; rfl)]
  | timedOut => rw [decision_of_fault ht ha (by rw [hdial]; rfl)]

lemma far_of_fault (ht : RemoteAgent.tunnelRequest source = .ok (request, parts))
    (ha : b.admits now request = true) (hk : Fresh k) {f : Fault}
    (hf : (dial (addressOf request)).get (addressOf request) = .error f)
    (hl : Legal (Verdict.refused f.status.code f.detail).encode.size) :
    (b.handleTunnel now ⟨source, k⟩ dial).splice = none ∧
      (b.handleTunnel now ⟨source, k⟩ dial).sink.data =
        framed (Verdict.refused f.status.code f.detail).encode := by
  obtain ⟨hdata, -⟩ := run_fresh (c := .rejectFault f) rfl hl hk
  simp only [RemoteAgent.handleTunnel, decision_of_fault ht ha hf]
  refine ⟨?_, hdata⟩
  split
  · next hnone => cases hnone
  · rfl

lemma far_of_connected (ht : RemoteAgent.tunnelRequest source = .ok (request, parts))
    (ha : b.admits now request = true) (hk : Fresh k) {c : Connection}
    (hc : dial (addressOf request) = .connected c) :
    (b.handleTunnel now ⟨source, k⟩ dial).sink.data = framed Verdict.ok.encode ∧
      (b.handleTunnel now ⟨source, k⟩ dial).splice =
        some (.start parts.source (b.handleTunnel now ⟨source, k⟩ dial).sink c.source c.sink
          parts.remaining {} {}) := by
  obtain ⟨hdata, l, hresult⟩ := run_fresh (c := .reply .ok) rfl legal_ok hk
  simp only [RemoteAgent.handleTunnel, decision_of_connected ht ha hc]
  refine ⟨hdata, ?_⟩
  rw [hresult]
  rfl

end Remote

section Local

variable {a : LocalAgent} {source : Source} {parts : Parts} {dial : String → Dial}

lemma verdict_of_decoded (a : LocalAgent) {v : Verdict} {body more : ByteArray} {ending : Ending}
    (hg : Gives source (framed body ++ more) ending) (hl : Legal body.size)
    (hd : Verdict.decode body = .ok v) :
    ∃ parts, a.verdict source = .ok (v, parts) ∧ Becomes source parts.source ∧
      join (heard source parts.source) = framed body ++ parts.remaining := by
  obtain ⟨remaining, after, hs, hbecomes, hheard⟩ := scan_framed hg hl
  refine ⟨⟨remaining, after, after.isExhausted⟩, ?_, hbecomes, hheard⟩
  rw [LocalAgent.verdict, hs]
  show ((Verdict.decode body).mapError Fault.decode >>= fun v =>
    pure (v, (⟨remaining, after, after.isExhausted⟩ : Parts))) = _
  rw [hd]
  rfl

lemma verdict_of_gives (a : LocalAgent) {v : Verdict} {more : ByteArray} {ending : Ending}
    (hg : Gives source (framed v.encode ++ more) ending) (hl : Legal v.encode.size) :
    ∃ parts, a.verdict source = .ok (v, parts) ∧ Becomes source parts.source ∧
      join (heard source parts.source) = framed v.encode ++ parts.remaining :=
  verdict_of_decoded a hg hl (decode_of_legal (k := .verdict) hl)

lemma ask_of_verdict {request : TunnelRequest} {k : Outlet} {v : Verdict}
    (hc : a.dialRemote dial = .ok ⟨source, k⟩) (hk : Fresh k) (hl : Legal request.encode.size)
    (hv : a.verdict source = .ok (v, parts)) :
    ∃ l, a.ask request dial = .ok (v, l, parts) ∧ l.data = framed request.encode := by
  obtain ⟨l, hw, -⟩ := writeAll_willing hk.willing (framed request.encode)
  have hdata := (data_of_writeAll hw).1
  rw [hk.empty, ByteArray.empty_append] at hdata
  refine ⟨l.flush.2, ?_, hdata⟩
  simp only [LocalAgent.ask, hc, encode_of_legal hl, orFault, orCrash, Except.mapError, bind, Except.bind, hw]
  show (orFault (a.verdict source) >>= fun x => pure (x.1, l.flush.2, x.2)) = _
  rw [hv]
  rfl

lemma refusal_of_fault (f : Fault) :
    LocalAgent.refusal (.refused f.status.code f.detail) = .ofFault f := by
  rw [LocalAgent.refusal, Verdict.refused, Status.ofCode?_code]
  rfl

lemma size_renderChain (top : String) (causes : List String) :
    top.utf8ByteSize ≤ (renderChain top causes).utf8ByteSize := by
  obtain ⟨rest, hrest⟩ := begins_renderChain top causes
  rw [hrest, String.utf8ByteSize_append]
  exact Nat.le_add_right _ _

lemma size_append_pos {s : String} (h : 0 < s.utf8ByteSize) (t : String) :
    0 < (s ++ t).utf8ByteSize := by
  rw [String.utf8ByteSize_append]
  omega

lemma isEmpty_of_size_pos {s : String} (h : 0 < s.utf8ByteSize) : s.isEmpty = false := by
  simp only [String.isEmpty, beq_eq_false_iff_ne]
  omega

lemma isOk_refused (f : Fault) : (Verdict.refused f.status.code f.detail).isOk = false := by
  cases f <;> rfl

end Local

lemma ofFault_of_get {address : String} {d : Dial} {f : Fault} (h : d.get address = .error f) :
    Reply.ofFault f = {
      status := f.status
      headers := Header.Map.empty.set "content-type" Reply.plainText.toUTF8
      body := .whole f.detail.toUTF8 } := by
  have hdetail : f.detail.isEmpty = false := by
    apply isEmpty_of_size_pos
    apply Nat.lt_of_lt_of_le _ (size_renderChain f.text f.causes)
    cases d with
    | connected c => cases h
    | failed e =>
      cases h
      have hfront : 0 < (toString "Failed to connect to upstream ").utf8ByteSize := by decide
      exact size_append_pos (size_append_pos (size_append_pos hfront _) _) _
    | timedOut =>
      cases h
      have hfront : 0 < (toString "Upstream ").utf8ByteSize := by decide
      exact size_append_pos (size_append_pos hfront _) _
  rw [Reply.ofFault, Reply.ofText, hdetail]
  rfl

lemma begins_relayed {origin link behind : Source} {front out ahead : ByteArray}
    {t u : Transfer Outlet} (ht : Underway origin front .empty t) (hbecomes : Becomes link behind)
    (hheard : join (heard link behind) = front ++ ahead) (hu : Underway behind out ahead u)
    (hlink : Begins t.sink.data (join (heard link u.source))) :
    ∃ taken, u.sink.data = out ++ taken ∧ Begins (join (heard origin t.source)) taken := by
  obtain ⟨written, hwritten, hfrom, -⟩ := arrived ht
  obtain ⟨taken, htaken, hto, -⟩ := arrived hu
  rw [ByteArray.empty_append] at hfrom
  refine ⟨taken, htaken, (hfrom.trans ?_).trans hto⟩
  obtain ⟨rest, hrest⟩ := hlink
  refine ⟨rest, ?_⟩
  rw [hwritten, (heard_trans hbecomes hu.becomes).2, join_append, hheard] at hrest
  simp only [ByteArray.append_assoc] at hrest ⊢
  exact (ByteArray.append_right_inj _).mp hrest

variable {a : LocalAgent} {b : RemoteAgent} {r : Browsed} {t : Target} {now now' : Int64}
  {nonce later : ByteArray} {ending : Ending} {dialNear : String → Dial} {back inbound : Source}
  {outA outB : Outlet}

lemma decode_tunnelRequest_of_legal (hl : Legal (a.tunnelRequest now nonce r t).encode.size) :
    TunnelRequest.decode (a.tunnelRequest now nonce r t).encode = .ok (a.tunnelRequest now nonce r t) :=
  decode_of_loweredIn (k := .tunnelRequest) hl (lowered_removeHopByHop (lowered_ofMap r.headers))

lemma handleConnect_of_ask {v : Verdict} {l : Outlet} {parts : Parts}
    (htarget : Destination.tunnelTarget? r.uri r.headers = some t)
    (hask : a.ask (a.tunnelRequest now nonce r t) dialNear = .ok (v, l, parts)) :
    a.handleConnect now nonce r dialNear =
      if v.isOk then {
        fate := .replied { status := .ok }, asked := some (a.tunnelRequest now nonce r t)
        opened := some (l, parts) }
      else {
        fate := .replied (LocalAgent.refusal v), asked := some (a.tunnelRequest now nonce r t) } := by
  rw [LocalAgent.handleConnect, htarget]
  dsimp only
  rw [hask]

/-- All that is asked of the connection between the agents is that what one reads off it was
written to it by the other. -/
theorem connect_through_both (htarget : Destination.tunnelTarget? r.uri r.headers = some t)
    (hsecret : a.secret ∈ b.keyring.secrets) (hskew : Token.skew now' now ≤ Token.maxSkew)
    (hnonce : nonce.size = Token.nonceSize) (hdial : a.dialRemote dialNear = .ok ⟨back, outA⟩)
    (hA : Fresh outA) (hB : Fresh outB) (hfits : Legal (a.tunnelRequest now nonce r t).encode.size)
    (hinbound : Gives inbound (framed (a.tunnelRequest now nonce r t).encode ++ later) ending)
    (dialFar : String → Dial) :
    let near := a.handleConnect now nonce r dialNear
    let far := b.handleTunnel now' ⟨inbound, outB⟩ dialFar
    far.dialled = some t.text ∧
    (∀ f more ending', (dialFar t.text).get t.text = .error f →
      Legal (Verdict.refused f.status.code f.detail).encode.size →
      Gives back (far.sink.data ++ more) ending' →
      (∃ reply, near.fate = .replied reply ∧ reply.status = f.status ∧
        reply.body = .whole f.detail.toUTF8) ∧ near.opened = none ∧ far.splice = none) ∧
    (∀ c more ending', dialFar t.text = .connected c → Gives back (far.sink.data ++ more) ending' →
      near.fate = .replied { status := .ok } ∧
      ∃ opened splice, near.opened = some opened ∧ far.splice = some splice ∧
        ∀ browser moves moves',
          let n := run (LocalAgent.join opened browser) moves
          let f := run splice moves'
          Begins n.down.sink.data (join (heard inbound f.up.source)) →
          Begins f.down.sink.data (join (heard back n.up.source)) →
          (∃ toTarget, f.up.sink.data = c.sink.data ++ toTarget ∧
            Begins (join (heard browser.source n.down.source)) toTarget) ∧
          ∃ toBrowser, n.up.sink.data = browser.sink.data ++ toBrowser ∧
            Begins (join (heard c.source f.down.source)) toBrowser) := by
  intro near far
  have hadmits : b.admits now' (a.tunnelRequest now nonce r t) = true :=
    acceptsAt_sign hsecret (by rw [hnonce]; decide) hskew
  obtain ⟨parts, hrequest, hbecomes, hheard⟩ :=
    tunnelRequest_of_gives hinbound hfits (decode_tunnelRequest_of_legal hfits)
  refine ⟨dialled_of_admitted hrequest hadmits, ?_, ?_⟩
  · intro f more ending' hf hl hback
    obtain ⟨hsplice, hsink⟩ := far_of_fault hrequest hadmits hB hf hl
    rw [show far.sink.data = _ from hsink] at hback
    obtain ⟨left, hverdict, -⟩ := verdict_of_gives a hback hl
    obtain ⟨l, hask, -⟩ := ask_of_verdict hdial hA hfits hverdict
    rw [show near = _ from handleConnect_of_ask htarget hask, isOk_refused, refusal_of_fault]
    exact ⟨⟨_, rfl, by rw [ofFault_of_get hf], by rw [ofFault_of_get hf]⟩, rfl, hsplice⟩
  · intro c more ending' hc hback
    obtain ⟨hsink, hsplice⟩ := far_of_connected hrequest hadmits hB hc
    rw [show far.sink.data = _ from hsink] at hback
    obtain ⟨left, hverdict, hbecomes', hheard'⟩ := verdict_of_gives a hback legal_ok
    obtain ⟨l, hask, hl⟩ := ask_of_verdict hdial hA hfits hverdict
    rw [show near = _ from handleConnect_of_ask htarget hask]
    refine ⟨rfl, (l, left), _, rfl, hsplice, ?_⟩
    intro browser moves moves' n f hup hdown
    have hn := inOrder_of_start left.source browser.source l browser.sink left.remaining {} {} moves
    have hf := inOrder_of_start parts.source c.source far.sink c.sink parts.remaining {} {} moves'
    have hdownN := hn.down
    have hdownF := hf.down
    rw [hl] at hdownN
    rw [show far.sink.data = _ from hsink] at hdownF
    exact ⟨begins_relayed hdownN hbecomes hheard hf.up hup,
      begins_relayed hdownF hbecomes' hheard' hn.up hdown⟩

def nearAgent : LocalAgent where
  settings := {}
  secret := ⟨"browser", "key", by decide, by decide⟩
  remoteUri := ⟨some "http", some "far:8080", "/"⟩
  remoteTunnel := ⟨"far", 8443⟩

def farAgent : RemoteAgent := { settings := {}, keyring := ⟨[nearAgent.secret]⟩, identity := none }

def towards : Browsed := { method := .connect, uri := ⟨none, some "db:22", ""⟩ }

def nonce16 : ByteArray := ⟨.replicate 16 7⟩

def asking : ByteArray := framed (nearAgent.tunnelRequest 0 nonce16 towards ⟨"db", 22⟩).encode

def arriving : Source where
  items := [.data (asking.extract 0 20), .data (asking.extract 20 asking.size ++ [1, 2].toByteArray)]

lemma size_token : (nearAgent.secret.sign 0 nonce16).encode.size = 83 := by
  have hid : (nearAgent.secret.sign 0 nonce16).secretId.toUTF8.size = 7 := by decide
  have hsignature : (nearAgent.secret.sign 0 nonce16).signature.size = 32 := size_hmac _ _
  have hnonce : (nearAgent.secret.sign 0 nonce16).nonce.size = 16 := rfl
  simp only [Token.encode, Token.fields, Field.ofText, Field.ofNat, size_encodeAll_cons, hid, hsignature, hnonce,
    Bytes.size_bigEndian, Field.headSize]
  rfl

lemma size_asking :
    (nearAgent.tunnelRequest 0 nonce16 towards ⟨"db", 22⟩).encode.size = 107 := by
  have hhost : "db".toUTF8.size = 2 := by decide
  have hheaders : (Headers.ofMap towards.headers).removeHopByHop.encode.size = 0 := by decide
  simp only [TunnelRequest.encode, TunnelRequest.fields, LocalAgent.tunnelRequest, Option.map_some,
    Option.toList_some, List.cons_append, List.nil_append, size_encodeAll_cons, Field.ofText,
    Field.ofNat, Bytes.size_bigEndian, hhost, hheaders, size_token, Field.headSize]
  rfl

lemma legal_asking : Legal (nearAgent.tunnelRequest 0 nonce16 towards ⟨"db", 22⟩).encode.size := by
  rw [size_asking]
  decide

lemma gives_two (b c : ByteArray) : Gives { items := [.data b, .data c] } (b ++ c) .clean :=
  gives_of_outlook (by simp [outlook, outlookOf])

lemma gives_arriving : Gives arriving (asking ++ [1, 2].toByteArray) .clean := by
  have hcut : asking.extract 0 20 ++ asking.extract 20 asking.size = asking := by
    apply extract_append_rejoin
    rw [asking, size_framed, size_asking]
    decide
  have hgives := gives_two (asking.extract 0 20) (asking.extract 20 asking.size ++ [1, 2].toByteArray)
  rwa [← ByteArray.append_assoc, hcut] at hgives

def farServed : RemoteAgent.TunnelServed :=
  farAgent.handleTunnel 1 ⟨arriving, {}⟩ fun _ => .connected {}

def answering : Source where
  items := [.data farServed.sink.data, .data [3].toByteArray]

def nearServed : LocalAgent.TunnelServed :=
  nearAgent.handleConnect 0 nonce16 towards fun _ => .connected { source := answering }

theorem connect_through_both_db :
    farServed.dialled = some "db:22" ∧ nearServed.fate = .replied { status := .ok } ∧
      nearServed.opened.isSome ∧ farServed.splice.isSome := by
  have hfresh : Fresh {} := ⟨⟨rfl, by simp⟩, rfl⟩
  have htarget : Destination.tunnelTarget? towards.uri towards.headers = some ⟨"db", 22⟩ := by decide
  have htext : (Target.mk "db" 22).text = "db:22" := by decide
  have hsecret : nearAgent.secret ∈ farAgent.keyring.secrets := List.mem_singleton_self _
  have hskew : Token.skew 1 0 ≤ Token.maxSkew := by decide
  have hdial : nearAgent.dialRemote (fun _ => .connected { source := answering }) =
      .ok ⟨answering, {}⟩ := rfl
  obtain ⟨hdialled, -, hopened⟩ := connect_through_both htarget hsecret hskew rfl hdial hfresh
    hfresh legal_asking gives_arriving fun _ => .connected {}
  obtain ⟨hfate, opened, splice, hnear, hfar, -⟩ := hopened {} _ _ rfl (gives_two _ _)
  rw [htext] at hdialled
  exact ⟨hdialled, hfate, Option.isSome_iff_exists.mpr ⟨_, hnear⟩,
    Option.isSome_iff_exists.mpr ⟨_, hfar⟩⟩

end TwoHop.Proofs.Agent.Chain
