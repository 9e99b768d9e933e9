import TwoHop.Proofs.Agent.Admission
import TwoHop.Proofs.Fault.Rendering
import TwoHop.Proofs.Wire.Complaints
import TwoHop.Proofs.Wire.Overhead

/-! How long the reply to a tunnel request is, and what becomes of one that no frame can hold. -/

namespace TwoHop.Proofs.Agent.ReplySize

open TwoHop.Frame TwoHop.Flow TwoHop.RemoteAgent
open Flow.Content Scanner.Heading
open Wire.Fields Wire.RoundTrip Wire.Complaints Wire.Overhead
open Fault.Rendering (renderChain_cons detail_io detail_connect)
open Calling Admission

def spoken (e : IoError) : Nat :=
  e.text.utf8ByteSize + (e.causes.map fun c => c.utf8ByteSize + 2).sum

lemma size_renderChain_le (top : String) (causes : List String) :
    (renderChain top causes).utf8ByteSize ≤
      top.utf8ByteSize + (causes.map fun c => c.utf8ByteSize + 2).sum := by
  induction causes generalizing top with
  | nil => exact Nat.le_refl _
  | cons cause causes ih =>
    have hcolon : ": ".utf8ByteSize = 2 := by decide
    have hstep : (appendCause top cause).utf8ByteSize ≤ top.utf8ByteSize + (cause.utf8ByteSize + 2) := by
      rw [appendCause]
      split
      · exact Nat.le_add_right _ _
      · simp only [String.utf8ByteSize_append]
        omega
    have hrest := ih (appendCause top cause)
    rw [renderChain_cons, List.map_cons, List.sum_cons]
    omega

lemma size_detail_io_le (e : IoError) : (Fault.io e).detail.utf8ByteSize ≤ 10 + spoken e := by
  have hfront : "IO error: ".utf8ByteSize = 10 := by decide
  have hchain := size_renderChain_le ("IO error: " ++ e.text) e.causes
  rw [String.utf8ByteSize_append] at hchain
  rw [detail_io, spoken]
  omega

lemma size_said (address : String) (e : IoError) :
    ("Failed to connect to upstream " ++ address ++ ": " ++ e.text).utf8ByteSize =
      32 + address.utf8ByteSize + e.text.utf8ByteSize := by
  have hfront : "Failed to connect to upstream ".utf8ByteSize = 30 := by decide
  have hcolon : ": ".utf8ByteSize = 2 := by decide
  simp only [String.utf8ByteSize_append]
  omega

lemma size_detail_connect_le (address : String) (e : IoError) :
    (Fault.connect address e).detail.utf8ByteSize ≤ 32 + address.utf8ByteSize + spoken e := by
  have hchain := size_renderChain_le
    ("Failed to connect to upstream " ++ address ++ ": " ++ e.text) e.causes
  rw [size_said] at hchain
  rw [detail_connect, spoken]
  omega

lemma size_detail_timeout (address : String) :
    (Fault.timeout address).detail.utf8ByteSize = 19 + address.utf8ByteSize := by
  have htext : (Fault.timeout address).detail = "Upstream " ++ address ++ " timed out" := rfl
  have hfront : "Upstream ".utf8ByteSize = 9 := by decide
  have hback : " timed out".utf8ByteSize = 10 := by decide
  rw [htext]
  simp only [String.utf8ByteSize_append]
  omega

lemma size_prematureEnd_le {received expected : Nat} (hr : received < UInt32.size)
    (he : expected < UInt32.size) :
    (Fault.prematureEnd received expected).detail.utf8ByteSize ≤ 74 := by
  have htext : (Fault.prematureEnd received expected).detail =
      "Stream ended after " ++ received.repr ++ " of " ++ expected.repr ++ " frame bytes" := rfl
  have hfront : "Stream ended after ".utf8ByteSize = 19 := by decide
  have hof : " of ".utf8ByteSize = 4 := by decide
  have hback : " frame bytes".utf8ByteSize = 12 := by decide
  have hreceived := size_word_le hr
  have hexpected := size_word_le he
  rw [htext]
  simp only [String.utf8ByteSize_append]
  omega

variable {bytes : ByteArray} {ending : Ending} {f : Fault}

lemma size_cutShort_le {received expected : Nat} (hr : received < expected)
    (he : expected ≤ size maxBody) : (cutShort received expected ending).detail.utf8ByteSize ≤ 74 ∨
      ∃ e, ending = .fault e ∧ cutShort received expected ending = .io e := by
  have hword : expected < UInt32.size := Nat.lt_of_le_of_lt he (by decide)
  cases ending with
  | clean => exact Or.inl (size_prematureEnd_le (Nat.lt_trans hr hword) hword)
  | fault e => exact Or.inr ⟨e, rfl, rfl⟩
  | silent =>
    have hsilence : (Fault.frame .requestSilence).detail.utf8ByteSize ≤ 74 := by decide
    exact Or.inl hsilence

lemma size_unreadable_le (h : Unreadable bytes ending f) : f.detail.utf8ByteSize ≤ 74 ∨
    ∃ e, ending = .fault e ∧ f = .io e := by
  cases h with
  | @heading e hs hp =>
    have htext : (Fault.frame e).detail = "Frame error: " ++ e.text := rfl
    have hfront : "Frame error: ".utf8ByteSize = 13 := by decide
    have hheading := size_heading_le hs hp
    rw [htext, String.utf8ByteSize_append]
    omega
  | shortHeading hs => exact size_cutShort_le hs (by decide)
  | @shortBody n hp hn =>
    refine size_cutShort_le hn ?_
    have hlegal := (parseHeader_eq_ok_iff.mp hp).2.1.2
    exact Nat.add_le_add_left hlegal _
  | @message body rest e hl _ hd =>
    have htext : (Fault.decode e).detail = "Envelope decode error: " ++ e.text := rfl
    have hfront : "Envelope decode error: ".utf8ByteSize = 23 := by decide
    have hcurt := size_curt_le (curt_tunnelRequest (Nat.lt_of_le_of_lt hl.2 (by decide)) hd)
    rw [htext, String.utf8ByteSize_append]
    omega

lemma size_refused (code : UInt16) (message : String) :
    (Verdict.refused code message).encode.size = 12 + message.utf8ByteSize := by
  rw [Verdict.encode, Verdict.refused, Verdict.fields]
  simp only [Option.map_some, Option.toList_some, size_encodeAll_cons, encodeAll_nil, Field.ofNat,
    Field.ofText, Bytes.size_bigEndian, ByteArray.size_empty, Field.headSize,
    String.toUTF8_eq_toByteArray, String.size_toByteArray]
  omega

lemma size_address_le (r : TunnelRequest) :
    (addressOf r).utf8ByteSize ≤ r.host.utf8ByteSize + 8 := by
  have hport : r.port.toNat.repr.utf8ByteSize ≤ 5 :=
    size_repr_le (by decide) (Nat.lt_trans r.port.toNat_lt (by decide))
  rw [addressOf, Target.text]
  split
  · have htext : s!"[{r.host}]:{r.port}" = "[" ++ r.host ++ "]:" ++ r.port.toNat.repr := rfl
    have hfront : "[".utf8ByteSize = 1 := by decide
    have hback : "]:".utf8ByteSize = 2 := by decide
    rw [htext]
    simp only [String.utf8ByteSize_append]
    omega
  · have htext : s!"{r.host}:{r.port}" = r.host ++ ":" ++ r.port.toNat.repr := rfl
    have hcolon : ":".utf8ByteSize = 1 := by decide
    rw [htext]
    simp only [String.utf8ByteSize_append]
    omega

lemma size_admitted_ge {a : RemoteAgent} {now : Int64} {body : ByteArray} {r : TunnelRequest}
    (hd : TunnelRequest.decode body = .ok r) (h : a.admits now r = true) :
    66 + r.host.utf8ByteSize ≤ body.size := by
  obtain ⟨t, ht, haccepts⟩ := token_of_admits h
  obtain ⟨c, hc, hsize⟩ := size_tunnelRequest_ge hd ht
  have htoken := size_of_accepted haccepts hc
  omega

inductive TooMuch (a : RemoteAgent) (now : Int64) (dial : String → Dial) (bytes : ByteArray)
    (ending : Ending) : Prop
  | read {e : IoError} : ending = .fault e → maxBody < 22 + spoken e → TooMuch a now dial bytes ending
  | dial {body rest : ByteArray} {r : TunnelRequest} {e : IoError} : Legal body.size →
      bytes = framed body ++ rest → TunnelRequest.decode body = .ok r → a.admits now r = true →
      dial (addressOf r) = .failed e → maxBody + 14 < body.size + spoken e →
      TooMuch a now dial bytes ending

variable {a : RemoteAgent} {now : Int64} {dial : String → Dial} {d : Decision}

lemma legal_refused {code : UInt16} {message : String} (h : message.utf8ByteSize + 12 ≤ maxBody) :
    Legal (Verdict.refused code message).encode.size := by
  rw [size_refused]
  exact ⟨by omega, by omega⟩

lemma legal_or_tooMuch (h : Decides a now dial bytes ending d) :
    Legal d.call.verdict.encode.size ∨ TooMuch a now dial bytes ending := by
  have hmax : maxBody = 8388608 := rfl
  cases h with
  | @unreadable f hu =>
    rcases size_unreadable_le hu with hshort | ⟨e, hending, rfl⟩
    · exact Or.inl (legal_refused (by omega))
    · have hdetail := size_detail_io_le e
      by_cases hfits : 22 + spoken e ≤ maxBody
      · exact Or.inl (legal_refused (by omega))
      · exact Or.inr (.read hending (Nat.not_le.mp hfits))
  | unadmitted => exact Or.inl (by decide)
  | @failed r rest e hasks hadmits hdial =>
    obtain ⟨body, hl, hbytes, hd⟩ := hasks
    have hhost := size_admitted_ge hd hadmits
    have haddress := size_address_le r
    have hdetail := size_detail_connect_le (addressOf r) e
    -- What a request holds besides its host, 66 bytes at least, is 14 more than a reply adds to it.
    by_cases hfits : body.size + spoken e ≤ maxBody + 14
    · exact Or.inl (legal_refused (by omega))
    · exact Or.inr (.dial hl hbytes hd hadmits hdial (Nat.not_le.mp hfits))
  | @timedOut r rest hasks hadmits hdial =>
    obtain ⟨body, hl, -, hd⟩ := hasks
    have hhost := size_admitted_ge hd hadmits
    have haddress := size_address_le r
    have hdetail := size_detail_timeout (addressOf r)
    have hbody := hl.2
    exact Or.inl (legal_refused (by omega))
  | opened =>
    have hok : Legal Verdict.ok.encode.size := by decide
    exact Or.inl hok

lemma size_reply_pos (h : Decides a now dial bytes ending d) : 1 ≤ d.call.verdict.encode.size := by
  have hrefused (code : UInt16) (message : String) :
      1 ≤ (Verdict.refused code message).encode.size := by
    rw [size_refused]
    omega
  cases h with
  | unreadable | unadmitted | failed | timedOut => exact hrefused _ _
  | opened =>
    have hok : 1 ≤ Verdict.ok.encode.size := by decide
    exact hok

lemma size_of_failed {rest : ByteArray} {r : TunnelRequest} {e : IoError}
    (h : Decides a now dial bytes ending d) (hasks : Asks bytes r rest) (hadmits : a.admits now r = true)
    (hdial : dial (addressOf r) = .failed e) :
    d.call.verdict.encode.size = 12 + (Fault.connect (addressOf r) e).detail.utf8ByteSize := by
  cases h with
  | unreadable hu => exact absurd hu (not_unreadable_of_asks hasks)
  | unadmitted hasks' hrefused =>
    obtain ⟨rfl, -⟩ := asks_unique hasks hasks'
    rw [hadmits] at hrefused
    cases hrefused
  | failed hasks' _ hdial' =>
    obtain ⟨rfl, -⟩ := asks_unique hasks hasks'
    rw [hdial] at hdial'
    cases hdial'
    exact size_refused _ _
  | timedOut hasks' _ hdial' | opened hasks' _ hdial' =>
    obtain ⟨rfl, -⟩ := asks_unique hasks hasks'
    rw [hdial] at hdial'
    cases hdial'

theorem reply_size {source : Source} (hg : Gives source bytes ending) (a : RemoteAgent) (now : Int64)
    (dial : String → Dial) (peer : Outlet) :
    let d := a.decision now source dial
    let reply := d.call.verdict.encode
    let served := a.handleTunnel now ⟨source, peer⟩ dial
    1 ≤ reply.size ∧
    (∀ l, Legal reply.size → Sink.writeAll peer (framed reply) = (.all, l) →
      served.sink = hungUp d.call.closes l ∧ served.sink.data = peer.data ++ framed reply) ∧
    (¬ Legal reply.size → TooMuch a now dial bytes ending ∧
      served.sink = peer ∧ served.call.phase = .crashed (.frameBody reply.size)) ∧
    ∀ r rest e, Asks bytes r rest → a.admits now r = true → dial (addressOf r) = .failed e →
      reply.size = 12 + (Fault.connect (addressOf r) e).detail.utf8ByteSize := by
  intro d reply served
  have hdecides : Decides a now dial bytes ending d := decides_decision hg a now dial
  have hfresh := (tidy_of_decides hdecides).fresh
  refine ⟨size_reply_pos hdecides, ?_, ?_, ?_⟩
  · intro l hl hw
    have hsink : served.sink = hungUp d.call.closes l := (run_of_sent hfresh hl hw).1
    refine ⟨hsink, ?_⟩
    rw [hsink, hungUp_data, (data_of_writeAll hw).1]
  · intro hl
    have hcrash := run_crash (k := peer) hfresh hl
    exact ⟨(legal_or_tooMuch hdecides).resolve_left hl, congrArg (·.2.2) hcrash,
      congrArg (·.1.phase) hcrash⟩
  · intro r rest e hasks hadmits hdial
    exact size_of_failed hdecides hasks hadmits hdial

def secret : Secret := ⟨"test-id", "test-key", by decide, by decide⟩

def agent : RemoteAgent := { settings := {}, keyring := ⟨[secret]⟩, identity := none }

def lengthy (n : Nat) : TunnelRequest where
  host := .ofList (List.replicate n 'a')
  port := 80
  headers := .empty
  token := some (secret.sign 0 ⟨.replicate Token.nonceSize 7⟩)

def unresolved : IoError :=
  ⟨.uncategorized, "failed to lookup address information: Name or service not known", []⟩

def asking (n : Nat) : Source := .reader [.data (framed (lengthy n).encode)]

lemma size_host (n : Nat) : (lengthy n).host.utf8ByteSize = n := by
  rw [lengthy, size_ofList, List.length_replicate]
  intro c hc
  rw [List.eq_of_mem_replicate hc]
  rfl

lemma size_lengthy (n : Nat) : (lengthy n).encode.size = n + 105 := by
  have htoken : (secret.sign 0 ⟨.replicate Token.nonceSize 7⟩).encode.size = 83 := by
    have hid : "test-id".utf8ByteSize = 7 := by decide
    have hsignature := Token.Signing.size_hmac secret.key.toUTF8
      (Token.signedBytes secret.id 0 ⟨.replicate Token.nonceSize 7⟩)
    simp only [Token.encode, Token.fields, Secret.sign, Token.sign, secret, size_encodeAll_cons,
      encodeAll_nil, Field.ofText, Field.ofNat, Bytes.size_bigEndian, Field.headSize,
      ByteArray.size_empty, String.toUTF8_eq_toByteArray, String.size_toByteArray, hid] at hsignature ⊢
    rw [hsignature]
    rfl
  have hheaders : Headers.empty.encode.size = 0 := by decide
  have hhost := size_host n
  simp only [lengthy] at hhost
  simp only [TunnelRequest.encode, TunnelRequest.fields, lengthy, Option.map_some, Option.toList_some,
    List.cons_append, List.nil_append, size_encodeAll_cons, encodeAll_nil, Field.ofText, Field.ofNat,
    Bytes.size_bigEndian, Field.headSize, ByteArray.size_empty, String.toUTF8_eq_toByteArray,
    String.size_toByteArray, hhost, htoken, hheaders]
  omega

lemma gives_reader (b : ByteArray) : Gives (.reader [.data b]) b .clean := by
  apply gives_of_outlook
  have houtlook : outlook (.reader [.data b]) = outlookOf (.reader defaultReadSize) [.data b] := rfl
  rw [houtlook, outlookOf]
  by_cases hb : b.isEmpty = true
  · rw [if_pos hb, Bytes.eq_empty_of_isEmpty hb]
  · rw [if_neg hb, outlookOf, ByteArray.append_empty]

lemma admits_lengthy (n : Nat) : agent.admits 0 (lengthy n) = true := by
  have hnonce : 0 < ByteArray.size ⟨.replicate Token.nonceSize 7⟩ := by decide
  have hskew : Token.skew 0 0 ≤ Token.maxSkew := by decide
  rw [admits, lengthy, Option.any_some]
  exact Token.Signing.acceptsAt_sign (k := agent.keyring) List.mem_cons_self hnonce hskew

lemma asks_lengthy {n : Nat} (hn : n + 105 ≤ maxBody) :
    Asks (framed (lengthy n).encode) (lengthy n) .empty := by
  have hl : Legal (lengthy n).encode.size := by
    rw [size_lengthy]
    exact ⟨by omega, hn⟩
  exact ⟨(lengthy n).encode, hl, ByteArray.append_empty.symm,
    decode_of_loweredIn (k := .tunnelRequest) hl lowered_empty⟩

lemma size_address_lengthy (n : Nat) : (addressOf (lengthy n)).utf8ByteSize = n + 3 := by
  have hcolons : (lengthy n).host.toList.contains ':' = false := by simp [lengthy]
  have haddress : addressOf (lengthy n) = (lengthy n).host ++ ":" ++ "80" := by
    have hport : toString (80 : UInt16) = "80" := by decide
    rw [addressOf, Target.text, if_neg (by rw [hcolons]; exact Bool.false_ne_true), ← hport]
    rfl
  have hcolon : ":".utf8ByteSize = 1 := by decide
  have hport : "80".utf8ByteSize = 2 := by decide
  rw [haddress, String.utf8ByteSize_append, String.utf8ByteSize_append, size_host, hcolon, hport]

lemma size_reply_asking {n : Nat} (hn : n + 105 ≤ maxBody) :
    (agent.decision 0 (asking n) fun _ => .failed unresolved).call.verdict.encode.size = n + 110 := by
  have hdecides := decides_decision (gives_reader (framed (lengthy n).encode)) agent 0
    fun _ => .failed unresolved
  have htext : unresolved.text.utf8ByteSize = 63 := by decide
  have hreply := size_of_failed hdecides (asks_lengthy hn) (admits_lengthy n) rfl
  rw [detail_connect, show unresolved.causes = [] from rfl] at hreply
  rw [asking, hreply]
  show 12 + ("Failed to connect to upstream " ++ addressOf (lengthy n) ++ ": " ++
    unresolved.text).utf8ByteSize = n + 110
  rw [size_said, size_address_lengthy, htext]
  omega

/-- A request of just the size that is allowed, and a refusal that is longer than that. -/
theorem reply_overflows :
    Legal (lengthy 8388503).encode.size ∧
    TunnelRequest.decode (lengthy 8388503).encode = .ok (lengthy 8388503) ∧
    agent.admits 0 (lengthy 8388503) = true ∧
    ¬ Legal (agent.decision 0 (asking 8388503) fun _ => .failed unresolved).call.verdict.encode.size := by
  have hl : Legal (lengthy 8388503).encode.size := by
    rw [size_lengthy]
    decide
  refine ⟨hl, decode_of_loweredIn (k := .tunnelRequest) hl lowered_empty, admits_lengthy _, ?_⟩
  rw [size_reply_asking (by decide)]
  decide

theorem reply_size_lengthy :
    let served := agent.handleTunnel 0 ⟨asking 8388503, {}⟩ fun _ => .failed unresolved
    served.sink = {} ∧ served.call.phase = .crashed (.frameBody 8388613) := by
  have hsize := size_reply_asking (n := 8388503) (by decide)
  obtain ⟨-, -, hcrashed, -⟩ := reply_size (gives_reader (framed (lengthy 8388503).encode)) agent 0
    (fun _ => .failed unresolved) {}
  obtain ⟨-, hsink, hphase⟩ := hcrashed (by
    show ¬ Legal (agent.decision 0 (asking 8388503) _).call.verdict.encode.size
    rw [hsize]
    decide)
  refine ⟨hsink, hphase.trans ?_⟩
  show CallPhase.crashed (.frameBody (agent.decision 0 (asking 8388503) _).call.verdict.encode.size) = _
  rw [hsize]

end TwoHop.Proofs.Agent.ReplySize
