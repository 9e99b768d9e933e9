import TwoHop.Proofs.Agent.Exchange
import TwoHop.Proofs.Fault.Reporting
import TwoHop.Proofs.Header.Lengths
import TwoHop.Proofs.Token.Spelling

/-! What becomes of a request that is posted to the remote agent. It is turned away unread, or it is
answered out of the frame at the front of its body. -/

namespace TwoHop.Proofs.Agent.Posting

open TwoHop.Frame TwoHop.Flow TwoHop.Header TwoHop.RemoteAgent
open Flow.Content Flow.Scanning Flow.Hearing Flow.Conservation Flow.Transport
open Scanner.Heading Scanner.Fragmentation Header.Values Header.Lengths Wire.Fields Wire.Values Wire.RoundTrip
open Token.Signing Token.Spelling
open Chain (nearAgent farAgent nonce16 size_token size_renderChain size_append_pos isEmpty_of_size_pos)
open Exchange (decode_response_of_legal carry_eq)
open Fault.Reporting (status_toFault)

structure Admitted (a : RemoteAgent) (now : Int64) (method : Method) (headers : Map) : Prop where
  posted : method = .post
  accepted : ∃ value text, headers.get? "x-deadbeef-auth" = some value ∧
    value.data.all Text.isVisible = true ∧ String.fromUTF8? value = some text ∧
    a.keyring.acceptsHeaderAt (some text) now = true

def turnedAway (method : Method) : Reply where
  status := if method = .post then .authenticationRequired else .methodNotAllowed

variable {a : RemoteAgent} {now : Int64} {method : Method} {headers : Map}

lemma text?_eq_some_iff {name text : String} : headers.text? name = some text ↔
    ∃ value, headers.get? name = some value ∧ value.data.all Text.isVisible = true ∧
      String.fromUTF8? value = some text := by
  rw [Map.text?]
  cases headers.get? name with
  | none => simp
  | some value => simp

lemma refusal?_eq_none_iff : a.refusal? now method headers = none ↔ Admitted a now method headers := by
  constructor
  · intro h
    rw [refusal?] at h
    split at h
    · cases h
    · next hpost =>
      split at h
      · next haccepts =>
        cases htext : headers.text? tokenHeader with
        | none =>
          rw [htext] at haccepts
          cases haccepts
        | some text =>
          rw [htext] at haccepts
          obtain ⟨value, hvalue⟩ := text?_eq_some_iff.mp htext
          exact ⟨not_not.mp hpost, value, text, hvalue.1, hvalue.2.1, hvalue.2.2, haccepts⟩
      · cases h
  · rintro ⟨rfl, value, text, hget, hvisible, htext, haccepts⟩
    have htext : headers.text? tokenHeader = some text :=
      text?_eq_some_iff.mpr ⟨value, hget, hvisible, htext⟩
    rw [refusal?, htext, if_neg (not_not.mpr rfl), if_pos haccepts]

lemma refusal?_of_not_admitted (h : ¬ Admitted a now method headers) :
    a.refusal? now method headers = some (turnedAway method).status := by
  cases hr : a.refusal? now method headers with
  | none => exact absurd (refusal?_eq_none_iff.mp hr) h
  | some status =>
    rw [refusal?] at hr
    rw [turnedAway]
    split at hr
    · next hpost =>
      cases hr
      rw [if_neg hpost]
    · next hpost =>
      rw [if_pos (not_not.mp hpost)]
      split at hr <;> cases hr
      rfl

variable {body : Source} {destination : Outbound → Answer}

lemma handleRequest_of_not_admitted (h : ¬ Admitted a now method headers) :
    a.handleRequest now method headers body destination =
      { fate := .replied (turnedAway method), body } := by
  rw [handleRequest, refusal?_of_not_admitted h]
  rfl

lemma handleRequest_of_admitted (h : Admitted a now method headers) :
    a.handleRequest now method headers body destination = relay body destination := by
  rw [handleRequest, refusal?_eq_none_iff.mpr h]

lemma admitted_sign {s : Secret} (hs : s ∈ a.keyring.secrets) {signed : Int64} {nonce : ByteArray}
    (hnonce : 0 < nonce.size) (hskew : Token.skew now signed ≤ Token.maxSkew)
    (hl : Legal (s.sign signed nonce).encode.size)
    (hget : headers.get? "x-deadbeef-auth" = some (s.sign signed nonce).headerText.toUTF8) :
    Admitted a now .post headers where
  posted := rfl
  accepted := by
    refine ⟨_, _, hget, visible_encode _, fromUTF8?_eq_some_iff.mpr rfl, ?_⟩
    rw [Keyring.acceptsHeaderAt, Option.bind_some, ofHeaderText?_headerText hl]
    exact acceptsAt_sign hs hnonce hskew

def complaint (status : Status) (text : String) : Reply where
  status := status
  headers := Map.empty.set "content-type" "text/plain; charset=utf-8".toUTF8
  body := .whole text.toUTF8

lemma size_text_pos (f : Fault) : 0 < f.text.utf8ByteSize := by
  unfold Fault.text
  cases f with
  | frame | auth | protocol | sinkWrite | decode | io =>
    refine size_append_pos ?_ _
    decide
  | prematureEnd =>
    refine size_append_pos (size_append_pos (size_append_pos (size_append_pos ?_ _) _) _) _
    decide
  | connect =>
    refine size_append_pos (size_append_pos (size_append_pos ?_ _) _) _
    decide
  | timeout =>
    refine size_append_pos (size_append_pos ?_ _) _
    decide
  | handoverReused => decide

lemma ofFault_eq (f : Fault) : Reply.ofFault f = complaint f.status f.detail := by
  have hdetail : f.detail.isEmpty = false := by
    apply isEmpty_of_size_pos
    exact Nat.lt_of_lt_of_le (size_text_pos f) (size_renderChain f.text f.causes)
  rw [Reply.ofFault, Reply.ofText, hdetail]
  rfl

def Posts (bytes : ByteArray) (r : Request) (rest : ByteArray) : Prop :=
  ∃ frame, Legal frame.size ∧ bytes = framed frame ++ rest ∧ Request.decode frame = .ok r

def cutShort? (received expected : Nat) : Ending → Option Fault
  | .clean => some (.prematureEnd received expected)
  | .fault e => some (.io e)
  | .silent => none

inductive Garbled (bytes : ByteArray) (ending : Ending) : Fault → Prop
  | heading {e : FrameFault} : headerSize ≤ bytes.size → parseHeader bytes = .error e →
      Garbled bytes ending (.frame e)
  | shortHeading {f : Fault} : bytes.size < headerSize →
      cutShort? bytes.size headerSize ending = some f → Garbled bytes ending f
  | shortBody {n : Nat} {f : Fault} : parseHeader bytes = .ok n → bytes.size < size n →
      cutShort? bytes.size (size n) ending = some f → Garbled bytes ending f
  | message {frame rest : ByteArray} {e : DecodeFault} : Legal frame.size →
      bytes = framed frame ++ rest → Request.decode frame = .error e →
      Garbled bytes ending (.decode e)
  | uri {r : Request} {rest : ByteArray} {e : UriFault} : Posts bytes r rest →
      Uri.parse r.absoluteUri = .error e →
      Garbled bytes ending (.decode (.invalidUri r.absoluteUri e))

inductive Torn (bytes : ByteArray) (ending : Ending) : Fault → Prop
  | heading {e : FrameFault} : headerSize ≤ bytes.size → parseHeader bytes = .error e →
      Torn bytes ending (.frame e)
  | shortHeading {f : Fault} : bytes.size < headerSize →
      cutShort? bytes.size headerSize ending = some f → Torn bytes ending f
  | shortBody {n : Nat} {f : Fault} : parseHeader bytes = .ok n → bytes.size < size n →
      cutShort? bytes.size (size n) ending = some f → Torn bytes ending f

def Unfinished (bytes : ByteArray) (ending : Ending) : Prop :=
  ending = .silent ∧
    (bytes.size < headerSize ∨ ∃ n, parseHeader bytes = .ok n ∧ bytes.size < size n)

def Passes (bytes : ByteArray) (ending : Ending) (out : Outbound) : Prop :=
  ∃ r rest, Posts bytes r rest ∧ out.method = r.method ∧ Uri.parse r.absoluteUri = .ok out.uri ∧
    r.headers.removeHopByHop.toMap = .ok out.headers ∧ Carries out.body rest ending

structure Brings (method : Method) (response : Received) (reply : Reply) : Prop where
  status : reply.status = .ok
  type : reply.headers.get? "content-type" = some "application/octet-stream".toUTF8
  head : Response.decode (envelope response).encode = .ok (envelope response)
  body : ∀ {content : ByteArray} {ending : Ending}, Gives response.body content ending →
    Carries reply.body
      (framed (envelope response).encode ++ (sent (payloadLength method response) (content, ending)).1)
      (sent (payloadLength method response) (content, ending)).2

inductive Answered (destination : Outbound → Answer) (bytes : ByteArray) (ending : Ending) :
    Fate → Option Outbound → Prop
  | unfinished : Unfinished bytes ending → Answered destination bytes ending .waiting none
  | garbled {f : Fault} : Garbled bytes ending f →
      Answered destination bytes ending (.replied (complaint .badGateway f.detail)) none
  | failed {out : Outbound} {f : Fault} : Passes bytes ending out →
      (destination out).get out.uri.text = .error f →
      f.status = .badGateway ∨ f.status = .gatewayTimeout →
      Answered destination bytes ending (.replied (complaint f.status f.detail)) (some out)
  | brought {out : Outbound} {response : Received} {reply : Reply} : Passes bytes ending out →
      destination out = .response response → Brings out.method response reply →
      Answered destination bytes ending (.replied reply) (some out)

variable {bytes rest : ByteArray} {ending : Ending} {out : Outbound} {r : Request} {f : Fault}

lemma verdict_of_posts (h : Posts bytes r rest) :
    ∃ frame, verdict bytes = some (.ok ⟨frame, rest⟩) ∧ Request.decode frame = .ok r := by
  obtain ⟨frame, hl, rfl, hd⟩ := h
  exact ⟨frame, verdict_framed rest hl, hd⟩

lemma posts_unique {r' : Request} {rest' : ByteArray} (h : Posts bytes r rest)
    (h' : Posts bytes r' rest') : r = r' ∧ rest = rest' := framed_unique h h'

lemma not_garbled_of_posts {uri : Uri} (h : Posts bytes r rest)
    (hu : Uri.parse r.absoluteUri = .ok uri) : ¬ Garbled bytes ending f := by
  obtain ⟨frame, hv, hd⟩ := verdict_of_posts h
  intro hg
  cases hg with
  | heading hs hp =>
    rw [verdict_bad hs hp] at hv
    cases hv
  | shortHeading hs =>
    rw [verdict_short hs] at hv
    cases hv
  | shortBody hp hn =>
    rw [verdict_partial hp hn] at hv
    cases hv
  | message hl hbytes hd' =>
    rw [hbytes, verdict_framed _ hl] at hv
    cases hv
    rw [hd'] at hd
    cases hd
  | uri h' hu' =>
    obtain ⟨rfl, -⟩ := posts_unique h h'
    rw [hu'] at hu
    cases hu

lemma garbled_of_torn (h : Torn bytes ending f) : Garbled bytes ending f := by
  cases h with
  | heading hs hp => exact .heading hs hp
  | shortHeading hs hf => exact .shortHeading hs hf
  | shortBody hp hn hf => exact .shortBody hp hn hf

lemma torn_of_verdict_none (hv : verdict bytes = none)
    (hf : cutShort? bytes.size (holding bytes).expected ending = some f) : Torn bytes ending f := by
  rcases verdict_eq_none hv with hs | ⟨n, hp, hn⟩
  · rw [holding_short hs] at hf
    exact .shortHeading hs hf
  · rw [holding_partial hp] at hf
    exact .shortBody hp hn hf

def Scans (bytes : ByteArray) (ending : Ending) : ScanResult → Prop
  | .waits _ => Unfinished bytes ending
  | .failed f _ => Torn bytes ending f
  | .found frame h => ∃ remaining after, h = .make remaining after ∧ Legal frame.size ∧
      bytes = framed frame ++ (remaining ++ (outlook after).1) ∧ (outlook after).2 = ending

lemma scans_scan (hg : Gives body bytes ending) : Scans bytes ending (scan body) := by
  have he := explained_scan body
  rw [outlook_of_gives hg] at he
  generalize scan body = result at he ⊢
  cases result with
  | waits s =>
    obtain ⟨hv, hend⟩ := he
    exact ⟨hend, verdict_eq_none hv⟩
  | failed f after =>
    rcases he with ⟨e, hv, rfl⟩ | ⟨hv, ⟨hend, rfl⟩ | ⟨e, hend, rfl⟩⟩
    · obtain ⟨hs, hp⟩ := verdict_eq_error hv
      exact .heading hs hp
    · dsimp only at hv hend
      subst hend
      exact torn_of_verdict_none hv rfl
    · dsimp only at hv hend
      subst hend
      exact torn_of_verdict_none hv rfl
  | found frame h =>
    obtain ⟨remaining, after, rfl, hv, hend⟩ := he
    obtain ⟨hl, hbytes⟩ := frame_of_verdict hv
    exact ⟨remaining, after, rfl, hl, hbytes, hend⟩

lemma status_of_cutShort? {received expected : Nat} (h : cutShort? received expected ending = some f) :
    f.status = .badGateway := by
  cases ending with
  | clean | fault e =>
    cases h
    rfl
  | silent => cases h

lemma status_of_torn (h : Torn bytes ending f) : f.status = .badGateway := by
  cases h with
  | heading => rfl
  | shortHeading _ hf | shortBody _ _ hf => exact status_of_cutShort? hf

lemma status_of_garbled (h : Garbled bytes ending f) : f.status = .badGateway := by
  cases h with
  | heading | message | uri => rfl
  | shortHeading _ hf | shortBody _ _ hf => exact status_of_cutShort? hf

lemma outbound_make {frame : ByteArray} (hd : Request.decode frame = .ok r) (remaining : ByteArray)
    (after : Source) :
    ∃ b, Carries b (remaining ++ (outlook after).1) (outlook after).2 ∧
      outbound frame (.make remaining after) = (readUri r.absoluteUri >>= fun uri =>
        orCrash r.headers.removeHopByHop.toMap >>= fun headers =>
          pure ⟨r.method, uri, headers, b⟩) := by
  obtain ⟨b, hb, hcarries⟩ :=
    carries_make (rfl : (remaining ++ (outlook after).1, (outlook after).2) = _) {} {}
  refine ⟨b, hcarries, ?_⟩
  rw [outbound, hd, hb]
  rfl

lemma relay_of_posted {frame : ByteArray} {uri : Uri} (hd : Request.decode frame = .ok r)
    (hu : Uri.parse r.absoluteUri = .ok uri) (hl : Legal frame.size)
    (hg : Gives body (framed frame ++ rest) ending) (destination : Outbound → Answer) :
    (∀ c, r.headers.removeHopByHop.toMap = .error c → (relay body destination).asked = none ∧
      (relay body destination).fate = .crashed c) ∧
    ∀ m, r.headers.removeHopByHop.toMap = .ok m → ∃ out, (relay body destination).asked = some out ∧
      out.method = r.method ∧ out.uri = uri ∧ out.headers = m := by
  obtain ⟨remaining, after, hs, -⟩ := scan_framed hg hl
  obtain ⟨b, -, hout⟩ := outbound_make hd remaining after
  rw [readUri, hu] at hout
  rw [relay, hs]
  dsimp only
  refine ⟨?_, ?_⟩
  · intro c hc
    rw [hc] at hout
    rw [show outbound frame (.make remaining after) = .error (.crash c) from hout]
    exact ⟨rfl, rfl⟩
  · intro m hm
    rw [hm] at hout
    rw [show outbound frame (.make remaining after) = .ok ⟨r.method, uri, m, b⟩ from hout]
    exact ⟨_, rfl, rfl, rfl, rfl⟩

def Found (bytes : ByteArray) (ending : Ending) : Except Halt Outbound → Prop
  | .ok out => Passes bytes ending out
  | .error (.fault f) => Garbled bytes ending f
  | .error (.crash _) => ∃ r rest, Posts bytes r rest ∧ Headers.maxMapPairs < r.headers.size
  | .error .silence => False

lemma found_outbound {frame remaining : ByteArray} {after : Source} (hl : Legal frame.size)
    (hbytes : bytes = framed frame ++ (remaining ++ (outlook after).1))
    (hend : (outlook after).2 = ending) : Found bytes ending (outbound frame (.make remaining after)) := by
  cases hd : Request.decode frame with
  | error e =>
    rw [outbound, hd]
    exact Garbled.message hl hbytes hd
  | ok r =>
    have hposts : Posts bytes r (remaining ++ (outlook after).1) := ⟨frame, hl, hbytes, hd⟩
    obtain ⟨b, hcarries, hout⟩ := outbound_make hd remaining after
    -- What is left to go wrong is the URI, and then the number of the headers.
    rw [hout, readUri]
    cases huri : Uri.parse r.absoluteUri with
    | error e => exact Garbled.uri hposts huri
    | ok uri =>
      cases hmap : r.headers.removeHopByHop.toMap with
      | error c =>
        refine ⟨r, _, hposts, ?_⟩
        by_contra hfew
        have hsize := Nat.le_trans (size_removeHopByHop_le r.headers) (Nat.not_lt.mp hfew)
        rw [Headers.toMap, if_neg (Nat.not_lt.mpr hsize)] at hmap
        cases hmap
      | ok headers =>
        rw [hend] at hcarries
        exact ⟨r, _, hposts, rfl, huri, hmap, hcarries⟩

def Read (bytes : ByteArray) (ending : Ending) : ScanResult → Prop
  | .waits _ => Unfinished bytes ending
  | .failed f _ => Garbled bytes ending f
  | .found frame rest => Found bytes ending (outbound frame rest)

lemma read_scan (hg : Gives body bytes ending) : Read bytes ending (scan body) := by
  have hscan := scans_scan hg
  generalize scan body = result at hscan ⊢
  cases result with
  | waits s => exact hscan
  | failed f after => exact garbled_of_torn hscan
  | found frame h =>
    obtain ⟨remaining, after, rfl, hl, hbytes, hend⟩ := hscan
    exact found_outbound hl hbytes hend

lemma passes_of_asked (hg : Gives body bytes ending) (h : (relay body destination).asked = some out) :
    Passes bytes ending out := by
  have hread := read_scan hg
  rw [relay] at h
  generalize scan body = result at hread h
  cases result with
  | waits s | failed f after => cases h
  | found frame rest =>
    dsimp only [Read] at hread h
    generalize outbound frame rest = asked at hread h
    cases asked with
    | error e => cases h
    | ok out =>
      cases h
      exact hread

def headLength (response : Received) : Nat :=
  (response.phrase.map ByteArray.size).getD 0 + linesOf response.headers.toList

def maxHead : Nat := 1048576

/-- A client reads the head of a response into a buffer of some 400 kilobytes, and hands nothing over
that does not fit. -/
def Bounded (destination : Outbound → Answer) : Prop :=
  ∀ out response, destination out = .response response → headLength response ≤ maxHead

variable {response : Received}

lemma size_usual_le (s : Status) : ∀ phrase ∈ s.phrase?, phrase.toUTF8.size ≤ 31 := by
  intro phrase h
  unfold Status.phrase? at h
  split at h <;> cases h <;> decide

lemma size_phrase_le (response : Received) : ∀ phrase ∈ phrase? response,
    phrase.toUTF8.size ≤ 31 + (response.phrase.map ByteArray.size).getD 0 := by
  intro phrase h
  rw [phrase?] at h
  cases hown : response.phrase.bind String.fromUTF8? with
  | none =>
    rw [hown] at h
    exact Nat.le_add_right_of_le (size_usual_le response.status phrase h)
  | some own =>
    rw [hown] at h
    cases h
    obtain ⟨bytes, hbytes, htext⟩ := Option.bind_eq_some_iff.mp hown
    rw [hbytes, fromUTF8?_eq_some_iff.mp htext]
    exact Nat.le_add_left _ _

lemma size_response (r : Response) : r.encode.size =
    12 + (r.statusMessage.map fun m => 5 + m.toUTF8.size).getD 0 + r.headers.encode.size := by
  rw [Response.encode, Response.fields]
  cases r.statusMessage with
  | none => 
    simp only [Option.map_none, Option.toList_none, List.nil_append, size_encodeAll_cons,
      encodeAll_nil, Field.ofNat, Bytes.size_bigEndian, Field.headSize, ByteArray.size_empty,
      Option.getD_none]
    omega
  | some m =>
    simp only [Option.map_some, Option.toList_some, List.singleton_append, size_encodeAll_cons,
      encodeAll_nil, Field.ofNat, Field.ofText, Bytes.size_bigEndian, Field.headSize,
      ByteArray.size_empty, Option.getD_some]
    omega

lemma legal_of_bounded (h : headLength response ≤ maxHead) : Legal (envelope response).encode.size := by
  have hheaders : (envelope response).headers.encode.size ≤ 4 * linesOf response.headers.toList :=
    size_relayed_le response.headers
  have hphrase := size_phrase_le response
  have hsize := size_response (envelope response)
  rw [show (envelope response).statusMessage = phrase? response from rfl] at hsize
  rw [headLength, maxHead] at h
  rw [Legal, maxBody]
  cases hp : phrase? response with
  | none =>
    rw [hp, Option.map_none, Option.getD_none] at hsize
    omega
  | some phrase =>
    have hphrase := hphrase phrase hp
    rw [hp, Option.map_some, Option.getD_some] at hsize
    omega

lemma type_replyHeaders (frame : ByteArray) (length : Option UInt64) :
    (replyHeaders frame length).get? "content-type" = some "application/octet-stream".toUTF8 := by
  cases length <;> simp [replyHeaders, Map.set, Map.empty, Map.get?, Map.values, octets]

lemma brings_of_bounded (method : Method) (h : headLength response ≤ maxHead) :
    ∃ reply, carry method response = .ok reply ∧ Brings method response reply := by
  have hl := legal_of_bounded h
  exact ⟨_, carry_eq method hl, rfl, type_replyHeaders _ _, decode_response_of_legal hl,
    fun hg => carries_framedBody hg _ _⟩

lemma fate_of_get {answer : Answer} (h : answer.get out.uri.text = .error f) :
    Fate.ofExcept (conclude out answer) = .replied (complaint f.status f.detail) := by
  rw [conclude, h, ← ofFault_eq]
  rfl

lemma status_of_get {answer : Answer} {target : String} (h : answer.get target = .error f) :
    f.status = .badGateway ∨ f.status = .gatewayTimeout := by
  cases answer with
  | response r => cases h
  | timedOut =>
    cases h
    exact Or.inr rfl
  | failed e =>
    cases h
    exact status_toFault target e

lemma answered_relay (hg : Gives body bytes ending)
    (hfew : ∀ r rest, Posts bytes r rest → r.headers.size ≤ Headers.maxMapPairs)
    (hb : Bounded destination) : Answered destination bytes ending (relay body destination).fate
      (relay body destination).asked := by
  have hread := read_scan hg
  rw [relay]
  generalize scan body = result at hread ⊢
  cases result with
  | waits s => exact .unfinished hread
  | failed f after =>
    dsimp only [Read] at hread ⊢
    rw [ofFault_eq, status_of_garbled hread]
    exact .garbled hread
  | found frame rest =>
    dsimp only [Read] at hread ⊢
    generalize outbound frame rest = asked at hread ⊢
    cases asked with
    | error halt =>
      cases halt with
      | fault f =>
        dsimp only [Fate.ofExcept, Found] at hread ⊢
        rw [ofFault_eq, status_of_garbled hread]
        exact .garbled hread
      | crash c =>
        obtain ⟨r, rest, hposts, hmany⟩ := hread
        exact absurd (hfew r rest hposts) (Nat.not_le.mpr hmany)
      | silence => exact hread.elim
    | ok out =>
      dsimp only
      cases hget : (destination out).get out.uri.text with
      | error f =>
        rw [fate_of_get hget]
        exact .failed hread hget (status_of_get hget)
      | ok response =>
        have hresponse : destination out = .response response := by
          cases hd : destination out with
          | response r =>
            rw [hd] at hget
            cases hget
            rfl
          | failed e | timedOut =>
            rw [hd] at hget
            cases hget
        obtain ⟨reply, hcarry, hbrings⟩ := brings_of_bounded out.method (hb out response hresponse)
        have hfate : Fate.ofExcept (conclude out (destination out)) = .replied reply := by
          rw [conclude, hget]
          show Fate.ofExcept (orCrash (carry out.method response)) = _
          rw [hcarry]
          rfl
        rw [hfate]
        exact .brought hread hresponse hbrings

theorem request_leg (a : RemoteAgent) (now : Int64) (method : Method) (headers : Map)
    (body : Source) (destination : Outbound → Answer) :
    let served := a.handleRequest now method headers body destination
    (served.body ≠ body ∨ served.asked ≠ none → Admitted a now method headers) ∧
    (¬ Admitted a now method headers →
      served = { fate := .replied (turnedAway method), body } ∧
      ∀ (a' : RemoteAgent) (now' : Int64) (headers' : Map) (body' : Source)
        (destination' : Outbound → Answer), ¬ Admitted a' now' method headers' →
        (a'.handleRequest now' method headers' body' destination').fate = served.fate) ∧
    ∀ bytes ending, Gives body bytes ending →
      (∀ out, served.asked = some out → Passes bytes ending out) ∧
      (Admitted a now method headers →
        (∀ r rest, Posts bytes r rest → r.headers.size ≤ Headers.maxMapPairs) →
        Bounded destination → Answered destination bytes ending served.fate served.asked) := by
  intro served
  have hrefused (h : ¬ Admitted a now method headers) :
      served = { fate := .replied (turnedAway method), body } := handleRequest_of_not_admitted h
  have honly (h : served.body ≠ body ∨ served.asked ≠ none) : Admitted a now method headers := by
    by_contra hnot
    rw [hrefused hnot] at h
    rcases h with h | h <;> exact h rfl
  refine ⟨honly, ?_, ?_⟩
  · intro h
    refine ⟨hrefused h, ?_⟩
    intro a' now' headers' body' destination' h'
    rw [hrefused h, handleRequest_of_not_admitted h']
  · intro bytes ending hg
    refine ⟨?_, ?_⟩
    · intro out hout
      have hadmitted := honly (.inr (by rw [hout]; simp))
      rw [show served = _ from handleRequest_of_admitted hadmitted] at hout
      exact passes_of_asked hg hout
    · intro hadmitted hfew hb
      rw [show served = _ from handleRequest_of_admitted hadmitted]
      exact answered_relay hg hfew hb

lemma answered_late {uri : Uri} (h : Posts bytes r rest) (hu : Uri.parse r.absoluteUri = .ok uri)
    {fate : Fate} {asked : Option Outbound}
    (ha : Answered (fun _ => .timedOut) bytes .clean fate asked) :
    (∃ out, asked = some out ∧ out.method = r.method ∧ out.uri = uri) ∧
      fate = .replied (complaint .gatewayTimeout (Fault.timeout uri.text).detail) := by
  cases ha with
  | unfinished hunfinished => cases hunfinished.1
  | garbled hg => exact absurd hg (not_garbled_of_posts h hu)
  | brought _ hresponse => cases hresponse
  | @failed out f hpasses hfault =>
    obtain ⟨r', rest', hposts, hmethod, hparsed, -⟩ := hpasses
    obtain ⟨rfl, -⟩ := posts_unique h hposts
    rw [hu, Except.ok.injEq] at hparsed
    cases hfault
    exact ⟨⟨out, rfl, hmethod, hparsed.symm⟩, by rw [← hparsed]; rfl⟩

def errand : Request := { method := .head, absoluteUri := "http://db/", headers := .empty }

def parcel : Source where
  kind := .body true
  items := [.data (framed errand.encode ++ [1].toByteArray)]

def credentials : Map :=
  Map.empty.append "x-deadbeef-auth" (nearAgent.secret.sign 0 nonce16).headerText.toUTF8

lemma legal_errand : Legal errand.encode.size := by decide

lemma decode_errand : Request.decode errand.encode = .ok errand :=
  decode_of_loweredIn (k := .request) legal_errand lowered_empty

lemma parse_errand : Uri.parse errand.absoluteUri = .ok ⟨some "http", some "db", "/"⟩ := by
  decide +kernel

lemma gives_parcel : Gives parcel (framed errand.encode ++ [1].toByteArray) .clean :=
  gives_of_outlook (by simp [parcel, outlook, outlookOf])

lemma posts_parcel : Posts (framed errand.encode ++ [1].toByteArray) errand [1].toByteArray :=
  ⟨errand.encode, legal_errand, rfl, decode_errand⟩

theorem request_leg_errand :
    (∃ out, (farAgent.handleRequest 1 .post credentials parcel fun _ => .timedOut).asked = some out ∧
      out.method = .head ∧ out.uri = ⟨some "http", some "db", "/"⟩) ∧
    (farAgent.handleRequest 1 .post credentials parcel fun _ => .timedOut).fate =
      .replied (complaint .gatewayTimeout (Fault.timeout "http://db/").detail) ∧
    farAgent.handleRequest 1 .post .empty parcel (fun _ => .timedOut) =
      { fate := .replied (turnedAway .post), body := parcel } := by
  have hget : credentials.get? "x-deadbeef-auth" =
      some (nearAgent.secret.sign 0 nonce16).headerText.toUTF8 := by
    simp [credentials, Map.append, Map.empty, Map.get?, Map.values]
  have hadmitted : Admitted farAgent 1 .post credentials := by
    refine admitted_sign (List.mem_singleton.mpr rfl) (by decide) (by decide) ?_ hget
    rw [size_token]
    decide
  have hstranger : ¬ Admitted farAgent 1 .post .empty := by
    rintro ⟨-, value, text, hget, -⟩
    cases hget
  have hfew : ∀ r rest, Posts (framed errand.encode ++ [1].toByteArray) r rest →
      r.headers.size ≤ Headers.maxMapPairs := by
    intro r rest h
    obtain ⟨rfl, -⟩ := posts_unique posts_parcel h
    decide
  obtain ⟨-, hrefused, -⟩ := request_leg farAgent 1 .post .empty parcel fun _ => .timedOut
  obtain ⟨-, -, hserved⟩ := request_leg farAgent 1 .post credentials parcel fun _ => .timedOut
  have hanswered := (hserved _ _ gives_parcel).2 hadmitted hfew fun _ _ h => by cases h
  obtain ⟨hasked, hfate⟩ := answered_late posts_parcel parse_errand hanswered
  rw [show (Uri.text ⟨some "http", some "db", "/"⟩) = "http://db/" by decide +kernel] at hfate
  exact ⟨hasked, hfate, (hrefused hstranger).1⟩

end TwoHop.Proofs.Agent.Posting
