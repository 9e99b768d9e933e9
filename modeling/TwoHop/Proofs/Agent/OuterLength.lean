import TwoHop.Proofs.Agent.Posting
import TwoHop.Proofs.Header.Decimals

/-! The length that a message between the agents announces is that of its frame and of the body
behind it, counted in 64 bits. -/

namespace TwoHop.Proofs.Agent.OuterLength

open TwoHop.Frame TwoHop.Flow TwoHop.Header
open Flow.Content Flow.Conservation Flow.Transport
open Scanner.Heading Header.Maps Header.Decimals
open Proofs.Bytes
open Chain (nearAgent nonce16)
open Exchange (outbound_eq carry_eq relay_of_found stored)
open Posting (relay_of_posted parcel legal_errand decode_errand parse_errand gives_parcel)

/-- A message of a frame, with a body of this length behind it if that is known. -/
structure Announces (frame : ByteArray) (length : Option Nat) (payload : Source) (headers : Map)
    (body : Body) : Prop where
  silent : length = none → headers.values "content-length" = []
  written : ∀ n, length = some n →
    headers.values "content-length" = [(toString ((frame.size + n) % UInt64.size)).toUTF8]
  read : ∀ n, length = some n → announcedLength headers = some ((frame.size + n) % UInt64.size)
  exact : ∀ n, length = some n →
    (announcedLength headers = some (frame.size + n) ↔ frame.size + n < UInt64.size)
  wrapped : ∀ n, length = some n → UInt64.size ≤ frame.size + n →
    ∃ m < frame.size, announcedLength headers = some m
  sent : ∀ bytes ending, Gives payload bytes ending → ∃ b e, Carries body b e ∧ Begins b frame ∧
    (length ≠ some 0 → b = frame ++ bytes ∧ e = ending) ∧
    ∀ n, length = some n → (b.size = frame.size + n ↔ n = 0 ∨ bytes.size = n)

variable {frame : ByteArray} {length : Option UInt64} {headers : Map} {payload : Source}

lemma toNat_outerLength (frame : ByteArray) (n : UInt64) :
    (outerLength frame n).toNat = (frame.size + n.toNat) % UInt64.size := by
  rw [outerLength, UInt64.toNat_add, Nat.toUInt64_eq, UInt64.toNat_ofNat', Nat.mod_add_mod]

lemma sent_framedBody {bytes : ByteArray} {ending : Ending} (hg : Gives payload bytes ending)
    (frame : ByteArray) (length : Option UInt64) :
    ∃ b e, Carries (framedBody frame length payload) b e ∧ Begins b frame ∧
      (length ≠ some 0 → b = frame ++ bytes ∧ e = ending) ∧
      ∀ n, length = some n → (b.size = frame.size + n.toNat ↔ n = 0 ∨ bytes.size = n.toNat) := by
  refine ⟨_, _, carries_framedBody hg frame length, begins_append _ _, ?_, ?_⟩
  · intro hl
    rw [sent, if_neg hl]
    exact ⟨rfl, rfl⟩
  · rintro n rfl
    by_cases hn : n = 0
    · subst hn
      simp [sent]
    · rw [sent, if_neg (by simpa using hn), ByteArray.size_append]
      simp [hn]

structure Marked (frame : ByteArray) (length : Option UInt64) (headers : Map) : Prop where
  unchunked : headers.contains "transfer-encoding" = false
  values : headers.values "content-length" =
    (length.map fun n => decimalBytes (outerLength frame n)).toList

lemma marked_outboundHeaders (token : Token) (frame : ByteArray) (length : Option UInt64) :
    Marked frame length (LocalAgent.outboundHeaders token frame length) where
  unchunked := by
    rw [Bool.eq_false_iff]
    cases length <;> simp [LocalAgent.outboundHeaders, tokenHeader, contains_append]
  values := by
    cases length <;> simp [LocalAgent.outboundHeaders, tokenHeader, values_append]

lemma marked_replyHeaders (frame : ByteArray) (length : Option UInt64) :
    Marked frame length (RemoteAgent.replyHeaders frame length) where
  unchunked := by cases length <;> simp [RemoteAgent.replyHeaders, Map.set, Map.empty, Map.contains]
  values := by cases length <;> simp [RemoteAgent.replyHeaders, Map.set, Map.empty, Map.values]

lemma announces_of_marked (h : Marked frame length headers) (hframe : frame.size < UInt64.size)
    (payload : Source) :
    Announces frame (length.map UInt64.toNat) payload headers (framedBody frame length payload) := by
  have hwritten (m : Nat) (hm : length.map UInt64.toNat = some m) :
      headers.values "content-length" = [(toString ((frame.size + m) % UInt64.size)).toUTF8] := by
    obtain ⟨n, hn, rfl⟩ := Option.map_eq_some_iff.mp hm
    rw [h.values, hn, Option.map_some, Option.toList_some, decimalBytes, toNat_outerLength]
  have hread (m : Nat) (hm : length.map UInt64.toNat = some m) :
      announcedLength headers = some ((frame.size + m) % UInt64.size) := by
    have hmax : (frame.size + m) % UInt64.size ≤ maxLength :=
      Nat.le_of_lt_succ (Nat.mod_lt _ (by decide))
    rw [announcedLength_of_plain (plain_toString _) h.unchunked (hwritten m hm), if_pos hmax]
  constructor
  case silent =>
    intro hnone
    rw [h.values, Option.map_eq_none_iff.mp hnone]
    rfl
  case written => exact hwritten
  case read => exact hread
  case exact =>
    intro m hm
    rw [hread m hm, Option.some.injEq]
    exact Nat.mod_eq_iff_lt (by decide)
  case wrapped =>
    intro m hm hbeyond
    have hlt : m < UInt64.size := by
      obtain ⟨n, -, rfl⟩ := Option.map_eq_some_iff.mp hm
      exact n.toNat_lt
    -- The count starts over once at most, as neither part alone gets that far.
    refine ⟨_, ?_, hread m hm⟩
    rw [Nat.mod_eq_sub_mod hbeyond, Nat.mod_eq_of_lt (by omega)]
    omega
  case sent =>
    intro bytes ending hg
    obtain ⟨b, e, hcarries, hbegins, hpayload, hsize⟩ := sent_framedBody hg frame length
    refine ⟨b, e, hcarries, hbegins, ?_, ?_⟩
    · intro hl
      apply hpayload
      rintro rfl
      exact hl rfl
    · intro m hm
      obtain ⟨n, hn, rfl⟩ := Option.map_eq_some_iff.mp hm
      rw [hsize n hn, ← UInt64.toNat_inj]
      rfl

lemma bodyLength_toNat (r : Browsed) :
    (LocalAgent.bodyLength r).map UInt64.toNat = announcedLength r.headers := by
  rw [LocalAgent.bodyLength, Option.map_map]
  cases h : announcedLength r.headers with
  | none => rfl
  | some n =>
    have hn : n < UInt64.size := Nat.lt_succ_of_le (announcedLength_le h)
    rw [Option.map_some, Function.comp_apply, Nat.toUInt64_eq, UInt64.toNat_ofNat_of_lt' hn]

lemma size_framed_lt {body : ByteArray} (hl : Legal body.size) :
    (framed body).size < UInt64.size := calc
  (framed body).size = headerSize + body.size := size_framed body
  _ ≤ headerSize + maxBody := Nat.add_le_add_left hl.2 _
  _ < UInt64.size := by decide

lemma announces_request (a : LocalAgent) (now : Int64) (nonce : ByteArray) {r : Browsed} {text : String}
    (hl : Legal (LocalAgent.envelope r text).encode.size) :
    ∃ out, a.outbound now nonce r text = .ok out ∧
      Announces (framed (LocalAgent.envelope r text).encode) (announcedLength r.headers) r.body
        out.headers out.body := by
  refine ⟨_, outbound_eq a now nonce hl, ?_⟩
  rw [← bodyLength_toNat]
  exact announces_of_marked (marked_outboundHeaders _ _ _) (size_framed_lt hl) r.body

lemma announces_response (method : Method) {response : Received}
    (hl : Legal (RemoteAgent.envelope response).encode.size) :
    ∃ reply, RemoteAgent.carry method response = .ok reply ∧
      Announces (framed (RemoteAgent.envelope response).encode)
        (if Bodyless method response.status then some 0 else response.length.map UInt64.toNat)
        response.body reply.headers reply.body := by
  have hlength : (RemoteAgent.payloadLength method response).map UInt64.toNat =
      if Bodyless method response.status then some 0 else response.length.map UInt64.toNat := by
    simp only [RemoteAgent.payloadLength, isBodyless_iff]
    split <;> rfl
  refine ⟨_, carry_eq method hl, ?_⟩
  rw [← hlength]
  exact announces_of_marked (marked_replyHeaders _ _) (size_framed_lt hl) response.body

lemma asked_handleRequest {a : LocalAgent} {now : Int64} {nonce : ByteArray} {r : Browsed} {text : String}
    (hexpect : LocalAgent.expectsOther r.headers = false)
    (htext : Destination.absoluteUri? r.uri r.headers = some text) (remote : Outbound → Answer) :
    (a.handleRequest now nonce r remote).asked = (a.outbound now nonce r text).toOption := by
  rw [LocalAgent.handleRequest, hexpect, htext, if_neg Bool.false_ne_true]
  dsimp only
  cases a.outbound now nonce r text <;> rfl

lemma fate_relay {inbound : Source} {destination : Outbound → Answer} {asked : Outbound}
    (h : (RemoteAgent.relay inbound destination).asked = some asked) :
    (RemoteAgent.relay inbound destination).fate =
      .ofExcept (RemoteAgent.conclude asked (destination asked)) := by
  cases hs : scan inbound with
  | waits s | failed f after =>
    rw [RemoteAgent.relay, hs] at h
    cases h
  | found frame rest =>
    cases ho : RemoteAgent.outbound frame rest with
    | error halt =>
      rw [RemoteAgent.relay, hs] at h
      dsimp only at h
      rw [ho] at h
      cases h
    | ok out =>
      obtain ⟨hasked, hfate⟩ := relay_of_found hs ho destination
      rw [hasked, Option.some.injEq] at h
      rw [hfate, h]

theorem outer_length (a : LocalAgent) (now : Int64) (nonce : ByteArray) (r : Browsed)
    (remote : Outbound → Answer) (inbound : Source) (destination : Outbound → Answer) :
    (∀ text, LocalAgent.expectsOther r.headers = false →
      Destination.absoluteUri? r.uri r.headers = some text →
      let envelope := (LocalAgent.envelope r text).encode
      let asked := (a.handleRequest now nonce r remote).asked
      (Legal envelope.size → ∃ out, asked = some out ∧
        Announces (framed envelope) (announcedLength r.headers) r.body out.headers out.body) ∧
      (¬ Legal envelope.size → asked = none)) ∧
    ∀ asked response,
      (RemoteAgent.relay inbound destination).asked = some asked →
      destination asked = .response response →
      let envelope := (RemoteAgent.envelope response).encode
      let fate := (RemoteAgent.relay inbound destination).fate
      (Legal envelope.size → ∃ reply, fate = .replied reply ∧
        Announces (framed envelope) (if Bodyless asked.method response.status then some 0
          else response.length.map UInt64.toNat) response.body reply.headers reply.body) ∧
      (¬ Legal envelope.size → fate = .crashed (.frameBody envelope.size)) := by
  refine ⟨?_, ?_⟩
  · intro text hexpect htext envelope asked
    have hasked : asked = (a.outbound now nonce r text).toOption :=
      asked_handleRequest hexpect htext remote
    refine ⟨?_, ?_⟩
    · intro hl
      obtain ⟨out, hout, hannounces⟩ := announces_request a now nonce hl
      rw [hasked, hout]
      exact ⟨out, rfl, hannounces⟩
    · intro hl
      rw [hasked, LocalAgent.outbound, encode_of_illegal hl]
      rfl
  · intro asked response hasked hresponse envelope fate
    have hfate : fate = .ofExcept (orCrash (RemoteAgent.carry asked.method response)) := by
      rw [show fate = _ from fate_relay hasked, hresponse]
      rfl
    refine ⟨?_, ?_⟩
    · intro hl
      obtain ⟨reply, hreply, hannounces⟩ := announces_response asked.method hl
      rw [hfate, hreply]
      exact ⟨reply, rfl, hannounces⟩
    · intro hl
      rw [hfate, RemoteAgent.carry, encode_of_illegal hl]
      rfl

def vast : Browsed where
  method := .post
  uri := ⟨none, none, "/up"⟩
  headers := ⟨#[⟨"host", #["db".toUTF8]⟩, ⟨"content-length", #["18446744073709551613".toUTF8]⟩]⟩

lemma legal_vast : Legal (LocalAgent.envelope vast "http://db/up").encode.size := by decide +kernel

/-- The message is announced as shorter than its frame. -/
theorem outer_length_wraps : announcedLength vast.headers = some 18446744073709551613 ∧
    (framed (LocalAgent.envelope vast "http://db/up").encode).size = 86 ∧
    ∃ out, nearAgent.outbound 0 nonce16 vast "http://db/up" = .ok out ∧
      announcedLength out.headers = some 83 := by
  have hsize : (framed (LocalAgent.envelope vast "http://db/up").encode).size = 86 := by
    decide +kernel
  have hlength : announcedLength vast.headers = some 18446744073709551613 := by decide +kernel
  obtain ⟨out, hout, hannounces⟩ := announces_request nearAgent 0 nonce16 legal_vast
  have hread := hannounces.read _ hlength
  rw [hsize] at hread
  exact ⟨hlength, hsize, out, hout, hread⟩

theorem outer_length_vast :
    (∃ out, (nearAgent.handleRequest 0 nonce16 vast fun _ => .timedOut).asked = some out ∧
      ∃ m < 86, announcedLength out.headers = some m) ∧
    ∃ reply, (RemoteAgent.relay parcel fun _ => .response stored).fate = .replied reply ∧
      announcedLength reply.headers = some (framed (RemoteAgent.envelope stored).encode).size := by
  obtain ⟨hrequest, hresponse⟩ := outer_length nearAgent 0 nonce16 vast (fun _ => .timedOut) parcel
    fun _ => .response stored
  refine ⟨?_, ?_⟩
  · have hsize : (framed (LocalAgent.envelope vast "http://db/up").encode).size = 86 := by
      decide +kernel
    have hlength : announcedLength vast.headers = some 18446744073709551613 := by decide +kernel
    obtain ⟨hserved, -⟩ := hrequest "http://db/up" (by decide) (by decide +kernel)
    obtain ⟨out, hout, hannounces⟩ := hserved legal_vast
    obtain ⟨m, hm, hread⟩ := hannounces.wrapped _ hlength (by rw [hsize]; decide)
    rw [hsize] at hm
    exact ⟨out, hout, m, hm, hread⟩
  · obtain ⟨-, hasked⟩ :=
      relay_of_posted decode_errand parse_errand legal_errand gives_parcel fun _ => .response stored
    obtain ⟨out, hout, hmethod, -⟩ := hasked .empty (by decide)
    obtain ⟨hreplied, -⟩ := hresponse out stored hout rfl
    obtain ⟨reply, hreply, hannounces⟩ := hreplied (by decide +kernel)
    have hbodyless : Bodyless out.method stored.status := Or.inl hmethod
    have hread := hannounces.read 0 (if_pos hbodyless)
    rw [Nat.add_zero, Nat.mod_eq_of_lt (size_framed_lt (by decide +kernel))] at hread
    exact ⟨reply, hreply, hread⟩

end TwoHop.Proofs.Agent.OuterLength
