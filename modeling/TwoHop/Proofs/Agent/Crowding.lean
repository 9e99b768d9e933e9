import TwoHop.Proofs.Agent.Posting
import TwoHop.Proofs.Header.Capacity

/-! An agent whose peer sends more headers than a map holds crashes, and so does the exchange. With
fewer headers none of their names or values do any harm. -/

namespace TwoHop.Proofs.Agent.Crowding

open TwoHop.Frame TwoHop.Flow TwoHop.Header TwoHop.RemoteAgent
open Flow.Content Flow.Hearing Flow.Conservation
open Scanner.Heading Header.Values Header.Lengths Header.Capacity Wire.Fields Wire.HeaderFields Wire.RoundTrip
open Exchange (conclude_of_found)
open Posting (relay_of_posted errand parse_errand)
open Chain (nearAgent)

variable {d rest : ByteArray} {ending : Ending} {status : Status}

lemma unwrap_make {r : Response} (hd : Response.decode d = .ok r)
    (hs : Status.ofCode? r.statusCode = some status) (remaining : ByteArray) (after : Source) :
    ∃ b, Carries b (remaining ++ (outlook after).1) (outlook after).2 ∧
      LocalAgent.unwrap d (.make remaining after) =
        (orCrash r.headers.removeHopByHop.toMap >>= fun headers => pure {
          status, phrase := LocalAgent.ownPhrase? status r.statusMessage, headers, body := b }) := by
  obtain ⟨b, hb, hcarries⟩ :=
    carries_make (rfl : (remaining ++ (outlook after).1, (outlook after).2) = _) {} {}
  refine ⟨b, hcarries, ?_⟩
  simp only [LocalAgent.unwrap, hd, hs, hb, orFault, Except.mapError, bind, Except.bind]

lemma conclude_of_answered {r : Response} (hd : Response.decode d = .ok r)
    (hs : Status.ofCode? r.statusCode = some status) (hl : Legal d.size) {received : Received}
    (hok : received.status = .ok) (hg : Gives received.body (framed d ++ rest) ending)
    (a : LocalAgent) :
    (∀ c, r.headers.removeHopByHop.toMap = .error c →
      a.conclude (.response received) = .error (.crash c)) ∧
    ∀ m, r.headers.removeHopByHop.toMap = .ok m →
      ∃ reply, a.conclude (.response received) = .ok reply ∧ reply.headers = m := by
  obtain ⟨remaining, after, hscan, -⟩ := scan_framed hg hl
  obtain ⟨b, -, hb⟩ := unwrap_make hd hs remaining after
  rw [conclude_of_found hok hscan, hb]
  refine ⟨?_, ?_⟩
  · intro c hc
    rw [hc]
    rfl
  · intro m hm
    rw [hm]
    exact ⟨_, rfl, rfl⟩

theorem crowded_headers (d : ByteArray) :
    (∀ r, Request.decode d = .ok r → Limited d 5 16 r.headers ∧
      ∀ uri body rest ending destination, Uri.parse r.absoluteUri = .ok uri → Legal d.size →
        Gives body (framed d ++ rest) ending →
        let served := relay body destination
        let count := r.headers.removeHopByHop.size
        (24576 < count → served.asked = none ∧ served.fate = .crashed (.headerCount count)) ∧
        (count ≤ 24576 →
          ∃ out, served.asked = some out ∧ r.headers.removeHopByHop.toMap = .ok out.headers)) ∧
    ∀ r, Response.decode d = .ok r → Limited d 3 12 r.headers ∧
      ∀ (a : LocalAgent) status received rest ending, Status.ofCode? r.statusCode = some status →
        Legal d.size → received.status = .ok → Gives received.body (framed d ++ rest) ending →
        let fate := Fate.ofExcept (a.conclude (.response received))
        let count := r.headers.removeHopByHop.size
        (24576 < count → fate = .crashed (.headerCount count)) ∧
        (count ≤ 24576 →
          ∃ reply, fate = .replied reply ∧ r.headers.removeHopByHop.toMap = .ok reply.headers) := by
  refine ⟨?_, ?_⟩
  · intro r hd
    have hlimited := limited_request hd
    refine ⟨hlimited, ?_⟩
    intro uri body rest ending destination hu hl hg served count
    obtain ⟨hcrash, hasked⟩ := relay_of_posted hd hu hl hg destination
    refine ⟨fun hmany => hcrash _ (hlimited.refused hmany), ?_⟩
    intro hfew
    obtain ⟨m, hm, -⟩ := hlimited.mapped hfew
    obtain ⟨out, hout, -, -, rfl⟩ := hasked m hm
    exact ⟨out, hout, hm⟩
  · intro r hd
    have hlimited := limited_response hd
    refine ⟨hlimited, ?_⟩
    intro a status received rest ending hs hl hok hg fate count
    obtain ⟨hcrash, hreplied⟩ := conclude_of_answered hd hs hl hok hg a
    refine ⟨?_, ?_⟩
    · intro hmany
      rw [show fate = _ from congrArg Fate.ofExcept (hcrash _ (hlimited.refused hmany))]
      rfl
    · intro hfew
      obtain ⟨m, hm, -⟩ := hlimited.mapped hfew
      obtain ⟨reply, hreply, rfl⟩ := hreplied m hm
      exact ⟨reply, congrArg Fate.ofExcept hreply, hm⟩

def crowd (n : Nat) : Headers := { others := .replicate n ("a", "") }

lemma lowered_crowd (n : Nat) : Lowered (crowd n) := by
  intro p hp
  rw [(Array.mem_replicate.mp hp).2]
  decide +kernel

lemma pairs_crowd (n : Nat) : (crowd n).pairs = .replicate n ("a", "") := by
  have hdeclared : (crowd n).declared = Headers.empty.declared := rfl
  have hnone : Headers.empty.declared = [] := by decide
  rw [Headers.pairs, hdeclared, hnone, List.map_nil, List.nil_append, crowd, Array.toList_replicate]

lemma size_crowd (n : Nat) : (crowd n).removeHopByHop.size = n := by
  have hkept : ("a", "").1 ∉ hopByHop := by decide
  rw [size_removeHopByHop, pairs_crowd, List.countP_replicate, if_pos (by simpa using hkept)]

lemma roomOf_replicate (n : Nat) (p : String × String) : roomOf (.replicate n p) = room p * n := by
  induction n with
  | zero => rfl
  | succ n ih => rw [List.replicate_succ, roomOf, ih, Nat.mul_succ, Nat.add_comm]

lemma size_encode_crowd (n : Nat) : (crowd n).encode.size ≤ 16 * n := by
  have hroom : room ("a", "") = 16 := by decide
  have hheaders := size_encode_le (crowd n)
  rwa [pairs_crowd, roomOf_replicate, hroom] at hheaders

def laden (n : Nat) : Request := { errand with headers := crowd n }

lemma legal_laden {n : Nat} (hn : n ≤ 500000) : Legal (laden n).encode.size := by
  have hheaders := size_encode_crowd n
  have hsize : (laden n).encode.size = 44 + (crowd n).encode.size := by
    simp only [Request.encode, Request.fields, size_encodeAll_cons, encodeAll_nil, Field.ofText,
      Field.ofNat, Bytes.size_bigEndian, Field.headSize, ByteArray.size_empty]
    rw [show (laden n).method.text.toUTF8.size = 4 from rfl,
      show (laden n).absoluteUri.toUTF8.size = 10 from rfl,
      show (laden n).scheme.toUTF8.size = 4 from rfl,
      show (laden n).headers = crowd n from rfl]
    omega
  rw [hsize, Legal, maxBody]
  omega

lemma decode_laden {n : Nat} (hn : n ≤ 500000) : Request.decode (laden n).encode = .ok (laden n) :=
  decode_of_loweredIn (k := .request) (legal_laden hn) (lowered_crowd n)

theorem crowded_headers_refused :
    Legal (laden 24577).encode.size ∧ Request.decode (laden 24577).encode = .ok (laden 24577) ∧
    (laden 24577).headers.removeHopByHop.toMap = .error (.headerCount 24577) := by
  have hsize : (laden 24577).headers.removeHopByHop.size = 24577 := size_crowd 24577
  refine ⟨legal_laden (by decide), decode_laden (by decide), ?_⟩
  rw [toMap_of_many (by rw [hsize]; decide), hsize]

def answer (n : Nat) : Response := { statusCode := 200, headers := crowd n }

lemma legal_answer {n : Nat} (hn : n ≤ 500000) : Legal (answer n).encode.size := by
  have hheaders : (answer n).headers.encode.size ≤ 16 * n := size_encode_crowd n
  have hsize := Posting.size_response (answer n)
  rw [answer, Option.map_none, Option.getD_none] at hsize
  rw [Legal, maxBody]
  rw [answer] at hheaders ⊢
  omega

lemma decode_answer {n : Nat} (hn : n ≤ 500000) : Response.decode (answer n).encode = .ok (answer n) :=
  decode_of_loweredIn (k := .response) (legal_answer hn) (lowered_crowd n)

def carried (frame : ByteArray) : Source := { kind := .body true, items := [.data frame] }

lemma gives_carried (b : ByteArray) : Gives (carried b) (b ++ .empty) .clean :=
  gives_of_outlook (by simp [carried, outlook, outlookOf])

theorem crowded_headers_limit :
    (relay (carried (framed (laden 24577).encode)) fun _ => .timedOut).fate =
      .crashed (.headerCount 24577) ∧
    (∃ out, (relay (carried (framed (laden 24576).encode)) fun _ => .timedOut).asked = some out) ∧
    Fate.ofExcept (nearAgent.conclude
      (.response { status := .ok, body := carried (framed (answer 24577).encode) })) =
        .crashed (.headerCount 24577) ∧
    ∃ reply, Fate.ofExcept (nearAgent.conclude
      (.response { status := .ok, body := carried (framed (answer 24576).encode) })) =
        .replied reply := by
  have hok : Status.ofCode? 200 = some .ok := Status.ofCode?_code .ok
  refine ⟨?_, ?_, ?_, ?_⟩
  · obtain ⟨hrequests, -⟩ := crowded_headers (laden 24577).encode
    obtain ⟨-, hserved⟩ := hrequests _ (decode_laden (by decide))
    obtain ⟨hcrashed, -⟩ :=
      hserved _ _ _ _ (fun _ => .timedOut) parse_errand (legal_laden (by decide)) (gives_carried _)
    rw [show (laden 24577).headers.removeHopByHop.size = 24577 from size_crowd 24577] at hcrashed
    exact (hcrashed (by decide)).2
  · obtain ⟨hrequests, -⟩ := crowded_headers (laden 24576).encode
    obtain ⟨-, hserved⟩ := hrequests _ (decode_laden (by decide))
    obtain ⟨-, hasked⟩ :=
      hserved _ _ _ _ (fun _ => .timedOut) parse_errand (legal_laden (by decide)) (gives_carried _)
    rw [show (laden 24576).headers.removeHopByHop.size = 24576 from size_crowd 24576] at hasked
    obtain ⟨out, hout, -⟩ := hasked (by decide)
    exact ⟨out, hout⟩
  · obtain ⟨-, hresponses⟩ := crowded_headers (answer 24577).encode
    obtain ⟨-, hserved⟩ := hresponses _ (decode_answer (by decide))
    obtain ⟨hcrashed, -⟩ := hserved nearAgent _ { status := .ok, body := carried _ } _ _ hok
      (legal_answer (by decide)) rfl (gives_carried _)
    rw [show (answer 24577).headers.removeHopByHop.size = 24577 from size_crowd 24577] at hcrashed
    exact hcrashed (by decide)
  · obtain ⟨-, hresponses⟩ := crowded_headers (answer 24576).encode
    obtain ⟨-, hserved⟩ := hresponses _ (decode_answer (by decide))
    obtain ⟨-, hreplied⟩ := hserved nearAgent _ { status := .ok, body := carried _ } _ _ hok
      (legal_answer (by decide)) rfl (gives_carried _)
    rw [show (answer 24576).headers.removeHopByHop.size = 24576 from size_crowd 24576] at hreplied
    obtain ⟨reply, hreply, -⟩ := hreplied (by decide)
    exact ⟨reply, hreply⟩

end TwoHop.Proofs.Agent.Crowding
