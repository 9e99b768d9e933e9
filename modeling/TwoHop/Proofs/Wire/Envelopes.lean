import TwoHop.Proofs.Wire.HeaderFields

namespace TwoHop.Proofs.Wire.Envelopes

open TwoHop.Field
open Fields Format Rules Values Decoders HeaderFields

lemma holds_headers (b : ByteArray) :
    (∃ h, Kind.headers.decode b = .ok h) ↔ Holds (.message .headers) b := accepts_iff decoder_headers

def tokenRules : List (Rule Token) :=
  [⟨1, String, Field.text, fun t id => { t with secretId := id }⟩,
    ⟨2, Nat, fun f => f.nat 8, fun t n => { t with timestamp := n.toUInt64.toInt64 }⟩,
    ⟨3, ByteArray, fun f => .ok f.value, fun t b => { t with nonce := b }⟩,
    ⟨4, ByteArray, fun f => .ok f.value, fun t b => { t with signature := b }⟩]

lemma token_takeField_eq : Token.takeField = obey tokenRules := by
  funext t ⟨tag, value⟩
  simp only [Token.takeField, tokenRules, obey]
  split
  · rfl
  · rfl
  · rfl
  · rfl
  · next h1 h2 h3 h4 => rw [if_neg h1, if_neg h2, if_neg h3, if_neg h4]

lemma token_secretId : Governs Token.takeField 1 Token.secretId IsText := by
  rw [token_takeField_eq]
  apply governs_obey tokenRules 0 rfl rfl (by decide) (by simp [tokenRules])
  exact fun f t id h => text_eq_ok_iff.mp h

lemma token_timestamp : Governs Token.takeField 2 Token.timestamp IsInt64 := by
  rw [token_takeField_eq]
  apply governs_obey tokenRules 1 rfl rfl (by decide) (by simp [tokenRules])
  rintro f t n h
  obtain ⟨hsize, rfl⟩ := nat_eq_ok_iff.mp h
  exact (bigEndian_toInt64 hsize).symm

lemma token_nonce : Governs Token.takeField 3 Token.nonce Eq := by
  rw [token_takeField_eq]
  apply governs_obey tokenRules 2 rfl rfl (by decide) (by simp [tokenRules])
  rintro f t b ⟨⟩
  rfl

lemma token_signature : Governs Token.takeField 4 Token.signature Eq := by
  rw [token_takeField_eq]
  apply governs_obey tokenRules 3 rfl rfl (by decide) (by simp [tokenRules])
  rintro f t b ⟨⟩
  rfl

lemma decoder_token : Decoder .token Token.takeField {} .ok where
  decode_eq := fun b => (bind_ok _).symm
  steps := by
    rw [token_takeField_eq]
    exact steps_obey (.cons suits_text (.cons suits_number (.cons suits_bytes (.cons suits_bytes .nil))))
      (by decide)
  finishes := fun _ => ⟨fun _ => by simp [Kind.columns], fun _ => ⟨_, rfl⟩⟩
  reads := by
    rintro fs t v ht ⟨⟩
    exact ⟨tells_last token_secretId ht, tells_last token_timestamp ht, tells_last token_nonce ht,
      tells_last token_signature ht⟩

lemma holds_token (b : ByteArray) :
    (∃ t, Kind.token.decode b = .ok t) ↔ Holds (.message .token) b := accepts_iff decoder_token

def verdictRules : List (Rule Verdict.Seen) :=
  [⟨1, Nat, fun f => f.nat 2, fun s n => { s with code := some n.toUInt16 }⟩,
    ⟨2, String, Field.text, fun s m => { s with message := some m }⟩]

lemma verdict_takeField_eq : Verdict.takeField = obey verdictRules := by
  funext s ⟨tag, value⟩
  simp only [Verdict.takeField, verdictRules, obey]
  split
  · rfl
  · rfl
  · next h1 h2 => rw [if_neg h1, if_neg h2]

lemma given_uint16 {f : Field} {n : Nat} (h : f.nat 2 = .ok n) :
    Given IsUInt16 f.value (some n.toUInt16) := by
  obtain ⟨hsize, rfl⟩ := nat_eq_ok_iff.mp h
  exact ⟨_, rfl, (bigEndian_toUInt16 hsize).symm⟩

lemma given_text {f : Field} {s : String} (h : f.text = .ok s) : Given IsText f.value (some s) :=
  ⟨s, rfl, text_eq_ok_iff.mp h⟩

lemma verdict_code : Governs Verdict.takeField 1 Verdict.Seen.code (Given IsUInt16) := by
  rw [verdict_takeField_eq]
  apply governs_obey verdictRules 0 rfl rfl (by decide) (by simp [verdictRules])
  exact fun f s n h => given_uint16 h

lemma verdict_message : Governs Verdict.takeField 2 Verdict.Seen.message (Given IsText) := by
  rw [verdict_takeField_eq]
  apply governs_obey verdictRules 1 rfl rfl (by decide) (by simp [verdictRules])
  exact fun f s m h => given_text h

def finishVerdict (s : Verdict.Seen) : Except DecodeFault Verdict := do
  return { code := ← Required.resultCode.get s.code, message := s.message }

lemma finishVerdict_eq_ok_iff {s : Verdict.Seen} {v : Verdict} :
    finishVerdict s = .ok v ↔ s.code = some v.code ∧ s.message = v.message := by
  obtain ⟨code, message⟩ := s
  obtain ⟨code', message'⟩ := v
  cases code with
  | none => simp [finishVerdict, Required.get, bind, Except.bind]
  | some c => simp [finishVerdict, Required.get, bind, Except.bind, pure, Except.pure]

lemma decoder_verdict : Decoder .verdict Verdict.takeField {} finishVerdict where
  decode_eq := fun b => rfl
  steps := by
    rw [verdict_takeField_eq]
    exact steps_obey (.cons suits_number (.cons suits_text .nil)) (by decide)
  finishes := by
    intro fs t ht
    have hcode := exists_some_iff (tells_last verdict_code ht)
    simp only [Kind.columns, List.forall_mem_cons, forall_const, Bool.false_eq_true, false_imp_iff,
      List.not_mem_nil, implies_true, and_true, ← hcode]
    constructor
    · rintro ⟨v, hv⟩
      exact ⟨v.code, (finishVerdict_eq_ok_iff.mp hv).1⟩
    · rintro ⟨c, hc⟩
      exact ⟨⟨c, t.message⟩, finishVerdict_eq_ok_iff.mpr ⟨hc, rfl⟩⟩
  reads := by
    intro fs t v ht hv
    obtain ⟨hcode, hmessage⟩ := finishVerdict_eq_ok_iff.mp hv
    obtain ⟨b, hb, rfl⟩ := last_of_governs verdict_code ht rfl hcode
    refine ⟨hb, ?_⟩
    rw [← hmessage]
    exact tells_last verdict_message ht

def responseRules : List (Rule Response.Seen) :=
  [⟨1, Nat, fun f => f.nat 2, fun s n => { s with statusCode := some n.toUInt16 }⟩,
    ⟨2, String, Field.text, fun s m => { s with statusMessage := some m }⟩,
    ⟨3, Headers, fun f => Kind.headers.decode f.value, fun s h => { s with headers := h }⟩]

lemma response_takeField_eq : Response.takeField = obey responseRules := by
  funext s ⟨tag, value⟩
  simp only [Response.takeField, responseRules, obey]
  split
  · rfl
  · rfl
  · rfl
  · next h1 h2 h3 => rw [if_neg h1, if_neg h2, if_neg h3]

lemma response_statusCode :
    Governs Response.takeField 1 Response.Seen.statusCode (Given IsUInt16) := by
  rw [response_takeField_eq]
  apply governs_obey responseRules 0 rfl rfl (by decide) (by simp [responseRules])
  exact fun f s n h => given_uint16 h

lemma response_statusMessage :
    Governs Response.takeField 2 Response.Seen.statusMessage (Given IsText) := by
  rw [response_takeField_eq]
  apply governs_obey responseRules 1 rfl rfl (by decide) (by simp [responseRules])
  exact fun f s m h => given_text h

lemma response_headers :
    Governs Response.takeField 3 Response.Seen.headers (IsMessage .headers) := by
  rw [response_takeField_eq]
  apply governs_obey responseRules 2 rfl rfl (by decide) (by simp [responseRules])
  exact fun f s h hh => hh

def finishResponse (s : Response.Seen) : Except DecodeFault Response := do
  return {
    statusCode := ← Required.responseStatus.get s.statusCode
    statusMessage := s.statusMessage
    headers := s.headers }

lemma finishResponse_eq_ok_iff {s : Response.Seen} {r : Response} : finishResponse s = .ok r ↔
    s.statusCode = some r.statusCode ∧ s.statusMessage = r.statusMessage ∧ s.headers = r.headers := by
  obtain ⟨code, message, headers⟩ := s
  obtain ⟨code', message', headers'⟩ := r
  cases code with
  | none => simp [finishResponse, Required.get, bind, Except.bind]
  | some c => simp [finishResponse, Required.get, bind, Except.bind, pure, Except.pure]

lemma decoder_response : Decoder .response Response.takeField {} finishResponse where
  decode_eq := fun b => rfl
  steps := by
    rw [response_takeField_eq]
    exact steps_obey (.cons suits_number (.cons suits_text (.cons (suits_message holds_headers) .nil)))
      (by decide)
  finishes := by
    intro fs t ht
    have hcode := exists_some_iff (tells_last response_statusCode ht)
    simp only [Kind.columns, List.forall_mem_cons, forall_const, Bool.false_eq_true, false_imp_iff,
      List.not_mem_nil, implies_true, and_true, ← hcode]
    constructor
    · rintro ⟨r, hr⟩
      exact ⟨r.statusCode, (finishResponse_eq_ok_iff.mp hr).1⟩
    · rintro ⟨c, hc⟩
      exact ⟨⟨c, t.statusMessage, t.headers⟩, finishResponse_eq_ok_iff.mpr ⟨hc, rfl, rfl⟩⟩
  reads := by
    intro fs t r ht hr
    obtain ⟨hcode, hmessage, hheaders⟩ := finishResponse_eq_ok_iff.mp hr
    obtain ⟨b, hb, rfl⟩ := last_of_governs response_statusCode ht rfl hcode
    refine ⟨hb, ?_, ?_⟩
    · rw [← hmessage]
      exact tells_last response_statusMessage ht
    · rw [← hheaders]
      exact tells_last response_headers ht

def tunnelRules : List (Rule TunnelRequest.Seen) :=
  [⟨1, String, Field.text, fun s h => { s with host := some h }⟩,
    ⟨2, Nat, fun f => f.nat 2, fun s n => { s with port := some n.toUInt16 }⟩,
    ⟨3, Headers, fun f => Kind.headers.decode f.value, fun s h => { s with headers := h }⟩,
    ⟨4, Token, fun f => Kind.token.decode f.value, fun s t => { s with token := some t }⟩]

lemma tunnel_takeField_eq : TunnelRequest.takeField = obey tunnelRules := by
  funext s ⟨tag, value⟩
  simp only [TunnelRequest.takeField, tunnelRules, obey]
  split
  · rfl
  · rfl
  · rfl
  · rfl
  · next h1 h2 h3 h4 => rw [if_neg h1, if_neg h2, if_neg h3, if_neg h4]

lemma tunnel_host : Governs TunnelRequest.takeField 1 TunnelRequest.Seen.host (Given IsText) := by
  rw [tunnel_takeField_eq]
  apply governs_obey tunnelRules 0 rfl rfl (by decide) (by simp [tunnelRules])
  exact fun f s h hh => given_text hh

lemma tunnel_port : Governs TunnelRequest.takeField 2 TunnelRequest.Seen.port (Given IsUInt16) := by
  rw [tunnel_takeField_eq]
  apply governs_obey tunnelRules 1 rfl rfl (by decide) (by simp [tunnelRules])
  exact fun f s n h => given_uint16 h

lemma tunnel_headers :
    Governs TunnelRequest.takeField 3 TunnelRequest.Seen.headers (IsMessage .headers) := by
  rw [tunnel_takeField_eq]
  apply governs_obey tunnelRules 2 rfl rfl (by decide) (by simp [tunnelRules])
  exact fun f s h hh => hh

lemma tunnel_token :
    Governs TunnelRequest.takeField 4 TunnelRequest.Seen.token (Given (IsMessage .token)) := by
  rw [tunnel_takeField_eq]
  apply governs_obey tunnelRules 3 rfl rfl (by decide) (by simp [tunnelRules])
  exact fun f s t h => ⟨t, rfl, h⟩

def finishTunnel (s : TunnelRequest.Seen) : Except DecodeFault TunnelRequest := do
  return {
    host := ← Required.connectHost.get s.host
    port := ← Required.connectPort.get s.port
    headers := s.headers
    token := s.token }

lemma finishTunnel_eq_ok_iff {s : TunnelRequest.Seen} {r : TunnelRequest} : finishTunnel s = .ok r ↔
    s.host = some r.host ∧ s.port = some r.port ∧ s.headers = r.headers ∧ s.token = r.token := by
  obtain ⟨host, port, headers, token⟩ := s
  obtain ⟨host', port', headers', token'⟩ := r
  cases host with
  | none => simp [finishTunnel, Required.get, bind, Except.bind]
  | some h =>
    cases port with
    | none => simp [finishTunnel, Required.get, bind, Except.bind]
    | some n => simp [finishTunnel, Required.get, bind, Except.bind, pure, Except.pure]

lemma decoder_tunnelRequest :
    Decoder .tunnelRequest TunnelRequest.takeField {} finishTunnel where
  decode_eq := fun b => rfl
  steps := by
    rw [tunnel_takeField_eq]
    exact steps_obey (.cons suits_text (.cons suits_number (.cons (suits_message holds_headers)
      (.cons (suits_message holds_token) .nil)))) (by decide)
  finishes := by
    intro fs t ht
    have hhost := exists_some_iff (tells_last tunnel_host ht)
    have hport := exists_some_iff (tells_last tunnel_port ht)
    simp only [Kind.columns, List.forall_mem_cons, forall_const, Bool.false_eq_true, false_imp_iff,
      List.not_mem_nil, implies_true, and_true, ← hhost, ← hport]
    constructor
    · rintro ⟨r, hr⟩
      obtain ⟨hh, hp, -⟩ := finishTunnel_eq_ok_iff.mp hr
      exact ⟨⟨r.host, hh⟩, ⟨r.port, hp⟩⟩
    · rintro ⟨⟨h, hh⟩, ⟨n, hn⟩⟩
      exact ⟨⟨h, n, t.headers, t.token⟩, finishTunnel_eq_ok_iff.mpr ⟨hh, hn, rfl, rfl⟩⟩
  reads := by
    intro fs t r ht hr
    obtain ⟨hhost, hport, hheaders, htoken⟩ := finishTunnel_eq_ok_iff.mp hr
    obtain ⟨b, hb, rfl⟩ := last_of_governs tunnel_host ht rfl hhost
    obtain ⟨c, hc, rfl⟩ := last_of_governs tunnel_port ht rfl hport
    refine ⟨hb, hc, ?_, ?_⟩
    · rw [← hheaders]
      exact tells_last tunnel_headers ht
    · rw [← htoken]
      exact tells_last tunnel_token ht

def requestRules : List (Rule Request.Seen) :=
  [⟨1, Method, Request.readMethod, fun s m => { s with method := some m }⟩,
    ⟨2, String, Field.text, fun s u => { s with absoluteUri := some u }⟩,
    ⟨3, String, Field.text, fun s t => { s with scheme := t }⟩,
    ⟨4, Version, Request.readVersion, fun s v => { s with version := v }⟩,
    ⟨5, Headers, fun f => Kind.headers.decode f.value, fun s h => { s with headers := h }⟩]

lemma request_takeField_eq : Request.takeField = obey requestRules := by
  funext s ⟨tag, value⟩
  simp only [Request.takeField, requestRules, obey]
  split
  · rfl
  · rfl
  · rfl
  · rfl
  · rfl
  · next h1 h2 h3 h4 h5 => rw [if_neg h1, if_neg h2, if_neg h3, if_neg h4, if_neg h5]

lemma request_method : Governs Request.takeField 1 Request.Seen.method (Given IsMethod) := by
  rw [request_takeField_eq]
  apply governs_obey requestRules 0 rfl rfl (by decide) (by simp [requestRules])
  exact fun f s m h => ⟨m, rfl, readMethod_eq_ok_iff.mp h⟩

lemma request_absoluteUri : Governs Request.takeField 2 Request.Seen.absoluteUri (Given IsText) := by
  rw [request_takeField_eq]
  apply governs_obey requestRules 1 rfl rfl (by decide) (by simp [requestRules])
  exact fun f s u h => given_text h

lemma request_scheme : Governs Request.takeField 3 Request.Seen.scheme IsText := by
  rw [request_takeField_eq]
  apply governs_obey requestRules 2 rfl rfl (by decide) (by simp [requestRules])
  exact fun f s t h => text_eq_ok_iff.mp h

lemma request_version : Governs Request.takeField 4 Request.Seen.version IsVersion := by
  rw [request_takeField_eq]
  apply governs_obey requestRules 3 rfl rfl (by decide) (by simp [requestRules])
  exact fun f s v h => readVersion_eq_ok_iff.mp h

lemma request_headers : Governs Request.takeField 5 Request.Seen.headers (IsMessage .headers) := by
  rw [request_takeField_eq]
  apply governs_obey requestRules 4 rfl rfl (by decide) (by simp [requestRules])
  exact fun f s h hh => hh

def finishRequest (s : Request.Seen) : Except DecodeFault Request := do
  return {
    method := ← Required.requestMethod.get s.method
    absoluteUri := ← Required.requestUri.get s.absoluteUri
    scheme := s.scheme
    version := s.version
    headers := s.headers }

lemma finishRequest_eq_ok_iff {s : Request.Seen} {r : Request} : finishRequest s = .ok r ↔
    s.method = some r.method ∧ s.absoluteUri = some r.absoluteUri ∧ s.scheme = r.scheme ∧
      s.version = r.version ∧ s.headers = r.headers := by
  obtain ⟨method, uri, scheme, version, headers⟩ := s
  obtain ⟨method', uri', scheme', version', headers'⟩ := r
  cases method with
  | none => simp [finishRequest, Required.get, bind, Except.bind]
  | some m =>
    cases uri with
    | none => simp [finishRequest, Required.get, bind, Except.bind]
    | some u => simp [finishRequest, Required.get, bind, Except.bind, pure, Except.pure]

lemma decoder_request : Decoder .request Request.takeField {} finishRequest where
  decode_eq := fun b => rfl
  steps := by
    rw [request_takeField_eq]
    exact steps_obey (.cons suits_method (.cons suits_text (.cons suits_text (.cons suits_version
      (.cons (suits_message holds_headers) .nil))))) (by decide)
  finishes := by
    intro fs t ht
    have hmethod := exists_some_iff (tells_last request_method ht)
    have huri := exists_some_iff (tells_last request_absoluteUri ht)
    simp only [Kind.columns, List.forall_mem_cons, forall_const, Bool.false_eq_true, false_imp_iff,
      List.not_mem_nil, implies_true, and_true, ← hmethod, ← huri]
    constructor
    · rintro ⟨r, hr⟩
      obtain ⟨hm, hu, -⟩ := finishRequest_eq_ok_iff.mp hr
      exact ⟨⟨r.method, hm⟩, ⟨r.absoluteUri, hu⟩⟩
    · rintro ⟨⟨m, hm⟩, ⟨u, hu⟩⟩
      exact ⟨⟨m, u, t.scheme, t.version, t.headers⟩,
        finishRequest_eq_ok_iff.mpr ⟨hm, hu, rfl, rfl, rfl⟩⟩
  reads := by
    intro fs t r ht hr
    obtain ⟨hmethod, huri, hscheme, hversion, hheaders⟩ := finishRequest_eq_ok_iff.mp hr
    obtain ⟨b, hb, rfl⟩ := last_of_governs request_method ht rfl hmethod
    obtain ⟨c, hc, rfl⟩ := last_of_governs request_absoluteUri ht rfl huri
    refine ⟨hb, hc, ?_, ?_, ?_⟩
    · rw [← hscheme]
      exact tells_last request_scheme ht
    · rw [← hversion]
      exact tells_last request_version ht
    · rw [← hheaders]
      exact tells_last request_headers ht

lemma exists_decoder (k : Kind) : ∃ (σ : Type) (take : σ → Field → Except DecodeFault σ) (init : σ)
    (finish : σ → Except DecodeFault k.Value), Decoder k take init finish := by
  cases k with
  | request => exact ⟨_, _, _, _, decoder_request⟩
  | response => exact ⟨_, _, _, _, decoder_response⟩
  | tunnelRequest => exact ⟨_, _, _, _, decoder_tunnelRequest⟩
  | verdict => exact ⟨_, _, _, _, decoder_verdict⟩
  | token => exact ⟨_, _, _, _, decoder_token⟩
  | headers => exact ⟨_, _, _, _, decoder_headers⟩
  | pair => exact ⟨_, _, _, _, decoder_pair⟩

lemma reads_of_decode {k : Kind} {b : ByteArray} {v : k.Value} (h : k.decode b = .ok v) :
    ∃ fs, Cut b fs ∧ Reads k fs v := by
  obtain ⟨σ, take, init, finish, hd⟩ := exists_decoder k
  obtain ⟨fs, -, hcut, -, -⟩ := (decode_eq_ok_iff hd).mp h
  exact ⟨fs, hcut, reads_of_cut hd hcut h⟩

end TwoHop.Proofs.Wire.Envelopes
