import TwoHop.Proofs.Flow.Conservation
import TwoHop.Proofs.Text.Letters
import TwoHop.Proofs.Wire.Envelopes

/-! What is written is read back: every message comes out of its bytes as it went in, but for the
letter case of undeclared header names. -/

namespace TwoHop.Proofs.Wire.RoundTrip

open TwoHop.Field TwoHop.Header TwoHop.Flow
open Text.Letters Fields Format Rules Values Decoders HeaderFields Envelopes
open Scanner.Heading Scanner.Fragmentation Flow.Content Flow.Scanning Flow.Conservation
open Proofs.Bytes (join)

def lowerName (p : String × String) : String × String := (Text.lower p.1, p.2)

def lowerNames (h : Headers) : Headers := { h with others := h.others.map lowerName }

lemma map_text {σ : Type} {g : String → σ} (tag : UInt8) (s : String) :
    (do return g (← (Field.ofText tag s).text)) = Except.ok (g s) :=
  map_eq_ok_iff.mpr ⟨s, text_eq_ok_iff.mpr rfl, rfl⟩

lemma takeField_slot (h : Headers) (s : Slot) (value : String) :
    Headers.takeField h (slotField (s, value)) = .ok (h.insert s.name value) := by
  have htag : ¬ (s.tag == undeclaredTag) = true := by simpa using tag_ne_undeclaredTag s
  rw [Headers.takeField, slotField, Field.ofText, if_neg htag, slotOfTag?_tag]
  exact map_text s.tag value

lemma takePairField_name (p : Option String × String) (name : String) :
    Headers.takePairField p (.ofText 1 name) = .ok (some name, p.2) :=
  map_text _ name

lemma takePairField_value (p : Option String × String) (value : String) :
    Headers.takePairField p (.ofText 2 value) = .ok (p.1, value) :=
  map_text _ value

lemma decode_pair (p : Option String × String) (h : ∀ f ∈ Kind.pair.fields p, Fits f) :
    Kind.pair.decode (Kind.pair.encode p) = .ok p := by
  have hcut : Cut (Kind.pair.encode p) (Kind.pair.fields p) := ⟨h, rfl⟩
  show fold Headers.takePairField _ _ = _
  rw [fold_of_cut hcut]
  obtain ⟨name, value⟩ := p
  cases name with
  | none => exact foldlM_cons_of_ok (takePairField_value (none, "") value)
  | some name =>
    exact (foldlM_cons_of_ok (takePairField_name (none, "") name)).trans
      (foldlM_cons_of_ok (takePairField_value (some name, "") value))

lemma takeField_pair (h : Headers) {name value : String} (hf : Fits (pairField (name, value))) :
    Headers.takeField h (pairField (name, value)) = .ok (h.pushOther (Text.lower name) value) := by
  have hp : IsMessage .pair (Headers.pairBytes name value) (some name, value) :=
    decode_pair (some name, value) (fits_of_size hf)
  exact takeField_named h hp

lemma foldlM_slots (h : Headers) {slots : List Slot} (hn : slots.Nodup) {g : Headers}
    (hg : ∀ s ∈ slots, g.slots.get s = none) : ∃ t,
      ((slots.filterMap fun s => (h.slots.get s).map (s, ·)).map slotField).foldlM
        Headers.takeField g = .ok t ∧
      t.others = g.others ∧ (∀ s ∈ slots, t.slots.get s = h.slots.get s) ∧
      ∀ s ∉ slots, t.slots.get s = g.slots.get s := by
  induction slots generalizing g with
  | nil => exact ⟨g, rfl, rfl, by simp, fun _ _ => rfl⟩
  | cons s slots ih =>
    obtain ⟨hs, hn⟩ := List.nodup_cons.mp hn
    obtain ⟨hgs, hg⟩ := List.forall_mem_cons.mp hg
    cases hv : h.slots.get s with
    | none =>
      obtain ⟨t, ht, hothers, hin, hout⟩ := ih hn hg
      refine ⟨t, by simpa only [List.filterMap_cons, hv, Option.map_none] using ht, hothers, ?_, ?_⟩
      · refine List.forall_mem_cons.mpr ⟨?_, hin⟩
        rw [hout s hs, hgs, hv]
      · intro u hu
        exact hout u (fun hmem => hu (List.mem_cons_of_mem s hmem))
    | some value =>
      have hstep : Headers.takeField g (slotField (s, value)) =
          .ok { g with slots := g.slots.set s (some value) s.isLt } := by
        rw [takeField_slot, insert_name, hgs]
        rfl
      have hfree : ∀ u ∈ slots, (g.slots.set s (some value) s.isLt).get u = none := by
        intro u hu
        have hne : s ≠ u := by
          rintro rfl
          exact hs hu
        rw [get_set_of_ne _ hne, hg u hu]
      obtain ⟨t, ht, hothers, hin, hout⟩ :=
        ih hn (g := { g with slots := g.slots.set s (some value) s.isLt }) hfree
      refine ⟨t, ?_, hothers, ?_, ?_⟩
      · rw [List.filterMap_cons, hv]
        exact (foldlM_cons_of_ok hstep).trans ht
      · refine List.forall_mem_cons.mpr ⟨?_, hin⟩
        rw [hout s hs, get_set_self, hv]
      · intro u hu
        obtain ⟨hne, hmem⟩ := not_or.mp (mt List.mem_cons.mpr hu)
        rw [hout u hmem, get_set_of_ne _ (Ne.symm hne)]

lemma foldlM_pairs {pairs : List (String × String)} {g : Headers}
    (hf : ∀ p ∈ pairs, Fits (pairField p)) : (pairs.map pairField).foldlM
      Headers.takeField g = .ok { g with others := g.others ++ (pairs.map lowerName).toArray } := by
  induction pairs generalizing g with
  | nil => simp [pure, Except.pure]
  | cons p pairs ih =>
    obtain ⟨hp, hpairs⟩ := List.forall_mem_cons.mp hf
    rw [List.map_cons, foldlM_cons_of_ok (takeField_pair g hp), ih hpairs]
    simp [Headers.pushOther, lowerName]

lemma decode_headers (h : Headers) (hf : ∀ f ∈ h.fields, Fits f) :
    Headers.decode h.encode = .ok (lowerNames h) := by
  have hcut : Cut h.encode h.fields := ⟨hf, rfl⟩
  have hempty : ∀ s ∈ List.finRange 30, Headers.empty.slots.get s = none :=
    fun s _ => Vector.getElem_replicate ..
  obtain ⟨t, ht, hothers, hslots, -⟩ := foldlM_slots h (List.nodup_finRange 30) hempty
  have hpairs : ∀ p ∈ h.others.toList, Fits (pairField p) :=
    fun p hp => hf _ (List.mem_append_right _ (List.mem_map.mpr ⟨p, hp, rfl⟩))
  have hall : t.slots = h.slots := by
    apply Vector.ext
    intro i hi
    exact hslots ⟨i, hi⟩ (List.mem_finRange _)
  rw [Headers.decode, fold_of_cut hcut, fields_eq, List.foldlM_append, Headers.declared, ht]
  apply (foldlM_pairs hpairs).trans
  have hlower : (h.others.toList.map lowerName).toArray = h.others.map lowerName := by
    apply Array.toList_inj.mp
    rw [Array.toList_map]
  rw [hothers, hall, hlower]
  simp [lowerNames, Headers.empty]

lemma nat_uint16 (tag : UInt8) (n : UInt16) : ∃ m, (Field.ofNat tag 2 n.toNat).nat 2 = .ok m ∧
    m.toUInt16 = n :=
  ⟨_, nat_eq_ok_iff.mpr ⟨Bytes.size_bigEndian _ _, rfl⟩, toNat_bigEndian_uint16 n⟩

lemma nat_int64 (tag : UInt8) (n : Int64) : ∃ m, (Field.ofNat tag 8 n.toUInt64.toNat).nat 8 = .ok m ∧
    m.toUInt64.toInt64 = n :=
  ⟨_, nat_eq_ok_iff.mpr ⟨Bytes.size_bigEndian _ _, rfl⟩, toNat_bigEndian_int64 n⟩

lemma decode_token (t : Token) (hf : ∀ f ∈ t.fields, Fits f) : Token.decode t.encode = .ok t := by
  have hcut : Cut t.encode t.fields := ⟨hf, rfl⟩
  obtain ⟨secretId, timestamp, nonce, signature⟩ := t
  obtain ⟨n, hn, rfl⟩ := nat_int64 2 timestamp
  have hid : Token.takeField {} (.ofText 1 secretId) = .ok { secretId } :=
    map_text _ secretId
  have htime : Token.takeField { secretId } (.ofNat 2 8 n.toUInt64.toInt64.toUInt64.toNat) =
      .ok { secretId, timestamp := n.toUInt64.toInt64 } := map_eq_ok_iff.mpr ⟨n, hn, rfl⟩
  rw [Token.decode, fold_of_cut hcut, Token.fields, foldlM_cons_of_ok hid, foldlM_cons_of_ok htime]
  rfl

lemma decode_verdict (v : Verdict) (hf : ∀ f ∈ v.fields, Fits f) :
    Verdict.decode v.encode = .ok v := by
  have hcut : Cut v.encode v.fields := ⟨hf, rfl⟩
  obtain ⟨code, message⟩ := v
  obtain ⟨n, hn, rfl⟩ := nat_uint16 1 code
  have hcode : Verdict.takeField {} (.ofNat 1 2 n.toUInt16.toNat) = .ok { code := n.toUInt16 } :=
    map_eq_ok_iff.mpr ⟨n, hn, rfl⟩
  rw [Verdict.decode, fold_of_cut hcut, Verdict.fields, foldlM_cons_of_ok hcode]
  cases message with
  | none => rfl
  | some m =>
    have hmessage : Verdict.takeField { code := n.toUInt16 } (.ofText 2 m) =
        .ok { code := n.toUInt16, message := some m } :=
      map_text _ m
    rw [Option.map_some, Option.toList_some, foldlM_cons_of_ok hmessage]
    rfl

lemma decode_inner {tag : UInt8} {h : Headers} (hf : Fits ⟨tag, h.encode⟩) :
    Headers.decode h.encode = .ok (lowerNames h) := decode_headers h (fits_of_size hf)

lemma decode_response (r : Response) (hf : ∀ f ∈ r.fields, Fits f) :
    Response.decode r.encode = .ok { r with headers := lowerNames r.headers } := by
  have hcut : Cut r.encode r.fields := ⟨hf, rfl⟩
  obtain ⟨code, message, headers⟩ := r
  obtain ⟨n, hn, rfl⟩ := nat_uint16 1 code
  have hinner : Headers.decode headers.encode = .ok (lowerNames headers) :=
    decode_inner (hf ⟨3, headers.encode⟩ (by simp [Response.fields]))
  have hcode : Response.takeField {} (.ofNat 1 2 n.toUInt16.toNat) =
      .ok { statusCode := some n.toUInt16 } := map_eq_ok_iff.mpr ⟨n, hn, rfl⟩
  have hheaders (s : Response.Seen) : Response.takeField s ⟨3, headers.encode⟩ =
      .ok { s with headers := lowerNames headers } := map_eq_ok_iff.mpr ⟨_, hinner, rfl⟩
  rw [Response.decode, fold_of_cut hcut, Response.fields, foldlM_cons_of_ok hcode]
  cases message with
  | none =>
    rw [Option.map_none, Option.toList_none, List.nil_append, foldlM_cons_of_ok (hheaders _)]
    rfl
  | some m =>
    have hmessage : Response.takeField { statusCode := some n.toUInt16 } (.ofText 2 m) =
        .ok { statusCode := some n.toUInt16, statusMessage := some m } :=
      map_text _ m
    rw [Option.map_some, Option.toList_some, List.singleton_append, foldlM_cons_of_ok hmessage,
      foldlM_cons_of_ok (hheaders _)]
    rfl

lemma decode_tunnelRequest (r : TunnelRequest) (hf : ∀ f ∈ r.fields, Fits f) :
    TunnelRequest.decode r.encode = .ok { r with headers := lowerNames r.headers } := by
  have hcut : Cut r.encode r.fields := ⟨hf, rfl⟩
  obtain ⟨host, port, headers, token⟩ := r
  obtain ⟨n, hn, rfl⟩ := nat_uint16 2 port
  have hinner : Headers.decode headers.encode = .ok (lowerNames headers) :=
    decode_inner (hf ⟨3, headers.encode⟩ (by simp [TunnelRequest.fields]))
  have hhost : TunnelRequest.takeField {} (.ofText 1 host) = .ok { host := some host } :=
    map_text _ host
  have hport : TunnelRequest.takeField { host := some host } (.ofNat 2 2 n.toUInt16.toNat) =
      .ok { host := some host, port := some n.toUInt16 } := map_eq_ok_iff.mpr ⟨n, hn, rfl⟩
  have hheaders (s : TunnelRequest.Seen) : TunnelRequest.takeField s ⟨3, headers.encode⟩ =
      .ok { s with headers := lowerNames headers } := map_eq_ok_iff.mpr ⟨_, hinner, rfl⟩
  rw [TunnelRequest.decode, fold_of_cut hcut, TunnelRequest.fields, List.cons_append,
    foldlM_cons_of_ok hhost, List.cons_append, foldlM_cons_of_ok hport, List.cons_append,
    foldlM_cons_of_ok (hheaders _)]
  cases token with
  | none => rfl
  | some t =>
    have hfit : Fits ⟨4, t.encode⟩ := hf _ (by simp [TunnelRequest.fields])
    have htoken (s : TunnelRequest.Seen) : TunnelRequest.takeField s ⟨4, t.encode⟩ =
        .ok { s with token := some t } :=
      map_eq_ok_iff.mpr ⟨t, decode_token t (fits_of_size hfit), rfl⟩
    rw [Option.map_some, Option.toList_some, List.nil_append, foldlM_cons_of_ok (htoken _)]
    rfl

lemma decode_request (r : Request) (hf : ∀ f ∈ r.fields, Fits f) :
    Request.decode r.encode = .ok { r with headers := lowerNames r.headers } := by
  have hcut : Cut r.encode r.fields := ⟨hf, rfl⟩
  obtain ⟨method, uri, scheme, version, headers⟩ := r
  have hinner : Headers.decode headers.encode = .ok (lowerNames headers) :=
    decode_inner (hf ⟨5, headers.encode⟩ (by simp [Request.fields]))
  have hmethod : Request.takeField {} (.ofText 1 method.text) = .ok { method := some method } :=
    map_eq_ok_iff.mpr ⟨method, readMethod_eq_ok_iff.mpr rfl, rfl⟩
  have huri (s : Request.Seen) : Request.takeField s (.ofText 2 uri) =
      .ok { s with absoluteUri := some uri } :=
    map_text _ uri
  have hscheme (s : Request.Seen) : Request.takeField s (.ofText 3 scheme) = .ok { s with scheme } :=
    map_text _ scheme
  have hversion (s : Request.Seen) : Request.takeField s (.ofNat 4 1 version.code.toNat) =
      .ok { s with version } := map_eq_ok_iff.mpr ⟨version, readVersion_eq_ok_iff.mpr rfl, rfl⟩
  have hheaders (s : Request.Seen) : Request.takeField s ⟨5, headers.encode⟩ =
      .ok { s with headers := lowerNames headers } := map_eq_ok_iff.mpr ⟨_, hinner, rfl⟩
  rw [Request.decode, fold_of_cut hcut, Request.fields, foldlM_cons_of_ok hmethod,
    foldlM_cons_of_ok (huri _), foldlM_cons_of_ok (hscheme _), foldlM_cons_of_ok (hversion _),
    foldlM_cons_of_ok (hheaders _)]
  rfl

def settled : (k : Kind) → k.Value → k.Value
  | .request, (r : Request) => ({ r with headers := lowerNames r.headers } : Request)
  | .response, (r : Response) => ({ r with headers := lowerNames r.headers } : Response)
  | .tunnelRequest, (r : TunnelRequest) => ({ r with headers := lowerNames r.headers } : TunnelRequest)
  | .verdict, v => v
  | .token, t => t
  | .headers, h => lowerNames h
  | .pair, p => p

lemma encode_eq (k : Kind) (v : k.Value) : k.encode v = encodeAll (k.fields v) := by
  cases k <;> rfl

lemma decode_encode (k : Kind) (v : k.Value) (hf : ∀ f ∈ k.fields v, Fits f) :
    k.decode (k.encode v) = .ok (settled k v) := by
  cases k with
  | request => exact decode_request v hf
  | response => exact decode_response v hf
  | tunnelRequest => exact decode_tunnelRequest v hf
  | verdict => exact decode_verdict v hf
  | token => exact decode_token v hf
  | headers => exact decode_headers v hf
  | pair => exact decode_pair v hf

inductive Built : Headers → Prop
  | empty : Built .empty
  | insert {h : Headers} (name value : String) : Built h → Built (h.insert name value)
  | ofMap (m : Header.Map) : Built (.ofMap m)
  | decode {b : ByteArray} {h : Headers} : Headers.decode b = .ok h → Built h

def Lowered (h : Headers) : Prop := ∀ p ∈ h.others, lowerName p = p

lemma lowered_empty : Lowered .empty := by
  intro p hp
  simp [Headers.empty] at hp

lemma lowered_pushOther {h : Headers} (hl : Lowered h) (name value : String) :
    Lowered (h.pushOther (Text.lower name) value) := by
  intro p hp
  rcases Array.mem_push.mp hp with hp | rfl
  · exact hl p hp
  · rw [lowerName, lower_lower]

lemma lowered_insert {h : Headers} (hl : Lowered h) (name value : String) :
    Lowered (h.insert name value) := by
  simp only [Headers.insert]
  split
  · split
    · exact hl
    · exact lowered_pushOther hl name value
  · exact lowered_pushOther hl name value

lemma lowered_ofMap (m : Header.Map) : Lowered (.ofMap m) := by
  rw [Headers.ofMap]
  generalize Headers.empty = h, lowered_empty = hl
  induction m.toList generalizing h with
  | nil => exact hl
  | cons p pairs ih =>
    obtain ⟨name, value⟩ := p
    rw [List.foldl_cons]
    apply ih
    dsimp only
    cases String.fromUTF8? value with
    | none => exact hl
    | some text => exact lowered_insert hl name text

lemma lowered_removeHopByHop {h : Headers} (hl : Lowered h) : Lowered h.removeHopByHop := by
  intro p hp
  exact hl p (Array.mem_filter.mp hp).1

lemma lowered_foldlM {fs : List Field} {g h : Headers} (hl : Lowered g)
    (hf : fs.foldlM Headers.takeField g = .ok h) : Lowered h := by
  induction fs using List.reverseRecOn generalizing h with
  | nil =>
    cases hf
    exact hl
  | append_singleton fs f ih =>
    obtain ⟨u, hu, ht⟩ := foldlM_concat.mp hf
    have hlu := ih hu
    rcases takeField_cases ht with ⟨s, value, -, rfl⟩ | ⟨b, name, value, -, -, rfl⟩ |
      ⟨b, value, -, -, rfl⟩ | ⟨-, rfl⟩
    · exact lowered_insert hlu s.name value
    · exact lowered_pushOther hlu name value
    · exact hlu
    · exact hlu

lemma lowered_of_built {h : Headers} (hb : Built h) : Lowered h := by
  induction hb with
  | empty => exact lowered_empty
  | insert name value _ ih => exact lowered_insert ih name value
  | ofMap m => exact lowered_ofMap m
  | decode hd =>
    obtain ⟨fs, -, hf⟩ := fold_eq_ok_iff.mp hd
    exact lowered_foldlM lowered_empty hf

lemma lowerNames_of_lowered {h : Headers} (hl : Lowered h) : lowerNames h = h := by
  have hmap : h.others.map lowerName = h.others := by
    rw [Array.map_congr_left hl, Array.map_id']
  rw [lowerNames, hmap]

def BuiltIn : (k : Kind) → k.Value → Prop
  | .request, (r : Request) => Built r.headers
  | .response, (r : Response) => Built r.headers
  | .tunnelRequest, (r : TunnelRequest) => Built r.headers
  | .headers, h => Built h
  | .verdict, _ => True
  | .token, _ => True
  | .pair, _ => True

def LoweredIn : (k : Kind) → k.Value → Prop
  | .request, (r : Request) => Lowered r.headers
  | .response, (r : Response) => Lowered r.headers
  | .tunnelRequest, (r : TunnelRequest) => Lowered r.headers
  | .headers, h => Lowered h
  | .verdict, _ => True
  | .token, _ => True
  | .pair, _ => True

lemma settled_of_loweredIn {k : Kind} {v : k.Value} (h : LoweredIn k v) : settled k v = v := by
  cases k with
  | request =>
    show ({ v with headers := lowerNames (Request.headers v) } : Request) = v
    rw [lowerNames_of_lowered h]
    rfl
  | response =>
    show ({ v with headers := lowerNames (Response.headers v) } : Response) = v
    rw [lowerNames_of_lowered h]
    rfl
  | tunnelRequest =>
    show ({ v with headers := lowerNames (TunnelRequest.headers v) } : TunnelRequest) = v
    rw [lowerNames_of_lowered h]
    rfl
  | headers => exact lowerNames_of_lowered h
  | verdict => rfl
  | token => rfl
  | pair => rfl

lemma settled_of_builtIn {k : Kind} {v : k.Value} (h : BuiltIn k v) : settled k v = v := by
  apply settled_of_loweredIn
  cases k with
  | request | response | tunnelRequest | headers => exact lowered_of_built h
  | verdict | token | pair => trivial

lemma decode_of_legal {k : Kind} {v : k.Value} (hl : Frame.Legal (k.encode v).size) :
    k.decode (k.encode v) = .ok (settled k v) := by
  have hsize : (k.encode v).size < UInt32.size := legal_lt hl
  rw [encode_eq] at hsize
  exact decode_encode k v (fits_of_size hsize)

lemma decode_of_loweredIn {k : Kind} {v : k.Value} (hl : Frame.Legal (k.encode v).size)
    (hv : LoweredIn k v) : k.decode (k.encode v) = .ok v := by
  rw [decode_of_legal hl, settled_of_loweredIn hv]

theorem wire_round_trip (k : Kind) (v : k.Value) :
    ((∀ f ∈ k.fields v, Fits f) → k.decode (k.encode v) = .ok (settled k v)) ∧
    (BuiltIn k v → settled k v = v) ∧
    (Frame.Legal (k.encode v).size → ∃ frame, Frame.encode (k.encode v) = .ok frame ∧
      k.decode (k.encode v) = .ok (settled k v) ∧
      (∀ payload cuts, join cuts = frame ++ payload →
        firstAnswer Frame.Scanner.fresh cuts = some (.ok (k.encode v, payload))) ∧
      ∀ payload source ending, Gives source (frame ++ payload) ending →
        ∃ rest, scan source = .found (k.encode v) rest ∧ Yields rest payload ending) := by
  refine ⟨decode_encode k v, settled_of_builtIn, ?_⟩
  intro hl
  have hsize : (k.encode v).size < UInt32.size := legal_lt hl
  have hfits : ∀ f ∈ k.fields v, Fits f := by
    rw [encode_eq] at hsize
    exact fits_of_size hsize
  refine ⟨_, Frame.encode_eq_ok_iff.mpr ⟨hl, rfl⟩, decode_encode k v hfits, ?_, ?_⟩
  · intro payload cuts hcuts
    rw [← holding_empty, firstAnswer_holding verdict_empty, ByteArray.empty_append, hcuts,
      verdict_frame payload hl]
    rfl
  · intro payload source ending hg
    have ho := outlook_of_gives hg
    have hv : verdict (outlook source).1 = some (.ok ⟨k.encode v, payload⟩) := by
      rw [ho]
      exact verdict_frame payload hl
    obtain ⟨remaining, after, hs, hpayload, hending⟩ := scan_of_verdict hv
    rw [ho] at hending
    exact ⟨_, hs, yields_make (Prod.ext hpayload.symm hending)⟩

end TwoHop.Proofs.Wire.RoundTrip
