import TwoHop.Agent.Remote
import TwoHop.Proofs.Agent.Calling
import TwoHop.Proofs.Flow.Hearing
import TwoHop.Proofs.Flow.Tunnel
import TwoHop.Proofs.Wire.RoundTrip

/-! Whom the remote agent lets in: what it decides about a connection, given all that a peer will
ever send on it, and what of that reaches the peer and the destination. -/

namespace TwoHop.Proofs.Agent.Admission

open TwoHop.Frame TwoHop.Flow TwoHop.RemoteAgent
open Flow.Content Flow.Scanning Flow.Hearing Flow.Direction Flow.Tunnel Scanner.Fragmentation
open Scanner.Heading Wire.Decoders Wire.RoundTrip Calling
open Proofs.Bytes

def Asks (bytes : ByteArray) (r : TunnelRequest) (rest : ByteArray) : Prop :=
  ∃ body, Legal body.size ∧ bytes = framed body ++ rest ∧
    TunnelRequest.decode body = .ok r

def cutShort (received expected : Nat) : Ending → Fault
  | .clean => .prematureEnd received expected
  | .fault e => .io e
  | .silent => .frame .requestSilence

inductive Unreadable (bytes : ByteArray) (ending : Ending) : Fault → Prop
  | heading {e : FrameFault} : headerSize ≤ bytes.size → parseHeader bytes = .error e →
      Unreadable bytes ending (.frame e)
  | shortHeading : bytes.size < headerSize →
      Unreadable bytes ending (cutShort bytes.size headerSize ending)
  | shortBody {n : Nat} : parseHeader bytes = .ok n → bytes.size < size n →
      Unreadable bytes ending (cutShort bytes.size (size n) ending)
  | message {body rest : ByteArray} {e : DecodeFault} : Legal body.size →
      bytes = framed body ++ rest → TunnelRequest.decode body = .error e →
      Unreadable bytes ending (.decode e)

def addressOf (r : TunnelRequest) : String := (Target.mk r.host r.port).text

inductive Decides (a : RemoteAgent) (now : Int64) (dial : String → Dial) (bytes : ByteArray)
    (ending : Ending) : Decision → Prop
  | unreadable {f : Fault} : Unreadable bytes ending f →
      Decides a now dial bytes ending { call := .reject 502 f.detail }
  | unadmitted {r : TunnelRequest} {rest : ByteArray} : Asks bytes r rest →
      a.admits now r = false → Decides a now dial bytes ending { call := .reject 407 "No Auth" }
  | failed {r : TunnelRequest} {rest : ByteArray} {e : IoError} : Asks bytes r rest →
      a.admits now r = true → dial (addressOf r) = .failed e →
      Decides a now dial bytes ending {
        call := .reject 502 (Fault.connect (addressOf r) e).detail, dialled := some (addressOf r) }
  | timedOut {r : TunnelRequest} {rest : ByteArray} : Asks bytes r rest →
      a.admits now r = true → dial (addressOf r) = .timedOut →
      Decides a now dial bytes ending {
        call := .reject 504 (Fault.timeout (addressOf r)).detail, dialled := some (addressOf r) }
  | opened {r : TunnelRequest} {rest unread : ByteArray} {c : Connection} {parts : Parts} :
      Asks bytes r rest → a.admits now r = true → dial (addressOf r) = .connected c →
      Gives parts.source unread ending → parts.remaining ++ unread = rest →
      Decides a now dial bytes ending {
        call := .reply .ok, dialled := some (addressOf r), destination := some (c, parts) }

variable {bytes rest rest' : ByteArray} {ending : Ending} {r r' : TunnelRequest}

lemma verdict_of_asks (h : Asks bytes r rest) :
    ∃ body, verdict bytes = some (.ok ⟨body, rest⟩) ∧ TunnelRequest.decode body = .ok r := by
  obtain ⟨body, hl, rfl, hd⟩ := h
  exact ⟨body, verdict_framed rest hl, hd⟩

lemma asks_unique (h : Asks bytes r rest) (h' : Asks bytes r' rest') : r = r' ∧ rest = rest' :=
  framed_unique h h'

lemma unreadable_of_verdict_none {f : Fault} (hv : verdict bytes = none)
    (hf : f = cutShort bytes.size (holding bytes).expected ending) : Unreadable bytes ending f := by
  subst hf
  rcases verdict_eq_none hv with hs | ⟨n, hp, hn⟩
  · rw [holding_short hs]
    exact .shortHeading hs
  · rw [holding_partial hp]
    exact .shortBody hp hn

lemma not_unreadable_of_asks (h : Asks bytes r rest) {f : Fault} :
    ¬ Unreadable bytes ending f := by
  obtain ⟨body, hv, hd⟩ := verdict_of_asks h
  intro hu
  cases hu with
  | heading hs hp =>
    rw [verdict_bad hs hp] at hv
    cases hv
  | shortHeading hs =>
    rw [verdict_short hs] at hv
    cases hv
  | shortBody hp hn =>
    rw [verdict_partial hp hn] at hv
    cases hv
  | message hl hbytes hd' =>
    rw [hbytes, verdict_framed _ hl] at hv
    cases hv
    rw [hd'] at hd
    cases hd

def Read (bytes : ByteArray) (ending : Ending) : Except Fault (TunnelRequest × Parts) → Prop
  | .error f => Unreadable bytes ending f
  | .ok (r, parts) => ∃ unread, Gives parts.source unread ending ∧
      Asks bytes r (parts.remaining ++ unread)

lemma read_tunnelRequest {source : Source} (hg : Gives source bytes ending) :
    Read bytes ending (tunnelRequest source) := by
  have he := explained_scan source
  rw [outlook_of_gives hg] at he
  rw [tunnelRequest]
  generalize scan source = result at he
  cases result with
  | waits s =>
    obtain ⟨hv, hend⟩ := he
    dsimp only at hv hend
    subst hend
    exact unreadable_of_verdict_none hv rfl
  | failed f after =>
    rcases he with ⟨e, hv, rfl⟩ | ⟨hv, ⟨hend, rfl⟩ | ⟨e, hend, rfl⟩⟩
    · obtain ⟨hs, hp⟩ := verdict_eq_error hv
      exact .heading hs hp
    · dsimp only at hv hend
      subst hend
      exact unreadable_of_verdict_none hv rfl
    · dsimp only at hv hend
      subst hend
      exact unreadable_of_verdict_none hv rfl
  | found body h =>
    obtain ⟨remaining, after, rfl, hv, hend⟩ := he
    obtain ⟨hl, hbytes⟩ := frame_of_verdict hv
    dsimp only at hl hbytes hend
    show Read bytes ending ((TunnelRequest.decode body).mapError .decode >>= fun r =>
      pure (r, ⟨remaining, after, after.isExhausted⟩))
    cases hd : TunnelRequest.decode body with
    | error e => exact Unreadable.message hl hbytes hd
    | ok r =>
      have hunread := gives_outlook after
      rw [hend] at hunread
      exact ⟨_, hunread, body, hl, hbytes, hd⟩

lemma status_of_unreadable {f : Fault} (h : Unreadable bytes ending f) : f.status = .badGateway := by
  cases h with
  | heading | message => rfl
  | shortHeading | shortBody => cases ending <;> rfl

lemma decides_decision {source : Source} (hg : Gives source bytes ending) (a : RemoteAgent)
    (now : Int64) (dial : String → Dial) :
    Decides a now dial bytes ending (a.decision now source dial) := by
  have hread := read_tunnelRequest hg
  rw [decision]
  generalize tunnelRequest source = request at hread
  cases request with
  | error f =>
    have hcall : Call.rejectFault f = .reject 502 f.detail := by
      rw [Call.rejectFault, status_of_unreadable hread]
      rfl
    dsimp only
    rw [hcall]
    exact .unreadable hread
  | ok found =>
    obtain ⟨r, parts⟩ := found
    obtain ⟨unread, hunread, hasks⟩ := hread
    dsimp only
    cases hadmits : a.admits now r with
    | false => exact .unadmitted hasks hadmits
    | true =>
      rw [if_neg (by simp)]
      cases hdial : dial (addressOf r) with
      | failed e =>
        rw [show dial (Target.mk r.host r.port).text = _ from hdial]
        exact .failed hasks hadmits hdial
      | timedOut =>
        rw [show dial (Target.mk r.host r.port).text = _ from hdial]
        exact .timedOut hasks hadmits hdial
      | connected c =>
        rw [show dial (Target.mk r.host r.port).text = _ from hdial]
        exact .opened hasks hadmits hdial hunread rfl

lemma decision_of_unadmitted {source : Source} (hg : Gives source bytes ending) {a : RemoteAgent}
    {now : Int64} (hasks : Asks bytes r rest) (hadmits : a.admits now r = false)
    (dial : String → Dial) : a.decision now source dial = { call := .reject 407 "No Auth" } := by
  have hread := read_tunnelRequest hg
  rw [decision]
  generalize tunnelRequest source = request at hread
  cases request with
  | error f => exact absurd hread (not_unreadable_of_asks hasks)
  | ok found =>
    obtain ⟨r', parts⟩ := found
    obtain ⟨unread, -, hasks'⟩ := hread
    obtain ⟨rfl, -⟩ := asks_unique hasks hasks'
    dsimp only
    rw [hadmits]
    rfl

lemma decision_congr (a : RemoteAgent) (now : Int64) (source : Source) {dial dial' : String → Dial}
    (h : ∀ address, (a.decision now source dial).dialled = some address →
      dial' address = dial address) :
    a.decision now source dial' = a.decision now source dial := by
  revert h
  rw [decision, decision]
  cases tunnelRequest source with
  | error f => exact fun _ => rfl
  | ok found =>
    obtain ⟨r, parts⟩ := found
    dsimp only
    cases a.admits now r with
    | false => exact fun _ => rfl
    | true =>
      intro h
      have hsame : dial' (Target.mk r.host r.port).text = dial (Target.mk r.host r.port).text := by
        apply h
        simp only [Bool.not_true, Bool.false_eq_true, if_false]
        split <;> rfl
      rw [hsame]

lemma token_of_admits {a : RemoteAgent} {now : Int64} (h : a.admits now r = true) :
    ∃ t, r.token = some t ∧ a.keyring.acceptsAt t now = true := by
  rw [admits, Option.any_eq_true] at h
  exact h

structure Tidy (d : Decision) : Prop where
  fresh : d.call.phase = .start
  closes : d.call.closes = !d.call.verdict.isOk
  destined : d.call.verdict.isOk = d.destination.isSome

lemma tidy_of_decides {a : RemoteAgent} {now : Int64} {dial : String → Dial} {d : Decision}
    (h : Decides a now dial bytes ending d) : Tidy d := by
  cases h <;> exact ⟨rfl, rfl, rfl⟩

lemma asks_of_decides {a : RemoteAgent} {now : Int64} {dial : String → Dial} {d : Decision}
    (h : Decides a now dial bytes ending d) (hd : d.dialled ≠ none ∨ d.call.verdict.isOk = true) :
    ∃ r rest t, Asks bytes r rest ∧ r.token = some t ∧ a.keyring.acceptsAt t now = true ∧
      d.dialled = some (addressOf r) := by
  cases h with
  | unreadable hu => rcases hd with hd | hd <;> simp [Call.reject, Verdict.isOk, Verdict.refused] at hd
  | unadmitted hasks hadmits =>
    rcases hd with hd | hd <;> simp [Call.reject, Verdict.isOk, Verdict.refused] at hd
  | failed hasks hadmits | timedOut hasks hadmits | opened hasks hadmits =>
    obtain ⟨t, ht, haccepts⟩ := token_of_admits hadmits
    exact ⟨_, _, t, hasks, ht, haccepts, rfl⟩

lemma opened_of_decides {a : RemoteAgent} {now : Int64} {dial : String → Dial} {d : Decision}
    {c : Connection} {parts : Parts} (h : Decides a now dial bytes ending d)
    (hd : d.destination = some (c, parts)) :
    ∃ r unread, Asks bytes r (parts.remaining ++ unread) ∧ Gives parts.source unread ending ∧
      dial (addressOf r) = .connected c ∧ d.dialled = some (addressOf r) ∧ d.call = .reply .ok := by
  cases h with
  | unreadable | unadmitted | failed | timedOut => cases hd
  | opened hasks hadmits hdial hunread hrest =>
    cases hd
    subst hrest
    exact ⟨_, _, hasks, hunread, hdial, rfl, rfl⟩

/-- A whole frame with a verdict of 200 is among these bytes, at their front. -/
def Grants (written : ByteArray) : Prop :=
  ∃ body more v, Legal body.size ∧ written = framed body ++ more ∧
    Verdict.decode body = .ok v ∧ v.code = 200

lemma isOk_of_grants {v : Verdict} {written : ByteArray} (hw : Begins (framed v.encode) written)
    (hl : Legal v.encode.size) (hg : Grants written) : v.isOk = true := by
  obtain ⟨left, hframe⟩ := hw
  obtain ⟨body, more, w, hbody, rfl, hd, hcode⟩ := hg
  have hv : verdict (framed v.encode) = some (.ok ⟨body, more ++ left⟩) := by
    rw [hframe, ByteArray.append_assoc, verdict_framed _ hbody]
  have hv' : verdict (framed v.encode) = some (.ok ⟨v.encode, .empty⟩) := by
    rw [← verdict_framed .empty hl, ByteArray.append_empty]
  obtain ⟨rfl, -⟩ : v.encode = body ∧ _ := by simpa [hv] using hv'.symm
  have hdecode : Verdict.decode v.encode = .ok v := decode_of_legal (k := .verdict) hl
  rw [hdecode] at hd
  cases hd
  simp [Verdict.isOk, hcode]

lemma not_grants_empty : ¬ Grants .empty := by
  rintro ⟨body, more, v, -, hempty, -⟩
  have hsize := congrArg ByteArray.size hempty
  simp only [ByteArray.size_append, size_framed, headerSize, ByteArray.size_empty] at hsize
  omega

lemma splice_eq_some {a : RemoteAgent} {now : Int64} {c : Connection} {dial : String → Dial}
    {s : Splice} (h : (a.handleTunnel now c dial).splice = some s) :
    ∃ sent destination parts,
      ((a.decision now c.source dial).call.run {} c.sink).1.result? = some (.ok sent) ∧
      (a.decision now c.source dial).destination = some (destination, parts) ∧
      s = .start parts.source (a.handleTunnel now c dial).sink destination.source destination.sink
        parts.remaining {} {} := by
  simp only [handleTunnel] at h ⊢
  split at h
  · next sent destination parts hresult hdestination =>
    exact ⟨sent, destination, parts, hresult, hdestination, (Option.some.inj h).symm⟩
  · cases h

lemma splice_isSome {a : RemoteAgent} {now : Int64} {c : Connection} {dial : String → Dial} {l : Outlet}
    (hd : Tidy (a.decision now c.source dial))
    (hl : Legal (a.decision now c.source dial).call.verdict.encode.size)
    (hw : Sink.writeAll c.sink (framed (a.decision now c.source dial).call.verdict.encode) = (.all, l)) :
    (a.handleTunnel now c dial).splice.isSome = (a.decision now c.source dial).call.verdict.isOk := by
  obtain ⟨-, hresult⟩ := run_of_sent hd.fresh hl hw
  have hdestined := hd.destined
  have hcloses := hd.closes
  simp only [handleTunnel]
  generalize a.decision now c.source dial = d at hresult hdestined hcloses ⊢
  rw [hcloses] at hresult
  cases hok : d.call.verdict.isOk with
  | false =>
    have hnone : d.destination = none := by simpa [hok] using hdestined
    simp [hnone]
  | true =>
    obtain ⟨⟨destination, parts⟩, hsome⟩ := Option.isSome_iff_exists.mp (hdestined.symm.trans hok)
    simp [hresult, hok, hsome]

theorem tunnel_leg {source : Source} (hg : Gives source bytes ending) (a : RemoteAgent)
    (now : Int64) (dial : String → Dial) (peer : Outlet) :
    let served := a.handleTunnel now ⟨source, peer⟩ dial
    ∃ d written, Decides a now dial bytes ending d ∧ served.dialled = d.dialled ∧
      served.sink.data = peer.data ++ written ∧ Begins (framed d.call.verdict.encode) written ∧
      (served.dialled ≠ none ∨ Grants written → ∃ r rest t, Asks bytes r rest ∧
        r.token = some t ∧ a.keyring.acceptsAt t now = true) ∧
      (∀ dial', (∀ address, served.dialled = some address → dial' address = dial address) →
        a.handleTunnel now ⟨source, peer⟩ dial' = served) ∧
      (∀ r rest, Asks bytes r rest → a.admits now r = false →
        d.call = .reject 407 "No Auth" ∧ Legal d.call.verdict.encode.size ∧
        ∀ source' bytes' ending' a' now' dial' r' rest', Gives source' bytes' ending' →
          Asks bytes' r' rest' → RemoteAgent.admits a' now' r' = false →
          a'.handleTunnel now' ⟨source', peer⟩ dial' = served) ∧
      (∀ l, Legal d.call.verdict.encode.size →
        Sink.writeAll peer (framed d.call.verdict.encode) = (.all, l) →
        written = framed d.call.verdict.encode ∧ l.data = peer.data ++ written ∧
        l.finished = peer.finished ∧
        served.sink = (if d.call.verdict.isOk then l.flush.2 else l.flush.2.finish.2) ∧
        served.splice.isSome = d.call.verdict.isOk) ∧
      (∀ s, served.splice = some s → ∃ r rest c, Asks bytes r rest ∧
        dial (addressOf r) = .connected c ∧ served.dialled = some (addressOf r) ∧
        written = framed Verdict.ok.encode ∧ ∀ moves given ending', Gives c.source given ending' →
          Brings served.sink c.sink (given, ending') (rest, ending) (run s moves)) := by
  intro served
  have hdecides := decides_decision hg a now dial
  have htidy := tidy_of_decides hdecides
  obtain ⟨written, hdata, hbegins, hillegal⟩ := call_records htidy.fresh peer
  have hsent {l : Outlet} (hl : Legal (a.decision now source dial).call.verdict.encode.size)
      (hw : Sink.writeAll peer (framed (a.decision now source dial).call.verdict.encode) = (.all, l)) :
      written = framed (a.decision now source dial).call.verdict.encode := by
    rw [(run_of_sent htidy.fresh hl hw).1, hungUp_data, (data_of_writeAll hw).1] at hdata
    exact (ByteArray.append_right_inj _).mp hdata.symm
  refine ⟨a.decision now source dial, written, hdecides, rfl, hdata, hbegins, ?_, ?_, ?_, ?_, ?_⟩
  · intro h
    obtain ⟨r, rest, t, hasks, ht, haccepts, -⟩ := asks_of_decides hdecides <| h.imp_right <| by
      intro hgrants
      apply isOk_of_grants hbegins _ hgrants
      by_contra hl
      rw [hillegal hl] at hgrants
      exact not_grants_empty hgrants
    exact ⟨r, rest, t, hasks, ht, haccepts⟩
  · intro dial' h
    simp only [served, handleTunnel, decision_congr a now source h]
  · intro r rest hasks hadmits
    rw [decision_of_unadmitted hg hasks hadmits]
    refine ⟨rfl, by decide, ?_⟩
    intro source' bytes' ending' a' now' dial' r' rest' hg' hasks' hadmits'
    simp only [served, handleTunnel, decision_of_unadmitted hg hasks hadmits,
      decision_of_unadmitted hg' hasks' hadmits']
  · intro l hl hw
    obtain ⟨hbefore, hfinished⟩ := data_of_writeAll hw
    refine ⟨hsent hl hw, ?_, hfinished, ?_, splice_isSome htidy hl hw⟩
    · rw [hbefore, hsent hl hw]
    · refine (run_of_sent htidy.fresh hl hw).1.trans ?_
      rw [hungUp, htidy.closes]
      cases (a.decision now source dial).call.verdict.isOk <;> rfl
  · intro s hs
    obtain ⟨sent, destination, parts, hresult, hdestination, rfl⟩ := splice_eq_some hs
    obtain ⟨l, hl, hw⟩ := sent_of_result htidy.fresh hresult
    obtain ⟨r, unread, hasks, hunread, hdial, hdialled, hcall⟩ :=
      opened_of_decides hdecides hdestination
    refine ⟨r, _, destination, hasks, hdial, hdialled, ?_, ?_⟩
    · rw [hsent hl hw, hcall]
      rfl
    · intro moves given ending' hgiven
      exact brings_run hunread hgiven served.sink destination.sink parts.remaining {} {} moves

def unsigned : TunnelRequest := { host := "db", port := 22, headers := .empty }

def knock : Source :=
  .reader [.data (framed unsigned.encode ++ [1, 2].toByteArray), .silence]

theorem tunnel_leg_knock :
    let a : RemoteAgent := { settings := {}, keyring := ⟨[]⟩, identity := none }
    let served := a.handleTunnel 0 ⟨knock, {}⟩ fun _ => .connected {}
    served.dialled = none ∧ served.splice = none ∧ served.sink.finished = 1 ∧
      served.sink.data = framed (Verdict.refused 407 "No Auth").encode := by
  intro a served
  have hl : Legal unsigned.encode.size := by decide
  have hdecode : TunnelRequest.decode unsigned.encode = .ok unsigned :=
    decode_of_loweredIn (k := .tunnelRequest) hl lowered_empty
  have hasks : Asks (outlook knock).1 unsigned [1, 2].toByteArray :=
    ⟨unsigned.encode, hl, by rfl, hdecode⟩
  obtain ⟨d, written, -, -, hdata, -, honly, -, hunadmitted, hsent, -⟩ :=
    tunnel_leg (gives_outlook knock) a 0 (fun _ => .connected {}) {}
  obtain ⟨hcall, hlegal, -⟩ := hunadmitted unsigned _ hasks rfl
  obtain ⟨l, hw, -⟩ := writeAll_willing (k := {}) ⟨rfl, by simp⟩ (framed d.call.verdict.encode)
  obtain ⟨hwritten, -, hfinished, hsink, hsplice⟩ := hsent l hlegal hw
  rw [hcall] at hwritten hsink hsplice
  refine ⟨?_, Option.isNone_iff_eq_none.mp (Option.isSome_eq_false_iff.mp hsplice), ?_, ?_⟩
  · by_contra hdialled
    obtain ⟨r, rest, t, hasks', htoken, -⟩ := honly (Or.inl hdialled)
    obtain ⟨rfl, -⟩ := asks_unique hasks hasks'
    cases htoken
  · rw [show served.sink = l.flush.2.finish.2 from hsink]
    exact congrArg (· + 1) hfinished
  · rw [show served.sink.data = _ from hdata, hwritten]
    exact ByteArray.empty_append

end TwoHop.Proofs.Agent.Admission
