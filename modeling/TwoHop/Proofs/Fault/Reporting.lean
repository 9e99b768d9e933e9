import Mathlib.Data.List.Basic
import TwoHop.Proofs.Fault.Rendering

/-! What a failed exchange with a next hop is reported as: a time-out when the connection was given
up, else a fault whose detail leaves out nothing that is known of the failure. -/

namespace TwoHop.Proofs.Fault.Reporting

open ExchangeError Rendering

inductive TimesOut : ExchangeCause → Prop
  | elapsed (text : String) : TimesOut (.elapsed text)
  | io (text : String) : TimesOut (.io .timedOut text)

def IsIo (cause : ExchangeCause) : Prop := ∃ kind text, cause = .io kind text

/-- This is the kind of the last input or output error among the causes, or the usual one if there
is none. -/
inductive Deepest (usual : IoKind) : List ExchangeCause → IoKind → Prop
  | none {causes : List ExchangeCause} : (∀ cause ∈ causes, ¬ IsIo cause) →
      Deepest usual causes usual
  | last (front : List ExchangeCause) (kind : IoKind) (text : String) {back : List ExchangeCause} :
      (∀ cause ∈ back, ¬ IsIo cause) → Deepest usual (front ++ .io kind text :: back) kind

inductive Reported (target : String) (e : ExchangeError) : Fault → Prop
  | protocol : e.isConnect = false → Reported target e (.protocol (.exchange target e.chain))
  | timeout : e.isConnect = true → (∃ cause ∈ e.causes, TimesOut cause) →
      Reported target e (.timeout target)
  | connect (kind : IoKind) : e.isConnect = true → (∀ cause ∈ e.causes, ¬ TimesOut cause) →
      Deepest .other e.causes kind → Reported target e (.connect target ⟨kind, e.chain, []⟩)

variable {usual found kind : IoKind} {cause : ExchangeCause} {causes : List ExchangeCause}
  {target : String} {e : ExchangeError}

lemma timesOut_io_iff {text : String} : TimesOut (.io kind text) ↔ kind = .timedOut := by
  constructor
  · rintro ⟨⟩
    rfl
  · rintro rfl
    exact .io text

lemma not_timesOut_other (text : String) : ¬ TimesOut (.other text) := by
  rintro ⟨⟩

lemma not_isIo_other (text : String) : ¬ IsIo (.other text) := by
  rintro ⟨kind, said, ⟨⟩⟩

lemma Deepest.behind_other (h : Deepest usual causes kind) (text : String) :
    Deepest usual (.other text :: causes) kind := by
  cases h with
  | none hnone => exact .none (List.forall_mem_cons.mpr ⟨not_isIo_other text, hnone⟩)
  | last front kind said hback => exact .last (.other text :: front) kind said hback

lemma Deepest.behind_io (h : Deepest found causes kind) (text : String) :
    Deepest usual (.io found text :: causes) kind := by
  cases h with
  | none hnone => exact .last [] found text hnone
  | last front kind said hback => exact .last (.io found text :: front) kind said hback

lemma kindBehind?_eq_none_iff :
    kindBehind? usual causes = none ↔ ∃ cause ∈ causes, TimesOut cause := by
  induction causes generalizing usual with
  | nil => simp [kindBehind?]
  | cons cause causes ih =>
    rw [List.exists_mem_cons_iff]
    cases cause with
    | elapsed text => exact iff_of_true rfl (.inl (.elapsed text))
    | io found text =>
      rw [kindBehind?, timesOut_io_iff]
      split
      · next hfound => exact iff_of_true rfl (.inl hfound)
      · next hfound => rw [ih, or_iff_right hfound]
    | other text => rw [kindBehind?, ih, or_iff_right (not_timesOut_other text)]

lemma deepest_of_kindBehind? (h : kindBehind? usual causes = some kind) :
    Deepest usual causes kind := by
  -- The kind found so far is the usual one for the causes that are left.
  induction causes generalizing usual with
  | nil =>
    cases h
    apply Deepest.none
    simp
  | cons cause causes ih =>
    cases cause with
    | elapsed text => cases h
    | io found text =>
      rw [kindBehind?] at h
      split at h
      · cases h
      · exact (ih h).behind_io text
    | other text => exact (ih h).behind_other text

lemma reported_toFault (target : String) (e : ExchangeError) :
    Reported target e (e.toFault target) := by
  rw [toFault]
  cases hconnect : e.isConnect with
  | false => exact .protocol hconnect
  | true =>
    rw [Bool.not_true, if_neg Bool.false_ne_true]
    cases hkind : kindBehind? .other e.causes with
    | none => exact .timeout hconnect (kindBehind?_eq_none_iff.mp hkind)
    | some kind =>
      refine .connect kind hconnect ?_ (deepest_of_kindBehind? hkind)
      intro cause hcause htimeout
      have hnone : kindBehind? .other e.causes = none :=
        kindBehind?_eq_none_iff.mpr ⟨cause, hcause, htimeout⟩
      cases hkind.symm.trans hnone

lemma status_toFault (target : String) (e : ExchangeError) :
    (e.toFault target).status = .badGateway ∨ (e.toFault target).status = .gatewayTimeout := by
  have hreported := reported_toFault target e
  generalize e.toFault target = f at hreported ⊢
  cases hreported with
  | protocol | connect => exact .inl rfl
  | timeout => exact .inr rfl

structure Tells (target : String) (e : ExchangeError) (detail : String) : Prop where
  target : Shows detail target
  error : Shows detail e.text
  causes : ∀ cause ∈ e.causes, Shows detail cause.text

lemma tells_of_shows {detail : String} (htarget : Shows detail target)
    (hchain : Shows detail e.chain) : Tells target e detail where
  target := htarget
  error := hchain.trans (shows_renderChain List.mem_cons_self)
  causes cause hcause := by
    apply hchain.trans
    apply shows_renderChain
    exact List.mem_cons_of_mem _ (List.mem_map_of_mem hcause)

lemma tells_protocol (target : String) (e : ExchangeError) :
    Tells target e (Fault.protocol (.exchange target e.chain)).detail := by
  have hdetail : (Fault.protocol (.exchange target e.chain)).detail =
      "Upstream protocol error: " ++ (target ++ ": " ++ e.chain) := rfl
  rw [hdetail]
  apply tells_of_shows
  · exact (((shows_refl target).append_left _).append_left _).append_right _
  · exact ((shows_refl e.chain).append_right _).append_right _

lemma tells_connect (target : String) (e : ExchangeError) (kind : IoKind) :
    Tells target e (Fault.connect target ⟨kind, e.chain, []⟩).detail := by
  rw [detail_connect]
  apply tells_of_shows
  · exact (((shows_refl target).append_right _).append_left _).append_left _
  · exact (shows_refl e.chain).append_right _

theorem failed_exchange (target : String) (e : ExchangeError) :
    let f := e.toFault target
    (f.status.code = 504 ↔ e.isConnect = true ∧ ∃ cause ∈ e.causes, TimesOut cause) ∧
    (f.status.code = 504 → f = .timeout target) ∧
    (f.status.code ≠ 504 → f.status.code = 502 ∧
      (e.isConnect = false → f = .protocol (.exchange target e.chain)) ∧
      (e.isConnect = true → ∃ error, f = .connect target error ∧
        Deepest .other e.causes error.kind) ∧
      Tells target e f.detail) := by
  intro f
  have hreported : Reported target e f := reported_toFault target e
  have hother : (502 : UInt16) ≠ 504 := by decide
  generalize f = g at hreported ⊢
  cases hreported with
  | protocol hoff =>
    have hcode : (Fault.protocol (.exchange target e.chain)).status.code = 502 := rfl
    rw [hcode]
    refine ⟨iff_of_false hother ?_, fun h => absurd h hother,
      fun _ => ⟨rfl, fun _ => rfl, ?_, tells_protocol target e⟩⟩
    · simp [hoff]
    · simp [hoff]
  | timeout hon htimeout =>
    have hcode : (Fault.timeout target).status.code = 504 := rfl
    exact ⟨iff_of_true hcode ⟨hon, htimeout⟩, fun _ => rfl, fun h => absurd hcode h⟩
  | connect kind hon hno hdeepest =>
    have hcode : (Fault.connect target ⟨kind, e.chain, []⟩).status.code = 502 := rfl
    rw [hcode]
    refine ⟨iff_of_false hother ?_, fun h => absurd h hother,
      fun _ => ⟨rfl, ?_, fun _ => ⟨_, rfl, hdeepest⟩, tells_connect target e kind⟩⟩
    · rintro ⟨-, cause, hcause, htimeout⟩
      exact hno cause hcause htimeout
    · simp [hon]

def refusal (behind : ExchangeCause) : ExchangeError where
  isConnect := true
  text := "client error (Connect)"
  causes := [.other "tcp connect error", .io .connectionRefused "refused", behind]

theorem failed_exchange_refusal :
    let plain := (refusal (.io .hostUnreachable "no route")).toFault "db:80"
    let late := (refusal (.io .timedOut "refused")).toFault "db:80"
    (plain.status.code = 502 ∧ (∃ error, plain = .connect "db:80" error ∧
      Deepest .other (refusal (.io .hostUnreachable "no route")).causes error.kind) ∧
      Tells "db:80" (refusal (.io .hostUnreachable "no route")) plain.detail) ∧
    late.status.code = 504 ∧ late = .timeout "db:80" := by
  intro plain late
  have hplain : plain.status.code ≠ 504 := by decide
  obtain ⟨-, -, hother⟩ := failed_exchange "db:80" (refusal (.io .hostUnreachable "no route"))
  obtain ⟨hcode, -, hconnect, htells⟩ := hother hplain
  obtain ⟨hlate, hfault, -⟩ := failed_exchange "db:80" (refusal (.io .timedOut "refused"))
  have htimeout : late.status.code = 504 :=
    hlate.mpr ⟨rfl, .io .timedOut "refused", by decide, .io "refused"⟩
  exact ⟨⟨hcode, hconnect rfl, htells⟩, htimeout, hfault htimeout⟩

end TwoHop.Proofs.Fault.Reporting
