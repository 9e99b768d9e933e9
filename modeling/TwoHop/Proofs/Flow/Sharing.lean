import Mathlib.Logic.Function.Iterate
import Mathlib.Tactic.Common
import TwoHop.Flow.Handover

/-! A handover that many ask for at once. Each asks in two steps, for the gate and for the parts, and
others may come in between: the first at the gate gets everything, and the others get nothing and
touch nothing. -/

namespace TwoHop.Proofs.Flow.Sharing

open TwoHop.Flow

variable {κ : Type}

inductive Use (κ : Type)
  | drain (policy : Policy) (sink : κ) (meter : Meter)
  | take
  | body (policy : Policy) (meter : Meter)

inductive Work (κ : Type)
  | copying (t : Transfer κ)
  | cancelled (t : Transfer κ)
  | taken (p : Parts)
  | relaying (b : Body)

inductive Stage (κ : Type)
  | asking
  | admitted
  | granted (work : Work κ)
  | refused (f : Fault)
  | gone

structure Asker (κ : Type) where
  use : Use κ
  stage : Stage κ := .asking

structure Shared (κ : Type) where
  handover : Handover
  askers : List (Asker κ) := []
  arrivals : List Nat := []

inductive Event (κ : Type)
  | ask (use : Use κ)
  | step (i : Nat)
  | cancel (i : Nat)

def Use.start (p : Parts) : Use κ → Work κ
  | .drain policy sink meter =>
    .copying (.start policy p.remaining p.source p.sourceEnded sink meter)
  | .take => .taken p
  | .body policy meter =>
    .relaying (if p.sourceEnded && p.remaining.isEmpty then .empty
      else .relayed (.start policy p.remaining p.source p.sourceEnded meter))

def Use.outcome (h : Handover) : Use κ → Stage κ × Handover
  | .drain policy sink meter =>
    match h.drain policy sink meter with
    | (.ok t, h) => (.granted (.copying t), h)
    | (.error f, h) => (.refused f, h)
  | .take =>
    match h.take with
    | (.ok p, h) => (.granted (.taken p), h)
    | (.error f, h) => (.refused f, h)
  | .body policy meter =>
    match h.body policy meter with
    | (.ok b, h) => (.granted (.relaying b), h)
    | (.error f, h) => (.refused f, h)

def Use.gear : Use κ → Option κ × Option Meter
  | .drain _ sink meter => (some sink, some meter)
  | .take => (none, none)
  | .body _ meter => (none, some meter)

def Asker.gear (a : Asker κ) : Option κ × Option Meter :=
  match a.stage with
  | .granted (.copying t) | .granted (.cancelled t) => (some t.sink, some t.meter)
  | .granted (.relaying (.relayed r)) => (none, some r.transfer.meter)
  | _ => a.use.gear

def Work.cancel : Work κ → Work κ
  | .copying t => .cancelled t
  | work => work

def Stage.isGranted : Stage κ → Bool
  | .granted _ => true
  | _ => false

/-- Nobody can be given up between the gate and the parts. -/
def Stage.cancel : Stage κ → Stage κ
  | .asking => .gone
  | .granted work => .granted work.cancel
  | stage => stage

def Shared.granted (s : Shared κ) : Bool := s.askers.any fun a => a.stage.isGranted

variable [Sink κ]

def Work.step : Work κ → Work κ
  | .copying t => .copying (t.step.getD t)
  | work => work

namespace Shared

def place (s : Shared κ) (i : Nat) (a : Asker κ) (stage : Stage κ) : Shared κ :=
  { s with askers := s.askers.set i { a with stage } }

def advance (s : Shared κ) (i : Nat) (a : Asker κ) : Shared κ :=
  match a.stage with
  | .asking =>
    let (first, handover) := s.handover.enter
    { s.place i a (if first then .admitted else .refused .handoverReused) with
      handover, arrivals := s.arrivals ++ [i] }
  | .admitted =>
    match s.handover.claim with
    | (.ok p, handover) => { s.place i a (.granted (a.use.start p)) with handover }
    | (.error f, handover) => { s.place i a (.refused f) with handover }
  | .granted work => s.place i a (.granted work.step)
  | .refused _ | .gone => s

def apply (s : Shared κ) : Event κ → Shared κ
  | .ask use => { s with askers := s.askers ++ [{ use }] }
  | .step i => (s.askers[i]?.map (s.advance i)).getD s
  | .cancel i => (s.askers[i]?.map fun a => s.place i a a.stage.cancel).getD s

def run (s : Shared κ) (events : List (Event κ)) : Shared κ := events.foldl apply s

end Shared

def Begun (p : Parts) (use : Use κ) (work : Work κ) : Prop :=
  ∃ n, work = Work.step^[n] (use.start p) ∨ work = (Work.step^[n] (use.start p)).cancel

inductive Fares (origin : Parts) (arrivals : List Nat) (i : Nat) (use : Use κ) : Stage κ → Prop
  | asking (away : i ∉ arrivals) : Fares origin arrivals i use .asking
  | gone (away : i ∉ arrivals) : Fares origin arrivals i use .gone
  | admitted (first : arrivals.head? = some i) : Fares origin arrivals i use .admitted
  | granted {work : Work κ} (first : arrivals.head? = some i) (begun : Begun origin use work) :
    Fares origin arrivals i use (.granted work)
  | refused (came : i ∈ arrivals) (late : arrivals.head? ≠ some i) :
    Fares origin arrivals i use (.refused .handoverReused)

structure Orderly (origin : Parts) (s : Shared κ) : Prop where
  fares : ∀ i a, s.askers[i]? = some a → Fares origin s.arrivals i a.use a.stage
  known : ∀ i ∈ s.arrivals, i < s.askers.length
  parts : s.handover.parts = if s.granted then none else some origin
  gate : s.handover.gate.fired = !s.arrivals.isEmpty
  remainingSize : s.handover.remainingSize = origin.remaining.size
  sourceEnded : s.handover.sourceEnded = origin.sourceEnded

variable {origin : Parts} {arrivals : List Nat} {i j : Nat} {use : Use κ} {stage : Stage κ}
  {work : Work κ} {s : Shared κ} {a : Asker κ}

lemma begun_start (p : Parts) (use : Use κ) : Begun p use (use.start p) := ⟨0, .inl rfl⟩

lemma begun_step (h : Begun origin use work) : Begun origin use work.step := by
  obtain ⟨n, rfl | rfl⟩ := h
  · exact ⟨n + 1, .inl (Function.iterate_succ_apply' _ _ _).symm⟩
  · refine ⟨n, .inr ?_⟩
    cases Work.step^[n] (use.start origin) <;> rfl

lemma begun_cancel (h : Begun origin use work) : Begun origin use work.cancel := by
  obtain ⟨n, rfl | rfl⟩ := h
  · exact ⟨n, .inr rfl⟩
  · refine ⟨n, .inr ?_⟩
    cases Work.step^[n] (use.start origin) <;> rfl

lemma fares_concat (h : Fares origin arrivals j use stage) (hne : j ≠ i) :
    Fares origin (arrivals ++ [i]) j use stage := by
  cases h with
  | asking away => exact .asking (by simp [away, hne])
  | gone away => exact .gone (by simp [away, hne])
  | admitted first => exact .admitted (by simp [first])
  | granted first begun => exact .granted (by simp [first]) begun
  | refused came late =>
    obtain ⟨k, rest, rfl⟩ := List.exists_cons_of_ne_nil (List.ne_nil_of_mem came)
    exact .refused (List.mem_append_left _ came) late

lemma fares_place (hi : Fares origin arrivals i a.use stage)
    (hothers : ∀ j b, j ≠ i → s.askers[j]? = some b → Fares origin arrivals j b.use b.stage) :
    ∀ j b, (s.place i a stage).askers[j]? = some b → Fares origin arrivals j b.use b.stage := by
  intro j b hb
  rw [Shared.place, List.getElem?_set] at hb
  split at hb
  · next hij =>
    subst hij
    split at hb
    · cases hb
      exact hi
    · cases hb
  · next hij => exact hothers j b (Ne.symm hij) hb

omit [Sink κ] in
lemma granted_place (h : s.askers[i]? = some a) (hsame : stage.isGranted = a.stage.isGranted) :
    (s.place i a stage).granted = s.granted := by
  obtain ⟨hi, rfl⟩ := List.getElem?_eq_some_iff.mp h
  have hflags : (s.askers.set i { s.askers[i] with stage }).map (·.stage.isGranted) =
      s.askers.map (·.stage.isGranted) := by
    have hset := List.set_getElem_self
      (show i < (s.askers.map fun a => a.stage.isGranted).length by simpa)
    rw [List.getElem_map] at hset
    rw [List.map_set, hsame, hset]
  have hany := congrArg (List.any · id) hflags
  rw [List.any_map, List.any_map] at hany
  exact hany

lemma orderly_place (h : Orderly origin s) (ha : s.askers[i]? = some a)
    (hi : Fares origin s.arrivals i a.use stage) (hsame : stage.isGranted = a.stage.isGranted) :
    Orderly origin (s.place i a stage) where
  fares := fares_place hi fun j b _ hb => h.fares j b hb
  known := by simpa [Shared.place] using h.known
  parts := by rw [granted_place ha hsame]; exact h.parts
  gate := h.gate
  remainingSize := h.remainingSize
  sourceEnded := h.sourceEnded

lemma orderly_ask (h : Orderly origin s) (use : Use κ) : Orderly origin (s.apply (.ask use)) where
  fares := by
    intro i a ha
    rcases Nat.lt_or_ge i s.askers.length with hi | hi
    · rw [Shared.apply, List.getElem?_append_left hi] at ha
      exact h.fares i a ha
    · rw [Shared.apply, List.getElem?_append_right hi, List.getElem?_singleton] at ha
      split at ha <;> cases ha
      exact .asking fun hmem => Nat.not_lt.mpr hi (h.known i hmem)
  known := by
    intro i hi
    have := h.known i hi
    simp only [Shared.apply, List.length_append, List.length_singleton]
    omega
  parts := by
    rw [show (s.apply (.ask use)).granted = s.granted by
      simp [Shared.apply, Shared.granted, Stage.isGranted]]
    exact h.parts
  gate := h.gate
  remainingSize := h.remainingSize
  sourceEnded := h.sourceEnded

lemma orderly_enter (h : Orderly origin s) (ha : s.askers[i]? = some a)
    (hs : a.stage = .asking) : Orderly origin (s.advance i a) := by
  obtain ⟨hi, -⟩ := List.getElem?_eq_some_iff.mp ha
  have haway : i ∉ s.arrivals := by
    have := h.fares i a ha
    rw [hs] at this
    cases this with
    | asking away => exact away
  rw [Shared.advance, hs]
  constructor
  · refine fares_place ?_ fun j b hne hb => fares_concat (h.fares j b hb) hne
    -- The gate is open exactly as long as nobody has arrived.
    rw [Handover.enter, Gate.tryFire, h.gate]
    cases harr : s.arrivals with
    | nil => exact .admitted rfl
    | cons first rest =>
      rw [harr] at haway
      exact .refused (by simp) (by rintro ⟨⟩; simp at haway)
  · intro j hj
    rw [List.mem_append, List.mem_singleton] at hj
    show j < (s.askers.set i _).length
    rw [List.length_set]
    rcases hj with hj | rfl
    · exact h.known j hj
    · exact hi
  · show s.handover.parts = if (s.place i a _).granted then none else some origin
    rw [granted_place ha, h.parts]
    rw [hs]
    split <;> rfl
  · show true = !(s.arrivals ++ [i]).isEmpty
    simp
  · exact h.remainingSize
  · exact h.sourceEnded

lemma not_granted_of_admitted (h : Orderly origin s) (ha : s.askers[i]? = some a)
    (hs : a.stage = .admitted) : s.granted = false := by
  by_contra hgranted
  obtain ⟨b, hb, hgranted⟩ := List.any_eq_true.mp (Bool.not_eq_false _ ▸ hgranted)
  obtain ⟨j, hj⟩ := List.mem_iff_getElem?.mp hb
  -- Both the one admitted and the one who has the parts came first, so they are the same.
  have hi := h.fares i a ha
  have hj' := h.fares j b hj
  rw [hs] at hi
  generalize hstage : b.stage = stage at hj' hgranted
  cases hi with
  | admitted first =>
    cases hj' with
    | granted first' begun =>
      rw [first] at first'
      cases first'
      rw [ha] at hj
      cases hj
      rw [hs] at hstage
      cases hstage
    | _ => cases hgranted

lemma orderly_claim (h : Orderly origin s) (ha : s.askers[i]? = some a)
    (hs : a.stage = .admitted) : Orderly origin (s.advance i a) := by
  obtain ⟨hi, -⟩ := List.getElem?_eq_some_iff.mp ha
  have hfirst : s.arrivals.head? = some i := by
    have := h.fares i a ha
    rw [hs] at this
    cases this with
    | admitted first => exact first
  have hparts : s.handover.parts = some origin := by
    rw [h.parts, not_granted_of_admitted h ha hs]
    rfl
  rw [Shared.advance, hs]
  simp only [Handover.claim, hparts]
  constructor
  · exact fares_place (.granted hfirst (begun_start origin a.use)) fun j b _ hb => h.fares j b hb
  · simpa [Shared.place] using h.known
  · have hgranted : (s.place i a (.granted (a.use.start origin))).granted = true :=
      List.any_eq_true.mpr ⟨_, List.mem_set hi _, rfl⟩
    show none = if (s.place i a _).granted then none else some origin
    rw [hgranted]
    rfl
  · exact h.gate
  · exact h.remainingSize
  · exact h.sourceEnded

lemma orderly_advance (h : Orderly origin s) (ha : s.askers[i]? = some a) :
    Orderly origin (s.advance i a) := by
  cases hs : a.stage with
  | asking => exact orderly_enter h ha hs
  | admitted => exact orderly_claim h ha hs
  | granted work =>
    have hi := h.fares i a ha
    rw [hs] at hi
    rw [Shared.advance, hs]
    cases hi with
    | granted first begun => exact orderly_place h ha (.granted first (begun_step begun)) (by rw [hs]; rfl)
  | refused _ | gone =>
    rw [Shared.advance, hs]
    exact h

lemma orderly_cancel (h : Orderly origin s) (ha : s.askers[i]? = some a) :
    Orderly origin (s.place i a a.stage.cancel) := by
  have hi := h.fares i a ha
  refine orderly_place h ha ?_ (by cases a.stage <;> rfl)
  generalize a.stage = stage at hi
  cases hi with
  | asking away => exact .gone away
  | granted first begun => exact .granted first (begun_cancel begun)
  | gone away => exact .gone away
  | admitted first => exact .admitted first
  | refused came late => exact .refused came late

lemma orderly_apply (h : Orderly origin s) (e : Event κ) : Orderly origin (s.apply e) := by
  cases e with
  | ask use => exact orderly_ask h use
  | step i =>
    rw [Shared.apply]
    cases ha : s.askers[i]? with
    | none => exact h
    | some a => exact orderly_advance h ha
  | cancel i =>
    rw [Shared.apply]
    cases ha : s.askers[i]? with
    | none => exact h
    | some a => exact orderly_cancel h ha

lemma orderly_run (h : Orderly origin s) (events : List (Event κ)) :
    Orderly origin (s.run events) := by
  induction events generalizing s with
  | nil => exact h
  | cons e rest ih => exact ih (orderly_apply h e)

lemma orderly_make (remaining : ByteArray) (source : Source) :
    Orderly ⟨remaining, source, source.isExhausted⟩
      ({ handover := .make remaining source } : Shared κ) where
  fares := by intro i a ha; cases ha
  known := by intro i hi; cases hi
  parts := rfl
  gate := rfl
  remainingSize := rfl
  sourceEnded := rfl

lemma apply_step (ha : s.askers[i]? = some a) : s.apply (.step i) = s.advance i a := by
  rw [Shared.apply, ha, Option.map_some, Option.getD_some]

lemma advance_refused (hconsumed : s.handover.isConsumed = true) (use : Use κ) :
    s.advance i ⟨use, .asking⟩ = { s with
      askers := s.askers.set i ⟨use, .refused .handoverReused⟩, arrivals := s.arrivals ++ [i] } := by
  obtain ⟨⟨⟨fired⟩, parts, remainingSize, sourceEnded⟩, askers, arrivals⟩ := s
  cases fired with
  | true => rfl
  | false => cases hconsumed

lemma advance_admitted (hfresh : s.handover.isConsumed = false) (use : Use κ) :
    s.advance i ⟨use, .asking⟩ = { s with
      handover := { s.handover with gate := ⟨true⟩ }
      askers := s.askers.set i ⟨use, .admitted⟩, arrivals := s.arrivals ++ [i] } := by
  obtain ⟨⟨⟨fired⟩, parts, remainingSize, sourceEnded⟩, askers, arrivals⟩ := s
  cases fired with
  | true => cases hfresh
  | false => rfl

lemma advance_granted {p : Parts} (hp : s.handover.parts = some p) (use : Use κ) :
    s.advance i ⟨use, .admitted⟩ = { s with
      handover := { s.handover with parts := none }
      askers := s.askers.set i ⟨use, .granted (use.start p)⟩ } := by
  simp only [Shared.advance, Handover.claim, hp]
  rfl

lemma uninterrupted (ha : s.askers[i]? = some ⟨use, .asking⟩) :
    (s.run [.step i, .step i]).askers[i]? = some ⟨use, (use.outcome s.handover).1⟩ ∧
    (s.run [.step i, .step i]).handover = (use.outcome s.handover).2 := by
  obtain ⟨hi, -⟩ := List.getElem?_eq_some_iff.mp ha
  have hset (a : Asker κ) : (s.askers.set i a)[i]? = some a := by
    rw [List.getElem?_set_self hi]
  show ((s.apply (.step i)).apply (.step i)).askers[i]? = _ ∧
    ((s.apply (.step i)).apply (.step i)).handover = _
  rw [apply_step ha]
  cases hfired : s.handover.isConsumed with
  | true =>
    rw [advance_refused hfired, apply_step (hset _)]
    obtain ⟨⟨⟨fired⟩, parts, remainingSize, sourceEnded⟩, askers, arrivals⟩ := s
    cases hfired
    refine ⟨(hset _).trans ?_, ?_⟩ <;> cases use <;> rfl
  | false =>
    rw [advance_admitted hfired, apply_step (hset _)]
    obtain ⟨⟨⟨fired⟩, parts, remainingSize, sourceEnded⟩, askers, arrivals⟩ := s
    cases hfired
    cases parts <;>
      refine ⟨(List.getElem?_set_self (by simpa using hi)).trans ?_, ?_⟩ <;> cases use <;> rfl

lemma arrivals_apply (s : Shared κ) (e : Event κ) : s.arrivals <+: (s.apply e).arrivals := by
  cases e with
  | ask use => exact List.prefix_rfl
  | step i =>
    rw [Shared.apply]
    cases s.askers[i]? with
    | none => exact List.prefix_rfl
    | some a =>
      show s.arrivals <+: (s.advance i a).arrivals
      rw [Shared.advance]
      split
      · exact List.prefix_append _ _
      · split <;> exact List.prefix_rfl
      all_goals exact List.prefix_rfl
  | cancel i => rw [Shared.apply]; cases s.askers[i]? <;> exact List.prefix_rfl

lemma arrivals_run (s : Shared κ) (events : List (Event κ)) :
    s.arrivals <+: (s.run events).arrivals := by
  induction events generalizing s with
  | nil => exact List.prefix_rfl
  | cons e rest ih => exact (arrivals_apply s e).trans (ih _)

lemma step_other (s : Shared κ) (hne : j ≠ i) : (s.apply (.step i)).askers[j]? = s.askers[j]? := by
  rw [Shared.apply]
  cases s.askers[i]? with
  | none => rfl
  | some a =>
    show (s.advance i a).askers[j]? = s.askers[j]?
    rw [Shared.advance]
    split
    · exact List.getElem?_set_ne hne.symm
    · split <;> exact List.getElem?_set_ne hne.symm
    · exact List.getElem?_set_ne hne.symm
    all_goals rfl

lemma cancel_other (s : Shared κ) (hne : j ≠ i) :
    (s.apply (.cancel i)).askers[j]? = s.askers[j]? := by
  rw [Shared.apply]
  cases s.askers[i]? with
  | none => rfl
  | some a => exact List.getElem?_set_ne hne.symm

lemma refused_apply {f : Fault} (h : s.askers[i]? = some ⟨use, .refused f⟩) (e : Event κ) :
    (s.apply e).askers[i]? = some ⟨use, .refused f⟩ := by
  obtain ⟨hi, -⟩ := List.getElem?_eq_some_iff.mp h
  cases e with
  | ask use => exact (List.getElem?_append_left hi).trans h
  | step j =>
    rcases eq_or_ne i j with rfl | hne
    · rw [apply_step h]
      exact h
    · rw [step_other s hne, h]
  | cancel j =>
    rcases eq_or_ne i j with rfl | hne
    · rw [Shared.apply, h]
      exact List.getElem?_set_self hi
    · rw [cancel_other s hne, h]

lemma refused_run {f : Fault} (h : s.askers[i]? = some ⟨use, .refused f⟩)
    (events : List (Event κ)) : (s.run events).askers[i]? = some ⟨use, .refused f⟩ := by
  induction events generalizing s with
  | nil => exact h
  | cons e rest ih => exact ih (refused_apply h e)

lemma gear_of_late (h : Fares origin arrivals i a.use a.stage) (hlate : arrivals.head? ≠ some i) :
    a.gear = a.use.gear := by
  obtain ⟨use, stage⟩ := a
  cases h with
  | admitted first | granted first _ => exact absurd first hlate
  | _ => rfl

lemma consumed_iff (h : Orderly origin s) : s.handover.isConsumed = true ↔ s.arrivals ≠ [] := by
  rw [Handover.isConsumed, h.gate]
  simp

theorem handed_over_once (remaining : ByteArray) (source : Source) (events : List (Event κ)) :
    let origin : Parts := ⟨remaining, source, source.isExhausted⟩
    let s := Shared.run { handover := .make remaining source } events
    Orderly origin s ∧
    (∀ i a, s.askers[i]? = some a → s.arrivals.head? ≠ some i → a.gear = a.use.gear) ∧
    (∀ (i : Nat) (use : Use κ), s.askers[i]? = some ⟨use, .asking⟩ →
      s.apply (.step i) =
        if s.handover.isConsumed then { s with
          askers := s.askers.set i ⟨use, .refused .handoverReused⟩
          arrivals := s.arrivals ++ [i] }
        else { s with
          handover := { s.handover with gate := ⟨true⟩ }
          askers := s.askers.set i ⟨use, .admitted⟩
          arrivals := s.arrivals ++ [i] }) ∧
    (∀ (i : Nat) (use : Use κ), s.askers[i]? = some ⟨use, .admitted⟩ →
      s.apply (.step i) = { s with
        handover := { s.handover with parts := none }
        askers := s.askers.set i ⟨use, .granted (use.start origin)⟩ }) ∧
    (∀ (i : Nat) (use : Use κ), s.askers[i]? = some ⟨use, .asking⟩ →
      (s.run [.step i, .step i]).askers[i]? = some ⟨use, (use.outcome s.handover).1⟩ ∧
      (s.run [.step i, .step i]).handover = (use.outcome s.handover).2) ∧
    (∀ i j, j ≠ i → (s.apply (.step i)).askers[j]? = s.askers[j]? ∧
      (s.apply (.cancel i)).askers[j]? = s.askers[j]?) ∧
    ∀ more, s.arrivals <+: (s.run more).arrivals ∧
      (s.handover.isConsumed = true → (s.run more).handover.isConsumed = true) ∧
      ∀ (i : Nat) (use : Use κ) (f : Fault), s.askers[i]? = some ⟨use, .refused f⟩ →
        (s.run more).askers[i]? = some ⟨use, .refused f⟩ := by
  intro origin s
  have h : Orderly origin s := orderly_run (orderly_make remaining source) events
  refine ⟨h, ?_, ?_, ?_, ?_, ?_, ?_⟩
  · intro i a ha hlate
    exact gear_of_late (h.fares i a ha) hlate
  · intro i use ha
    rw [apply_step ha]
    cases hconsumed : s.handover.isConsumed with
    | true => exact advance_refused hconsumed use
    | false => exact advance_admitted hconsumed use
  · intro i use ha
    have hparts := h.parts
    rw [not_granted_of_admitted h ha rfl] at hparts
    rw [apply_step ha, advance_granted hparts]
  · intro i use ha
    exact uninterrupted ha
  · intro i j hne
    exact ⟨step_other s hne, cancel_other s hne⟩
  · intro more
    have hgrows := arrivals_run s more
    refine ⟨hgrows, ?_, fun i use f hi => refused_run hi more⟩
    rw [consumed_iff h, consumed_iff (orderly_run h more)]
    intro hcame hnone
    rw [hnone] at hgrows
    exact hcame (List.prefix_nil.mp hgrows)

def crowd : List (Event Outlet) :=
  [.ask (.drain {} {} {}), .ask (.drain {} {} {}), .ask .take,
    .step 1, .step 0, .step 1, .step 1, .cancel 1, .step 2]

theorem handed_over_once_crowd :
    let s := Shared.run
      { handover := .make [1, 2].toByteArray { items := [.data [3].toByteArray] } } crowd
    s.arrivals = [1, 0, 2] ∧
    (∃ t, s.askers[1]? = some ⟨.drain {} {} {}, .granted (.cancelled t)⟩ ∧
      t.sink.writes = #[[1, 2].toByteArray]) ∧
    ∀ more, (s.run more).askers[0]? = some ⟨.drain {} {} {}, .refused .handoverReused⟩ ∧
      (s.run more).askers[2]? = some ⟨.take, .refused .handoverReused⟩ ∧
      (s.run more).handover.isConsumed = true := by
  obtain ⟨-, -, -, -, -, -, hlater⟩ :=
    handed_over_once [1, 2].toByteArray { items := [.data [3].toByteArray] } crowd
  refine ⟨rfl, ⟨_, rfl, rfl⟩, ?_⟩
  intro more
  obtain ⟨-, hconsumed, hrefused⟩ := hlater more
  exact ⟨hrefused 0 _ _ rfl, hrefused 2 _ _ rfl, hconsumed rfl⟩

end TwoHop.Proofs.Flow.Sharing
