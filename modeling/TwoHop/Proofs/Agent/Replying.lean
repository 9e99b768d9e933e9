import TwoHop.Proofs.Agent.Calling

namespace TwoHop.Proofs.Agent.Replying

open TwoHop.Frame TwoHop.Flow Scanner.Heading Proofs.Bytes

structure Ledger (κ : Type) where
  stream : κ
  written : ByteArray := .empty
  shutdowns : Nat := 0

def taken (b : ByteArray) : Offer → ByteArray
  | .took n => b.extract 0 n
  | .waits | .refused _ => .empty

inductive Ask
  | reply (verdict : Verdict)
  | reject (code : UInt16) (message : String)
  | rejectFault (fault : Fault)

def Ask.call : Ask → Call
  | .reply v => .reply v
  | .reject code message => .reject code message
  | .rejectFault f => .rejectFault f

inductive Event
  | ask (ask : Ask)
  | step (i : Nat)

structure Line (κ : Type) where
  gate : Gate := {}
  ledger : Ledger κ
  calls : List Call := []
  arrivals : List Nat := []

variable {κ : Type} [Sink κ]

instance : Sink (Ledger κ) where
  offer k b :=
    let (o, stream) := Sink.offer k.stream b
    (o, { k with stream, written := k.written ++ taken b o })
  flush k :=
    let (r, stream) := Sink.flush k.stream
    (r, { k with stream })
  finish k :=
    let (r, stream) := Sink.finish k.stream
    (r, { k with stream, shutdowns := k.shutdowns + 1 })

namespace Line

def moved (s : Line κ) (i : Nat) (c d : Call) (gate : Gate) (ledger : Ledger κ) : Line κ where
  gate
  ledger
  calls := s.calls.set i d
  arrivals := match c.phase with
    | .start => s.arrivals ++ [i]
    | _ => s.arrivals

def advance (s : Line κ) (i : Nat) (c : Call) : Line κ :=
  match c.step s.gate s.ledger with
  | none => s
  | some (d, gate, ledger) => s.moved i c d gate ledger

def apply (s : Line κ) : Event → Line κ
  | .ask ask => { s with calls := s.calls ++ [ask.call] }
  | .step i => (s.calls[i]?.map (s.advance i)).getD s

def run (s : Line κ) (events : List Event) : Line κ := events.foldl apply s

end Line

/-- In these states no write is refused or comes to nothing, and whatever is done leads to another. -/
structure Obliging (P : κ → Prop) : Prop where
  write : ∀ k rest, P k → (∀ e, (Sink.write k rest).1 ≠ .failed e) ∧ P (Sink.write k rest).2
  flush : ∀ k, P k → (Sink.flush k).1 = .ok () ∧ P (Sink.flush k).2
  finish : ∀ k, P k → P (Sink.finish k).2

inductive Fares (P : κ → Prop) (arrivals : List Nat) (i : Nat) (closes : Bool) : CallPhase → Prop
  | start (away : i ∉ arrivals) : Fares P arrivals i closes .start
  | writing (rest : ByteArray) (first : arrivals.head? = some i) :
    Fares P arrivals i closes (.writing rest)
  | flushing (first : arrivals.head? = some i) : Fares P arrivals i closes .flushing
  | closing (came : i ∈ arrivals) (hcloses : closes = true) :
    Fares P arrivals i closes (.closing (arrivals.head? == some i))
  | done (came : i ∈ arrivals) : Fares P arrivals i closes (.done (.ok (arrivals.head? == some i)))
  | unclosed (came : i ∈ arrivals) (hcloses : closes = true) {k : κ} (hk : P k) {e : IoError}
    (hfails : (Sink.finish k).1 = .error e) : Fares P arrivals i closes (.done (.error e))
  | crashed (first : arrivals.head? = some i) (crash : Crash) :
    Fares P arrivals i closes (.crashed crash)

def Wrote (c : Call) (written : ByteArray) : Prop :=
  match c.phase with
  | .start => False
  | .writing rest => Legal c.verdict.encode.size ∧ written ++ rest = framed c.verdict.encode
  | .flushing | .closing _ | .done _ =>
    Legal c.verdict.encode.size ∧ written = framed c.verdict.encode
  | .crashed crash => ¬ Legal c.verdict.encode.size ∧ crash = .frameBody c.verdict.encode.size ∧
    written = .empty

def terms (c : Call) : Verdict × Bool := (c.verdict, c.closes)

def asked (events : List Event) : List Ask :=
  events.filterMap fun
    | .ask ask => some ask
    | .step _ => none

def hasClosed (c : Call) : Bool := c.closes && c.result?.isSome

structure Orderly (P : κ → Prop) (s : Line κ) : Prop where
  willing : P s.ledger.stream
  known : ∀ i ∈ s.arrivals, i < s.calls.length
  fares : ∀ i c, s.calls[i]? = some c → Fares P s.arrivals i c.closes c.phase
  gate : s.gate.fired = !s.arrivals.isEmpty
  silent : s.arrivals = [] → s.ledger.written = .empty
  wrote : ∀ i c, s.arrivals.head? = some i → s.calls[i]? = some c → Wrote c s.ledger.written
  shutdowns : s.ledger.shutdowns = s.calls.countP hasClosed

variable {P : κ → Prop} {s : Line κ} {c d : Call} {i j : Nat}

structure Grown (P : κ → Prop) (k : Ledger κ) (part : ByteArray) (l : Ledger κ) : Prop where
  willing : P l.stream
  written : l.written = k.written ++ part
  shutdowns : l.shutdowns = k.shutdowns

lemma grown_write (hP : Obliging P) {k : Ledger κ} (hk : P k.stream) (rest : ByteArray) :
    match (Sink.write k rest).1 with
    | .waits => True
    | .all => Grown P k rest (Sink.write k rest).2
    | .more left => ∃ part, rest = part ++ left ∧ Grown P k part (Sink.write k rest).2
    | .failed _ => False := by
  obtain ⟨hfair, hnext⟩ := hP.write k.stream rest hk
  revert hfair hnext
  simp only [Sink.write, Sink.offer]
  generalize Sink.offer k.stream rest = offered
  obtain ⟨o, stream⟩ := offered
  intro hfair hnext
  cases o with
  | waits => trivial
  | refused e => exact hfair e rfl
  | took n =>
    simp only [Written.ofOffer] at hfair ⊢
    by_cases hall : rest.size ≤ n
    · rw [if_pos hall]
      refine ⟨hnext, ?_, rfl⟩
      simp only [taken]
      rw [extract_to_end hall, ByteArray.extract_zero_size]
    by_cases hnone : n = 0
    · rw [if_neg hall, if_pos hnone] at hfair
      exact absurd rfl (hfair tookNothing)
    · rw [if_neg hall, if_neg hnone]
      exact ⟨rest.extract 0 n, (extract_append_rejoin (Nat.le_of_not_le hall)).symm, hnext, rfl, rfl⟩

inductive Moves (P : κ → Prop) (c : Call) (gate : Gate) (k : Ledger κ) :
    Call → Gate → Ledger κ → Prop
  | enter (hstart : c.phase = .start) (hopen : gate.fired = false)
    (hlegal : Legal c.verdict.encode.size) :
    Moves P c gate k { c with phase := .writing (framed c.verdict.encode) } ⟨true⟩ k
  | crash (hstart : c.phase = .start) (hopen : gate.fired = false)
    (hlegal : ¬ Legal c.verdict.encode.size) :
    Moves P c gate k { c with phase := .crashed (.frameBody c.verdict.encode.size) } ⟨true⟩ k
  | late (hstart : c.phase = .start) (hfired : gate.fired = true) :
    Moves P c gate k (c.after false) ⟨true⟩ k
  | part {part left : ByteArray} {l : Ledger κ} (hwriting : c.phase = .writing (part ++ left))
    (hgrown : Grown P k part l) : Moves P c gate k { c with phase := .writing left } gate l
  | whole {rest : ByteArray} {l : Ledger κ} (hwriting : c.phase = .writing rest)
    (hgrown : Grown P k rest l) : Moves P c gate k { c with phase := .flushing } gate l
  | flush {l : Ledger κ} (hflushing : c.phase = .flushing) (hgrown : Grown P k .empty l) :
    Moves P c gate k (c.after true) gate l
  | close {sent : Bool} {l : Ledger κ} (hclosing : c.phase = .closing sent) (hwilling : P l.stream)
    (hwritten : l.written = k.written) (hshutdowns : l.shutdowns = k.shutdowns + 1) :
    Moves P c gate k { c with phase := .done ((Sink.finish k.stream).1.map fun _ => sent) } gate l

lemma moves_of_step (hP : Obliging P) {gate gate' : Gate} {k l : Ledger κ} (hk : P k.stream)
    (h : c.step gate k = some (d, gate', l)) : Moves P c gate k d gate' l := by
  rw [Call.step] at h
  split at h
  · next hp =>
    obtain ⟨fired⟩ := gate
    cases fired with
    | true =>
      cases h
      exact .late hp rfl
    | false =>
      by_cases hlegal : Legal c.verdict.encode.size
      · rw [encode_of_legal hlegal] at h
        cases h
        exact .enter hp rfl hlegal
      · rw [encode_of_illegal hlegal] at h
        cases h
        exact .crash hp rfl hlegal
  · next rest hp =>
    have hgrown := grown_write hP hk rest
    generalize Sink.write k rest = written at h hgrown
    obtain ⟨answer, m⟩ := written
    cases answer with
    | waits => cases h
    | all =>
      cases h
      exact .whole hp hgrown
    | more left =>
      obtain ⟨part, rfl, hgrown⟩ := hgrown
      cases h
      exact .part hp hgrown
    | failed e => exact hgrown.elim
  · next hp =>
    obtain ⟨hflushed, hnext⟩ := hP.flush k.stream hk
    have hledger : (Sink.flush k).1 = .ok () ∧ Grown P k .empty (Sink.flush k).2 :=
      ⟨hflushed, hnext, ByteArray.append_empty.symm, rfl⟩
    generalize Sink.flush k = flushed at h hledger
    obtain ⟨answer, m⟩ := flushed
    obtain ⟨rfl, hgrown⟩ := hledger
    cases h
    exact .flush hp hgrown
  · next sent hp =>
    cases h
    exact .close hp (hP.finish k.stream hk) rfl rfl
  · cases h
  · cases h

lemma getElem?_placed {calls : List Call} {c' : Call} (hc : calls[i]? = some c)
    (hj : (calls.set i d)[j]? = some c') : (j = i ∧ c' = d) ∨ (j ≠ i ∧ calls[j]? = some c') := by
  obtain ⟨hi, -⟩ := List.getElem?_eq_some_iff.1 hc
  rw [List.getElem?_set, if_pos hi] at hj
  split at hj
  · next hij =>
    cases hj
    exact .inl ⟨hij.symm, rfl⟩
  · next hij => exact .inr ⟨Ne.symm hij, hj⟩

lemma countP_placed {calls : List Call} (hc : calls[i]? = some c) (hopen : hasClosed c = false) :
    (calls.set i d).countP hasClosed = calls.countP hasClosed + if hasClosed d then 1 else 0 := by
  obtain ⟨hi, rfl⟩ := List.getElem?_eq_some_iff.1 hc
  rw [List.countP_set hi, hopen]
  rfl

lemma orderly_onward (h : Orderly P s) (hc : s.calls[i]? = some c) (hcloses : d.closes = c.closes)
    (hopen : hasClosed c = false) {l : Ledger κ} (hwilling : P l.stream)
    (hfares : Fares P s.arrivals i c.closes d.phase) (hsilent : s.arrivals ≠ [])
    (hwrote : s.arrivals.head? = some i → Wrote d l.written)
    (hquiet : s.arrivals.head? ≠ some i → l.written = s.ledger.written)
    (hshutdowns : l.shutdowns = s.ledger.shutdowns + if hasClosed d then 1 else 0) :
    Orderly P { s with ledger := l, calls := s.calls.set i d } where
  willing := hwilling
  known := by
    intro j hj
    rw [List.length_set]
    exact h.known j hj
  fares := by
    intro j c' hj
    obtain ⟨rfl, rfl⟩ | ⟨-, hj⟩ := getElem?_placed hc hj
    · rw [hcloses]
      exact hfares
    · exact h.fares j c' hj
  gate := h.gate
  silent hnone := absurd hnone hsilent
  wrote := by
    intro j c' hfirst hj
    obtain ⟨rfl, rfl⟩ | ⟨hne, hj⟩ := getElem?_placed hc hj
    · exact hwrote hfirst
    · have hlate : s.arrivals.head? ≠ some i := by
        intro hi
        rw [hi] at hfirst
        exact hne (Option.some.inj hfirst).symm
      rw [hquiet hlate]
      exact h.wrote j c' hfirst hj
  shutdowns := by
    rw [countP_placed hc hopen, hshutdowns, h.shutdowns]

lemma orderly_foremost (h : Orderly P s) (hc : s.calls[i]? = some c)
    (first : s.arrivals.head? = some i) (hcloses : d.closes = c.closes)
    (hopen : hasClosed c = false) {l : Ledger κ} (hwilling : P l.stream)
    (hfares : Fares P s.arrivals i c.closes d.phase)
    (hwrote : Wrote c s.ledger.written → Wrote d l.written)
    (hshutdowns : l.shutdowns = s.ledger.shutdowns + if hasClosed d then 1 else 0) :
    Orderly P { s with ledger := l, calls := s.calls.set i d } := by
  apply orderly_onward h hc hcloses hopen hwilling hfares
  · exact List.ne_nil_of_mem (List.mem_of_mem_head? first)
  · exact fun _ => hwrote (h.wrote i c first hc)
  · exact fun hlate => absurd first hlate
  · exact hshutdowns

lemma away_of_start (h : Orderly P s) (hc : s.calls[i]? = some c) (hstart : c.phase = .start) :
    i ∉ s.arrivals := by
  have hfares := h.fares i c hc
  rw [hstart] at hfares
  cases hfares with | start away
  exact away

lemma fares_concat {closes : Bool} {phase : CallPhase} {arrivals : List Nat}
    (h : Fares P arrivals j closes phase) (hne : j ≠ i) : Fares P (arrivals ++ [i]) j closes phase := by
  have hcame (came : j ∈ arrivals) : (arrivals ++ [i]).head? = arrivals.head? := by
    obtain ⟨first, rest, rfl⟩ := List.exists_cons_of_ne_nil (List.ne_nil_of_mem came)
    rfl
  have hfirst (first : arrivals.head? = some j) : (arrivals ++ [i]).head? = some j := by
    rw [hcame (List.mem_of_mem_head? first), first]
  cases h with
  | start away => exact .start (by simp [away, hne])
  | writing rest first => exact .writing rest (hfirst first)
  | flushing first => exact .flushing (hfirst first)
  | closing came hcloses =>
    rw [← hcame came]
    exact .closing (List.mem_append_left _ came) hcloses
  | done came =>
    rw [← hcame came]
    exact .done (List.mem_append_left _ came)
  | unclosed came hcloses hk hfails => exact .unclosed (List.mem_append_left _ came) hcloses hk hfails
  | crashed first crash => exact .crashed (hfirst first) crash

lemma orderly_arrived (h : Orderly P s) (hc : s.calls[i]? = some c) (hstart : c.phase = .start)
    (hcloses : d.closes = c.closes) (hstill : hasClosed d = false)
    (hfares : Fares P (s.arrivals ++ [i]) i c.closes d.phase)
    (hwrote : s.arrivals = [] → Wrote d .empty) :
    Orderly P { s with gate := ⟨true⟩, calls := s.calls.set i d, arrivals := s.arrivals ++ [i] } where
  willing := h.willing
  known := by
    obtain ⟨hi, -⟩ := List.getElem?_eq_some_iff.1 hc
    intro j hj
    rw [List.length_set]
    rw [List.mem_append, List.mem_singleton] at hj
    rcases hj with hj | rfl
    · exact h.known j hj
    · exact hi
  fares := by
    intro j c' hj
    obtain ⟨rfl, rfl⟩ | ⟨hne, hj⟩ := getElem?_placed hc hj
    · rw [hcloses]
      exact hfares
    · exact fares_concat (h.fares j c' hj) hne
  gate := by simp
  silent := by simp
  wrote := by
    intro j c' hfirst hj
    cases harrivals : s.arrivals with
    | nil =>
      rw [harrivals] at hfirst
      cases hfirst
      obtain ⟨-, rfl⟩ | ⟨hne, -⟩ := getElem?_placed hc hj
      · rw [h.silent harrivals]
        exact hwrote harrivals
      · exact absurd rfl hne
    | cons first rest =>
      have haway : i ∉ s.arrivals := away_of_start h hc hstart
      rw [harrivals] at hfirst haway
      have hj' : s.arrivals.head? = some j := by rwa [harrivals]
      obtain ⟨rfl, -⟩ | ⟨-, hj⟩ := getElem?_placed hc hj
      · cases hfirst
        exact absurd List.mem_cons_self haway
      · exact h.wrote j c' hj' hj
  shutdowns := by
    have hopen : hasClosed c = false := by simp [hasClosed, Call.result?, hstart]
    rw [countP_placed hc hopen, hstill, h.shutdowns]
    rfl

lemma hasClosed_after (c : Call) (sent : Bool) : hasClosed (c.after sent) = false := by
  cases hcloses : c.closes <;> simp [hasClosed, Call.after, Call.result?, hcloses]

lemma fares_after {arrivals : List Nat} (came : i ∈ arrivals) {sent : Bool}
    (hsent : (arrivals.head? == some i) = sent) : Fares P arrivals i c.closes (c.after sent).phase := by
  subst hsent
  rw [Call.after]
  cases hcloses : c.closes with
  | true => exact .closing came rfl
  | false => exact .done came

lemma wrote_after {sent : Bool} {written : ByteArray} (hlegal : Legal c.verdict.encode.size)
    (hwritten : written = framed c.verdict.encode) : Wrote (c.after sent) written := by
  rw [Wrote, Call.after]
  cases c.closes <;> exact ⟨hlegal, hwritten⟩

lemma orderly_moved (h : Orderly P s) (hc : s.calls[i]? = some c) {gate : Gate} {l : Ledger κ}
    (hmoves : Moves P c s.gate s.ledger d gate l) : Orderly P (s.moved i c d gate l) := by
  rw [Line.moved]
  have hfares := h.fares i c hc
  cases hmoves with
  -- The gate is open exactly as long as no call has come to it.
  | enter hstart hopen hlegal =>
    have harrivals : s.arrivals = [] := by simpa [hopen] using h.gate
    simp only [hstart]
    apply orderly_arrived h hc hstart
    · rfl
    · simp [hasClosed, Call.result?]
    · exact .writing _ (by rw [harrivals]; rfl)
    · intro
      exact ⟨hlegal, ByteArray.empty_append⟩
  | crash hstart hopen hlegal =>
    have harrivals : s.arrivals = [] := by simpa [hopen] using h.gate
    simp only [hstart]
    apply orderly_arrived h hc hstart
    · rfl
    · simp [hasClosed, Call.result?]
    · exact .crashed (by rw [harrivals]; rfl) _
    · intro
      exact ⟨hlegal, rfl, rfl⟩
  | late hstart hfired =>
    have hcame : s.arrivals ≠ [] := by simpa [hfired] using h.gate
    simp only [hstart]
    apply orderly_arrived h hc hstart
    · rfl
    · exact hasClosed_after c false
    · apply fares_after (List.mem_append_right _ (List.mem_singleton_self i))
      have away : i ∉ s.arrivals := away_of_start h hc hstart
      cases harrivals : s.arrivals with
      | nil => exact absurd harrivals hcame
      | cons first rest =>
        rw [harrivals] at away
        simpa using (List.ne_of_not_mem_cons away).symm
    · exact fun hnone => absurd hnone hcame
  | @part part left l hwriting hgrown =>
    simp only [hwriting] at hfares ⊢
    cases hfares with | writing _ first
    apply orderly_foremost h hc first
    · rfl
    · simp [hasClosed, Call.result?, hwriting]
    · exact hgrown.willing
    · exact .writing left first
    · intro hwrote
      rw [Wrote, hwriting] at hwrote
      refine ⟨hwrote.1, ?_⟩
      rw [hgrown.written, ByteArray.append_assoc]
      exact hwrote.2
    · rw [hgrown.shutdowns]
      simp [hasClosed, Call.result?]
  | whole hwriting hgrown =>
    simp only [hwriting] at hfares ⊢
    cases hfares with | writing _ first
    apply orderly_foremost h hc first
    · rfl
    · simp [hasClosed, Call.result?, hwriting]
    · exact hgrown.willing
    · exact .flushing first
    · intro hwrote
      rw [Wrote, hwriting] at hwrote
      exact ⟨hwrote.1, hgrown.written.trans hwrote.2⟩
    · rw [hgrown.shutdowns]
      simp [hasClosed, Call.result?]
  | flush hflushing hgrown =>
    simp only [hflushing] at hfares ⊢
    cases hfares with | flushing first
    apply orderly_foremost h hc first
    · rfl
    · simp [hasClosed, Call.result?, hflushing]
    · exact hgrown.willing
    · exact fares_after (List.mem_of_mem_head? first) (by rw [first]; exact beq_self_eq_true _)
    · intro hwrote
      rw [Wrote, hflushing] at hwrote
      apply wrote_after hwrote.1
      rw [hgrown.written, ByteArray.append_empty, hwrote.2]
    · rw [hgrown.shutdowns, hasClosed_after]
      rfl
  -- Here nothing is asked about who came first: whoever closes shuts the connection down.
  | close hclosing hwilling hwritten hshutdowns =>
    simp only [hclosing] at hfares ⊢
    cases hfares with | closing came hcloses
    apply orderly_onward h hc
    · rfl
    · simp [hasClosed, Call.result?, hclosing]
    · exact hwilling
    · cases hfinish : (Sink.finish s.ledger.stream).1 with
      | ok _ => exact .done came
      | error e => exact .unclosed came hcloses h.willing hfinish
    · exact List.ne_nil_of_mem came
    · intro first
      have hwrote := h.wrote i c first hc
      rw [Wrote, hclosing] at hwrote
      rw [hwritten]
      exact hwrote
    · exact fun _ => hwritten
    · rw [hshutdowns]
      simp [hasClosed, Call.result?, hcloses]

lemma phase_call (ask : Ask) : ask.call.phase = .start := by
  cases ask <;> rfl

lemma orderly_ask (h : Orderly P s) (ask : Ask) : Orderly P (s.apply (.ask ask)) where
  willing := h.willing
  known := by
    intro i hi
    have hknown := h.known i hi
    simp only [Line.apply, List.length_append]
    omega
  fares := by
    intro i c hc
    rw [Line.apply, List.getElem?_append] at hc
    split at hc
    · exact h.fares i c hc
    · next hi =>
      rw [List.getElem?_singleton] at hc
      split at hc <;> cases hc
      rw [phase_call]
      exact .start fun hmem => hi (h.known i hmem)
  gate := h.gate
  silent := h.silent
  wrote := by
    intro i c hfirst hc
    have hi := h.known i (List.mem_of_mem_head? hfirst)
    rw [Line.apply, List.getElem?_append_left hi] at hc
    exact h.wrote i c hfirst hc
  shutdowns := by
    have hnew : hasClosed ask.call = false := by simp [hasClosed, Call.result?, phase_call]
    rw [Line.apply, List.countP_append, List.countP_singleton, hnew]
    exact h.shutdowns

lemma apply_step (s : Line κ) (i : Nat) : s.apply (.step i) = s ∨
    ∃ c d gate l, s.calls[i]? = some c ∧ c.step s.gate s.ledger = some (d, gate, l) ∧
      s.apply (.step i) = s.moved i c d gate l := by
  rw [Line.apply]
  cases hc : s.calls[i]? with
  | none => exact .inl rfl
  | some c =>
    rw [Option.map_some, Option.getD_some, Line.advance]
    cases hstep : c.step s.gate s.ledger with
    | none => exact .inl rfl
    | some next => exact .inr ⟨c, next.1, next.2.1, next.2.2, rfl, hstep, rfl⟩

lemma orderly_apply (hP : Obliging P) (h : Orderly P s) (e : Event) : Orderly P (s.apply e) := by
  cases e with
  | ask ask => exact orderly_ask h ask
  | step i =>
    obtain heq | ⟨c, d, gate, l, hc, hstep, heq⟩ := apply_step s i
    · rwa [heq]
    · rw [heq]
      exact orderly_moved h hc (moves_of_step hP h.willing hstep)

lemma orderly_run (hP : Obliging P) (h : Orderly P s) (events : List Event) :
    Orderly P (s.run events) := by
  induction events generalizing s with
  | nil => exact h
  | cons e events ih => exact ih (orderly_apply hP h e)

lemma orderly_fresh {k : κ} (hk : P k) : Orderly P { ledger := { stream := k } } where
  willing := hk
  known := by simp
  fares := by simp
  gate := rfl
  silent _ := rfl
  wrote := by simp
  shutdowns := rfl

lemma terms_moved {gate gate' : Gate} {k l : Ledger κ} (hmoves : Moves P c gate k d gate' l) :
    terms d = terms c := by
  cases hmoves <;> rfl

lemma terms_step (hP : Obliging P) (h : Orderly P s) (i : Nat) :
    (s.apply (.step i)).calls.map terms = s.calls.map terms := by
  obtain heq | ⟨c, d, gate, l, hc, hstep, heq⟩ := apply_step s i
  · rw [heq]
  · have hterms : terms d = terms c := terms_moved (moves_of_step hP h.willing hstep)
    have hget : (s.calls.map terms)[i]? = some (terms c) := by rw [List.getElem?_map, hc]; rfl
    obtain ⟨hi, hval⟩ := List.getElem?_eq_some_iff.1 hget
    rw [heq, Line.moved, List.map_set, hterms, ← hval]
    exact List.set_getElem_self hi

lemma terms_run (hP : Obliging P) (h : Orderly P s) (events : List Event) :
    (s.run events).calls.map terms =
      s.calls.map terms ++ (asked events).map fun ask => terms ask.call := by
  induction events generalizing s with
  | nil => exact (List.append_nil _).symm
  | cons e events ih =>
    have hrest := ih (orderly_apply hP h e)
    cases e with
    | ask ask =>
      rw [Line.apply, List.map_append, List.append_assoc] at hrest
      exact hrest
    | step i =>
      rw [terms_step hP h] at hrest
      exact hrest

lemma written_step (hP : Obliging P) (h : Orderly P s) (hlate : s.arrivals.head? ≠ some i) :
    (s.apply (.step i)).ledger.written = s.ledger.written := by
  obtain heq | ⟨c, d, gate, l, hc, hstep, heq⟩ := apply_step s i
  · rw [heq]
  rw [heq]
  have hfares := h.fares i c hc
  cases moves_of_step hP h.willing hstep with
  | enter | crash | late => rfl
  | part hwriting hgrown =>
    rw [hwriting] at hfares
    cases hfares with | writing _ first
    exact absurd first hlate
  | whole hwriting hgrown =>
    rw [hwriting] at hfares
    cases hfares with | writing _ first
    exact absurd first hlate
  | flush hflushing hgrown =>
    rw [hflushing] at hfares
    cases hfares with | flushing first
    exact absurd first hlate
  | close hclosing hwilling hwritten hshutdowns => exact hwritten

lemma arrivals_apply (s : Line κ) (e : Event) : s.arrivals <+: (s.apply e).arrivals := by
  cases e with
  | ask ask => exact List.prefix_rfl
  | step i =>
    obtain heq | ⟨c, d, gate, l, -, -, heq⟩ := apply_step s i
    · have hsame : (s.apply (.step i)).arrivals = s.arrivals := congrArg Line.arrivals heq
      exact hsame ▸ List.prefix_rfl
    · rw [heq, Line.moved]
      cases c.phase with
      | start => exact List.prefix_append _ _
      | _ => exact List.prefix_rfl

lemma arrivals_run (s : Line κ) (events : List Event) : s.arrivals <+: (s.run events).arrivals := by
  induction events generalizing s with
  | nil => exact List.prefix_rfl
  | cons e events ih => exact (arrivals_apply s e).trans (ih _)

def Event.isTurn (i : Nat) : Event → Bool
  | .step j => j == i
  | .ask _ => false

lemma weight_of_stuck {k : Ledger κ} (hready : ∀ b, (Sink.offer k.stream b).1 ≠ .waits) {gate : Gate}
    (hstuck : c.step gate k = none) : c.weight = 0 := by
  rw [Call.step] at hstuck
  split at hstuck
  · repeat' split at hstuck
    all_goals cases hstuck
  · next rest hp =>
    have hprompt : (Sink.write k rest).1 ≠ .waits := by
      have hoffer := hready rest
      simp only [Sink.write, Sink.offer]
      generalize Sink.offer k.stream rest = offered at hoffer ⊢
      obtain ⟨o, stream⟩ := offered
      cases o with
      | waits => exact absurd rfl hoffer
      | refused e => exact Written.noConfusion
      | took n =>
        simp only [Written.ofOffer]
        split
        · exact Written.noConfusion
        · split <;> exact Written.noConfusion
    split at hstuck
    · next hwaits => exact absurd (congrArg Prod.fst hwaits) hprompt
    all_goals cases hstuck
  · split at hstuck <;> cases hstuck
  · cases hstuck
  · next hp => rw [Call.weight, hp]
  · next hp => rw [Call.weight, hp]

structure Nearer (c : Call) (turns : Nat) (d : Call) : Prop where
  terms : terms d = terms c
  weight : d.weight ≤ c.weight - turns

lemma calls_other (s : Line κ) (hne : j ≠ i) : (s.apply (.step j)).calls[i]? = s.calls[i]? := by
  obtain heq | ⟨c, d, gate, l, -, -, heq⟩ := apply_step s j
  · rw [heq]
  · rw [heq]
    exact List.getElem?_set_ne hne

lemma nearer_turn (hP : Obliging P) (hready : ∀ k b, P k → (Sink.offer k b).1 ≠ .waits)
    (h : Orderly P s) (hc : s.calls[i]? = some c) :
    ∃ d, (s.apply (.step i)).calls[i]? = some d ∧ Nearer c 1 d := by
  obtain ⟨hi, -⟩ := List.getElem?_eq_some_iff.1 hc
  rw [Line.apply, hc, Option.map_some, Option.getD_some, Line.advance]
  cases hstep : c.step s.gate s.ledger with
  | none =>
    have hdone : c.weight = 0 := weight_of_stuck (fun b => hready _ b h.willing) hstep
    exact ⟨c, hc, rfl, Nat.le_trans (Nat.le_of_eq hdone) (Nat.zero_le _)⟩
  | some next =>
    have hless : next.1.weight < c.weight := Call.weight_step hstep
    refine ⟨next.1, List.getElem?_set_self hi, terms_moved (moves_of_step hP h.willing hstep), ?_⟩
    omega

lemma nearer_apply (hP : Obliging P) (hready : ∀ k b, P k → (Sink.offer k b).1 ≠ .waits)
    (h : Orderly P s) (hc : s.calls[i]? = some c) (e : Event) :
    ∃ d, (s.apply e).calls[i]? = some d ∧ Nearer c (if e.isTurn i then 1 else 0) d := by
  obtain ⟨hi, -⟩ := List.getElem?_eq_some_iff.1 hc
  have hsame : Nearer c 0 c := ⟨rfl, Nat.le_refl _⟩
  cases e with
  | ask ask => exact ⟨c, (List.getElem?_append_left hi).trans hc, hsame⟩
  | step j =>
    by_cases hij : j = i
    · subst hij
      rw [Event.isTurn, if_pos (beq_self_eq_true j)]
      exact nearer_turn hP hready h hc
    · rw [Event.isTurn, if_neg (by simpa using hij)]
      exact ⟨c, (calls_other s hij).trans hc, hsame⟩

lemma nearer_run (hP : Obliging P) (hready : ∀ k b, P k → (Sink.offer k b).1 ≠ .waits)
    (h : Orderly P s) (hc : s.calls[i]? = some c) (events : List Event) :
    ∃ d, (s.run events).calls[i]? = some d ∧ Nearer c (events.countP (·.isTurn i)) d := by
  induction events generalizing s c with
  | nil => exact ⟨c, hc, rfl, Nat.le_refl _⟩
  | cons e events ih =>
    obtain ⟨d, hd, hnear⟩ := nearer_apply hP hready h hc e
    obtain ⟨b, hb, hfar⟩ := ih (orderly_apply hP h e) hd
    refine ⟨b, hb, hfar.terms.trans hnear.terms, ?_⟩
    have hweight := hfar.weight
    have hfirst := hnear.weight
    rw [List.countP_cons]
    omega

def isOver (c : Call) : Bool :=
  match c.phase with
  | .done _ | .crashed _ => true
  | _ => false

lemma isOver_of_weight (hweight : c.weight = 0) : isOver c = true := by
  rw [Call.weight] at hweight
  rw [isOver]
  split at hweight
  · cases hweight
  · cases hweight
  · cases hweight
  · cases hweight
  · next hp => rw [hp]
  · next hp => rw [hp]

/-- Of all that is asked on a connection that takes what is written, in any order and however the calls
take turns, exactly the frame of the first at the gate is sent. But the connection is shut down as often
as a call has ended that closes. -/
theorem one_reply (hP : Obliging P) {k : κ} (hk : P k) (events : List Event) :
    let s := Line.run { ledger := { stream := k } } events
    Orderly P s ∧
    (s.calls.map terms = (asked events).map fun ask => terms ask.call) ∧
    (∀ i, s.arrivals.head? ≠ some i → (s.apply (.step i)).ledger.written = s.ledger.written) ∧
    (∀ more, s.arrivals <+: (s.run more).arrivals) ∧
    (s.gate.fired = true → ∀ more, (s.run more).gate.fired = true) ∧
    ∀ i c, s.calls[i]? = some c → (∀ k b, P k → (Sink.offer k b).1 ≠ .waits) →
      ∀ more : List Event, c.weight ≤ more.countP (·.isTurn i) →
        ∃ d, (s.run more).calls[i]? = some d ∧ terms d = terms c ∧ isOver d = true := by
  intro s
  have h : Orderly P s := orderly_run hP (orderly_fresh hk) events
  refine ⟨h, terms_run hP (orderly_fresh hk) events, fun i => written_step hP h, arrivals_run s, ?_, ?_⟩
  · intro hfired more
    have hlater := orderly_run hP h more
    have hgrows := arrivals_run s more
    rw [h.gate] at hfired
    rw [hlater.gate]
    cases hnone : (s.run more).arrivals with
    | nil =>
      rw [hnone] at hgrows
      rw [List.prefix_nil.1 hgrows] at hfired
      cases hfired
    | cons first rest => rfl
  · intro i c hc hready more hturns
    obtain ⟨d, hd, hnear⟩ := nearer_run hP hready h hc more
    have hweight : d.weight = 0 := by
      have hless := hnear.weight
      omega
    exact ⟨d, hd, hnear.terms, isOver_of_weight hweight⟩

open Calling in
lemma obliging_willing : Obliging Willing where
  write := by
    intro k rest hk
    obtain ⟨l, hl, hall | ⟨left, hmore⟩⟩ := write_willing hk rest
    · rw [hall]
      exact ⟨fun e => Written.noConfusion, hl⟩
    · rw [hmore]
      exact ⟨fun e => Written.noConfusion, hl⟩
  flush := by
    intro k hk
    exact ⟨rfl, hk⟩
  finish := by
    intro k hk
    exact hk

lemma willing_prompt {k : Outlet} (hk : Calling.Willing k) (b : ByteArray) :
    (Sink.offer k b).1 ≠ .waits := by
  rw [show Sink.offer k b = k.offer b from rfl, Flow.Conservation.outlet_offer hk.1]
  exact Offer.noConfusion

def refusal : List Event := [.ask (.reply { code := 200 }), .ask (.reject 502 "late")]

theorem one_reply_refusal :
    Calling.Willing {} ∧
      let s := Line.run { ledger := { stream := ({} : Outlet) } } refusal
      Orderly Calling.Willing s ∧
        ∃ d, (s.run (.replicate 40 (.step 1))).calls[1]? = some d ∧ isOver d = true := by
  have hwilling : Calling.Willing {} := ⟨rfl, by decide⟩
  obtain ⟨horderly, -, -, -, -, hends⟩ := one_reply obliging_willing hwilling refusal
  obtain ⟨d, hd, -, hover⟩ := hends 1 (.reject 502 "late") rfl (fun _ b hk => willing_prompt hk b)
    (.replicate 40 (.step 1)) (by decide)
  exact ⟨hwilling, horderly, d, hd, hover⟩

/-- A tunnel is granted and then refused. The refusal sends nothing and shuts the tunnel down. -/
theorem late_rejection_closes :
    let s := Line.run { ledger := { stream := ({} : Outlet) } }
      (refusal ++ [.step 0, .step 0, .step 0, .step 1, .step 1])
    s.arrivals = [0, 1] ∧ s.calls.map Call.result? = [some (.ok true), some (.ok false)] ∧
      s.ledger.written = framed (Verdict.encode { code := 200 }) ∧ s.ledger.shutdowns = 1 := by
  refine ⟨rfl, rfl, ?_, rfl⟩
  rfl

end TwoHop.Proofs.Agent.Replying
