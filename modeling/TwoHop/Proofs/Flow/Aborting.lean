import TwoHop.Proofs.Flow.Lossless

/-! A body that is to end with an error. The error waits for its place behind the chunks, and whoever
waits for that may stop waiting. Then the sink is gone and the error with it, and the body ends as if
everything had been written. -/

namespace TwoHop.Proofs.Flow.Aborting

open TwoHop.Flow Lossless

inductive Act
  | step (s : Step)
  | abort (error : IoError)
  | resume
  | abandon

structure Ending where
  halves : Halves
  waiting : Option IoError := none

def usesSink : Step → Bool
  | .write _ | .finish | .dropSink => true
  | .read | .dropBody => false

def attempt (x : Halves) (e : IoError) : Answer × Ending :=
  match x.queue.tryAbort e with
  | (true, queue) => (.done, ⟨{ x with queue }, none⟩)
  | (false, queue) => (.waits, ⟨{ x with queue }, some e⟩)

namespace Ending

def act (y : Ending) : Act → Answer × Ending
  | .step s =>
    if y.waiting.isSome && usesSink s then (.waits, y)
    else ((y.halves.step s).1, { y with halves := (y.halves.step s).2 })
  | .abort e =>
    if y.waiting.isSome then (.waits, y)
    else if y.halves.sink then attempt { y.halves with queue := y.halves.queue.beginAbort } e
    else (.gone, y)
  | .resume =>
    match y.waiting with
    | some e => attempt y.halves e
    | none => (.gone, y)
  | .abandon =>
    match y.waiting with
    | some _ => (.done, ⟨{ y.halves with queue := y.halves.queue.abandonAbort }, none⟩)
    | none => (.gone, y)

def run (y : Ending) : List Act → List (Act × Answer) × Ending
  | [] => ([], y)
  | a :: acts => ((a, (y.act a).1) :: ((y.act a).2.run acts).1, ((y.act a).2.run acts).2)

end Ending

inductive Fate
  | placed
  | abandoned
  deriving DecidableEq

def fate (k : List (Act × Answer)) : Option Fate :=
  k.findSome? fun
    | (.abort _, .done) | (.resume, .done) => some .placed
    | (.abandon, .done) => some .abandoned
    | _ => none

def heard (k : List (Act × Answer)) : List Answer :=
  told (k.filterMap fun
    | (.step s, answer) => some (s, answer)
    | _ => none)

def owed (chunks : List Answer) (e : IoError) : Option Fate → List Answer
  | some .placed => chunks ++ [.fault e]
  | some .abandoned | none => chunks

def answerOf : Except IoError ByteArray → Answer
  | .ok b => .chunk b
  | .error e => .fault e

@[simp] lemma heard_append (k l : List (Act × Answer)) : heard (k ++ l) = heard k ++ heard l := by
  rw [heard, List.filterMap_append, told_append, heard, heard]

@[simp] lemma fate_append (k l : List (Act × Answer)) : fate (k ++ l) = (fate k).or (fate l) :=
  List.findSome?_append

lemma heard_cons (x : Act × Answer) (k : List (Act × Answer)) : heard (x :: k) = heard [x] ++ heard k :=
  heard_append [x] k

lemma heard_read (i : Except IoError ByteArray) :
    heard [(.step .read, answerOf i)] = [answerOf i] := by
  cases i <;> rfl

structure Tells (chunks : List Answer) (e : IoError) (k : List (Act × Answer)) (y : Ending)
    (n : Nat) : Prop where
  waiting : y.waiting = if (fate k).isNone then some e else none
  sender : y.halves.queue.sender = if (fate k).isNone then .aborting else .gone
  early : fate k = none → n = 0
  last : n = 0 ∨ y.halves.queue.items = []
  so_far : heard k <+: owed chunks e (fate k) ++ List.replicate n .ended
  rest : y.halves.queue.reader = true → heard k ++ y.halves.queue.items.map answerOf =
    owed chunks e (fate k) ++ List.replicate n .ended

variable {chunks : List Answer} {e : IoError} {k : List (Act × Answer)} {y z : Ending} {n : Nat}

lemma Tells.waits (hy : Tells chunks e k y n) (hfate : fate k = none) :
    y.waiting = some e ∧ y.halves.queue.sender = .aborting := by
  rw [hy.waiting, hy.sender, hfate]
  exact ⟨rfl, rfl⟩

lemma Tells.over (hy : Tells chunks e k y n) {f : Fate} (hfate : fate k = some f) :
    y.waiting = none ∧ y.halves.queue.sender = .gone := by
  rw [hy.waiting, hy.sender, hfate]
  exact ⟨rfl, rfl⟩

lemma tells_quiet (hy : Tells chunks e k y n) {x : Act × Answer} (hheard : heard [x] = [])
    (hfate : (fate k).or (fate [x]) = fate k) (hwaiting : z.waiting = y.waiting)
    (hsender : z.halves.queue.sender = y.halves.queue.sender)
    (hlast : y.halves.queue.items = [] → z.halves.queue.items = [])
    (hreader : z.halves.queue.reader = true →
      y.halves.queue.reader = true ∧ z.halves.queue.items = y.halves.queue.items) :
    Tells chunks e (k ++ [x]) z n := by
  have hsame : fate (k ++ [x]) = fate k := by rw [fate_append, hfate]
  have hmute : heard (k ++ [x]) = heard k := by rw [heard_append, hheard, List.append_nil]
  constructor
  · rw [hwaiting, hsame, hy.waiting]
  · rw [hsender, hsame, hy.sender]
  · rw [hsame]
    exact hy.early
  · exact hy.last.imp_right hlast
  · rw [hsame, hmute]
    exact hy.so_far
  · intro halive
    obtain ⟨hbefore, hitems⟩ := hreader halive
    rw [hsame, hmute, hitems]
    exact hy.rest hbefore

lemma tells_idle (hy : Tells chunks e k y n) {x : Act × Answer} (hheard : heard [x] = [])
    (hfate : (fate k).or (fate [x]) = fate k) : Tells chunks e (k ++ [x]) y n :=
  tells_quiet hy hheard hfate rfl rfl id fun halive => ⟨halive, rfl⟩

lemma fate_same {f : Fate} (hfate : fate k = some f) (x : Act × Answer) :
    (fate k).or (fate [x]) = fate k := by
  rw [hfate]
  rfl

lemma chunks_prefix_owed (chunks : List Answer) (e : IoError) (f : Option Fate) :
    chunks <+: owed chunks e f := by
  cases f with
  | none => exact List.prefix_rfl
  | some f =>
    cases f with
    | placed => exact List.prefix_append chunks _
    | abandoned => exact List.prefix_rfl

lemma tells_settled (hy : Tells chunks e k y n) (hfate : fate k = none) {x : Act × Answer} {f : Fate}
    (hf : fate [x] = some f) (hheard : heard [x] = []) (hwaiting : z.waiting = none)
    (hsender : z.halves.queue.sender = .gone)
    (hrest : z.halves.queue.reader = true → y.halves.queue.reader = true ∧
      ∃ l, z.halves.queue.items = y.halves.queue.items ++ l ∧
        owed chunks e (some f) = chunks ++ l.map answerOf) : Tells chunks e (k ++ [x]) z 0 := by
  have hnext : fate (k ++ [x]) = some f := by rw [fate_append, hfate, hf]; rfl
  have hmute : heard (k ++ [x]) = heard k := by rw [heard_append, hheard, List.append_nil]
  have hn : n = 0 := hy.early hfate
  have hso_far : heard k <+: chunks := by
    have h := hy.so_far
    rwa [hn, hfate, List.replicate_zero, List.append_nil] at h
  constructor
  · rw [hwaiting, hnext]
    rfl
  · rw [hsender, hnext]
    rfl
  · intro
    rfl
  · exact .inl rfl
  · rw [hmute, hnext, List.replicate_zero, List.append_nil]
    exact hso_far.trans (chunks_prefix_owed chunks e _)
  · intro hreader
    obtain ⟨halive, l, hitems, howed⟩ := hrest hreader
    have hchunks : heard k ++ y.halves.queue.items.map answerOf = chunks := by
      have h := hy.rest halive
      rwa [hn, hfate, List.replicate_zero, List.append_nil] at h
    rw [hmute, hnext, hitems, howed, ← hchunks, List.map_append, List.replicate_zero,
      List.append_nil, List.append_assoc]

lemma tells_attempt (hy : Tells chunks e k y n) (hfate : fate k = none) {a : Act}
    (ha : fate [(a, .done)] = some .placed) (hwaits : fate [(a, .waits)] = none)
    (hheard : ∀ answer, heard [(a, answer)] = []) : ∃ m,
      Tells chunks e (k ++ [(a, (attempt y.halves e).1)]) (attempt y.halves e).2 m := by
  obtain ⟨hwaiting, hsender⟩ := hy.waits hfate
  rw [attempt, Queue.tryAbort, if_neg (not_not.2 hsender)]
  cases hreader : y.halves.queue.reader with
  | false =>
    refine ⟨0, tells_settled hy hfate ha (hheard _) rfl rfl fun halive => ?_⟩
    rw [Queue.close, hreader] at halive
    cases halive
  | true =>
    rw [if_neg (by decide)]
    by_cases hfull : y.halves.queue.isFull = true
    · rw [if_pos hfull]
      refine ⟨n, tells_quiet hy (hheard _) ?_ hwaiting.symm rfl id fun _ => ⟨hreader, rfl⟩⟩
      rw [hfate, hwaits]
      rfl
    · rw [if_neg hfull]
      refine ⟨0, tells_settled hy hfate ha (hheard _) rfl rfl fun _ => ?_⟩
      exact ⟨hreader, [.error e], rfl, rfl⟩

lemma tells_abandon (hy : Tells chunks e k y n) (hfate : fate k = none) :
    Tells chunks e (k ++ [(.abandon, .done)])
      ⟨{ y.halves with queue := y.halves.queue.abandonAbort }, none⟩ 0 := by
  rw [Queue.abandonAbort, if_pos (hy.waits hfate).2]
  refine tells_settled hy hfate rfl rfl rfl rfl fun halive => ⟨halive, [], ?_, ?_⟩
  · exact (List.append_nil _).symm
  · exact (List.append_nil _).symm

lemma tells_told (hy : Tells chunks e k y n) {answer : Answer} {l : List Answer} {q : Queue} {m : Nat}
    (hheard : heard [(.step .read, answer)] = l) (hsender : q.sender = y.halves.queue.sender)
    (hearly : fate k = none → m = 0) (hlast : m = 0 ∨ q.items = [])
    (hrest : heard k ++ (l ++ q.items.map answerOf) =
      owed chunks e (fate k) ++ List.replicate m .ended) :
    Tells chunks e (k ++ [(.step .read, answer)])
      { y with halves := { y.halves with queue := q } } m := by
  have hsame : fate (k ++ [(.step .read, answer)]) = fate k := by
    rw [fate_append]
    exact Option.or_none
  have hnow : heard (k ++ [(.step .read, answer)]) ++ q.items.map answerOf =
      owed chunks e (fate k) ++ List.replicate m .ended := by
    rw [heard_append, hheard, List.append_assoc, hrest]
  constructor
  · rw [hsame]
    exact hy.waiting
  · rw [hsame]
    exact hsender.trans hy.sender
  · rw [hsame]
    exact hearly
  · exact hlast
  · rw [hsame, ← hnow]
    exact List.prefix_append _ _
  · intro
    rw [hsame]
    exact hnow

lemma tells_read (hy : Tells chunks e k y n) (hreader : y.halves.queue.reader = true) : ∃ m,
    Tells chunks e (k ++ [(.step .read, answerOfRead y.halves.queue.read.1)])
      { y with halves := { y.halves with queue := y.halves.queue.read.2 } } m := by
  have hrest := hy.rest hreader
  cases hitems : y.halves.queue.items with
  | cons i items =>
    have hread : answerOfRead y.halves.queue.read.1 = answerOf i ∧
        y.halves.queue.read.2 = { y.halves.queue with items } := by
      rw [Queue.read, hitems]
      cases i <;> exact ⟨rfl, rfl⟩
    -- Where there is still something to read, the end has not been told.
    have hn : n = 0 := hy.last.resolve_right (by rw [hitems]; exact List.cons_ne_nil i items)
    rw [hread.1, hread.2]
    refine ⟨n, tells_told hy (heard_read i) rfl hy.early (.inl hn) ?_⟩
    rwa [hitems] at hrest
  | nil =>
    have hread : y.halves.queue.read =
        (if y.halves.queue.sender = .gone then .ended else .waits, y.halves.queue) := by
      rw [Queue.read, hitems]
    rw [hread]
    cases hfate : fate k with
    | none =>
      rw [if_neg (by rw [(hy.waits hfate).2]; decide)]
      exact ⟨n, tells_told hy (l := []) rfl rfl hy.early hy.last hrest⟩
    | some f =>
      rw [if_pos (hy.over hfate).2]
      refine ⟨n + 1, tells_told hy (l := [.ended]) rfl rfl ?_ (.inr hitems) ?_⟩
      · intro hnone
        rw [hfate] at hnone
        cases hnone
      · rw [hitems, List.map_nil, List.append_nil] at hrest ⊢
        rw [hrest, List.replicate_succ', List.append_assoc]

lemma queue_step {x : Halves} (hgone : x.queue.sender = .gone) {s : Step} (hs : usesSink s = true) :
    (x.step s).2.queue = x.queue := by
  have hclose : x.queue.close = x.queue := by rw [Queue.close, ← hgone]
  cases s with
  | write b =>
    have hoffer : (x.queue.offer b).2 = x.queue := by
      rw [Queue.offer, if_pos (by rw [hgone]; decide)]
    rw [Halves.step]
    split
    · exact hoffer
    · rfl
  | finish =>
    rw [Halves.step]
    split
    · exact hclose
    · rfl
  | dropSink => exact hclose
  | read => cases hs
  | dropBody => cases hs

lemma heard_sink {s : Step} (hs : usesSink s = true) (answer : Answer) :
    heard [(.step s, answer)] = [] := by
  cases s with
  | write _ => rfl
  | finish => rfl
  | dropSink => rfl
  | read => cases hs
  | dropBody => cases hs

lemma tells_step (hy : Tells chunks e k y n) (s : Step) : ∃ m,
    Tells chunks e (k ++ [(.step s, (y.act (.step s)).1)]) (y.act (.step s)).2 m := by
  cases hs : usesSink s with
  | true =>
    refine ⟨n, ?_⟩
    cases hfate : fate k with
    | none =>
      rw [Ending.act, (hy.waits hfate).1, hs]
      exact tells_idle hy (heard_sink hs _) Option.or_none
    | some f =>
      obtain ⟨hwaiting, hgone⟩ := hy.over hfate
      have hqueue := queue_step hgone hs
      rw [Ending.act, hwaiting]
      apply tells_quiet hy (heard_sink hs _) Option.or_none hwaiting.symm
      · exact congrArg Queue.sender hqueue
      · exact (congrArg Queue.items hqueue).trans
      · intro halive
        exact ⟨(congrArg Queue.reader hqueue).symm.trans halive, congrArg Queue.items hqueue⟩
  | false =>
    rw [Ending.act, hs, Bool.and_false, if_neg Bool.false_ne_true]
    cases s with
    | read =>
      rw [Halves.step]
      split
      · next hreader => exact tells_read hy hreader
      · exact ⟨n, tells_idle hy rfl Option.or_none⟩
    | dropBody =>
      refine ⟨n, tells_quiet hy rfl Option.or_none rfl rfl (fun _ => rfl) fun halive => ?_⟩
      cases halive
    | write b => cases hs
    | finish => cases hs
    | dropSink => cases hs

lemma tells_act (hy : Tells chunks e k y n) (a : Act) : ∃ m,
    Tells chunks e (k ++ [(a, (y.act a).1)]) (y.act a).2 m := by
  cases hfate : fate k with
  | none =>
    have hwaiting := (hy.waits hfate).1
    cases a with
    | step s => exact tells_step hy s
    | abort f =>
      rw [Ending.act, hwaiting]
      exact ⟨n, tells_idle hy rfl Option.or_none⟩
    | resume =>
      rw [Ending.act, hwaiting]
      exact tells_attempt hy hfate rfl rfl fun _ => rfl
    | abandon =>
      rw [Ending.act, hwaiting]
      exact ⟨0, tells_abandon hy hfate⟩
  | some f =>
    obtain ⟨hwaiting, hgone⟩ := hy.over hfate
    cases a with
    | step s => exact tells_step hy s
    | abort g =>
      have hqueue : y.halves.queue.beginAbort = y.halves.queue := if_neg (by rw [hgone]; decide)
      have hdone : y.halves.queue.tryAbort g = (true, y.halves.queue) :=
        if_pos (by rw [hgone]; decide)
      refine ⟨n, ?_⟩
      rw [Ending.act, hwaiting, Option.isSome_none, if_neg Bool.false_ne_true]
      split
      · rw [hqueue, attempt, hdone]
        exact tells_quiet hy rfl (fate_same hfate _) hwaiting.symm rfl id fun h => ⟨h, rfl⟩
      · exact tells_idle hy rfl Option.or_none
    | resume =>
      rw [Ending.act, hwaiting]
      exact ⟨n, tells_idle hy rfl Option.or_none⟩
    | abandon =>
      rw [Ending.act, hwaiting]
      exact ⟨n, tells_idle hy rfl Option.or_none⟩

lemma tells_run (hy : Tells chunks e k y n) (acts : List Act) :
    ∃ m, Tells chunks e (k ++ (y.run acts).1) (y.run acts).2 m := by
  induction acts generalizing k y n with
  | nil =>
    refine ⟨n, ?_⟩
    rwa [Ending.run, List.append_nil]
  | cons a acts ih =>
    obtain ⟨m, hm⟩ := tells_act hy a
    obtain ⟨l, hl⟩ := ih hm
    refine ⟨l, ?_⟩
    rwa [List.append_assoc, List.singleton_append] at hl

lemma act_read {y : Ending} (hreader : y.halves.queue.reader = true) :
    y.act (.step .read) = (answerOfRead y.halves.queue.read.1,
      { y with halves := { y.halves with queue := y.halves.queue.read.2 } }) := by
  rw [Ending.act, usesSink, Bool.and_false, if_neg Bool.false_ne_true, Halves.step, if_pos hreader]

lemma resume_leaves (hy : Tells chunks e k y n) (hreader : y.halves.queue.reader = true) :
    let q := (y.act .resume).2.halves.queue
    q.reader = true ∧ (q.items = [] → q.sender = .gone) := by
  cases hfate : fate k with
  | none =>
    obtain ⟨hwaiting, hsender⟩ := hy.waits hfate
    rw [Ending.act, hwaiting]
    simp only [attempt, Queue.tryAbort, hsender, hreader]
    by_cases hfull : y.halves.queue.isFull = true
    -- A full queue is not empty, since there is no queue without places.
    · rw [if_neg (by decide), if_neg (by decide), if_pos hfull]
      refine ⟨hreader, fun hempty => ?_⟩
      have hplaces := y.halves.queue.capacity_pos
      rw [Queue.isFull, decide_eq_true_eq, hempty, List.length_nil] at hfull
      omega
    · rw [if_neg (by decide), if_neg (by decide), if_neg hfull]
      exact ⟨rfl, fun _ => rfl⟩
  | some f =>
    obtain ⟨hwaiting, hgone⟩ := hy.over hfate
    rw [Ending.act, hwaiting]
    exact ⟨hreader, fun _ => hgone⟩

lemma read_tells (hreader : y.halves.queue.reader = true)
    (hleft : y.halves.queue.items = [] → y.halves.queue.sender = .gone) :
    (heard [(.step .read, (y.act (.step .read)).1)]).length = 1 ∧
      (y.act (.step .read)).2.halves.queue.reader = true := by
  rw [act_read hreader, Queue.read]
  cases hitems : y.halves.queue.items with
  | nil =>
    rw [if_pos (hleft hitems)]
    exact ⟨rfl, hreader⟩
  | cons i items => cases i <;> exact ⟨rfl, hreader⟩

def rounds : Nat → List Act
  | 0 => []
  | n + 1 => .resume :: .step .read :: rounds n

lemma rounds_tell (hy : Tells chunks e k y n) (hreader : y.halves.queue.reader = true) (m : Nat) :
    (heard (y.run (rounds m)).1).length = m := by
  induction m generalizing k y n with
  | zero => rfl
  | succ m ih =>
    obtain ⟨n₁, hresumed⟩ := tells_act hy .resume
    obtain ⟨n₂, hnext⟩ := tells_act hresumed (.step .read)
    obtain ⟨halive, hleft⟩ := resume_leaves hy hreader
    obtain ⟨hone, hreader'⟩ := read_tells halive hleft
    rw [rounds, Ending.run, Ending.run, heard_cons, heard_cons (.step .read, _), List.length_append,
      List.length_append, hone, ih hnext hreader']
    exact Nat.zero_add (1 + m) |>.trans (Nat.add_comm 1 m)

lemma run_append (y : Ending) (acts more : List Act) : y.run (acts ++ more) =
    ((y.run acts).1 ++ ((y.run acts).2.run more).1, ((y.run acts).2.run more).2) := by
  induction acts generalizing y with
  | nil => rfl
  | cons a acts ih => rw [List.cons_append, Ending.run, ih, Ending.run, List.cons_append]

lemma reader_offer (q : Queue) (b : ByteArray) : (q.offer b).2.reader = q.reader := by
  rw [Queue.offer]
  repeat' split
  all_goals rfl

lemma reader_read (q : Queue) : q.read.2.reader = q.reader := by
  rw [Queue.read]
  split <;> rfl

lemma reader_tryAbort (q : Queue) (e : IoError) : (q.tryAbort e).2.reader = q.reader := by
  rw [Queue.tryAbort]
  repeat' split
  all_goals rfl

lemma reader_step (x : Halves) {s : Step} (hs : s ≠ .dropBody) :
    (x.step s).2.queue.reader = x.queue.reader := by
  cases s with
  | write b =>
    rw [Halves.step]
    split
    · exact reader_offer x.queue b
    · rfl
  | finish =>
    rw [Halves.step]
    split <;> rfl
  | read =>
    rw [Halves.step]
    split
    · exact reader_read x.queue
    · rfl
  | dropSink => rfl
  | dropBody => exact absurd rfl hs

lemma reader_attempt (x : Halves) (e : IoError) :
    (attempt x e).2.halves.queue.reader = x.queue.reader := by
  have hreader := reader_tryAbort x.queue e
  rw [attempt]
  generalize x.queue.tryAbort e = r at hreader ⊢
  obtain ⟨done, q⟩ := r
  cases done <;> exact hreader

lemma reader_act (y : Ending) {a : Act} (ha : a ≠ .step .dropBody) :
    (y.act a).2.halves.queue.reader = y.halves.queue.reader := by
  cases a with
  | step s =>
    rw [Ending.act]
    split
    · rfl
    · exact reader_step y.halves fun hs => ha (by rw [hs])
  | abort e =>
    have hbegun : y.halves.queue.beginAbort.reader = y.halves.queue.reader := by
      rw [Queue.beginAbort]
      split <;> rfl
    rw [Ending.act]
    split
    · rfl
    split
    · exact (reader_attempt _ e).trans hbegun
    · rfl
  | resume =>
    rw [Ending.act]
    split
    · exact reader_attempt y.halves _
    · rfl
  | abandon =>
    have habandoned : y.halves.queue.abandonAbort.reader = y.halves.queue.reader := by
      rw [Queue.abandonAbort]
      split <;> rfl
    rw [Ending.act]
    split
    · exact habandoned
    · rfl

lemma reader_run (hreader : y.halves.queue.reader = true) {acts : List Act}
    (hacts : .step .dropBody ∉ acts) : (y.run acts).2.halves.queue.reader = true := by
  induction acts generalizing y with
  | nil => exact hreader
  | cons a acts ih =>
    rw [List.mem_cons, not_or] at hacts
    exact ih ((reader_act y (Ne.symm hacts.1)).trans hreader) hacts.2

variable {places : Nat} {h : List (Step × Answer)} {left : List ByteArray} {x : Halves}

lemma tells_begun (hx : Holds places h left x) (hopen : closed h = false)
    (halive : bodyDropped h = false) (e : IoError) :
    Tells ((unread h).map .chunk) e [] ⟨{ x with queue := x.queue.beginAbort }, some e⟩ 0 := by
  have hsender : x.queue.sender = .open := by rw [hx.sender, hopen]; rfl
  have hitems : x.queue.items.map answerOf = (unread h).map .chunk := by
    rw [hx.items, halive, hx.unread]
    simp only [Bool.false_eq_true, if_false, List.map_map]
    rfl
  rw [Queue.beginAbort, if_pos hsender]
  constructor
  · rfl
  · rfl
  · intro
    rfl
  · exact .inl rfl
  · exact List.nil_prefix
  · intro
    rw [heard, List.filterMap_nil]
    exact hitems.trans (List.append_nil _).symm

lemma act_abort (hx : Holds places h left x) (hopen : closed h = false) (e : IoError) :
    (Ending.mk x none).act (.abort e) = attempt { x with queue := x.queue.beginAbort } e := by
  have hsink : x.sink = true := by
    rw [closed, Bool.or_eq_false_iff] at hopen
    rw [hx.sink, hopen.1]
    rfl
  rw [Ending.act]
  simp only [hsink]
  rfl

lemma tells_abort (hx : Holds places h left x) (hopen : closed h = false)
    (halive : bodyDropped h = false) (e : IoError) (acts : List Act) :
    let k := (Ending.mk x none).run (.abort e :: acts)
    ∃ n, Tells ((unread h).map .chunk) e k.1 k.2 n := by
  obtain ⟨m, hm⟩ := tells_attempt (tells_begun hx hopen halive e) rfl (a := .abort e) rfl rfl
    fun _ => rfl
  rw [List.nil_append, ← act_abort hx hopen e] at hm
  exact tells_run hm acts

lemma run_history (y : Ending) (acts : List Act) : (y.run acts).1.map Prod.fst = acts := by
  induction acts generalizing y with
  | nil => rfl
  | cons a acts ih => rw [Ending.run, List.map_cons, ih]

lemma mem_of_abandoned {acts : List Act} (hfate : fate (y.run acts).1 = some .abandoned) :
    .abandon ∈ acts := by
  obtain ⟨⟨a, answer⟩, hmem, ha⟩ := List.exists_of_findSome?_eq_some hfate
  have habandon : a = .abandon := by
    split at ha
    · cases ha
    · cases ha
    · simp_all
    · cases ha
  have hacts := List.mem_map_of_mem (f := Prod.fst) hmem
  rwa [run_history, habandon] at hacts

lemma attempt_placed (hx : Holds places h left x) (hopen : closed h = false)
    (halive : bodyDropped h = false) (hroom : left.length ≠ places) (e : IoError) :
    (attempt { x with queue := x.queue.beginAbort } e).1 = .done := by
  have hsender : x.queue.sender = .open := by rw [hx.sender, hopen]; rfl
  have hreader : x.queue.reader = true := by rw [hx.reader, halive]; rfl
  have hplaced : (({ x.queue with sender := .aborting } : Queue).tryAbort e).1 = true := by
    rw [Queue.tryAbort, if_neg (not_not.2 rfl), hreader, if_neg (by decide)]
    exact congrArg Prod.fst (if_neg (mt (hx.isFull halive).1 hroom))
  rw [Queue.beginAbort, if_pos hsender, attempt]
  generalize ({ x.queue with sender := .aborting } : Queue).tryAbort e = r at hplaced ⊢
  obtain ⟨done, q⟩ := r
  cases hplaced
  rfl

lemma full_of_abandoned (hx : Holds places h left x) (hopen : closed h = false)
    (halive : bodyDropped h = false) {e : IoError} {acts : List Act}
    (hfate : fate ((Ending.mk x none).run (.abort e :: acts)).1 = some .abandoned) :
    left.length = places := by
  by_contra hroom
  rw [Ending.run, act_abort hx hopen, attempt_placed hx hopen halive hroom] at hfate
  cases hfate

lemma ended_owed (hy : Tells chunks e k y n) (hchunks : .ended ∉ chunks)
    (hended : .ended ∈ heard k) : owed chunks e (fate k) ++ [.ended] <+: heard k ∧ fate k ≠ none := by
  have howed : .ended ∉ owed chunks e (fate k) := by
    unfold owed
    split
    · simpa using hchunks
    · exact hchunks
    · exact hchunks
  have hlong : ¬ heard k <+: owed chunks e (fate k) := fun hshort => howed (hshort.subset hended)
  have hn : n ≠ 0 := by
    rintro rfl
    have hso_far := hy.so_far
    rw [List.replicate_zero, List.append_nil] at hso_far
    exact hlong hso_far
  refine ⟨?_, fun hfate => hn (hy.early hfate)⟩
  obtain ⟨m, rfl⟩ := Nat.exists_eq_succ_of_ne_zero hn
  have hend : owed chunks e (fate k) ++ [.ended] <+:
      owed chunks e (fate k) ++ List.replicate (m + 1) .ended := by
    rw [List.replicate_succ, List.prefix_append_right_inj]
    exact List.prefix_append [Answer.ended] _
  apply List.prefix_of_prefix_length_le hend hy.so_far
  by_contra hless
  apply hlong
  apply List.prefix_of_prefix_length_le hy.so_far (List.prefix_append _ _)
  rw [List.length_append, List.length_singleton] at hless
  omega

/-- What readers are told from an abort on that comes behind these chunks, whatever else is done.
Unless it is given up, every chunk is told before the error and the error before the end. -/
structure Outcome (places : Nat) (chunks : List Answer) (e : IoError) (y : Ending) (acts : List Act)
    (k : List (Act × Answer)) : Prop where
  told : ∃ n, heard k <+: owed chunks e (fate k) ++ List.replicate n .ended
  ended : .ended ∈ heard k → owed chunks e (fate k) ++ [.ended] <+: heard k ∧ fate k ≠ none
  abandoned : fate k = some .abandoned → chunks.length = places ∧ .abandon ∈ acts
  goes_on : .step .dropBody ∉ acts → ∀ n,
    (heard (y.run (.abort e :: (acts ++ rounds n))).1).length = (heard k).length + n

theorem aborted_body {capacity : Nat} {q : Queue} (hq : Queue.ofCapacity? capacity = some q)
    (steps : List Step) :
    let r := (Halves.mk q true).run steps
    closed r.1 = false → bodyDropped r.1 = false → ∀ (e : IoError) (acts : List Act),
      Outcome (max capacity 1) ((unread r.1).map .chunk) e ⟨r.2, none⟩ acts
        ((Ending.mk r.2 none).run (.abort e :: acts)).1 := by
  intro r hopen halive e acts
  have hmake : Queue.make capacity = q := by
    rw [Queue.ofCapacity?] at hq
    split at hq
    · exact Option.some.inj hq
    · cases hq
  subst hmake
  obtain ⟨left, hx⟩ : ∃ left, Holds (max capacity 1) r.1 left r.2 :=
    holds_run (holds_make capacity) steps
  obtain ⟨n, hy⟩ := tells_abort hx hopen halive e acts
  constructor
  · exact ⟨n, hy.so_far⟩
  · apply ended_owed hy
    simp
  · intro hfate
    refine ⟨?_, ?_⟩
    · rw [List.length_map, hx.unread]
      exact full_of_abandoned hx hopen halive hfate
    · apply (List.mem_cons.1 (mem_of_abandoned hfate)).resolve_left
      exact Act.noConfusion
  · intro hacts n
    have halways : .step .dropBody ∉ Act.abort e :: acts :=
      List.not_mem_cons_of_ne_of_not_mem Act.noConfusion hacts
    have hreader : r.2.queue.reader = true := by rw [hx.reader, halive]; rfl
    rw [← List.cons_append, run_append, heard_append, List.length_append,
      rounds_tell hy (reader_run hreader halways)]

def upstreamGone : IoError := ⟨.connectionReset, "upstream gone", []⟩

theorem aborted_body_full :
    Queue.ofCapacity? 1 = some (.make 1) ∧
      let r := (Halves.mk (.make 1) true).run [.write ⟨#[97]⟩]
      closed r.1 = false ∧ bodyDropped r.1 = false ∧
        Outcome (max 1 1) ((unread r.1).map .chunk) upstreamGone ⟨r.2, none⟩ [.step .read, .resume]
          ((Ending.mk r.2 none).run [.abort upstreamGone, .step .read, .resume]).1 :=
  have hmake : Queue.ofCapacity? 1 = some (.make 1) := rfl
  ⟨hmake, rfl, rfl,
    aborted_body hmake [.write ⟨#[97]⟩] rfl rfl upstreamGone [.step .read, .resume]⟩

/-- Given up before there was a place for the error, and the body ends as if it were whole. -/
theorem abort_lost :
    let r := (Halves.mk (.make 1) true).run [.write ⟨#[97]⟩]
    let k := (Ending.mk r.2 none).run [.abort upstreamGone, .abandon, .step .read, .step .read]
    closed r.1 = false ∧ bodyDropped r.1 = false ∧ accepted r.1 = [⟨#[97]⟩] ∧
      heard k.1 = [.chunk ⟨#[97]⟩, .ended] :=
  ⟨rfl, rfl, rfl, rfl⟩

end TwoHop.Proofs.Flow.Aborting
