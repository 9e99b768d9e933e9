import Mathlib.Tactic.Common
import TwoHop.Flow.Queue

/-! The queue of a body loses nothing. What its two halves are told follows from what they have done and
were told before: the chunks that were accepted are read in their order, each once. -/

namespace TwoHop.Proofs.Flow.Lossless

open TwoHop.Flow

inductive Step
  | write (bytes : ByteArray)
  | finish
  | read
  | dropSink
  | dropBody
  deriving DecidableEq

inductive Answer
  | done
  | waits
  | refused (error : IoError)
  | chunk (bytes : ByteArray)
  | fault (error : IoError)
  | ended
  | gone
  deriving DecidableEq

def Answer.isIdle : Answer → Bool
  | .waits | .refused _ | .ended | .gone => true
  | .done | .chunk _ | .fault _ => false

structure Halves where
  queue : Queue
  sink : Bool := true

@[simp] def answerOfOffer : Offer → Answer
  | .waits => .waits
  | .took _ => .done
  | .refused e => .refused e

@[simp] def answerOfFinish : Except IoError Unit → Answer
  | .ok () => .done
  | .error e => .refused e

@[simp] def answerOfRead : Read → Answer
  | .waits => .waits
  | .ended => .ended
  | .chunk b => .chunk b
  | .fault e => .fault e

namespace Halves

def step (x : Halves) : Step → Answer × Halves
  | .write b =>
    if x.sink then
      let (o, queue) := x.queue.offer b
      (answerOfOffer o, { x with queue })
    else (.gone, x)
  | .finish =>
    if x.sink then
      let (r, queue) := x.queue.finish
      (answerOfFinish r, { x with queue })
    else (.gone, x)
  | .read =>
    if x.queue.reader then
      let (r, queue) := x.queue.read
      (answerOfRead r, { x with queue })
    else (.gone, x)
  | .dropSink => (.done, ⟨x.queue.close, false⟩)
  | .dropBody => (.done, { x with queue := x.queue.dropReader })

def run (x : Halves) : List Step → List (Step × Answer) × Halves
  | [] => ([], x)
  | s :: steps => ((s, (x.step s).1) :: ((x.step s).2.run steps).1, ((x.step s).2.run steps).2)

end Halves

section History

variable (h : List (Step × Answer))

def accepted : List ByteArray :=
  h.filterMap fun
    | (.write b, .done) => some b
    | _ => none

def delivered : List ByteArray :=
  h.filterMap fun
    | (.read, .chunk b) => some b
    | _ => none

def unread : List ByteArray := (accepted h).drop (delivered h).length

def told : List Answer :=
  h.filterMap fun
    | (.read, .waits) | (.read, .gone) => none
    | (.read, answer) => some answer
    | _ => none

def finished : Bool := h.contains (.finish, .done)

def sinkDropped : Bool := h.contains (.dropSink, .done)

def bodyDropped : Bool := h.contains (.dropBody, .done)

def closed : Bool := sinkDropped h || finished h

def due (places : Nat) : Step → Answer
  | .write _ =>
    if sinkDropped h then .gone
    else if finished h then .refused ⟨.brokenPipe, "Body already finished", []⟩
    else if bodyDropped h then .refused ⟨.brokenPipe, "Body receiver dropped", []⟩
    else if (accepted h).length = (delivered h).length + places then .waits
    else .done
  | .finish => if sinkDropped h then .gone else .done
  | .read =>
    if bodyDropped h then .gone
    else match unread h with
      | b :: _ => .chunk b
      | [] => if closed h then .ended else .waits
  | .dropSink | .dropBody => .done

end History

structure Holds (places : Nat) (h : List (Step × Answer)) (left : List ByteArray) (x : Halves) :
    Prop where
  capacity : x.queue.capacity = places
  sink : x.sink = !sinkDropped h
  sender : x.queue.sender = if closed h then .gone else .open
  reader : x.queue.reader = !bodyDropped h
  accepted : accepted h = delivered h ++ left
  items : x.queue.items = if bodyDropped h then [] else left.map .ok
  fits : bodyDropped h = false → left.length ≤ places

variable {places : Nat} {h : List (Step × Answer)} {left : List ByteArray} {x : Halves}

@[simp] lemma accepted_append (h l : List (Step × Answer)) :
    accepted (h ++ l) = accepted h ++ accepted l :=
  List.filterMap_append

@[simp] lemma delivered_append (h l : List (Step × Answer)) :
    delivered (h ++ l) = delivered h ++ delivered l :=
  List.filterMap_append

@[simp] lemma told_append (h l : List (Step × Answer)) : told (h ++ l) = told h ++ told l :=
  List.filterMap_append

@[simp] lemma finished_append (h l : List (Step × Answer)) :
    finished (h ++ l) = (finished h || finished l) :=
  List.contains_append

@[simp] lemma sinkDropped_append (h l : List (Step × Answer)) :
    sinkDropped (h ++ l) = (sinkDropped h || sinkDropped l) :=
  List.contains_append

@[simp] lemma bodyDropped_append (h l : List (Step × Answer)) :
    bodyDropped (h ++ l) = (bodyDropped h || bodyDropped l) :=
  List.contains_append

@[simp] lemma closed_append (h l : List (Step × Answer)) :
    closed (h ++ l) = (closed h || closed l) := by
  simp only [closed, sinkDropped_append, finished_append]
  ac_rfl

lemma Holds.unread (hx : Holds places h left x) : unread h = left := by
  rw [Lossless.unread, hx.accepted, List.drop_left]

structure Adds (e : Step × Answer) (taken given : List ByteArray) (sink shut body : Bool) : Prop where
  accepted : accepted [e] = taken
  delivered : delivered [e] = given
  sink : sinkDropped [e] = sink
  shut : closed [e] = shut
  body : bodyDropped [e] = body

lemma holds_next (hx : Holds places h left x) {e : Step × Answer} {taken given rest : List ByteArray}
    {sink shut body : Bool} (he : Adds e taken given sink shut body) {y : Halves}
    (hrest : left ++ taken = given ++ rest)
    (hcapacity : y.queue.capacity = x.queue.capacity)
    (hsink : y.sink = (x.sink && !sink))
    (hsender : y.queue.sender = if shut then .gone else x.queue.sender)
    (hreader : y.queue.reader = (x.queue.reader && !body))
    (hitems : y.queue.items = if bodyDropped h || body then [] else rest.map .ok)
    (hfits : bodyDropped h = false → rest.length ≤ places) : Holds places (h ++ [e]) rest y where
  capacity := hcapacity.trans hx.capacity
  sink := by rw [hsink, hx.sink, sinkDropped_append, he.sink, Bool.not_or]
  sender := by
    rw [hsender, hx.sender, closed_append, he.shut]
    cases shut <;> cases closed h <;> rfl
  reader := by rw [hreader, hx.reader, bodyDropped_append, he.body, Bool.not_or]
  accepted := by
    rw [accepted_append, delivered_append, he.accepted, he.delivered, hx.accepted,
      List.append_assoc, hrest, List.append_assoc]
  items := by rw [hitems, bodyDropped_append, he.body]
  fits := by
    rw [bodyDropped_append, Bool.or_eq_false_iff]
    exact fun hbody => hfits hbody.1

def Keeps (places : Nat) (h : List (Step × Answer)) (s : Step) (o : Answer × Halves) : Prop :=
  o.1 = due h places s ∧ ∃ left, Holds places (h ++ [(s, o.1)]) left o.2

lemma keeps_idle (hx : Holds places h left x) {s : Step} {answer : Answer}
    (hidle : Adds (s, answer) [] [] false false false) (hdue : answer = due h places s) :
    Keeps places h s (answer, x) := by
  refine ⟨hdue, left, holds_next hx hidle (List.append_nil _) rfl ?_ rfl ?_ ?_ hx.fits⟩
  · rw [Bool.not_false, Bool.and_true]
  · rw [Bool.not_false, Bool.and_true]
  · rw [hx.items, Bool.or_false]

lemma offer_closed (hx : Holds places h left x) (hclosed : closed h = true) (b : ByteArray) :
    x.queue.offer b = (.refused Queue.finishedFault, x.queue) := by
  have hsender : x.queue.sender = .gone := by rw [hx.sender, if_pos hclosed]
  simp [Queue.offer, hsender]

lemma offer_unread (hx : Holds places h left x) (hopen : closed h = false)
    (hbody : bodyDropped h = true) (b : ByteArray) :
    x.queue.offer b = (.refused Queue.droppedFault, x.queue) := by
  have hsender : x.queue.sender = .open := by rw [hx.sender, hopen]; rfl
  simp [Queue.offer, hsender, hx.reader, hbody]

lemma Holds.isFull (hx : Holds places h left x) (hbody : bodyDropped h = false) :
    x.queue.isFull = true ↔ left.length = places := by
  have hfits := hx.fits hbody
  simp only [Queue.isFull, hx.items, hbody, hx.capacity, List.length_map, decide_eq_true_eq,
    Bool.false_eq_true, if_false]
  omega

lemma offer_alive (hx : Holds places h left x) (hopen : closed h = false)
    (hbody : bodyDropped h = false) (b : ByteArray) : x.queue.offer b =
      if left.length = places then (.waits, x.queue)
      else (.took b.size, { x.queue with items := x.queue.items ++ [.ok b] }) := by
  have hsender : x.queue.sender = .open := by rw [hx.sender, hopen]; rfl
  have hreader : x.queue.reader = true := by rw [hx.reader, hbody]; rfl
  rw [Queue.offer, if_neg (by simp [hsender]), if_neg (by simp [hreader])]
  exact if_congr (hx.isFull hbody) rfl rfl

lemma adds_write {answer : Answer} (ha : answer ≠ .done) (b : ByteArray) :
    Adds (.write b, answer) [] [] false false false where
  accepted := by simp [accepted, ha]
  delivered := rfl
  sink := rfl
  shut := rfl
  body := rfl

lemma holds_push (hx : Holds places h left x) (hbody : bodyDropped h = false)
    (hroom : left.length ≠ places) (b : ByteArray) :
    Holds places (h ++ [(.write b, .done)]) (left ++ [b])
      { x with queue := { x.queue with items := x.queue.items ++ [.ok b] } } := by
  have hadds : Adds (.write b, .done) [b] [] false false false := ⟨rfl, rfl, rfl, rfl, rfl⟩
  refine holds_next hx hadds rfl rfl ?_ rfl ?_ ?_ ?_
  · simp
  · simp
  · simp [hx.items, hbody]
  · have hfits := hx.fits hbody
    intro
    rw [List.length_append, List.length_singleton]
    omega

lemma keeps_write (hx : Holds places h left x) (b : ByteArray) :
    Keeps places h (.write b) (x.step (.write b)) := by
  rw [Halves.step]
  by_cases hsink : sinkDropped h = true
  · rw [if_neg (by simp [hx.sink, hsink])]
    exact keeps_idle hx (adds_write (by simp) b) (by simp [due, hsink])
  rw [if_pos (by simp [hx.sink, hsink])]
  by_cases hfinished : finished h = true
  · rw [offer_closed hx (by simp [closed, hfinished])]
    exact keeps_idle hx (adds_write (by simp) b) (by simp [due, hsink, hfinished]; rfl)
  have hopen : closed h = false := by simp [closed, hsink, hfinished]
  by_cases hbody : bodyDropped h = true
  · rw [offer_unread hx hopen hbody]
    exact keeps_idle hx (adds_write (by simp) b) (by simp [due, hsink, hfinished, hbody]; rfl)
  rw [offer_alive hx hopen (by simpa using hbody)]
  have hlength : (accepted h).length = (delivered h).length + places ↔ left.length = places := by
    rw [hx.accepted, List.length_append, Nat.add_left_cancel_iff]
  by_cases hfull : left.length = places
  · rw [if_pos hfull]
    apply keeps_idle hx (adds_write (by simp) b)
    simp [due, hsink, hfinished, hbody, hlength, hfull]
  · rw [if_neg hfull]
    refine ⟨?_, left ++ [b], holds_push hx (by simpa using hbody) hfull b⟩
    simp [due, hsink, hfinished, hbody, hlength, hfull]

lemma keeps_finish (hx : Holds places h left x) : Keeps places h .finish (x.step .finish) := by
  rw [Halves.step]
  by_cases hsink : sinkDropped h = true
  · rw [if_neg (by simp [hx.sink, hsink])]
    exact keeps_idle hx ⟨rfl, rfl, rfl, rfl, rfl⟩ (by simp [due, hsink])
  · rw [if_pos (by simp [hx.sink, hsink])]
    have hadds : Adds (.finish, .done) [] [] false true false := ⟨rfl, rfl, rfl, rfl, rfl⟩
    refine ⟨by simp [due, hsink, Queue.finish], left, ?_⟩
    refine holds_next hx hadds (List.append_nil _) rfl ?_ rfl ?_ ?_ hx.fits
    · simp
    · simp [Queue.finish, Queue.close]
    · simp [Queue.finish, Queue.close, hx.items]

lemma keeps_read (hx : Holds places h left x) : Keeps places h .read (x.step .read) := by
  rw [Halves.step]
  by_cases hbody : bodyDropped h = true
  · rw [if_neg (by simp [hx.reader, hbody])]
    exact keeps_idle hx ⟨rfl, rfl, rfl, rfl, rfl⟩ (by simp [due, hbody])
  rw [if_pos (by simp [hx.reader, hbody])]
  have hunread := hx.unread
  have hitems : x.queue.items = left.map .ok := by rw [hx.items, if_neg hbody]
  cases left with
  | nil =>
    have hread : x.queue.read = (if closed h then .ended else .waits, x.queue) := by
      rw [List.map_nil] at hitems
      rw [Queue.read, hitems, hx.sender]
      cases closed h <;> rfl
    rw [hread]
    cases hclosed : closed h with
    | true => exact keeps_idle hx ⟨rfl, rfl, rfl, rfl, rfl⟩ (by simp [due, hbody, hunread, hclosed])
    | false => exact keeps_idle hx ⟨rfl, rfl, rfl, rfl, rfl⟩ (by simp [due, hbody, hunread, hclosed])
  | cons b rest =>
    have hread : x.queue.read = (.chunk b, { x.queue with items := rest.map .ok }) := by
      rw [List.map_cons] at hitems
      rw [Queue.read, hitems]
    rw [hread]
    have hadds : Adds (.read, .chunk b) [] [b] false false false := ⟨rfl, rfl, rfl, rfl, rfl⟩
    refine ⟨by simp [due, hbody, hunread], rest, ?_⟩
    refine holds_next hx hadds (List.append_nil _) rfl ?_ rfl ?_ ?_ ?_
    · simp
    · simp
    · simp [hbody]
    · intro halive
      exact Nat.le_of_succ_le (hx.fits halive)

lemma keeps_dropSink (hx : Holds places h left x) :
    Keeps places h .dropSink (x.step .dropSink) := by
  have hadds : Adds (.dropSink, .done) [] [] true true false := ⟨rfl, rfl, rfl, rfl, rfl⟩
  refine ⟨rfl, left, holds_next hx hadds (List.append_nil _) rfl ?_ rfl ?_ ?_ hx.fits⟩
  · simp [Halves.step]
  · simp [Halves.step, Queue.close]
  · simp [Halves.step, Queue.close, hx.items]

lemma keeps_dropBody (hx : Holds places h left x) :
    Keeps places h .dropBody (x.step .dropBody) := by
  have hadds : Adds (.dropBody, .done) [] [] false false true := ⟨rfl, rfl, rfl, rfl, rfl⟩
  refine ⟨rfl, left, holds_next hx hadds (List.append_nil _) rfl ?_ rfl ?_ ?_ hx.fits⟩
  · simp [Halves.step]
  · simp [Halves.step, Queue.dropReader]
  · simp [Halves.step, Queue.dropReader]

lemma keeps_step (hx : Holds places h left x) (s : Step) : Keeps places h s (x.step s) := by
  cases s with
  | write b => exact keeps_write hx b
  | finish => exact keeps_finish hx
  | read => exact keeps_read hx
  | dropSink => exact keeps_dropSink hx
  | dropBody => exact keeps_dropBody hx

lemma holds_run (hx : Holds places h left x) (steps : List Step) :
    ∃ rest, Holds places (h ++ (x.run steps).1) rest (x.run steps).2 := by
  induction steps generalizing h left x with
  | nil =>
    refine ⟨left, ?_⟩
    rwa [Halves.run, List.append_nil]
  | cons s steps ih =>
    obtain ⟨-, next, hnext⟩ := keeps_step hx s
    obtain ⟨rest, hrest⟩ := ih hnext
    refine ⟨rest, ?_⟩
    rwa [List.append_assoc, List.singleton_append] at hrest

lemma holds_make (capacity : Nat) : Holds (max capacity 1) [] [] ⟨Queue.make capacity, true⟩ where
  capacity := rfl
  sink := rfl
  sender := rfl
  reader := rfl
  accepted := rfl
  items := rfl
  fits _ := Nat.zero_le _

lemma offer_idle {q : Queue} {b : ByteArray} (hidle : (answerOfOffer (q.offer b).1).isIdle = true) :
    (q.offer b).2 = q := by
  revert hidle
  unfold Queue.offer
  split
  · exact fun _ => rfl
  split
  · exact fun _ => rfl
  split
  · exact fun _ => rfl
  · intro hidle
    cases hidle

lemma read_idle {q : Queue} (hidle : (answerOfRead q.read.1).isIdle = true) : q.read.2 = q := by
  revert hidle
  unfold Queue.read
  split
  · intro hidle
    cases hidle
  · intro hidle
    cases hidle
  · exact fun _ => rfl

lemma step_idle {s : Step} (hidle : (x.step s).1.isIdle = true) : (x.step s).2 = x := by
  cases s with
  | write b =>
    rw [Halves.step] at hidle ⊢
    split at hidle
    · rw [if_pos ‹_›]
      exact congrArg (Halves.mk · x.sink) (offer_idle hidle)
    · rw [if_neg ‹_›]
  | read =>
    rw [Halves.step] at hidle ⊢
    split at hidle
    · rw [if_pos ‹_›]
      exact congrArg (Halves.mk · x.sink) (read_idle hidle)
    · rw [if_neg ‹_›]
  | finish =>
    rw [Halves.step] at hidle ⊢
    split at hidle
    · cases hidle
    · rw [if_neg ‹_›]
  | dropSink => cases hidle
  | dropBody => cases hidle

lemma finish_finish (x : Halves) : (x.step .finish).2.step .finish = x.step .finish := by
  obtain ⟨q, sink⟩ := x
  cases sink <;> rfl

lemma told_cons (e : Step × Answer) (h : List (Step × Answer)) :
    told (e :: h) = told [e] ++ told h :=
  told_append [e] h

lemma unread_append {e : Step × Answer} (hwrite : accepted [e] = []) (hread : delivered [e] = []) :
    unread (h ++ [e]) = unread h := by
  rw [unread, accepted_append, delivered_append, hwrite, hread, List.append_nil, List.append_nil,
    unread]

lemma unread_read {b : ByteArray} {rest : List ByteArray} (hunread : unread h = b :: rest) :
    unread (h ++ [(.read, .chunk b)]) = rest := by
  have hdelivered : (delivered (h ++ [(.read, .chunk b)])).length = (delivered h).length + 1 := by
    rw [delivered_append, List.length_append]
    rfl
  have haccepted : accepted (h ++ [(.read, .chunk b)]) = accepted h := by
    rw [accepted_append]
    exact List.append_nil _
  rw [unread, hdelivered, haccepted, ← List.drop_drop]
  exact congrArg (List.drop 1) hunread

lemma quiet_step (hx : Holds places h left x) (hclosed : closed h = true) {s : Step}
    (hread : s ≠ .read) : accepted [(s, (x.step s).1)] = [] ∧ delivered [(s, (x.step s).1)] = [] ∧
      told [(s, (x.step s).1)] = [] := by
  cases s with
  | write b =>
    have hrefused : (x.step (.write b)).1 ≠ .done := by
      rw [(keeps_write hx b).1, due]
      rw [closed, Bool.or_eq_true] at hclosed
      split
      · exact Answer.noConfusion
      · rw [if_pos (hclosed.resolve_left ‹_›)]
        exact Answer.noConfusion
    exact ⟨(adds_write hrefused b).accepted, rfl, rfl⟩
  | read => exact absurd rfl hread
  | finish => exact ⟨rfl, rfl, rfl⟩
  | dropSink => exact ⟨rfl, rfl, rfl⟩
  | dropBody => exact ⟨rfl, rfl, rfl⟩

lemma told_run (hx : Holds places h left x) (hclosed : closed h = true)
    (hbody : bodyDropped h = false) {steps : List Step} (halive : .dropBody ∉ steps) :
    told (x.run steps).1 = ((unread h).map .chunk).take (steps.count .read) ++
      List.replicate (steps.count .read - (unread h).length) .ended := by
  induction steps generalizing h left x with
  | nil => simp [Halves.run, told]
  | cons s steps ih =>
    obtain ⟨hanswer, next, hnext⟩ := keeps_step hx s
    rw [List.mem_cons, not_or] at halive
    have hclosed' : closed (h ++ [(s, (x.step s).1)]) = true := by
      rw [closed_append, hclosed, Bool.true_or]
    have hbody' : bodyDropped (h ++ [(s, (x.step s).1)]) = false := by
      rw [bodyDropped_append, hbody]
      cases s <;> first | rfl | exact absurd rfl halive.1
    rw [Halves.run, told_cons, ih hnext hclosed' hbody' halive.2]
    -- Only a read is told anything, and only a read makes less of what is unread.
    by_cases hread : s = .read
    · subst hread
      rw [List.count_cons_self, hanswer]
      cases hunread : unread h with
      | nil =>
        have hended : due h places .read = .ended := by simp [due, hbody, hunread, hclosed]
        rw [hended, unread_append rfl rfl, hunread]
        simp [told, List.replicate_succ]
      | cons b rest =>
        have hchunk : due h places .read = .chunk b := by simp [due, hbody, hunread]
        rw [hchunk, unread_read hunread]
        simp [told]
    · obtain ⟨hwrite, hgiven, htold⟩ := quiet_step hx hclosed hread
      rw [List.count_cons_of_ne hread, unread_append hwrite hgiven, htold, List.nil_append]

lemma due_write_waits {b : ByteArray} : due h places (.write b) = .waits ↔ bodyDropped h = false ∧
    closed h = false ∧ (accepted h).length = (delivered h).length + places := by
  rw [due, closed, Bool.or_eq_false_iff]
  cases sinkDropped h <;> cases finished h <;> cases bodyDropped h <;> simp

lemma due_read_waits :
    due h places .read = .waits ↔ bodyDropped h = false ∧ closed h = false ∧ unread h = [] := by
  rw [due]
  cases bodyDropped h <;> cases closed h <;> cases unread h <;> simp

structure Fifo (places : Nat) (h : List (Step × Answer)) (x : Halves) : Prop where
  answers : ∀ s, (x.step s).1 = due h places s
  order : delivered h ++ unread h = accepted h
  held : bodyDropped h = false → x.queue.items = (unread h).map .ok
  bound : x.queue.items.length ≤ places
  write_waits : ∀ b, (x.step (.write b)).1 = .waits ↔
    bodyDropped h = false ∧ closed h = false ∧ x.queue.items.length = places
  read_waits : (x.step .read).1 = .waits ↔
    bodyDropped h = false ∧ closed h = false ∧ x.queue.items = []
  idle : ∀ s, (x.step s).1.isIdle = true → (x.step s).2 = x
  finish_twice : (x.step .finish).2.step .finish = x.step .finish
  to_the_end : closed h = true → bodyDropped h = false → ∀ steps, .dropBody ∉ steps →
    told (x.run steps).1 = ((unread h).map .chunk).take (steps.count .read) ++
      List.replicate (steps.count .read - (unread h).length) .ended

lemma Holds.fifo (hx : Holds places h left x) : Fifo places h x where
  answers s := (keeps_step hx s).1
  order := by rw [hx.unread, hx.accepted]
  held hbody := by rw [hx.items, hbody, hx.unread]; rfl
  bound := by
    rw [hx.items]
    cases hbody : bodyDropped h with
    | true => exact Nat.zero_le _
    | false => simpa using hx.fits hbody
  write_waits b := by
    rw [(keeps_write hx b).1, due_write_waits]
    refine and_congr_right fun hbody => and_congr_right fun _ => ?_
    rw [hx.items, hbody, hx.accepted, List.length_append, Nat.add_left_cancel_iff]
    simp
  read_waits := by
    rw [(keeps_read hx).1, due_read_waits]
    refine and_congr_right fun hbody => and_congr_right fun _ => ?_
    rw [hx.items, hbody, hx.unread]
    simp
  idle _ := step_idle
  finish_twice := finish_finish x
  to_the_end hclosed hbody steps := told_run hx hclosed hbody

theorem lossless_queue (capacity : Nat) :
    (Queue.mostPlaces < capacity → Queue.ofCapacity? capacity = none) ∧
    (capacity ≤ Queue.mostPlaces → ∃ q, Queue.ofCapacity? capacity = some q ∧
      ∀ steps, let r := (Halves.mk q true).run steps
        Fifo (max capacity 1) r.1 r.2) := by
  have hmost : max capacity 1 ≤ Queue.mostPlaces ↔ capacity ≤ Queue.mostPlaces := by
    rw [Nat.max_le]
    exact and_iff_left (by decide)
  constructor
  · intro hmany
    exact if_neg (mt hmost.1 (Nat.not_le_of_lt hmany))
  · intro hfew
    refine ⟨Queue.make capacity, if_pos (hmost.2 hfew), fun steps => ?_⟩
    obtain ⟨left, hleft⟩ := holds_run (holds_make capacity) steps
    exact hleft.fifo

theorem lossless_queue_zero : ∃ q, Queue.ofCapacity? 0 = some q ∧
    ∀ steps, let r := (Halves.mk q true).run steps
      Fifo 1 r.1 r.2 :=
  (lossless_queue 0).2 (by decide)

theorem no_queue : ¬ ∃ q, Queue.ofCapacity? 2305843009213693952 = some q ∧
    ∀ steps, let r := (Halves.mk q true).run steps
      Fifo 2305843009213693952 r.1 r.2 := by
  rintro ⟨q, hq, -⟩
  have hnone : Queue.ofCapacity? 2305843009213693952 = none := if_neg (by decide)
  rw [hnone] at hq
  cases hq

end TwoHop.Proofs.Flow.Lossless
