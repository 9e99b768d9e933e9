import TwoHop.Proofs.Flow.Content

namespace TwoHop.Proofs.Flow.Intake

open TwoHop.Flow
open Content
open Proofs.Bytes (join join_append)

def chunkOf : Pull → List ByteArray
  | .chunk b => [b]
  | _ => []

def replay (s : Source) : List Nat → List ByteArray × Source
  | [] => ([], s)
  | limit :: limits =>
    (chunkOf (s.pull limit).1 ++ (replay (s.pull limit).2 limits).1,
      (replay (s.pull limit).2 limits).2)

def heard (s t : Source) : List ByteArray := (replay s (t.asked.toList.drop s.asked.size)).1

def Becomes (s t : Source) : Prop :=
  ∃ limits, t.asked.toList = s.asked.toList ++ limits ∧ (replay s limits).2 = t

lemma kept_pull (s : Source) (limit : Nat) :
    (s.pull limit).2.kind = s.kind ∧ (s.pull limit).2.asked = s.asked.push limit := by
  obtain ⟨kind, items, ended, asked⟩ := s
  cases kind with
  | chunks =>
    simp only [Source.pull, Source.pullChunk]
    split
    · exact ⟨rfl, rfl⟩
    · split <;> exact ⟨rfl, rfl⟩
  | reader capacity =>
    simp only [Source.pull, Source.pullRead]
    split
    · exact ⟨rfl, rfl⟩
    · split
      · exact ⟨rfl, rfl⟩
      · split <;> exact ⟨rfl, rfl⟩
    · exact ⟨rfl, rfl⟩
    · exact ⟨rfl, rfl⟩
    · exact ⟨rfl, rfl⟩
  | body knowsEnd => exact ⟨rfl, rfl⟩

lemma kind_pull (s : Source) (limit : Nat) : (s.pull limit).2.kind = s.kind := (kept_pull s limit).1

lemma asked_pull (s : Source) (limit : Nat) : (s.pull limit).2.asked = s.asked.push limit :=
  (kept_pull s limit).2

lemma replay_append (s : Source) (as bs : List Nat) : replay s (as ++ bs) =
    ((replay s as).1 ++ (replay (replay s as).2 bs).1, (replay (replay s as).2 bs).2) := by
  induction as generalizing s with
  | nil => simp [replay]
  | cons a as ih => simp [replay, ih]

lemma becomes_refl (s : Source) : Becomes s s := ⟨[], by simp, rfl⟩

lemma heard_of_replay {s t : Source} {limits : List Nat}
    (h : t.asked.toList = s.asked.toList ++ limits) : heard s t = (replay s limits).1 := by
  have hdrop : t.asked.toList.drop s.asked.size = limits := by
    rw [h, List.drop_left' (by simp)]
  rw [heard, hdrop]

lemma heard_refl (s : Source) : heard s s = [] :=
  heard_of_replay (List.append_nil _).symm

lemma becomes_pull {s t : Source} (h : Becomes s t) (limit : Nat) : Becomes s (t.pull limit).2 := by
  obtain ⟨limits, hasked, ht⟩ := h
  refine ⟨limits ++ [limit], ?_, ?_⟩
  · rw [asked_pull, Array.toList_push, hasked, List.append_assoc]
  · rw [replay_append, ht]
    rfl

lemma heard_pull {s t : Source} (h : Becomes s t) (limit : Nat) :
    heard s (t.pull limit).2 = heard s t ++ chunkOf (t.pull limit).1 := by
  obtain ⟨limits, hasked, ht⟩ := h
  have hmore : (t.pull limit).2.asked.toList = s.asked.toList ++ (limits ++ [limit]) := by
    rw [asked_pull, Array.toList_push, hasked, List.append_assoc]
  rw [heard_of_replay hmore, heard_of_replay hasked, replay_append, ht]
  simp [replay]

lemma heard_trans {s t u : Source} (hst : Becomes s t) (htu : Becomes t u) :
    Becomes s u ∧ heard s u = heard s t ++ heard t u := by
  obtain ⟨as, hs, hrs⟩ := hst
  obtain ⟨bs, ht, hrt⟩ := htu
  have hboth : u.asked.toList = s.asked.toList ++ (as ++ bs) := by
    rw [ht, hs, List.append_assoc]
  have hreplay : replay s (as ++ bs) = ((replay s as).1 ++ (replay t bs).1, u) := by
    rw [replay_append, hrs, hrt]
  refine ⟨⟨as ++ bs, hboth, by rw [hreplay]⟩, ?_⟩
  rw [heard_of_replay hboth, heard_of_replay hs, heard_of_replay ht, hreplay]

end TwoHop.Proofs.Flow.Intake
