import Mathlib.Data.List.Induction
import Mathlib.Tactic.Common
import TwoHop.Fault

/-! What is said of an error and its causes: first the error, then in their order the causes that
the text up to them does not show, and nothing else. -/

namespace TwoHop.Proofs.Fault.Rendering

def Shows (text part : String) : Prop := ∃ front back, text = front ++ part ++ back

variable {text middle part top cause : String} {causes : List String}

lemma shows_iff : Shows text part ↔ part.toList <:+: text.toList := by
  constructor
  · rintro ⟨front, back, rfl⟩
    refine ⟨front.toList, back.toList, ?_⟩
    rw [String.toList_append, String.toList_append]
  · rintro ⟨front, back, h⟩
    refine ⟨.ofList front, .ofList back, String.toList_inj.mp ?_⟩
    rw [String.toList_append, String.toList_append, String.toList_ofList, String.toList_ofList, h]

lemma occursIn_iff_shows : occursIn part.toList text.toList = true ↔ Shows text part :=
  occursIn_iff.trans shows_iff.symm

instance (text part : String) : Decidable (Shows text part) :=
  decidable_of_iff _ occursIn_iff_shows

lemma shows_refl (text : String) : Shows text text := by
  refine ⟨"", "", ?_⟩
  rw [String.empty_append, String.append_empty]

lemma Shows.trans (h : Shows text middle) (hpart : Shows middle part) : Shows text part :=
  shows_iff.mpr ((shows_iff.mp hpart).trans (shows_iff.mp h))

lemma Shows.append_left (h : Shows text part) (back : String) : Shows (text ++ back) part := by
  obtain ⟨front, rest, rfl⟩ := h
  exact ⟨front, rest ++ back, String.append_assoc⟩

lemma Shows.append_right (h : Shows text part) (front : String) : Shows (front ++ text) part := by
  obtain ⟨more, rest, rfl⟩ := h
  exact ⟨front ++ more, rest, by simp only [String.append_assoc]⟩

lemma appendCause_of_shows (h : Shows text cause) : appendCause text cause = text :=
  if_pos (occursIn_iff_shows.mpr h)

lemma appendCause_of_not_shows (h : ¬ Shows text cause) :
    appendCause text cause = text ++ (": " ++ cause) := by
  rw [appendCause, if_neg (mt occursIn_iff_shows.mp h), String.append_assoc]

lemma begins_appendCause (text cause : String) : ∃ rest, appendCause text cause = text ++ rest := by
  by_cases h : Shows text cause
  · exact ⟨"", by rw [appendCause_of_shows h, String.append_empty]⟩
  · exact ⟨_, appendCause_of_not_shows h⟩

lemma shows_appendCause (text cause : String) : Shows (appendCause text cause) cause := by
  by_cases h : Shows text cause
  · rwa [appendCause_of_shows h]
  · rw [appendCause_of_not_shows h]
    exact ((shows_refl cause).append_right _).append_right _

lemma renderChain_cons (top cause : String) (causes : List String) :
    renderChain top (cause :: causes) = renderChain (appendCause top cause) causes :=
  List.foldl_cons

lemma renderChain_append (top : String) (front back : List String) :
    renderChain top (front ++ back) = renderChain (renderChain top front) back :=
  List.foldl_append

lemma renderChain_concat (top : String) (causes : List String) (cause : String) :
    renderChain top (causes ++ [cause]) = appendCause (renderChain top causes) cause :=
  renderChain_append top causes [cause]

lemma begins_renderChain (top : String) (causes : List String) :
    ∃ rest, renderChain top causes = top ++ rest := by
  induction causes using List.reverseRecOn with
  | nil => exact ⟨"", String.append_empty.symm⟩
  | append_singleton causes cause ih =>
    obtain ⟨rest, hrest⟩ := ih
    obtain ⟨more, hmore⟩ := begins_appendCause (renderChain top causes) cause
    refine ⟨rest ++ more, ?_⟩
    rw [renderChain_concat, hmore, hrest, String.append_assoc]

lemma shows_of_front (h : Shows (renderChain top causes) part) (more : List String) :
    Shows (renderChain top (causes ++ more)) part := by
  obtain ⟨rest, hrest⟩ := begins_renderChain (renderChain top causes) more
  rw [renderChain_append, hrest]
  exact h.append_left rest

lemma shows_renderChain (h : part ∈ top :: causes) : Shows (renderChain top causes) part := by
  rcases List.mem_cons.mp h with rfl | hcause
  · have hfirst : Shows (renderChain part []) part := shows_refl part
    exact shows_of_front hfirst causes
  · obtain ⟨front, back, rfl⟩ := List.append_of_mem hcause
    rw [List.append_cons]
    apply shows_of_front
    rw [renderChain_concat]
    exact shows_appendCause _ part

lemma renderChain_of_shown (h : ∀ cause ∈ causes, Shows text cause) :
    renderChain text causes = text := by
  induction causes with
  | nil => rfl
  | cons cause causes ih =>
    obtain ⟨hfirst, hrest⟩ := List.forall_mem_cons.mp h
    rw [renderChain_cons, appendCause_of_shows hfirst, ih hrest]

/-- The causes that the text up to them does not show. -/
def news (top : String) (causes : List String) : List String :=
  (causes.zipIdx.filter fun (cause, i) =>
    ¬ Shows (renderChain top (causes.take i)) cause).map Prod.fst

lemma news_concat (top : String) (causes : List String) (cause : String) :
    news top (causes ++ [cause]) =
      news top causes ++ if Shows (renderChain top causes) cause then [] else [cause] := by
  rw [news, List.zipIdx_append, List.filter_append, List.map_append]
  congr 1
  · rw [news]
    congr 1
    apply List.filter_congr
    rintro ⟨earlier, i⟩ hearlier
    have hi : i < causes.length := (List.mem_zipIdx' hearlier).1
    dsimp only
    rw [List.take_append_of_le_length (Nat.le_of_lt hi)]
  · by_cases h : Shows (renderChain top causes) cause <;> simp [h]

lemma renderChain_eq (top : String) (causes : List String) :
    renderChain top causes = top ++ String.join ((news top causes).map (": " ++ ·)) := by
  -- Whether a cause is new rests on those in front of it, so the last one is taken off.
  induction causes using List.reverseRecOn with
  | nil => exact String.append_empty.symm
  | append_singleton causes cause ih =>
    rw [renderChain_concat, news_concat]
    by_cases h : Shows (renderChain top causes) cause
    · rw [appendCause_of_shows h, if_pos h, List.append_nil, ih]
    · calc appendCause (renderChain top causes) cause
        _ = renderChain top causes ++ (": " ++ cause) := appendCause_of_not_shows h
        _ = top ++ (String.join ((news top causes).map (": " ++ ·)) ++ (": " ++ cause)) := by
          rw [ih, String.append_assoc]
        _ = top ++ String.join ((news top causes ++ [cause]).map (": " ++ ·)) := by
          rw [List.map_append, String.join_append, List.map_singleton, String.join_cons,
            String.join_nil, String.append_empty]
        _ = _ := by rw [if_neg h]

lemma renderChain_said (front said : String) (causes : List String) :
    renderChain (front ++ said) (said :: causes) = renderChain (front ++ said) causes := by
  have hsaid : Shows (front ++ said) said := (shows_refl said).append_right front
  rw [renderChain_cons, appendCause_of_shows hsaid]

lemma detail_io (e : IoError) :
    (Fault.io e).detail = renderChain ("IO error: " ++ e.text) e.causes :=
  renderChain_said _ _ _

lemma detail_connect (address : String) (e : IoError) : (Fault.connect address e).detail =
    renderChain ("Failed to connect to upstream " ++ address ++ ": " ++ e.text) e.causes :=
  renderChain_said _ _ _

theorem said_once (top : String) (causes : List String) :
    (∃ rest, renderChain top causes = top ++ rest) ∧
    (∀ part ∈ top :: causes, Shows (renderChain top causes) part) ∧
    renderChain top causes = top ++ String.join ((news top causes).map (": " ++ ·)) ∧
    (∀ more, (∀ cause ∈ more, Shows (renderChain top causes) cause) →
      renderChain top (causes ++ more) = renderChain top causes) ∧
    ∀ front, front <+: causes → ∃ rest, renderChain top causes = renderChain top front ++ rest := by
  refine ⟨begins_renderChain top causes, fun part => shows_renderChain, renderChain_eq top causes,
    ?_, ?_⟩
  · intro more hmore
    rw [renderChain_append, renderChain_of_shown hmore]
  · rintro front ⟨back, rfl⟩
    rw [renderChain_append]
    exact begins_renderChain _ back

theorem said_once_straddling :
    renderChain "ab" ["c", "b: c", "", "bc"] = "ab: c: bc" ∧
    (∀ cause ∈ ["c: b", "ab"], Shows (renderChain "ab" ["c", "b: c", "", "bc"]) cause) ∧
    renderChain "ab" (["c", "b: c", "", "bc"] ++ ["c: b", "ab"]) = "ab: c: bc" := by
  have hnews : news "ab" ["c", "b: c", "", "bc"] = ["c", "bc"] := by decide
  have hmore : ∀ cause ∈ ["c: b", "ab"],
      Shows (renderChain "ab" ["c", "b: c", "", "bc"]) cause := by decide
  obtain ⟨-, -, htext, hsame, -⟩ := said_once "ab" ["c", "b: c", "", "bc"]
  rw [hnews] at htext
  exact ⟨htext, hmore, (hsame _ hmore).trans htext⟩

end TwoHop.Proofs.Fault.Rendering
