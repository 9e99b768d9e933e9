import TwoHop.Proofs.Header.Decimals
import TwoHop.Target

namespace TwoHop.Proofs.Destination.Addresses

open TwoHop.Text
open Header.Decimals Text.Trimming

structure Writable (host : String) : Prop where
  nonempty : host ≠ ""
  tight : Tight host.toList
  unopened : '[' ∉ host.toList
  unclosed : ']' ∉ host.toList

variable {cs front tail : List Char} {host : String} {port other : UInt16}

def digits (port : UInt16) : List Char := Nat.toDigits 10 port.toNat

lemma toString_port : toString port = .ofList (digits port) := Nat.toString_eq_ofList_toDigits

lemma spells_digits : Spells (digits port) port.toNat := spells_toDigits port.toNat

lemma not_mem_digits {c : Char} (h : c.isDigit = false) : c ∉ digits port := by
  intro hc
  rw [spells_digits.digits c hc] at h
  cases h

lemma tight_port : Tight (':' :: digits port) := by
  have hcolon : Tight [':'] := tight_of_not_blank (by decide)
  exact hcolon.append (tight_of_spells spells_digits)

lemma parsePort_digits :
    Target.parsePort (digits port) = if port = 0 then .error (.badPort "0") else .ok port := by
  have hread : decimal? 65535 (digits port) = some port.toNat := by
    rw [decimal?_of_spells spells_digits, if_pos (Nat.le_of_lt_succ port.toNat_lt)]
  rw [Target.parsePort, hread]
  split
  · next n hn =>
    have hport : port.toNat = n + 1 := Option.some.inj hn
    have hpos : port ≠ 0 := by
      rintro rfl
      exact absurd hport (by simp)
    rw [if_neg hpos, ← hport]
    exact congrArg Except.ok UInt16.ofNat_toNat
  · next hnone =>
    have hzero : port = 0 := by
      by_contra hne
      have hpos : port.toNat ≠ 0 := fun h => hne (UInt16.toNat_inj.mp h)
      exact hnone (port.toNat - 1) (by congr 1; omega)
    subst hzero
    rfl

lemma text_eq : Target.text ⟨host, port⟩ =
    if ':' ∈ host.toList then "[" ++ host ++ "]:" ++ toString port
    else host ++ ":" ++ toString port := by
  simp only [Target.text, List.contains_iff_mem]
  rfl

lemma parse_opened (h : Tight ('[' :: cs)) :
    Target.parse (.ofList ('[' :: cs)) other =
      Target.parseBracketed (.ofList ('[' :: cs)) cs other := by
  rw [Target.parse, String.toList_ofList, trimList_of_tight h]
  rfl

lemma parse_plain (h : Tight cs) (hne : cs ≠ []) (hopen : cs.head? ≠ some '[') :
    Target.parse (.ofList cs) other = match splitLast ':' cs with
      | none => .ok ⟨.ofList cs, other⟩
      | some (host, tail) =>
        if host.contains ':' then .ok ⟨.ofList cs, other⟩
        else if host.isEmpty then .error (.noHostIn (.ofList cs))
        else do return ⟨.ofList host, ← Target.parsePort tail⟩ := by
  rw [Target.parse, String.toList_ofList, trimList_of_tight h]
  cases cs with
  | nil => exact absurd rfl hne
  | cons c cs =>
    have hc : c ≠ '[' := fun hc => hopen (congrArg some hc)
    split
    · next he => cases he
    · next he => exact absurd (List.cons.inj he).1 hc
    · rfl

lemma parse_joined (h : Writable host) :
    Target.parse (host ++ ":" ++ toString port) other =
      if ':' ∈ host.toList then .ok ⟨host ++ ":" ++ toString port, other⟩
      else if port = 0 then .error (.badPort "0") else .ok ⟨host, port⟩ := by
  have htext : host ++ ":" ++ toString port = .ofList (host.toList ++ ':' :: digits port) :=
    String.toList_inj.mp (by simp [toString_port])
  have hopen : (host.toList ++ ':' :: digits port).head? ≠ some '[' := by
    intro hhead
    have hport : '[' ∉ digits port := not_mem_digits (by decide)
    exact absurd (List.mem_of_mem_head? hhead) (by simp [h.unopened, hport])
  rw [htext, parse_plain (h.tight.append tight_port) (by simp) hopen,
    splitLast_append (not_mem_digits (by decide))]
  simp only [List.contains_iff_mem, List.isEmpty_iff, String.toList_eq_nil_iff, h.nonempty, if_false,
    parsePort_digits, String.ofList_toList]
  split
  · rfl
  · split <;> rfl

lemma tight_bracketed (h : Writable host) (ht : Tight tail) :
    Tight ('[' :: (host.toList ++ ']' :: tail)) := by
  have hopen : Tight ['['] := tight_of_not_blank (by decide)
  have hclose : Tight [']'] := tight_of_not_blank (by decide)
  exact hopen.append (h.tight.append (hclose.append ht))

lemma parse_bracketed_port (h : Writable host) :
    Target.parse ("[" ++ host ++ "]:" ++ toString port) other =
      if port = 0 then .error (.badPort "0") else .ok ⟨host, port⟩ := by
  have htext : "[" ++ host ++ "]:" ++ toString port =
      .ofList ('[' :: (host.toList ++ ']' :: ':' :: digits port)) :=
    String.toList_inj.mp (by simp [toString_port])
  rw [htext, parse_opened (tight_bracketed h tight_port), Target.parseBracketed,
    splitFirst_append h.unclosed]
  simp only [parsePort_digits, String.ofList_toList]
  split <;> rfl

lemma parse_bracketed (h : Writable host) :
    Target.parse ("[" ++ host ++ "]") other = .ok ⟨host, other⟩ := by
  have htext : "[" ++ host ++ "]" = .ofList ('[' :: (host.toList ++ [']'])) :=
    String.toList_inj.mp (by simp)
  have htail : Tight [] := tight_of_not_blank rfl
  rw [htext, parse_opened (tight_bracketed h htail), Target.parseBracketed,
    splitFirst_append h.unclosed]
  simp only [String.ofList_toList]

lemma parse_alone (h : Writable host) :
    Target.parse host other = .ok ⟨host, other⟩ ↔ host.toList.count ':' ≠ 1 := by
  have hne : host.toList ≠ [] := mt String.toList_eq_nil_iff.mp h.nonempty
  have hopen : host.toList.head? ≠ some '[' := fun hhead => h.unopened (List.mem_of_mem_head? hhead)
  have hread : Target.parse (.ofList host.toList) other = _ := parse_plain h.tight hne hopen
  rw [String.ofList_toList] at hread
  by_cases hcolon : ':' ∈ host.toList
  · obtain ⟨front, tail, hsplit, htail, hlast⟩ := exists_splitLast hcolon
    have hcount : host.toList.count ':' = front.count ':' + 1 := by
      simp [hsplit, List.count_eq_zero.mpr htail]
    rw [hlast] at hread
    simp only [List.contains_iff_mem] at hread
    rw [hread, hcount, Ne, Nat.add_eq_right, List.count_eq_zero, not_not]
    constructor
    · intro hok
      by_contra hfront
      rw [if_neg hfront] at hok
      split at hok
      · cases hok
      · cases hport : Target.parsePort tail with
        | error e =>
          rw [hport] at hok
          cases hok
        | ok p =>
          rw [hport] at hok
          have hhost : String.ofList front = host := congrArg Target.host (Except.ok.inj hok)
          rw [← hhost, String.toList_ofList] at hsplit
          exact absurd (congrArg List.length hsplit) (by simp)
    · exact fun hfront => if_pos hfront
  · rw [splitLast_eq_none hcolon] at hread
    have hcount : host.toList.count ':' = 0 := List.count_eq_zero.mpr hcolon
    simp [hread, hcount]

/-- The address of a target reads back as the target, whatever the default port, unless the port is
0; the brackets stand exactly where the parts could not be told without them. A host alone reads back
in brackets, and without them unless it has just one colon. -/
theorem address_round_trip (h : Writable host) (other : UInt16) :
    (∀ port : UInt16,
      Target.parse (Target.text ⟨host, port⟩) other = .ok ⟨host, port⟩ ↔ port ≠ 0) ∧
    (∀ port : UInt16, port ≠ 0 →
      (Target.parse (host ++ ":" ++ toString port) other = .ok ⟨host, port⟩ ↔
        ':' ∉ host.toList)) ∧
    Target.parse ("[" ++ host ++ "]") other = .ok ⟨host, other⟩ ∧
    (Target.parse host other = .ok ⟨host, other⟩ ↔ host.toList.count ':' ≠ 1) := by
  have hlonger : ∀ port : UInt16, host ++ ":" ++ toString port ≠ host := by
    intro port hsame
    exact absurd (congrArg (List.length ∘ String.toList) hsame) (by simp)
  refine ⟨fun port => ?_, fun port hport => ?_, parse_bracketed h, parse_alone h⟩
  · rw [text_eq]
    by_cases hcolon : ':' ∈ host.toList
    · rw [if_pos hcolon, parse_bracketed_port h]
      split <;> simp_all
    · rw [if_neg hcolon, parse_joined h, if_neg hcolon]
      split <;> simp_all
  · rw [parse_joined h, if_neg hport]
    split
    · next hcolon => simp [hcolon, hlonger]
    · next hcolon => simp [hcolon]

theorem address_round_trip_v6 : Writable "::1" ∧
    Target.text ⟨"::1", 8080⟩ = "[::1]:8080" ∧
    Target.parse (Target.text ⟨"::1", 8080⟩) 443 = .ok ⟨"::1", 8080⟩ ∧
    Target.parse ("::1" ++ ":" ++ toString (8080 : UInt16)) 443 ≠ .ok ⟨"::1", 8080⟩ ∧
    Target.parse ("[" ++ "::1" ++ "]") 443 = .ok ⟨"::1", 443⟩ ∧
    Target.parse "::1" 443 = .ok ⟨"::1", 443⟩ := by
  have hwritable : Writable "::1" :=
    ⟨by decide, tight_of_not_blank (by decide), by decide, by decide⟩
  obtain ⟨hread, hbare, hclosed, halone⟩ := address_round_trip hwritable 443
  refine ⟨hwritable, by cbv, (hread 8080).mpr (by decide), ?_, hclosed, halone.mpr (by decide)⟩
  exact fun hok => (hbare 8080 (by decide)).mp hok (by decide)

end TwoHop.Proofs.Destination.Addresses
