import TwoHop.Proofs.Destination.Addresses

namespace TwoHop.Proofs.Destination.Hosts

open TwoHop.Text
open Header.Decimals Text.Trimming Addresses

inductive Stands : List Char → Bool → List Char → Option (List Char) → Prop
  | bare {host : List Char} (unopened : host.head? ≠ some '[') (uncut : host.count ':' ≠ 1) :
    Stands host false host none
  | joined {host port : List Char} (unopened : host.head? ≠ some '[') (uncut : ':' ∉ host)
    (last : ':' ∉ port) : Stands (host ++ ':' :: port) false host (some port)
  | closed {host : List Char} (inside : ']' ∉ host) : Stands ('[' :: (host ++ [']'])) true host none
  | closedJoined {host port : List Char} (inside : ']' ∉ host) :
    Stands ('[' :: (host ++ ']' :: ':' :: port)) true host (some port)

def Given (default : UInt16) : Option (List Char) → UInt16 → Prop
  | none, port => port = default
  | some digits, port => port ≠ 0 ∧ decimal? 65535 digits = some port.toNat

variable {cs host port : List Char} {port? : Option (List Char)} {bracketed : Bool}
  {authority : String} {other p : UInt16} {t : Target}

lemma parsePort_eq_ok_iff : Target.parsePort port = .ok p ↔ Given other (some port) p := by
  simp only [Target.parsePort, Given]
  split
  · next n hn =>
    have hle : n + 1 ≤ 65535 := decimal?_le hn
    have hport : (n + 1).toUInt16.toNat = n + 1 :=
      UInt16.toNat_ofNat_of_lt' (by simp [UInt16.size]; omega)
    rw [hn, Except.ok.injEq, Option.some.injEq]
    constructor
    · rintro rfl
      exact ⟨fun hzero => by simp [hzero] at hport, hport.symm⟩
    · rintro ⟨-, hsame⟩
      exact UInt16.toNat_inj.mp (hport.trans hsame)
  · next hnone =>
    simp only [reduceCtorEq, false_iff, not_and]
    intro hp hread
    have hpos : p.toNat ≠ 0 := fun hzero => hp (UInt16.toNat_inj.mp hzero)
    exact hnone (p.toNat - 1) (by rw [hread]; congr 1; omega)

lemma joined_eq_ok_iff : (do return (⟨.ofList host, ← Target.parsePort port⟩ : Target)) = .ok t ↔
    t.host = .ofList host ∧ Given other (some port) t.port := by
  rw [← parsePort_eq_ok_iff]
  obtain ⟨name, p⟩ := t
  cases Target.parsePort port with
  | error e => simp
  | ok q => simp [eq_comm]

lemma alone_eq_ok_iff : (.ok ⟨.ofList host, other⟩ : Except TargetFault Target) = .ok t ↔
    t.host = .ofList host ∧ Given other none t.port := by
  obtain ⟨name, p⟩ := t
  simp [Given, eq_comm]

lemma parse_trimmed : Target.parse authority other =
    Target.parse (.ofList (trimList authority.toList)) other := by
  simp only [Target.parse, String.toList_ofList, trimList_of_tight (tight_trimList _)]

lemma parse_bare (h : Tight cs) (hne : cs ≠ []) (hopen : cs.head? ≠ some '[')
    (huncut : cs.count ':' ≠ 1) : Target.parse (.ofList cs) other = .ok ⟨.ofList cs, other⟩ := by
  rw [parse_plain h hne hopen]
  by_cases hcolon : ':' ∈ cs
  · obtain ⟨front, tail, hsplit, htail, hlast⟩ := exists_splitLast hcolon
    have hmany : ':' ∈ front := by
      by_contra hfront
      apply huncut
      simp [hsplit, List.count_eq_zero.mpr hfront, List.count_eq_zero.mpr htail]
    simp [hlast, hmany]
  · rw [splitLast_eq_none hcolon]

lemma parse_cut (h : Tight (host ++ ':' :: port)) (hopen : host.head? ≠ some '[')
    (huncut : ':' ∉ host) (hlast : ':' ∉ port) :
    Target.parse (.ofList (host ++ ':' :: port)) other =
      if host = [] then .error (.noHostIn (.ofList (host ++ ':' :: port)))
      else do return ⟨.ofList host, ← Target.parsePort port⟩ := by
  have hhead : (host ++ ':' :: port).head? ≠ some '[' := by
    cases host with
    | nil => simp
    | cons c host => exact hopen
  rw [parse_plain h (by simp) hhead, splitLast_append hlast]
  simp [huncut]

lemma parseBracketed_append (hinside : ']' ∉ host) :
    Target.parseBracketed authority (host ++ ']' :: cs) other = match cs with
      | [] => .ok ⟨.ofList host, other⟩
      | ':' :: port => do return ⟨.ofList host, ← Target.parsePort port⟩
      | _ => .error (.malformed authority) := by
  rw [Target.parseBracketed, splitFirst_append hinside]
  cases cs with
  | nil => rfl
  | cons c cs =>
    by_cases hc : c = ':'
    · subst hc
      rfl
    · split <;> simp_all

lemma parse_eq_ok_iff (h : Stands (trimList authority.toList) bracketed host port?) :
    Target.parse authority other = .ok t ↔
      t.host = .ofList host ∧ (bracketed = false → host ≠ []) ∧ Given other port? t.port := by
  have htight := tight_trimList authority.toList
  rw [parse_trimmed]
  generalize trimList authority.toList = cs at h htight
  cases h with
  | bare hopen huncut =>
    by_cases hne : host = []
    · subst hne
      simp [show Target.parse (.ofList []) other = .error .emptyHost from rfl]
    · rw [parse_bare htight hne hopen huncut, alone_eq_ok_iff]
      exact and_congr_right fun _ => (and_iff_right fun _ => hne).symm
  | joined hopen huncut hlast =>
    rw [parse_cut htight hopen huncut hlast]
    split
    · next hnone => simp [hnone]
    · next hne =>
      rw [joined_eq_ok_iff]
      exact and_congr_right fun _ => (and_iff_right fun _ => hne).symm
  | closed hinside =>
    rw [parse_opened htight, parseBracketed_append hinside]
    apply alone_eq_ok_iff.trans
    exact and_congr_right fun _ => (and_iff_right nofun).symm
  | closedJoined hinside =>
    rw [parse_opened htight, parseBracketed_append hinside]
    apply joined_eq_ok_iff.trans
    exact and_congr_right fun _ => (and_iff_right nofun).symm

lemma exists_stands (h : Target.parse authority other = .ok t) :
    ∃ bracketed host port?, Stands (trimList authority.toList) bracketed host port? := by
  have htight := tight_trimList authority.toList
  rw [parse_trimmed] at h
  generalize trimList authority.toList = cs at h htight
  by_cases hopen : cs.head? = some '['
  · obtain ⟨rest, rfl⟩ := List.head?_eq_some_iff.mp hopen
    rw [parse_opened htight] at h
    by_cases hclose : ']' ∈ rest
    · obtain ⟨host, tail, rfl, hinside⟩ := List.eq_append_cons_of_mem hclose
      rw [parseBracketed_append hinside] at h
      split at h
      · exact ⟨true, host, none, .closed hinside⟩
      · next port => exact ⟨true, host, some port, .closedJoined hinside⟩
      · cases h
    · rw [Target.parseBracketed, splitFirst_eq_none hclose] at h
      cases h
  · by_cases hcount : cs.count ':' = 1
    · have hcolon : ':' ∈ cs := List.count_pos_iff.mp (by omega)
      obtain ⟨host, port, rfl, hlast, -⟩ := exists_splitLast hcolon
      refine ⟨false, host, some port, .joined ?_ ?_ hlast⟩
      · cases host with
        | nil => simp
        | cons c host => exact hopen
      · rw [List.count_append, List.count_cons_self] at hcount
        exact List.count_eq_zero.mp (by omega)
    · exact ⟨false, cs, none, .bare hopen hcount⟩

lemma not_blank_of_bare (h : Stands cs false host port?) (htight : Tight cs) (hne : host ≠ []) :
    host.all isBlank = false := by
  obtain ⟨c, rest, rfl⟩ := List.exists_cons_of_ne_nil hne
  have hfirst : isBlank c = false := by
    apply htight.first c
    cases h <;> rfl
  rw [List.all_cons, hfirst, Bool.false_and]

lemma port_of_given (hother : other ≠ 0) (h : Given other port? p) : p ≠ 0 := by
  cases port? with
  | none =>
    rintro rfl
    exact hother h.symm
  | some digits => exact h.1

/-- A target has a port, and a host unless its authority has brackets around nothing. An authority that
begins otherwise has to name its host. Within brackets a host that is blank is taken as it stands,
whenever another host in its place would be. -/
theorem host_named (hother : other ≠ 0) (authority : String) :
    (∀ t, Target.parse authority other = .ok t → t.port ≠ 0 ∧
      ∃ bracketed port?, Stands (trimList authority.toList) bracketed t.host.toList port? ∧
        (bracketed = false → allBlank t.host = false)) ∧
    ∀ bracketed host port?, Stands (trimList authority.toList) bracketed host port? →
      host.all isBlank = true →
      (bracketed = false → ∃ e, Target.parse authority other = .error e) ∧
      (bracketed = true → ∀ t, Target.parse authority other = .ok t ↔
        t.host = .ofList host ∧ Given other port? t.port) := by
  refine ⟨fun t ht => ?_, fun bracketed host port? h hblank => ⟨?_, ?_⟩⟩
  · obtain ⟨bracketed, host, port?, h⟩ := exists_stands ht
    obtain ⟨hhost, hne, hport⟩ := (parse_eq_ok_iff h).mp ht
    have hlist : t.host.toList = host := by rw [hhost, String.toList_ofList]
    refine ⟨port_of_given hother hport, bracketed, port?, hlist ▸ h, ?_⟩
    rintro rfl
    rw [allBlank, hlist]
    exact not_blank_of_bare h (tight_trimList _) (hne rfl)
  · rintro rfl
    have hnone : host = [] := by
      by_contra hne
      have hnot := not_blank_of_bare h (tight_trimList _) hne
      rw [hblank] at hnot
      cases hnot
    cases hread : Target.parse authority other with
    | error e => exact ⟨e, rfl⟩
    | ok t => exact absurd hnone (((parse_eq_ok_iff h).mp hread).2.1 rfl)
  · rintro rfl t
    apply (parse_eq_ok_iff h).trans
    exact and_congr_right fun _ => and_iff_right nofun

theorem host_named_closed :
    Target.parse " [ ]:022" 443 = .ok ⟨" ", 22⟩ ∧ (22 : UInt16) ≠ 0 ∧
    ∃ e, Target.parse " :22" 443 = .error e := by
  have hother : (443 : UInt16) ≠ 0 := by decide
  obtain ⟨hnamed, hclosed⟩ := host_named hother " [ ]:022"
  obtain ⟨-, hjoined⟩ := host_named hother " :22"
  have hbrackets : Stands (trimList " [ ]:022".toList) true [' '] (some ['0', '2', '2']) :=
    @Stands.closedJoined [' '] ['0', '2', '2'] (by decide)
  have hcut : Stands (trimList " :22".toList) false [] (some ['2', '2']) :=
    @Stands.joined [] ['2', '2'] (by decide) (by decide) (by decide)
  have hread : Target.parse " [ ]:022" 443 = .ok ⟨" ", 22⟩ :=
    ((hclosed _ _ _ hbrackets (by decide)).2 rfl _).mpr ⟨rfl, by decide, by decide⟩
  exact ⟨hread, (hnamed _ hread).1, (hjoined _ _ _ hcut (by decide)).1 rfl⟩

theorem host_missing :
    Target.parse "[]" 443 = .ok ⟨"", 443⟩ ∧ Target.parse "[]:80" 443 = .ok ⟨"", 80⟩ ∧
    Target.parse "[ ]:80" 443 = .ok ⟨" ", 80⟩ ∧ allBlank "" = true ∧ allBlank " " = true ∧
    Target.parse ":80" 443 = .error (.noHostIn ":80") := by
  decide

end TwoHop.Proofs.Destination.Hosts
