import TwoHop.Proofs.Text.Cutting
import TwoHop.Proofs.Text.Letters
import TwoHop.Proofs.Wire.Decoders
import TwoHop.Uri

/-! How absolute URIs are read: scheme, authority and rest, each from a piece of the text of its
own. -/

namespace TwoHop.Proofs.Destination.Absolute

open TwoHop.Uri
open Text.Cutting Text.Letters Wire.Decoders

variable {c : Char} {cs front tail acc path query fragment name : List Char}
  {s t : AuthoritySeen} {r scheme text : String} {v : Uri}

def delimits (c : Char) : Bool := c == '/' || c == '?' || c == '#'

def Ends (cs : List Char) : Prop := ∀ c ∈ cs.head?, delimits c = true

def IsAuthority (cs : List Char) : Prop := splitAuthority {} [] cs = .ok (cs, [])

def advance (s : AuthoritySeen) (c : Char) : Except UriFault AuthoritySeen :=
  let kept := { s with atLast := false }
  match c with
  | ':' => if s.colons ≥ 8 then .error .invalidAuthority else .ok { kept with colons := s.colons + 1 }
  | '[' => if s.percent || s.opened then .error .invalidAuthority else .ok { kept with opened := true }
  | ']' =>
    if !s.opened || s.closed then .error .invalidAuthority
    else .ok { kept with closed := true, colons := 0, percent := false }
  | '@' => .ok { s with colons := 0, percent := false, atLast := true }
  | '%' => .ok { kept with percent := true }
  | c => if isUriChar c then .ok kept else .error .invalidChar

lemma splitAuthority_cons (h : delimits c = false) :
    splitAuthority s acc (c :: cs) =
      (advance s c).bind fun t => splitAuthority t (c :: acc) cs := by
  rw [splitAuthority.eq_def]
  dsimp only
  split
  · cases h
  · cases h
  · cases h
  · rw [advance]
    split <;> rfl
  · rw [advance]
    split <;> rfl
  · rw [advance]
    split <;> rfl
  · rfl
  · rfl
  · rw [advance] <;> try assumption
    split <;> rfl

lemma splitAuthority_of_ends (h : Ends tail) :
    splitAuthority s acc tail = s.finish.bind fun _ => .ok (acc.reverse, tail) := by
  cases tail with
  | nil => rfl
  | cons c cs =>
    have hc : (c = '/' ∨ c = '?') ∨ c = '#' := by simpa [delimits] using h c rfl
    rcases hc with (rfl | rfl) | rfl <;> rfl

lemma splitAuthority_append (hfront : ∀ c ∈ front, delimits c = false) (htail : Ends tail) :
    splitAuthority s acc (front ++ tail) = (front.foldlM advance s).bind fun t =>
      t.finish.bind fun _ => .ok (acc.reverse ++ front, tail) := by
  induction front generalizing s acc with
  | nil =>
    rw [List.nil_append, splitAuthority_of_ends htail, List.append_nil]
    rfl
  | cons c cs ih =>
    obtain ⟨hc, hcs⟩ := List.forall_mem_cons.mp hfront
    rw [List.cons_append, splitAuthority_cons hc, List.foldlM_cons]
    cases advance s c with
    | error e => rfl
    | ok t =>
      show splitAuthority t (c :: acc) (cs ++ tail) = _
      rw [ih hcs, List.reverse_cons, List.append_assoc, List.singleton_append]
      rfl

lemma ends_nil : Ends [] := by simp [Ends]

lemma splitAuthority_append_eq_ok_iff (hfront : ∀ c ∈ front, delimits c = false) (htail : Ends tail)
    {pieces : List Char × List Char} :
    splitAuthority {} [] (front ++ tail) = .ok pieces ↔ pieces = (front, tail) ∧
      ∃ t, front.foldlM advance {} = .ok t ∧ t.finish = .ok () := by
  rw [splitAuthority_append hfront htail]
  cases front.foldlM advance {} with
  | error e => simp [Except.bind]
  | ok t =>
    cases hfinish : t.finish with
    | error e => simp [Except.bind, hfinish]
    | ok _ => simp [Except.bind, hfinish, eq_comm]

lemma isAuthority_iff_seen (hfront : ∀ c ∈ front, delimits c = false) :
    IsAuthority front ↔ ∃ t, front.foldlM advance {} = .ok t ∧ t.finish = .ok () := by
  have hread : splitAuthority {} [] (front ++ []) = .ok (front, []) ↔ _ :=
    splitAuthority_append_eq_ok_iff hfront ends_nil
  rwa [List.append_nil, and_iff_right rfl] at hread

lemma splitAuthority_eq_ok_iff : splitAuthority {} [] cs = .ok (front, tail) ↔
    cs = front ++ tail ∧ (∀ c ∈ front, delimits c = false) ∧ Ends tail ∧ IsAuthority front := by
  constructor
  · intro h
    obtain ⟨front', tail', rfl, hfront, htail⟩ := exists_cut (!delimits ·) cs
    replace hfront : ∀ c ∈ front', delimits c = false := by simpa using hfront
    replace htail : Ends tail' := by
      intro c hc
      simpa using htail c hc
    obtain ⟨heq, hread⟩ := (splitAuthority_append_eq_ok_iff hfront htail).mp h
    cases heq
    exact ⟨rfl, hfront, htail, (isAuthority_iff_seen hfront).mpr hread⟩
  · rintro ⟨rfl, hfront, htail, hread⟩
    exact (splitAuthority_append_eq_ok_iff hfront htail).mpr
      ⟨rfl, (isAuthority_iff_seen hfront).mp hread⟩

lemma IsAuthority.undelimited (h : IsAuthority front) : ∀ c ∈ front, delimits c = false :=
  (splitAuthority_eq_ok_iff.mp h).2.1

def plain (c : Char) : Bool := c != '[' && c != ']' && c != '@' && c != '%'

lemma advance_of_plain (hc : plain c = true) (hlast : s.atLast = false)
    (hcolons : s.colons ≤ 8) :
    advance s c = .ok t ↔ isUriChar c = true ∧ s.colons + [c].count ':' ≤ 8 ∧
      t = { s with colons := s.colons + [c].count ':' } := by
  obtain ⟨colons, opened, closed, percent, atLast⟩ := s
  cases hlast
  by_cases hcolon : c = ':'
  · subst hcolon
    have huri : isUriChar ':' = true := by decide
    rw [advance, List.count_singleton_self, and_iff_right huri]
    dsimp only
    split
    · next hfull => exact iff_of_false (by rintro ⟨⟩) fun h => by have := h.1; omega
    · next hroom =>
      rw [and_iff_right (by omega), Except.ok.injEq, eq_comm]
  · have hcount : [c].count ':' = 0 := by simp [hcolon]
    have hstep : advance ⟨colons, opened, closed, percent, false⟩ c =
        if isUriChar c then .ok ⟨colons, opened, closed, percent, false⟩ else .error .invalidChar := by
      simp only [plain, Bool.and_eq_true, bne_iff_ne] at hc
      obtain ⟨⟨⟨hopen, hclose⟩, hat⟩, hpercent⟩ := hc
      rw [advance]
      exacts [hcolon, hopen, hclose, hat, hpercent]
    rw [hstep, hcount]
    split
    · next huri => simp [huri, hcolons, eq_comm]
    · next huri => simp [huri]

lemma foldlM_advance_of_plain (hplain : cs.all plain = true) (hlast : s.atLast = false)
    (hcolons : s.colons ≤ 8) :
    cs.foldlM advance s = .ok t ↔ cs.all isUriChar = true ∧ s.colons + cs.count ':' ≤ 8 ∧
      t = { s with colons := s.colons + cs.count ':' } := by
  induction cs generalizing s with
  | nil =>
    constructor
    · rintro ⟨⟩
      exact ⟨rfl, hcolons, rfl⟩
    · rintro ⟨-, -, rfl⟩
      rfl
  | cons c cs ih =>
    rw [List.all_cons, Bool.and_eq_true] at hplain
    obtain ⟨hc, hcs⟩ := hplain
    have hcount : (c :: cs).count ':' = [c].count ':' + cs.count ':' := by
      rw [← List.count_append, List.singleton_append]
    have hnext := ih (s := { s with colons := s.colons + [c].count ':' }) hcs hlast
    rw [List.foldlM_cons, List.all_cons, Bool.and_eq_true, hcount, ← Nat.add_assoc]
    constructor
    · intro h
      obtain ⟨u, hu, ht⟩ := bind_eq_ok_iff.mp h
      obtain ⟨huri, hroom, rfl⟩ := (advance_of_plain hc hlast hcolons).mp hu
      obtain ⟨hall, hsize, rfl⟩ := (hnext hroom).mp ht
      exact ⟨⟨huri, hall⟩, hsize, rfl⟩
    · rintro ⟨⟨huri, hall⟩, hsize, rfl⟩
      have hroom : s.colons + [c].count ':' ≤ 8 := by omega
      exact bind_eq_ok_iff.mpr ⟨_, (advance_of_plain hc hlast hcolons).mpr ⟨huri, hroom, rfl⟩,
        (hnext hroom).mpr ⟨hall, hsize, rfl⟩⟩

lemma isAuthority_iff_of_plain (hplain : cs.all plain = true) :
    IsAuthority cs ↔ cs.all (!delimits ·) = true ∧ cs.all isUriChar = true ∧ cs.count ':' ≤ 1 := by
  have hfold {t : AuthoritySeen} := foldlM_advance_of_plain (s := {}) (t := t) hplain rfl (Nat.zero_le 8)
  have hfinish : AuthoritySeen.finish { colons := 0 + cs.count ':' } = .ok () ↔ cs.count ':' ≤ 1 := by
    simp [AuthoritySeen.finish]
  constructor
  · intro h
    obtain ⟨t, ht, hend⟩ := (isAuthority_iff_seen h.undelimited).mp h
    obtain ⟨huri, -, rfl⟩ := hfold.mp ht
    exact ⟨by simpa using h.undelimited, huri, hfinish.mp hend⟩
  · rintro ⟨hdelimits, huri, hcolons⟩
    refine (isAuthority_iff_seen (by simpa using hdelimits)).mpr
      ⟨_, hfold.mpr ⟨huri, ?_, rfl⟩, hfinish.mpr hcolons⟩
    rw [Nat.zero_add]
    omega

structure Divides (cs path query fragment : List Char) : Prop where
  eq : cs = path ++ (query ++ fragment)
  path : ∀ c ∈ path, (c != '?' && c != '#') = true
  marked : ∀ c ∈ query.head?, c = '?'
  query : ∀ c ∈ query, (c != '#') = true
  fragment : ∀ c ∈ fragment.head?, (c != '#') = false

lemma exists_divides (cs : List Char) : ∃ path query fragment, Divides cs path query fragment := by
  obtain ⟨path, tail, rfl, hpath, htail⟩ := exists_cut (fun c => c != '?' && c != '#') cs
  obtain ⟨query, fragment, rfl, hquery, hfragment⟩ := exists_cut (· != '#') tail
  refine ⟨path, query, fragment, rfl, hpath, fun c hc => ?_, hquery, hfragment⟩
  have hstop := htail c (by rw [List.head?_append, Option.mem_def.mp hc]; rfl)
  have hplain := hquery c (List.mem_of_mem_head? hc)
  by_contra hc
  simp_all

lemma Divides.read (h : Divides cs path query fragment) : Divides (path ++ query) path query [] :=
  ⟨by rw [List.append_nil], h.path, h.marked, h.query, by simp⟩

lemma Divides.slash (h : Divides cs path query fragment) :
    Divides ('/' :: cs) ('/' :: path) query fragment :=
  ⟨by rw [h.eq, List.cons_append], List.forall_mem_cons.mpr ⟨by decide, h.path⟩, h.marked, h.query,
    h.fragment⟩

lemma Divides.stops (h : Divides cs path query fragment) :
    ∀ c ∈ (query ++ fragment).head?, (c != '?' && c != '#') = false := by
  intro c hc
  rcases Option.or_eq_some_iff.mp (by rwa [List.head?_append] at hc) with hc | ⟨-, hc⟩
  · simp [h.marked c hc]
  · simp [h.fragment c hc]

lemma readRest_of_divides (h : Divides cs path query fragment) :
    readRest cs = if path.all isPathChar && (query.drop 1).all isQueryChar then
      .ok (.ofList (path ++ query)) else .error .invalidChar := by
  have hpath : cs.takeWhile (fun c => c != '?' && c != '#') = path := by
    rw [h.eq, takeWhile_append_eq h.path h.stops]
  have hquery : (query ++ fragment).takeWhile (· != '#') = query :=
    takeWhile_append_eq h.query h.fragment
  rw [readRest]
  simp only [hpath]
  rw [h.eq, List.drop_left, hquery]

lemma isPrefix_of_readRest (h : readRest cs = .ok r) : r.toList <+: cs := by
  obtain ⟨path, query, fragment, hdivides⟩ := exists_divides cs
  rw [readRest_of_divides hdivides] at h
  split at h
  · cases h
    exact ⟨fragment, by rw [String.toList_ofList, List.append_assoc, hdivides.eq]⟩
  · cases h

lemma hash_not_mem_of_readRest (h : readRest cs = .ok r) : '#' ∉ r.toList := by
  obtain ⟨path, query, fragment, hdivides⟩ := exists_divides cs
  rw [readRest_of_divides hdivides] at h
  split at h
  · cases h
    intro hc
    rcases List.mem_append.mp (by rwa [String.toList_ofList] at hc) with hc | hc
    · exact absurd (hdivides.path _ hc) (by decide)
    · exact absurd (hdivides.query _ hc) (by decide)
  · cases h

lemma readRest_toList (h : readRest cs = .ok r) : readRest r.toList = .ok r := by
  obtain ⟨path, query, fragment, hdivides⟩ := exists_divides cs
  rw [readRest_of_divides hdivides] at h
  split at h
  · next hchars =>
    cases h
    rw [String.toList_ofList, readRest_of_divides hdivides.read, if_pos hchars]
  · cases h

lemma readRest_slash : readRest ('/' :: cs) = (readRest cs).bind fun r => .ok ("/" ++ r) := by
  obtain ⟨path, query, fragment, hdivides⟩ := exists_divides cs
  rw [readRest_of_divides hdivides.slash, readRest_of_divides hdivides, List.all_cons,
    show isPathChar '/' = true by decide, Bool.true_and]
  split
  · rw [List.cons_append, String.ofList_cons]
    rfl
  · rfl

lemma ends_of_isPrefix (h : front <+: cs) (hcs : Ends cs) : Ends front := by
  obtain ⟨tail, rfl⟩ := h
  intro c hc
  exact hcs c (by rw [List.head?_append, Option.mem_def.mp hc]; rfl)

lemma splitScheme_append (h : ∀ c ∈ name, isSchemeChar c = true) :
    splitScheme (name ++ ':' :: '/' :: '/' :: tail) =
      if Text.sameIgnoringCase (.ofList name) "http" then .ok (some ("http", tail))
      else if Text.sameIgnoringCase (.ofList name) "https" then .ok (some ("https", tail))
      else if name.isEmpty && tail.isEmpty then .ok none
      else if name.length > maxSchemeLength then .error .schemeTooLong
      else .ok (some (.ofList name, tail)) := by
  have hname : (name ++ ':' :: '/' :: '/' :: tail).takeWhile isSchemeChar = name :=
    takeWhile_append_eq h fun c hc => by cases hc; decide
  rw [splitScheme, hname, List.drop_left]
  rfl

lemma splitScheme_http :
    splitScheme ("http".toList ++ ':' :: '/' :: '/' :: tail) = .ok (some ("http", tail)) := by
  rw [splitScheme_append (List.all_eq_true.mp (by decide)), if_pos (by decide +kernel)]

lemma splitScheme_https :
    splitScheme ("https".toList ++ ':' :: '/' :: '/' :: tail) = .ok (some ("https", tail)) := by
  rw [splitScheme_append (List.all_eq_true.mp (by decide)), if_neg (by decide +kernel),
    if_pos (by decide +kernel)]

lemma exists_of_splitScheme {pieces : String × List Char} (h : splitScheme cs = .ok (some pieces)) :
    ∃ name tail, cs = name ++ ':' :: '/' :: '/' :: tail ∧ ∀ c ∈ name, isSchemeChar c = true := by
  obtain ⟨name, rest, rfl, hname, hrest⟩ := exists_cut isSchemeChar cs
  have hcut : (name ++ rest).takeWhile isSchemeChar = name := takeWhile_append_eq hname hrest
  rw [splitScheme, hcut, List.drop_left] at h
  dsimp only at h
  split at h
  · next tail => exact ⟨name, tail, rfl, hname⟩
  · cases h

lemma size_of_sameIgnoringCase {s t : String} (h : Text.sameIgnoringCase s t = true) :
    s.utf8ByteSize = t.utf8ByteSize := by
  have hlower : Text.lower s = Text.lower t := by simpa [Text.sameIgnoringCase] using h
  have hs : (Text.lower s).utf8ByteSize = s.utf8ByteSize := size_lower s
  have ht : (Text.lower t).utf8ByteSize = t.utf8ByteSize := size_lower t
  rw [← hs, hlower, ht]

lemma splitScheme_cases (h : splitScheme cs = .ok (some (scheme, tail))) :
    ∃ name, cs = name ++ ':' :: '/' :: '/' :: tail ∧
      (String.ofList name).utf8ByteSize = scheme.utf8ByteSize ∧
      ∀ front ≠ [], splitScheme (scheme.toList ++ ':' :: '/' :: '/' :: front) =
        .ok (some (scheme, front)) := by
  obtain ⟨name, after, rfl, hname⟩ := exists_of_splitScheme h
  rw [splitScheme_append hname] at h
  split at h
  · next hsame =>
    cases h
    exact ⟨name, rfl, size_of_sameIgnoringCase hsame, fun front _ => splitScheme_http⟩
  · next hhttp =>
    split at h
    · next hsame =>
      cases h
      exact ⟨name, rfl, size_of_sameIgnoringCase hsame, fun front _ => splitScheme_https⟩
    · next hhttps =>
      split at h
      · cases h
      · split at h
        · cases h
        · next hlength =>
          cases h
          refine ⟨name, rfl, rfl, fun front hne => ?_⟩
          rw [String.toList_ofList, splitScheme_append hname, if_neg hhttp, if_neg hhttps,
            if_neg (by simp [hne]), if_neg hlength]

lemma parse_of_scheme (h : splitScheme text.toList = .ok (some (scheme, tail))) :
    Uri.parse text = if text.utf8ByteSize > maxSize then .error .tooLong else
      (splitAuthority {} [] tail).bind fun (authority, left) =>
        if authority.isEmpty then .error .invalidFormat
        else (readRest left).bind fun rest => .ok ⟨some scheme, some (.ofList authority), rest⟩ := by
  rw [Uri.parse]
  split
  · rfl
  · split
    · next he => rw [he] at h; cases h
    · next he => rw [he] at h; cases h
    · next he => rw [he] at h; cases h
    · rw [h]
      rfl

lemma parse_eq_ok_iff (h : splitScheme text.toList = .ok (some (scheme, tail))) :
    Uri.parse text = .ok v ↔ text.utf8ByteSize ≤ maxSize ∧ ∃ authority left rest,
      tail = authority ++ left ∧ Ends left ∧ IsAuthority authority ∧ authority ≠ [] ∧
      readRest left = .ok rest ∧ v = ⟨some scheme, some (.ofList authority), rest⟩ := by
  rw [parse_of_scheme h]
  split
  · next hsize => simp [Nat.not_le.mpr hsize]
  · next hsize =>
    rw [and_iff_right (Nat.not_lt.mp hsize), bind_eq_ok_iff]
    constructor
    · rintro ⟨⟨authority, left⟩, hsplit, hv⟩
      obtain ⟨htail, -, hends, hauthority⟩ := splitAuthority_eq_ok_iff.mp hsplit
      dsimp only at hv
      split at hv
      · cases hv
      · next hne =>
        obtain ⟨rest, hrest, hv⟩ := bind_eq_ok_iff.mp hv
        cases hv
        exact ⟨authority, left, rest, htail, hends, hauthority, by simpa using hne, hrest, rfl⟩
    · rintro ⟨authority, left, rest, htail, hends, hauthority, hne, hrest, rfl⟩
      refine ⟨(authority, left),
        splitAuthority_eq_ok_iff.mpr ⟨htail, hauthority.undelimited, hends, hauthority⟩, ?_⟩
      dsimp only
      rw [if_neg (by simp [hne]), bind_eq_ok_iff]
      exact ⟨rest, hrest, rfl⟩

lemma parse_cases (h : Uri.parse text = .ok v) :
    (text = "*" ∧ v = ⟨none, none, "*"⟩) ∨
    (∃ cs rest, text.toList = '/' :: cs ∧ readRest ('/' :: cs) = .ok rest ∧
      v = ⟨none, none, rest⟩) ∨
    (∃ authority, v = ⟨none, some authority, ""⟩) ∨
    ∃ scheme tail, splitScheme text.toList = .ok (some (scheme, tail)) := by
  rw [Uri.parse] at h
  split at h
  · cases h
  · split at h
    · cases h
    · next he =>
      cases h
      exact .inl ⟨String.toList_inj.mp he, rfl⟩
    · next cs he =>
      obtain ⟨rest, hrest, hv⟩ := bind_eq_ok_iff.mp h
      cases hv
      exact .inr (.inl ⟨cs, rest, he, he ▸ hrest, rfl⟩)
    · obtain ⟨pieces, hpieces, hv⟩ := bind_eq_ok_iff.mp h
      cases pieces with
      | none =>
        obtain ⟨⟨authority, left⟩, -, hv⟩ := bind_eq_ok_iff.mp hv
        dsimp only at hv
        split at hv
        · split at hv <;> cases hv
        · cases hv
          exact .inr (.inr (.inl ⟨.ofList authority, rfl⟩))
      | some pieces => exact .inr (.inr (.inr ⟨pieces.1, pieces.2, hpieces⟩))

end TwoHop.Proofs.Destination.Absolute
