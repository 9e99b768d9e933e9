import TwoHop.Destination
import TwoHop.Proofs.Destination.Absolute

namespace TwoHop.Proofs.Destination.Rebuilt

open TwoHop.Uri
open Absolute Text.Cutting Wire.Decoders

variable {uri v : Uri} {target text host scheme rest : String} {headers : Header.Map}
  {cs left : List Char}

def pathOf (u : Uri) : String :=
  let path := u.rest.toList.takeWhile (· != '?')
  if path.isEmpty then "/" else .ofList path

def queryOf (u : Uri) : Option String :=
  (Text.splitFirst '?' u.rest.toList).map fun (_, query) => .ofList query

def PointsAt (text scheme authority : String) (target : Uri) : Prop :=
  ∃ v, Uri.parse text = .ok v ∧ v.scheme = some scheme ∧ v.authority = some authority ∧
    pathOf v = pathOf target ∧ queryOf v = queryOf target

def Names (headers : Header.Map) (host : String) : Prop :=
  host ≠ "" ∧ (headers.text? "host").map Text.trim = some host

lemma rest_of_relative (h : Uri.parse target = .ok uri) (hscheme : uri.scheme = none)
    (hauthority : uri.authority = none) :
    uri.rest ≠ "" ∧ readRest uri.rest.toList = .ok uri.rest ∧
      (Ends uri.rest.toList ↔ target ≠ "*") := by
  rcases parse_cases h with ⟨rfl, rfl⟩ | ⟨cs, rest, htext, hrest, rfl⟩ | ⟨a, rfl⟩ | ⟨s, tail, hsplit⟩
  · exact ⟨by decide, by decide, iff_of_false (fun hends => by cases hends '*' rfl) (by simp)⟩
  · obtain ⟨r, -, hr⟩ := bind_eq_ok_iff.mp (readRest_slash ▸ hrest)
    cases hr
    have hslash : ("/" ++ r).toList = '/' :: r.toList := by
      rw [String.toList_append]
      rfl
    refine ⟨by simp, readRest_toList hrest, iff_of_true ?_ ?_⟩
    · intro c hc
      rw [hslash] at hc
      cases hc
      rfl
    · rintro rfl
      cases htext
  · cases hauthority
  · obtain ⟨-, authority, left, rest, -, -, -, -, -, rfl⟩ := (parse_eq_ok_iff hsplit).mp h
    cases hscheme

lemma absoluteUri?_of_relative (hscheme : uri.scheme = none) (hauthority : uri.authority = none)
    (hrest : uri.rest ≠ "") :
    Destination.absoluteUri? uri headers = some text ↔
      ∃ host, Names headers host ∧ text = "http://" ++ host ++ uri.rest := by
  have htail : uri.pathAndQuery?.getD "/" = uri.rest := by
    rw [Uri.pathAndQuery?, hauthority, if_pos (by simp)]
    simp [hrest]
  rw [Destination.absoluteUri?, htail, hscheme, if_neg (by simp), Destination.hostText?]
  simp only [Option.bind_eq_bind, Option.bind_eq_some_iff]
  constructor
  · rintro ⟨value, hvalue, htext⟩
    split at htext
    · cases htext
    · next hhost =>
      cases htext
      exact ⟨Text.trim value, ⟨by simpa using hhost, by rw [hvalue]; rfl⟩, rfl⟩
  · rintro ⟨host, ⟨hhost, hnamed⟩, rfl⟩
    obtain ⟨value, hvalue, rfl⟩ := Option.map_eq_some_iff.mp hnamed
    exact ⟨value, hvalue, by rw [if_neg (by simpa using hhost)]; rfl⟩

lemma parse_rebuilt : Uri.parse ("http://" ++ host ++ rest) = .ok v ↔
    ("http://" ++ host ++ rest).utf8ByteSize ≤ maxSize ∧ ∃ authority left r,
      host.toList ++ rest.toList = authority ++ left ∧ Ends left ∧ IsAuthority authority ∧
      authority ≠ [] ∧ readRest left = .ok r ∧ v = ⟨some "http", some (.ofList authority), r⟩ := by
  apply parse_eq_ok_iff
  rw [String.append_assoc, String.toList_append, String.toList_append]
  exact splitScheme_http

lemma authority_rebuilt (h : Uri.parse ("http://" ++ host ++ rest) = .ok v) :
    v.scheme = some "http" ∧
      v.authority = some (.ofList ((host.toList ++ rest.toList).takeWhile (!delimits ·))) := by
  obtain ⟨-, authority, left, r, hcut, hends, hread, -, -, rfl⟩ := parse_rebuilt.mp h
  refine ⟨rfl, ?_⟩
  rw [hcut, takeWhile_append_eq]
  · simpa using hread.undelimited
  · intro c hc
    simpa using hends c hc

lemma pointsAt_rebuilt (hhost : host ≠ "") (hrest : readRest uri.rest.toList = .ok uri.rest) :
    PointsAt ("http://" ++ host ++ uri.rest) "http" host uri ↔
      Ends uri.rest.toList ∧ IsAuthority host.toList ∧
      ("http://" ++ host ++ uri.rest).utf8ByteSize ≤ maxSize := by
  constructor
  · rintro ⟨v, hv, -, hauthority, -, -⟩
    obtain ⟨hsize, authority, left, r, hcut, hends, hread, -, -, rfl⟩ := parse_rebuilt.mp hv
    obtain rfl : authority = host.toList := by
      rw [← Option.some.inj hauthority, String.toList_ofList]
    rw [List.append_cancel_left hcut]
    exact ⟨hends, hread, hsize⟩
  · rintro ⟨hends, hread, hsize⟩
    refine ⟨⟨some "http", some host, uri.rest⟩, parse_rebuilt.mpr ⟨hsize, host.toList,
      uri.rest.toList, uri.rest, rfl, hends, hread, ?_, hrest, ?_⟩, rfl, rfl, rfl, rfl⟩
    · exact mt String.toList_eq_nil_iff.mp hhost
    · rw [String.ofList_toList]

lemma pathText_cases (hscheme : uri.scheme = some scheme) (hends : Ends left)
    (hrest : readRest left = .ok uri.rest) :
    ((∃ cs, uri.rest.toList = '/' :: cs) ∧ uri.pathText = uri.rest) ∨
    ((uri.rest = "" ∨ ∃ cs, uri.rest.toList = '?' :: cs) ∧ uri.pathText = "/" ++ uri.rest) := by
  have hread := ends_of_isPrefix (isPrefix_of_readRest hrest) hends
  have hhash := hash_not_mem_of_readRest hrest
  cases hcs : uri.rest.toList with
  | nil =>
    have hempty : uri.rest = "" := String.toList_eq_nil_iff.mp hcs
    right
    rw [Uri.pathText, hempty, hscheme]
    exact ⟨.inl rfl, rfl⟩
  | cons c cs =>
    have hne : ¬uri.rest.isEmpty = true := by
      intro hempty
      rw [String.isEmpty_iff.mp hempty] at hcs
      cases hcs
    have hc : (c = '/' ∨ c = '?') ∨ c = '#' := by
      simpa [delimits] using hread c (by rw [hcs]; rfl)
    rcases hc with (rfl | rfl) | rfl
    · left
      refine ⟨⟨cs, rfl⟩, ?_⟩
      rw [Uri.pathText, if_neg hne, if_neg]
      rw [String.startsWith_string_iff, hcs]
      rintro ⟨after, hfront⟩
      cases hfront
    · right
      refine ⟨.inr ⟨cs, rfl⟩, ?_⟩
      rw [Uri.pathText, if_neg hne, if_pos]
      rw [String.startsWith_string_iff, hcs]
      exact ⟨cs, rfl⟩
    · rw [hcs] at hhash
      exact absurd List.mem_cons_self hhash

lemma pieces_pathText (hscheme : uri.scheme = some scheme) (hends : Ends left)
    (hrest : readRest left = .ok uri.rest) :
    readRest uri.pathText.toList = .ok uri.pathText ∧ Ends uri.pathText.toList ∧
      uri.pathText.utf8ByteSize ≤ uri.rest.utf8ByteSize + 1 := by
  rcases pathText_cases hscheme hends hrest with ⟨-, htext⟩ | ⟨-, htext⟩
  · rw [htext]
    exact ⟨readRest_toList hrest, ends_of_isPrefix (isPrefix_of_readRest hrest) hends, by omega⟩
  · have hslash : ("/" ++ uri.rest).toList = '/' :: uri.rest.toList := by
      rw [String.toList_append]
      rfl
    rw [htext, hslash, readRest_slash, readRest_toList hrest, String.utf8ByteSize_append]
    refine ⟨rfl, ?_, ?_⟩
    · intro c hc
      cases hc
      rfl
    · rw [Nat.add_comm]
      exact Nat.le_refl _

lemma parts_pathText (hscheme : uri.scheme = some scheme) (hends : Ends left)
    (hrest : readRest left = .ok uri.rest) (hv : v.rest = uri.pathText) :
    pathOf v = pathOf uri ∧ queryOf v = queryOf uri := by
  rcases pathText_cases hscheme hends hrest with ⟨-, htext⟩ | ⟨hpathless, htext⟩
  · rw [pathOf, pathOf, queryOf, queryOf, hv, htext]
    exact ⟨rfl, rfl⟩
  · have hslash : v.rest.toList = '/' :: uri.rest.toList := by
      rw [hv, htext, String.toList_append]
      rfl
    rw [pathOf, pathOf, queryOf, queryOf, hslash]
    rcases hpathless with hempty | ⟨cs, hmarked⟩
    · rw [hempty]
      exact ⟨rfl, rfl⟩
    · rw [hmarked]
      exact ⟨rfl, rfl⟩

lemma absolute_cases (h : Uri.parse target = .ok uri) (hscheme : uri.scheme = some scheme) :
    ∃ authority left, splitScheme target.toList = .ok (some (scheme, authority ++ left)) ∧
      Ends left ∧ IsAuthority authority ∧ authority ≠ [] ∧ readRest left = .ok uri.rest ∧
      uri.authority = some (.ofList authority) := by
  rcases parse_cases h with ⟨-, rfl⟩ | ⟨cs, rest, -, -, rfl⟩ | ⟨a, rfl⟩ | ⟨s, tail, hsplit⟩
  · cases hscheme
  · cases hscheme
  · cases hscheme
  · obtain ⟨-, authority, left, rest, rfl, hends, hread, hne, hrest, rfl⟩ :=
      (parse_eq_ok_iff hsplit).mp h
    cases hscheme
    exact ⟨authority, left, hsplit, hends, hread, hne, hrest, rfl⟩

lemma text_of_absolute (hscheme : uri.scheme = some scheme) {authority : String}
    (hauthority : uri.authority = some authority) :
    uri.text = scheme ++ "://" ++ authority ++ uri.pathText := by
  rw [Uri.text, hscheme, hauthority]
  rfl

lemma size_text_le (h : Uri.parse target = .ok uri) (hscheme : uri.scheme = some scheme) :
    uri.text.utf8ByteSize ≤ target.utf8ByteSize + 1 := by
  obtain ⟨authority, left, hsplit, hends, -, -, hrest, hauthority⟩ := absolute_cases h hscheme
  obtain ⟨name, htarget, hname, -⟩ := splitScheme_cases hsplit
  obtain ⟨fragment, hleft⟩ := isPrefix_of_readRest hrest
  obtain ⟨-, -, hpath⟩ := pieces_pathText hscheme hends hrest
  have hwhole : target = .ofList name ++ "://" ++ .ofList authority ++ uri.rest ++ .ofList fragment := by
    apply String.toList_inj.mp
    rw [htarget, ← hleft]
    simp
  rw [text_of_absolute hscheme hauthority, hwhole]
  simp only [String.utf8ByteSize_append, hname]
  omega

lemma pointsAt_text (h : Uri.parse target = .ok uri) (hscheme : uri.scheme = some scheme)
    {authority : String} (hauthority : uri.authority = some authority) :
    PointsAt uri.text scheme authority uri ↔ uri.text.utf8ByteSize ≤ maxSize := by
  obtain ⟨front, left, hsplit, hends, hread, hne, hrest, hfront⟩ := absolute_cases h hscheme
  obtain rfl : .ofList front = authority := Option.some.inj (hfront.symm.trans hauthority)
  obtain ⟨-, -, -, hagain⟩ := splitScheme_cases hsplit
  obtain ⟨hpath, hpathEnds, -⟩ := pieces_pathText hscheme hends hrest
  have htext : splitScheme uri.text.toList = .ok (some (scheme, front ++ uri.pathText.toList)) := by
    rw [text_of_absolute hscheme hauthority, ← hagain _ (by simp [hne])]
    simp
  constructor
  · rintro ⟨v, hv, -⟩
    exact ((parse_eq_ok_iff htext).mp hv).1
  · intro hsize
    refine ⟨⟨some scheme, some (.ofList front), uri.pathText⟩, (parse_eq_ok_iff htext).mpr ⟨hsize,
      front, uri.pathText.toList, uri.pathText, rfl, hpathEnds, hread, hne, hpath, rfl⟩, rfl, rfl,
      parts_pathText hscheme hends hrest rfl⟩

/-- A request whose target has no scheme and authority is forwarded if its headers name a host, and
then under the host followed by the target. That points to the host, for the target, exactly if the
target is not `*`, the host is an authority and the text is not too long; all that it reads as has
for authority what stands before the first delimiter, wherever that is. An absolute target is
forwarded as it reads, and points where it did unless the `/` of an empty path makes it too long. -/
theorem forwarded_uri (h : Uri.parse target = .ok uri) (headers : Header.Map) :
    (uri.scheme = none → uri.authority = none →
      (∀ text, Destination.absoluteUri? uri headers = some text ↔
        ∃ host, Names headers host ∧ text = "http://" ++ host ++ uri.rest) ∧
      ∀ host text, Names headers host → Destination.absoluteUri? uri headers = some text →
        (PointsAt text "http" host uri ↔
          target ≠ "*" ∧ IsAuthority host.toList ∧ text.utf8ByteSize ≤ maxSize) ∧
        ∀ v, Uri.parse text = .ok v → v.scheme = some "http" ∧ v.authority =
          some (.ofList ((host.toList ++ uri.rest.toList).takeWhile (!delimits ·)))) ∧
    ∀ scheme authority, uri.scheme = some scheme → uri.authority = some authority →
      Destination.absoluteUri? uri headers = some uri.text ∧
      (PointsAt uri.text scheme authority uri ↔ uri.text.utf8ByteSize ≤ maxSize) ∧
      uri.text.utf8ByteSize ≤ target.utf8ByteSize + 1 := by
  constructor
  · intro hscheme hauthority
    obtain ⟨hne, hrest, hends⟩ := rest_of_relative h hscheme hauthority
    have hmade {text : String} : Destination.absoluteUri? uri headers = some text ↔ _ :=
      absoluteUri?_of_relative hscheme hauthority hne
    refine ⟨fun text => hmade, fun host text hhost htext => ?_⟩
    obtain ⟨host', hhost', rfl⟩ := hmade.mp htext
    obtain rfl : host' = host := Option.some.inj (hhost'.2.symm.trans hhost.2)
    rw [pointsAt_rebuilt hhost.1 hrest, hends]
    exact ⟨Iff.rfl, fun v => authority_rebuilt⟩
  · intro scheme authority hscheme hauthority
    refine ⟨?_, pointsAt_text h hscheme hauthority, size_text_le h hscheme⟩
    rw [Destination.absoluteUri?, hscheme, hauthority]
    rfl

def hostOnly (value : String) : Header.Map := ⟨#[⟨"host", #[value.toUTF8]⟩]⟩

theorem forwarded_uri_named :
    Uri.parse "/a?b=c" = .ok ⟨none, none, "/a?b=c"⟩ ∧ Names (hostOnly " db:8080 ") "db:8080" ∧
    Destination.absoluteUri? ⟨none, none, "/a?b=c"⟩ (hostOnly " db:8080 ") =
      some "http://db:8080/a?b=c" ∧
    PointsAt "http://db:8080/a?b=c" "http" "db:8080" ⟨none, none, "/a?b=c"⟩ ∧
    Uri.parse "http://db?q#f" = .ok ⟨some "http", some "db", "?q"⟩ ∧
    Destination.absoluteUri? ⟨some "http", some "db", "?q"⟩ ⟨#[]⟩ = some "http://db/?q" ∧
    PointsAt "http://db/?q" "http" "db" ⟨some "http", some "db", "?q"⟩ := by
  have horigin : Uri.parse "/a?b=c" = .ok ⟨none, none, "/a?b=c"⟩ := by decide
  have habsolute : Uri.parse "http://db?q#f" = .ok ⟨some "http", some "db", "?q"⟩ := by
    decide +kernel
  have hnames : Names (hostOnly " db:8080 ") "db:8080" := ⟨by decide, by decide +kernel⟩
  have hhost : IsAuthority "db:8080".toList :=
    (isAuthority_iff_of_plain (by decide)).mpr ⟨by decide, by decide, by decide⟩
  obtain ⟨hmade, hpoints⟩ := (forwarded_uri horigin (hostOnly " db:8080 ")).1 rfl rfl
  have htext := (hmade "http://db:8080/a?b=c").mpr ⟨"db:8080", hnames, by decide⟩
  obtain ⟨hkept, hpoint, -⟩ := (forwarded_uri habsolute ⟨#[]⟩).2 "http" "db" rfl rfl
  have hslash : Uri.text ⟨some "http", some "db", "?q"⟩ = "http://db/?q" := by decide +kernel
  rw [hslash] at hkept hpoint
  exact ⟨horigin, hnames, htext,
    (hpoints "db:8080" _ hnames htext).1.mpr ⟨by decide, hhost, by decide⟩, habsolute, hkept,
    hpoint.mpr (by decide)⟩

/-- An asterisk ends up in the authority, a path in the host header in the path, and a host that would
be no target for a tunnel is forwarded. -/
theorem forwarded_uri_strays :
    Uri.parse "*" = .ok ⟨none, none, "*"⟩ ∧ Names (hostOnly "db") "db" ∧
    Destination.absoluteUri? ⟨none, none, "*"⟩ (hostOnly "db") = some "http://db*" ∧
    Uri.parse "http://db*" = .ok ⟨some "http", some "db*", ""⟩ ∧
    ¬PointsAt "http://db*" "http" "db" ⟨none, none, "*"⟩ ∧
    Uri.parse "/a" = .ok ⟨none, none, "/a"⟩ ∧ Names (hostOnly "db/x") "db/x" ∧
    Destination.absoluteUri? ⟨none, none, "/a"⟩ (hostOnly "db/x") = some "http://db/x/a" ∧
    Uri.parse "http://db/x/a" = .ok ⟨some "http", some "db", "/x/a"⟩ ∧
    ¬PointsAt "http://db/x/a" "http" "db/x" ⟨none, none, "/a"⟩ ∧
    Destination.absoluteUri? ⟨none, none, "/a"⟩ (hostOnly "[::1") = some "http://[::1/a" ∧
    Uri.parse "http://[::1/a" = .error .invalidAuthority ∧
    Destination.tunnelTarget? ⟨none, none, "/a"⟩ (hostOnly "[::1") = none := by
  have hasterisk : Uri.parse "http://db*" = .ok ⟨some "http", some "db*", ""⟩ := by decide +kernel
  have hpath : Uri.parse "http://db/x/a" = .ok ⟨some "http", some "db", "/x/a"⟩ := by decide +kernel
  refine ⟨by decide, ⟨by decide, by decide +kernel⟩, by decide +kernel, hasterisk, ?_,
    by decide, ⟨by decide, by decide +kernel⟩, by decide +kernel, hpath, ?_,
    by decide +kernel, by decide +kernel, by decide +kernel⟩
  · rintro ⟨v, hv, -, hauthority, -⟩
    cases hasterisk.symm.trans hv
    exact absurd hauthority (by decide)
  · rintro ⟨v, hv, -, hauthority, -⟩
    cases hpath.symm.trans hv
    exact absurd hauthority (by decide)

end TwoHop.Proofs.Destination.Rebuilt
