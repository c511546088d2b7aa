import Mingfwq.Uri.Theorems

/-!
# The forms of a URI

Of which URIs of the grammar the getters give the components, and which of the forms that are accepted are read back
after they have been printed.
-/

namespace Mingfwq.Uri

open Lib

open Http (ascii atoi digitsValue)

variable {s u a x : Bytes} {uri : Uri} {parts : Parts}

/-! ## Digits behind a colon -/

/-- A digit directly behind the first colon. -/
def DigitBehindColon (u : Bytes) : Prop :=
  ∃ a d b, u = a ++ 58 :: d :: b ∧ 58 ∉ a ∧ CharClass.digit.has d = true

theorem kept_eq_self_iff : kept u = u ↔ ¬ DigitBehindColon u := by
  constructor
  · rintro hkept ⟨a, d, b, rfl, ha, hd⟩
    rw [kept_colon_cons ha, if_pos hd] at hkept
    have hlength := congrArg List.length hkept
    simp only [List.length_append, List.length_cons] at hlength
    omega
  · intro hno
    by_cases hmem : 58 ∈ u
    · obtain ⟨a, b, rfl, ha⟩ := List.eq_append_cons_of_mem hmem
      cases b with
      | nil => exact kept_colon ha
      | cons d b =>
          rw [kept_colon_cons ha, if_neg]
          exact fun hd => hno ⟨a, d, b, rfl, ha, hd⟩
    · exact kept_of_not_mem hmem

/-- A digit behind the first colon, and one behind the second. -/
def DigitBehindColons (u : Bytes) : Prop :=
  ∃ a d b, u = a ++ 58 :: d :: b ∧ 58 ∉ a ∧ CharClass.digit.has d = true ∧ DigitBehindColon (d :: b)

theorem kept_kept_iff : kept (kept u) = kept u ↔ ¬ DigitBehindColons u := by
  rw [kept_eq_self_iff]
  by_cases hdigit : DigitBehindColon u
  · obtain ⟨a, d, b, rfl, ha, hd⟩ := hdigit
    rw [kept_colon_cons ha, if_pos hd]
    refine not_congr ⟨fun hrest => ⟨a, d, b, rfl, ha, hd, hrest⟩, ?_⟩
    rintro ⟨a', d', b', heq, ha', -, hrest⟩
    have hfirst := congrArg (List.dropWhile (· ≠ 58)) heq
    rw [dropWhile_colon ha, dropWhile_colon ha'] at hfirst
    cases hfirst
    exact hrest
  · rw [kept_eq_self_iff.mpr hdigit]
    refine not_congr (iff_of_false hdigit ?_)
    rintro ⟨a, d, b, heq, ha, hd, -⟩
    exact hdigit ⟨a, d, b, heq, ha, hd⟩

/-! ## The getters -/

/-- The port of a scheme. -/
def defaultPort (scheme : Bytes) : Int :=
  if scheme = ascii "http" ∨ scheme = ascii "ws" then 80
  else if scheme = ascii "https" ∨ scheme = ascii "wss" then 443
  else 0

/-- The getters give the components. -/
structure Reads (parts : Parts) (uri : Uri) : Prop where
  scheme : uri.getScheme = parts.scheme
  userinfo : uri.getUserinfo = parts.userinfo.getD []
  host : uri.getHost = parts.host
  port : uri.getPort = parts.port.elim (defaultPort parts.scheme) fun d => digitsValue 10 d 0
  path : uri.getPath = if parts.path.isEmpty then ascii "/" else parts.path
  query : uri.getQuery = parts.query.getD []
  fragment : uri.getFragment = parts.fragment.getD []

theorem atoi_port {d : Bytes} (hd : IsPort d) (hmax : digitsValue 10 d 0 ≤ 65535) :
    atoi d = digitsValue 10 d 0 := by
  have hread : atoi (d ++ []) = toInt32 (min (2 ^ 63 - 1) (digitsValue 10 d 0 : Int)) :=
    Http.atoi_digits hd.1 hd.2 fun c hc => by simp at hc
  rw [List.append_nil] at hread
  rw [hread, toInt32, Int.min_eq_right (by omega), Int.bmod_eq_of_le] <;> omega

theorem getPort_uri (hvalid : parts.Valid IsHost)
    (hport : ∀ d ∈ parts.port, 1 ≤ digitsValue 10 d 0 ∧ digitsValue 10 d 0 ≤ 65535) :
    parts.uri.getPort = parts.port.elim (defaultPort parts.scheme) fun d => digitsValue 10 d 0 := by
  cases hp : parts.port with
  | none =>
      simp only [getPort, Parts.uri, hp, Option.elim_none, ne_eq, not_true_eq_false, if_false]
      rfl
  | some d =>
      obtain ⟨hmin, hmax⟩ := hport d hp
      have hself : parts.uri.m_port = digitsValue 10 d 0 := by
        simp only [Parts.uri, hp, Option.elim_some]
        exact atoi_port (hvalid.port d hp) hmax
      rw [getPort, hself, if_pos (by omega)]
      rfl

theorem reads_uri_iff (hvalid : parts.Valid IsHost)
    (hport : ∀ d ∈ parts.port, 1 ≤ digitsValue 10 d 0 ∧ digitsValue 10 d 0 ≤ 65535) :
    Reads parts parts.uri ↔ ∀ u ∈ parts.userinfo, ¬ DigitBehindColon u := by
  have huser : parts.uri.getUserinfo = parts.userinfo.getD [] ↔ ∀ u ∈ parts.userinfo, ¬ DigitBehindColon u := by
    rw [getUserinfo, Parts.uri]
    cases parts.userinfo with
    | none => simp
    | some u => simp [kept_eq_self_iff]
  rw [← huser]
  exact ⟨Reads.userinfo, fun hread => ⟨rfl, hread, rfl, getPort_uri hvalid hport, rfl, rfl, rfl⟩⟩

/-- A URI of the grammar with a port from 1 to 65535, or none, is read with exactly its components, exactly when no
digit stands directly behind the first colon of its userinfo. -/
theorem create_reads_iff (hvalid : parts.Valid (Coded reg_char))
    (hport : ∀ d ∈ parts.port, 1 ≤ digitsValue 10 d 0 ∧ digitsValue 10 d 0 ≤ 65535) :
    (∃ uri, Create parts.text = some (some uri) ∧ Reads parts uri) ↔ ∀ u ∈ parts.userinfo, ¬ DigitBehindColon u := by
  have hhost : parts.Valid IsHost := { hvalid with host := isHost_reg_name hvalid.host }
  rw [← reads_uri_iff hhost hport]
  constructor
  · rintro ⟨uri, hcreate, hreads⟩
    rw [Parts.create hhost] at hcreate
    cases hcreate
    exact hreads
  · intro hreads
    exact ⟨_, Parts.create hhost, hreads⟩

theorem create_reads_login : ∃ uri, Create (ascii "http://u:p@b:8080/c") = some (some uri) ∧
    Reads ⟨ascii "http", some (ascii "u:p"), ascii "b", some (ascii "8080"), ascii "/c", none, none⟩ uri := by
  have huser : Coded userinfo_char (ascii "u:p") := Coded.of_all (forall_mem_of_all (by decide))
  refine (create_reads_iff (reg_example huser) fun d hd => ?_).mpr fun u hu => ?_
  · obtain rfl := Option.some.inj hd
    decide
  · obtain rfl := Option.some.inj hu
    exact kept_eq_self_iff.mp (by decide)

/-- Of the userinfo a:1 only the 1 is left. -/
theorem not_create_reads : ¬ ∀ parts : Parts, parts.Valid (Coded reg_char) →
    (∀ d ∈ parts.port, 1 ≤ digitsValue 10 d 0 ∧ digitsValue 10 d 0 ≤ 65535) →
    ∃ uri, Create parts.text = some (some uri) ∧ Reads parts uri := by
  intro h
  have huser : Coded userinfo_char (ascii "a:1") := Coded.of_all (forall_mem_of_all (by decide))
  have hvalid := reg_example huser
  obtain ⟨uri, hcreate, hreads⟩ := h _ hvalid fun d hd => by
    obtain rfl := Option.some.inj hd
    decide
  rw [Parts.create { hvalid with host := isHost_reg_name hvalid.host }] at hcreate
  cases hcreate
  exact absurd hreads.userinfo (by decide)

/-! ## Printed and read again -/

/-- A scheme and an authority whose userinfo has not a digit behind its first colon and another behind its second, and
whose port is no overflown number below 0; or a scheme without an authority, and a path that is empty or a slash. -/
inductive ReadBack (s : Bytes) : Prop
  | authority {parts : Parts} : split s = some parts → (∀ u ∈ parts.userinfo, ¬ DigitBehindColons u) →
      (∀ d ∈ parts.port, 0 ≤ atoi d) → ReadBack s
  | path {scheme path : Bytes} {query fragment : Option Bytes} : IsScheme scheme →
      s = scheme ++ 58 :: (path ++ tail query fragment) → path = [] ∨ path = ascii "/" → ReadBack s

theorem slashes_behind {path : Bytes} {query fragment : Option Bytes} (h : path = [] ∨ path = ascii "/") :
    ¬ [47, 47] <+: path ++ tail query fragment := by
  rcases h with rfl | rfl <;> cases query <;> cases fragment <;> simp [tail, ascii]

theorem readBack_authority (hsplit : split s = some parts) :
    ReadBack s ↔ (∀ u ∈ parts.userinfo, ¬ DigitBehindColons u) ∧ ∀ d ∈ parts.port, 0 ≤ atoi d := by
  constructor
  · rintro (@⟨parts', hsplit', huser, hport⟩ | @⟨scheme, path, query, fragment, hscheme, rfl, hpath⟩)
    · cases hsplit.symm.trans hsplit'
      exact ⟨huser, hport⟩
    · cases hsplit.symm.trans (split_path hscheme (slashes_behind hpath))
  · rintro ⟨huser, hport⟩
    exact .authority hsplit huser hport

theorem readBack_path {scheme path : Bytes} {query fragment : Option Bytes} (hscheme : IsScheme scheme)
    (hpath : Coded path_char path) (hslashes : ¬ [47, 47] <+: path ++ tail query fragment) :
    ReadBack (scheme ++ 58 :: (path ++ tail query fragment)) ↔ path = [] ∨ path = ascii "/" := by
  refine ⟨?_, .path hscheme rfl⟩
  rintro (@⟨parts, hsplit, -, -⟩ | @⟨scheme', path', query', fragment', hscheme', htext, hpath'⟩)
  · cases hsplit.symm.trans (split_path hscheme hslashes)
  · have hcoded : Coded path_char path' := by
      rcases hpath' with rfl | rfl
      · exact .nil
      · exact .plain (by decide) .nil
    have hself := pathOf_path hscheme hpath hslashes
    rw [htext, pathOf_path hscheme' hcoded (slashes_behind hpath')] at hself
    rwa [← hself]

theorem not_readBack (h : NoScheme s) : ¬ ReadBack s := by
  have hnone := splitScheme_none h
  rintro (@⟨parts, hsplit, -, -⟩ | @⟨scheme, path, query, fragment, hscheme, rfl, -⟩)
  · rw [split, hnone] at hsplit
    cases hsplit
  · rw [splitScheme_text hscheme] at hnone
    cases hnone

theorem kept_kept_userinfo (parts : Parts) : kept (kept (parts.userinfo.getD [])) = kept (parts.userinfo.getD []) ↔
    ∀ u ∈ parts.userinfo, ¬ DigitBehindColons u := by
  cases parts.userinfo with
  | none => simp [kept]
  | some u => simp [kept_kept_iff]

/-- Every form that is accepted, printed and read again: the getters agree, and the path is the one that was read,
exactly for these forms. -/
theorem create_toString_iff (haccept : Create s = some (some uri)) : RoundTrips s uri ↔ ReadBack s := by
  rcases accepted_of_create haccept with @⟨parts, hvalid, rfl, rfl⟩ |
    @⟨scheme, path, query, fragment, hscheme, rfl, hpath, hslashes, hquery, hfragment, rfl⟩ | ⟨hrelative, hnone⟩
  · rw [roundTrips_authority hvalid, readBack_authority hvalid.split_text, kept_kept_userinfo]
  · rw [roundTrips_path hscheme hpath hslashes hquery hfragment, readBack_path hscheme hpath hslashes]
  · exact iff_of_false (not_roundTrips_relative hrelative) (not_readBack hnone)

theorem create_toString_slash : RoundTrips (ascii "a:/") ⟨ascii "a", [], [], [], [], [], 0⟩ := by
  have hscheme : IsScheme (ascii "a") := ⟨97, [], rfl, by decide, fun _ h => absurd h List.not_mem_nil⟩
  have htext : ascii "a:/" = ascii "a" ++ 58 :: (ascii "/" ++ tail none none) := rfl
  exact (create_toString_iff (by decide +kernel)).mpr (.path hscheme htext (.inr rfl))

/-- The path /a is lost, and the colon that is printed behind no scheme is not read. -/
theorem not_create_toString : ¬ ∀ (s : Bytes) (uri : Uri), Create s = some (some uri) → RoundTrips s uri := by
  intro h
  have haccept : Create (ascii "/a") = some (some new) := by decide +kernel
  exact not_roundTrips_relative rfl (h _ _ haccept)

end Mingfwq.Uri
