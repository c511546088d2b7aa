import Mingfwq.Uri.Lemmas.Print

/-!
# Reading and printing URIs

What the automaton keeps of a URI, against its components and against the plain cutting at delimiters, and which
strings survive being read, printed and read again.
-/

namespace Mingfwq.Uri

open Lib

open Http (ascii atoi)

variable {s : Bytes} {uri : Uri} {parts : Parts}

/-! ## Components -/

/-- Every URI of the grammar is read; a userinfo with a digit behind its first colon loses what stands in front. -/
theorem create_text (hvalid : parts.Valid (Coded reg_char)) : Create parts.text = some (some parts.uri) :=
  Parts.create { hvalid with host := isHost_reg_name hvalid.host }

theorem reg_example {u : Bytes} (hu : Coded userinfo_char u) : Parts.Valid
    ⟨ascii "http", some u, ascii "b", some (ascii "8080"), ascii "/c", none, none⟩ (Coded reg_char) where
  scheme := ⟨104, ascii "ttp", rfl, by decide, forall_mem_of_all (by decide)⟩
  userinfo := fun v hv => by
    obtain rfl := Option.some.inj hv
    exact hu
  host := (Coded.of_all (forall_mem_of_all (by decide)) : Coded reg_char (ascii "b"))
  port := fun d hd => by
    obtain rfl := Option.some.inj hd
    exact ⟨by decide, forall_mem_of_all (by decide)⟩
  path := ⟨(Coded.of_all (forall_mem_of_all (by decide)) : Coded path_char (ascii "/c")),
    fun c hc => (Option.some.inj hc).symm⟩
  query := fun q hq => nomatch hq
  fragment := fun f hf => nomatch hf

/-- The 1 of the userinfo could be the first digit of a port, and the mark is moved to it. -/
theorem create_reg_example : Create (ascii "http://a:1@b:8080/c") =
    some (some ⟨ascii "http", ascii "1", ascii "b", ascii "/c", [], [], 8080⟩) :=
  have huser : Coded userinfo_char (ascii "a:1") := Coded.of_all (forall_mem_of_all (by decide))
  (create_text (reg_example huser)).trans (by decide)

/-- What is accepted with a scheme and an authority has the components that its delimiters separate. -/
theorem create_split (haccept : Create s = some (some uri)) (hs : split s = some parts) :
    s = parts.text ∧ uri = parts.uri :=
  ((accepted_of_create haccept).of_split hs).2

/-- Two digits behind colons, of which only the last are a port. -/
theorem create_split_example : ascii "ws://a:b:1@c:2?d" =
      Parts.text ⟨ascii "ws", some (ascii "a:b:1"), ascii "c", some (ascii "2"), [], some (ascii "d"), none⟩ ∧
    ⟨ascii "ws", ascii "a:b:1", ascii "c", [], ascii "d", [], 2⟩ =
      Parts.uri ⟨ascii "ws", some (ascii "a:b:1"), ascii "c", some (ascii "2"), [], some (ascii "d"), none⟩ :=
  create_split (s := ascii "ws://a:b:1@c:2?d") (by decide +kernel) rfl

/-! ## Printed and read again -/

/-- A URI is read back from what is printed of it, and its path is the one that was read. -/
def RoundTrips (s : Bytes) (uri : Uri) : Prop :=
  (∃ uri', Create uri.toString = some (some uri') ∧ Agrees uri' uri) ∧
    uri.getPath = if (pathOf s).isEmpty then ascii "/" else pathOf s

/-- With an authority, no second part of the userinfo is lost and the port is no overflown number; without one there
is a scheme and nothing of a path that could be lost. -/
def Survives (s : Bytes) : Prop :=
  match split s with
  | some parts => kept (kept (parts.userinfo.getD [])) = kept (parts.userinfo.getD []) ∧ ∀ d ∈ parts.port, 0 ≤ atoi d
  | none => splitScheme s ≠ none ∧ (pathOf s = [] ∨ pathOf s = ascii "/")

theorem roundTrips_authority (hvalid : parts.Valid IsHost) :
    RoundTrips parts.text parts.uri ↔
      kept (kept (parts.userinfo.getD [])) = kept (parts.userinfo.getD []) ∧ ∀ d ∈ parts.port, 0 ≤ atoi d := by
  have hwell := hvalid.wellFormed
  have huser : parts.uri.m_userinfo = kept (parts.userinfo.getD []) := by
    rw [Parts.uri]
    cases parts.userinfo <;> rfl
  have hport : (∀ d ∈ parts.port, 0 ≤ atoi d) ↔ 0 ≤ parts.uri.m_port := by
    rw [Parts.uri]
    cases parts.port <;> simp
  have hpath : parts.uri.getPath = if (pathOf parts.text).isEmpty then ascii "/" else pathOf parts.text := by
    rw [hvalid.pathOf_text]
    rfl
  rw [hport, ← huser]
  constructor
  · rintro ⟨⟨uri', hcreate, hagrees⟩, -⟩
    by_cases hnonneg : 0 ≤ parts.uri.m_port
    · rw [hwell.create_toString hnonneg] at hcreate
      cases hcreate
      exact ⟨(agrees_printed ⟨hnonneg, hwell.port.2⟩).mp hagrees, hnonneg⟩
    · exact absurd hagrees.port (hwell.not_negative (by omega) hcreate)
  · rintro ⟨hkept, hnonneg⟩
    exact ⟨⟨_, hwell.create_toString hnonneg, (agrees_printed ⟨hnonneg, hwell.port.2⟩).mpr hkept⟩, hpath⟩

/-- Without an authority a slash is printed for the path, and the rest is read back. -/
theorem roundTrips_path {scheme path : Bytes} {query fragment : Option Bytes} (hscheme : IsScheme scheme)
    (hpath : Coded path_char path) (hslashes : ¬ [47, 47] <+: path ++ tail query fragment)
    (hquery : ∀ f ∈ query, Coded query_char f) (hfragment : ∀ f ∈ fragment, Coded query_char f) :
    RoundTrips (scheme ++ 58 :: (path ++ tail query fragment))
      (((new.setScheme scheme).withQuery query).withFragment fragment) ↔ path = [] ∨ path = ascii "/" := by
  have hform : ((new.setScheme scheme).withQuery query).withFragment fragment =
      ⟨scheme, [], [], [], query.getD [], fragment.getD [], 0⟩ := by
    cases query <;> cases fragment <;> rfl
  have hzero : -2 ^ 31 ≤ (0 : Int) ∧ (0 : Int) < 2 ^ 31 := by decide
  have hwell : WellFormed ⟨scheme, [], [], [], query.getD [], fragment.getD [], 0⟩ := by
    refine ⟨hscheme, .nil, .empty, hzero, ⟨.nil, by simp⟩, ?_, ?_⟩
    · cases query with
      | none => exact .nil
      | some q => exact hquery q rfl
    · cases fragment with
      | none => exact .nil
      | some f => exact hfragment f rfl
  rw [hform, RoundTrips, pathOf_path hscheme hpath hslashes]
  have hslash : getPath ⟨scheme, [], [], [], query.getD [], fragment.getD [], 0⟩ = ascii "/" := rfl
  rw [hslash]
  constructor
  · rintro ⟨-, hself⟩
    split at hself
    · next hempty => exact .inl (List.isEmpty_iff.mp hempty)
    · exact .inr hself.symm
  · intro h
    refine ⟨⟨_, hwell.create_toString (Int.le_refl 0), (agrees_printed ⟨Int.le_refl 0, hzero.2⟩).mpr rfl⟩, ?_⟩
    rcases h with rfl | rfl <;> rfl

theorem not_roundTrips_relative (h : uri.m_scheme = []) : ¬ RoundTrips s uri := by
  rintro ⟨⟨uri', hcreate, -⟩, -⟩
  have hhead : uri.toString.head? = some 58 := by
    rw [toString_eq, Parts.text, printed, h]
    rfl
  obtain ⟨rest, htext⟩ : ∃ ys, uri.toString = 58 :: ys := ⟨_, (List.cons_head?_tail hhead).symm⟩
  have hstuck : createFrom [] (58 :: rest) 451 ⟨none, new⟩ = some none := createFrom_stuck no_scheme_colon
  rw [htext] at hcreate
  cases hstuck.symm.trans hcreate

/-- What is accepted survives exactly in these cases. -/
theorem roundTrips_iff (haccept : Create s = some (some uri)) : RoundTrips s uri ↔ Survives s := by
  rcases accepted_of_create haccept with @⟨parts, hvalid, rfl, rfl⟩ |
    @⟨scheme, path, query, fragment, hscheme, rfl, hpath, hslashes, hquery, hfragment, rfl⟩ | ⟨hrelative, hnone⟩
  · rw [roundTrips_authority hvalid, Survives, hvalid.split_text]
  · have hscheme' : splitScheme (scheme ++ 58 :: (path ++ tail query fragment)) =
        some (scheme, path ++ tail query fragment) := splitScheme_text hscheme
    rw [roundTrips_path hscheme hpath hslashes hquery hfragment, Survives, split_path hscheme hslashes, hscheme',
      pathOf_path hscheme hpath hslashes]
    simp
  · have hsplit : split s = none := by
      rw [split, splitScheme_none hnone]
      rfl
    rw [Survives, hsplit, splitScheme_none hnone]
    simp [not_roundTrips_relative hrelative]

/-- The path behind a scheme without an authority is lost. -/
theorem not_roundTrips_example : ¬ RoundTrips (ascii "a:b") ⟨ascii "a", [], [], [], [], [], 0⟩ := by
  rw [roundTrips_iff (by decide +kernel)]
  rintro ⟨-, hpath | hpath⟩ <;> cases hpath

end Mingfwq.Uri
