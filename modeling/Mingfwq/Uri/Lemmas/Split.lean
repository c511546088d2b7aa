import Mingfwq.Uri.Lemmas.Authority
import Mingfwq.Uri.Split

/-!
# The components and the delimiters

The text of components is cut into them again, and Create takes the components from where the delimiters are.
-/

namespace Mingfwq.Uri

open Lib

open Http (ascii atoi)

variable {xs h u v rest path scheme : Bytes} {c : UInt8} {uri : Uri} {port query fragment : Option Bytes}
  {parts : Parts}

/-! ## Each cut -/

theorem splitScheme_text (hscheme : IsScheme scheme) : splitScheme (scheme ++ 58 :: rest) = some (scheme, rest) := by
  obtain ⟨c, ys, rfl, hc, hys⟩ := hscheme
  have hchar : ∀ d ∈ c :: ys, (! scheme_end.has d) = true := by
    refine List.forall_mem_cons.mpr ⟨?_, fun d hd => ?_⟩
    · have hchar : scheme_char.has c = true := by
        rw [scheme_char, CharClass.has_append, CharClass.has_append, hc, Bool.true_or, Bool.true_or]
      rw [delim_of_scheme hchar, Bool.not_false]
    · rw [delim_of_scheme (hys d hd), Bool.not_false]
  have hcolon : ∀ d ∈ (58 :: rest).head?, (! scheme_end.has d) = false := by
    intro d hd
    obtain rfl := Option.some.inj hd
    rfl
  rw [splitScheme, dropWhile_cut hchar hcolon, takeWhile_cut hchar hcolon]
  rfl

theorem splitScheme_none (h : NoScheme xs) : splitScheme xs = none := by
  have hhead : (xs.dropWhile (! scheme_end.has ·)).head? ≠ some 58 := by
    rw [← List.find?_eq_head?_dropWhile_not]
    exact h
  rw [splitScheme]
  split
  · next heq =>
      rw [heq] at hhead
      exact absurd rfl hhead
  · rfl

theorem splitAuthority_text (hv : ∀ c ∈ v, authority_end.has c = false) (hrest : EndsAuthority rest) :
    splitAuthority (47 :: 47 :: (v ++ rest)) = some (v, rest) := by
  have hbytes : ∀ c ∈ v, (! authority_end.has c) = true := fun c hc => by rw [hv c hc, Bool.not_false]
  have hend : ∀ c ∈ rest.head?, (! authority_end.has c) = false := fun c hc => by rw [hrest c hc, Bool.not_true]
  rw [splitAuthority, takeWhile_cut hbytes hend, dropWhile_cut hbytes hend]

theorem splitAuthority_none (h : ¬ [47, 47] <+: rest) : splitAuthority rest = none := by
  rw [splitAuthority.eq_def]
  split
  · next xs => exact absurd ⟨xs, rfl⟩ h
  · rfl

theorem splitUserinfo_text {userinfo : Option Bytes} (hu : ∀ u ∈ userinfo, 64 ∉ u) (hv : 64 ∉ v) :
    splitUserinfo (userinfo.elim [] (· ++ [64]) ++ v) = (userinfo, v) := by
  have hne {xs : Bytes} (hxs : 64 ∉ xs) : ∀ c ∈ xs, decide (c ≠ 64) = true :=
    fun c hc => decide_eq_true fun heq => hxs (heq ▸ hc)
  cases userinfo with
  | none =>
      rw [Option.elim_none, List.nil_append, splitUserinfo, List.dropWhile_eq_nil_iff.mpr (hne hv)]
  | some u =>
      have hat : ∀ c ∈ (64 :: v).head?, decide (c ≠ 64) = false := by
        intro c hc
        obtain rfl := Option.some.inj hc
        rfl
      rw [Option.elim_some, List.append_assoc, List.singleton_append, splitUserinfo, dropWhile_cut (hne (hu u rfl)) hat,
        takeWhile_cut (hne (hu u rfl)) hat]

theorem splitPort_text (hcolon : 58 ∉ h ∨ h.getLast? = some 93) (hport : ∀ d ∈ port, IsPort d) :
    splitPort (h ++ portText port) = (h, port) := by
  cases port with
  | none =>
      have hlast : (h.rdropWhile CharClass.digit.has).getLast? ≠ some 58 := by
        intro hlast
        rcases hcolon with hcolon | hbracket
        · exact hcolon (mem_of_getLast?_rdropWhile hlast)
        · have hself : h.rdropWhile CharClass.digit.has = h := by
            have hcut := @rdropWhile_cut _ CharClass.digit.has h [] (by simp)
              (by rw [hbracket]; exact forall_mem_some rfl)
            rwa [List.append_nil] at hcut
          rw [hself, hbracket] at hlast
          cases hlast
      rw [portText, Option.elim_none, List.append_nil, splitPort, if_neg hlast]
  | some d =>
      have htext : h ++ portText (some d) = h ++ [58] ++ d := by rw [List.append_assoc]; rfl
      have hend : ∀ c ∈ (h ++ [58]).getLast?, CharClass.digit.has c = false := by
        rw [List.getLast?_concat]
        exact forall_mem_some rfl
      rw [htext, splitPort, rdropWhile_cut (hport d rfl).2 hend, rtakeWhile_cut (hport d rfl).2 hend,
        List.getLast?_concat, if_pos rfl, List.dropLast_concat]

theorem path_bytes (h : Coded path_char path) : ∀ c ∈ path, (c ≠ 63 && c ≠ 35) = true := by
  have hplain : ∀ c, path_char.has c = true → (c ≠ 63 && c ≠ 35) = true :=
    forall_byte (P := fun c => path_char.has c = true → (c ≠ 63 && c ≠ 35) = true) (by decide +kernel)
  have hdigit : ∀ c, CharClass.xdigit.has c = true → (c ≠ 63 && c ≠ 35) = true :=
    forall_byte (P := fun c => CharClass.xdigit.has c = true → (c ≠ 63 && c ≠ 35) = true) (by decide +kernel)
  intro c hc
  rcases h.mem hc with hc | rfl | hc
  · exact hplain c hc
  · rfl
  · exact hdigit c hc

theorem tail_head : ∀ c ∈ (tail query fragment).head?, (c ≠ 63 && c ≠ 35) = false := by
  intro c hc
  cases query with
  | some q =>
      obtain rfl := Option.some.inj hc
      rfl
  | none =>
      cases fragment with
      | some f =>
          obtain rfl := Option.some.inj hc
          rfl
      | none => cases hc

theorem pathPart_text (h : Coded path_char path) : pathPart (path ++ tail query fragment) = path :=
  takeWhile_cut (path_bytes h) tail_head

theorem splitQuery_text (h : Coded path_char path) (hquery : ∀ q ∈ query, Coded query_char q) :
    splitQuery (path ++ tail query fragment) = (query, fragmentText fragment) := by
  rw [splitQuery, dropWhile_cut (path_bytes h) tail_head]
  cases query with
  | none =>
      cases fragment with
      | none => rfl
      | some f => rfl
  | some q =>
      have hne : ∀ c ∈ q, decide (c ≠ 35) = true := by
        intro c hc
        refine decide_eq_true fun heq => ?_
        exact not_mem_of_coded (m := 35) (hquery q rfl) (by decide) (by decide) (by decide) (heq ▸ hc)
      have hend : ∀ c ∈ (fragmentText fragment).head?, decide (c ≠ 35) = false := by
        intro c hc
        cases fragment with
        | none => cases hc
        | some f =>
            obtain rfl := Option.some.inj hc
            rfl
      have htail : tail (some q) fragment = 63 :: (q ++ fragmentText fragment) := rfl
      rw [htail]
      simp only
      rw [takeWhile_cut hne hend, dropWhile_cut hne hend]

/-! ## All of them -/

/-- No component goes on over the delimiter behind it. -/
structure Parts.Delimited (parts : Parts) : Prop where
  scheme : IsScheme parts.scheme
  userinfo : ∀ u ∈ parts.userinfo, InAuthority u
  hostPort : InAuthority (parts.host ++ portText parts.port)
  path : IsPath parts.path

theorem Parts.Valid.delimited (hvalid : parts.Valid IsHost) : parts.Delimited where
  scheme := hvalid.scheme
  userinfo := fun u hu => userinfo_bytes (hvalid.userinfo u hu)
  hostPort := inAuthority_append.mpr ⟨hvalid.host.inAuthority, inAuthority_portText hvalid.port⟩
  path := hvalid.path

theorem Parts.text_eq : parts.text =
    parts.scheme ++ 58 :: 47 :: 47 :: (parts.authority ++ (parts.path ++ tail parts.query parts.fragment)) := by
  rw [text, List.append_assoc]
  rfl

namespace Parts.Delimited

theorem splitScheme_text (h : parts.Delimited) : splitScheme parts.text =
    some (parts.scheme, 47 :: 47 :: (parts.authority ++ (parts.path ++ tail parts.query parts.fragment))) := by
  rw [text_eq, Uri.splitScheme_text h.scheme]

theorem splitAuthority_rest (h : parts.Delimited) :
    splitAuthority (47 :: 47 :: (parts.authority ++ (parts.path ++ tail parts.query parts.fragment))) =
      some (parts.authority, parts.path ++ tail parts.query parts.fragment) := by
  refine splitAuthority_text ?_ (endsAuthority h.path)
  rw [authority]
  refine List.forall_mem_append.mpr ⟨?_, fun c hc => (h.hostPort c hc).2⟩
  cases huser : parts.userinfo with
  | none => simp
  | some u =>
      have hu := h.userinfo u huser
      exact List.forall_mem_append.mpr ⟨fun c hc => (hu c hc).2, List.forall_mem_singleton.mpr rfl⟩

theorem splitUserinfo_authority (h : parts.Delimited) :
    splitUserinfo parts.authority = (parts.userinfo, parts.host ++ portText parts.port) :=
  splitUserinfo_text (fun u hu hat => (h.userinfo u hu 64 hat).1 rfl) fun hat => (h.hostPort 64 hat).1 rfl

/-- The host and the port are the ones that the last digits leave. -/
theorem split_text (h : parts.Delimited) : split parts.text = some
    { parts with
      host := (splitPort (parts.host ++ portText parts.port)).1
      port := (splitPort (parts.host ++ portText parts.port)).2
      path := pathPart (parts.path ++ tail parts.query parts.fragment)
      query := (splitQuery (parts.path ++ tail parts.query parts.fragment)).1
      fragment := fragmentPart (splitQuery (parts.path ++ tail parts.query parts.fragment)).2 } := by
  rw [split, h.splitScheme_text, Option.bind_some]
  simp only [h.splitAuthority_rest, Option.map_some]
  rw [h.splitUserinfo_authority]

end Parts.Delimited

theorem Parts.Valid.split_text (hvalid : parts.Valid IsHost) : split parts.text = some parts := by
  rw [hvalid.delimited.split_text, splitPort_text hvalid.host.colon hvalid.port, pathPart_text hvalid.path.1,
    splitQuery_text hvalid.path.1 hvalid.query]
  obtain ⟨scheme, userinfo, host, port, path, query, fragment⟩ := parts
  cases fragment <;> rfl

theorem Parts.Valid.pathOf_text (hvalid : parts.Valid IsHost) : pathOf parts.text = parts.path := by
  rw [pathOf, hvalid.delimited.splitScheme_text, Option.elim_some, hvalid.delimited.splitAuthority_rest,
    Option.elim_some, pathPart_text hvalid.path.1]

/-! ## Without an authority -/

section

variable {scheme path : Bytes} {query fragment : Option Bytes}

theorem split_path (hscheme : IsScheme scheme) (hslashes : ¬ [47, 47] <+: path ++ tail query fragment) :
    split (scheme ++ 58 :: (path ++ tail query fragment)) = none := by
  rw [split, splitScheme_text hscheme, Option.bind_some]
  simp only [splitAuthority_none hslashes, Option.map_none]

theorem pathOf_path (hscheme : IsScheme scheme) (hpath : Coded path_char path)
    (hslashes : ¬ [47, 47] <+: path ++ tail query fragment) :
    pathOf (scheme ++ 58 :: (path ++ tail query fragment)) = path := by
  rw [pathOf, splitScheme_text hscheme, Option.elim_some, splitAuthority_none hslashes, Option.elim_none,
    pathPart_text hpath]

end

end Mingfwq.Uri
