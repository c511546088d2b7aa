import Mingfwq.Uri.Lemmas.Split

/-!
# What is printed of a URI

dump prints the form with an authority, whatever was read.
-/

namespace Mingfwq.Uri

open Lib

open Http (ascii atoi)

variable {s xs : Bytes} {uri uri' : Uri} {parts : Parts}

theorem coded_kept {u : Bytes} (h : Coded userinfo_char u) : Coded userinfo_char (kept u) := by
  have hcolon {a : Bytes} (ha : Coded reg_char a) : Coded userinfo_char a :=
    ha.mono fun c hc => by rw [userinfo_char, CharClass.has_append, hc, Bool.true_or]
  rcases Coded.split_first (m := 58) h with h | ⟨a, b, rfl, ha, hb⟩
  · rw [kept_of_not_mem (colon_not_mem h)]
    exact hcolon h
  · cases b with
    | nil =>
        rw [kept_colon (colon_not_mem ha)]
        exact h
    | cons c b =>
        rw [kept_colon_cons (colon_not_mem ha)]
        split
        · exact hb
        · exact h

/-! ## The components that are printed -/

/-- A component that is not printed if it is empty. -/
def nonempty (xs : Bytes) : Option Bytes := if xs.isEmpty then none else some xs

theorem getD_nonempty (xs : Bytes) : (nonempty xs).getD [] = xs := by
  cases xs <;> rfl

theorem kept_nonempty (xs : Bytes) : (nonempty xs).elim [] kept = kept xs := by
  cases xs <;> rfl

theorem forall_nonempty {P : Bytes → Prop} (h : P xs) : ∀ ys ∈ nonempty xs, P ys := by
  intro ys hys
  rw [nonempty] at hys
  split at hys
  · cases hys
  · obtain rfl := Option.some.inj hys
    exact h

def printed (uri : Uri) : Parts where
  scheme := uri.m_scheme
  userinfo := nonempty uri.m_userinfo
  host := uri.m_host
  port := if uri.isDefaultPort then none else some (ascii (ToString.toString uri.m_port))
  path := uri.getPath
  query := nonempty uri.m_query
  fragment := nonempty uri.m_fragment

theorem toString_eq (uri : Uri) : uri.toString = uri.printed.text := by
  have huser : (nonempty uri.m_userinfo).elim [] (· ++ [64]) =
      uri.m_userinfo ++ if uri.m_userinfo.isEmpty then [] else ascii "@" := by
    cases uri.m_userinfo <;> rfl
  have hport : portText uri.printed.port =
      if uri.isDefaultPort then [] else ascii ":" ++ ascii (ToString.toString uri.m_port) := by
    rw [printed]
    cases uri.isDefaultPort <;> rfl
  have hquery : (nonempty uri.m_query).elim [] (63 :: ·) =
      (if uri.m_query.isEmpty then [] else ascii "?") ++ uri.m_query := by
    cases uri.m_query <;> rfl
  have hfragment : (nonempty uri.m_fragment).elim [] (35 :: ·) =
      (if uri.m_fragment.isEmpty then [] else ascii "#") ++ uri.m_fragment := by
    cases uri.m_fragment <;> rfl
  rw [toString, dump, Parts.text, Parts.authority, hport, tail]
  simp only [printed, huser, hquery, hfragment, List.append_assoc]

/-- A URI all of whose components are as the grammar has them. -/
structure WellFormed (uri : Uri) : Prop where
  scheme : IsScheme uri.m_scheme
  userinfo : Coded userinfo_char uri.m_userinfo
  host : IsHost uri.m_host
  port : -2 ^ 31 ≤ uri.m_port ∧ uri.m_port < 2 ^ 31
  path : IsPath uri.m_path
  query : Coded query_char uri.m_query
  fragment : Coded query_char uri.m_fragment

theorem atoi_range (xs : Bytes) : -2 ^ 31 ≤ atoi xs ∧ atoi xs < 2 ^ 31 := by
  have hlow := Int.le_bmod (x := Http.strtol xs 10) (m := 2 ^ 32) (by decide)
  have hhigh := Int.bmod_lt (x := Http.strtol xs 10) (m := 2 ^ 32) (by decide)
  rw [atoi, toInt32]
  omega

theorem Parts.Valid.wellFormed (hvalid : parts.Valid IsHost) : WellFormed parts.uri := by
  refine ⟨hvalid.scheme, ?_, hvalid.host, ?_, hvalid.path, ?_, ?_⟩
  · cases huser : parts.userinfo with
    | none =>
        rw [Parts.uri, huser]
        exact .nil
    | some u =>
        rw [Parts.uri, huser]
        exact coded_kept (hvalid.userinfo u huser)
  · cases hport : parts.port with
    | none =>
        rw [Parts.uri, hport]
        exact ⟨by simp, by simp⟩
    | some d =>
        rw [Parts.uri, hport]
        exact atoi_range d
  · cases hquery : parts.query with
    | none =>
        rw [Parts.uri, hquery]
        exact .nil
    | some q =>
        rw [Parts.uri, hquery]
        exact hvalid.query q hquery
  · cases hfragment : parts.fragment with
    | none =>
        rw [Parts.uri, hfragment]
        exact .nil
    | some f =>
        rw [Parts.uri, hfragment]
        exact hvalid.fragment f hfragment

theorem isPath_getPath (h : IsPath uri.m_path) : IsPath uri.getPath := by
  rw [getPath]
  split
  · exact ⟨.plain (by decide) .nil, fun c hc => (Option.some.inj hc).symm⟩
  · exact h

theorem WellFormed.printed_valid (h : WellFormed uri) (hport : 0 ≤ uri.m_port) : uri.printed.Valid IsHost where
  scheme := h.scheme
  userinfo := forall_nonempty h.userinfo
  host := h.host
  port := by
    intro d hd
    rw [printed] at hd
    split at hd
    · cases hd
    · obtain rfl := Option.some.inj hd
      obtain ⟨n, hn⟩ := Int.eq_ofNat_of_zero_le hport
      rw [hn]
      exact ⟨Http.toString_ne_nil, fun d hd => Http.digits_char hd⟩
  path := isPath_getPath h.path
  query := forall_nonempty h.query
  fragment := forall_nonempty h.fragment

/-! ## Printed and read again -/

/-- What the getters say of one URI they say of the other. -/
structure Agrees (uri' uri : Uri) : Prop where
  scheme : uri'.getScheme = uri.getScheme
  userinfo : uri'.getUserinfo = uri.getUserinfo
  host : uri'.getHost = uri.getHost
  port : uri'.getPort = uri.getPort
  path : uri'.getPath = uri.getPath
  query : uri'.getQuery = uri.getQuery
  fragment : uri'.getFragment = uri.getFragment

theorem WellFormed.create_toString (h : WellFormed uri) (hport : 0 ≤ uri.m_port) :
    Create uri.toString = some (some uri.printed.uri) := by
  rw [toString_eq]
  exact Parts.create (h.printed_valid hport)

theorem getPort_of_default (h : uri.isDefaultPort = true) : (uri.setPort 0).getPort = uri.getPort := by
  simp only [isDefaultPort] at h
  simp only [getPort, setPort]
  split at h
  · next hzero =>
      rw [hzero]
      rfl
  · next hzero =>
      split at h
      · next hhttp =>
          simp only [decide_eq_true_eq] at h
          simp [hhttp, h]
      · next hhttp =>
          split at h
          · next hhttps =>
              simp only [decide_eq_true_eq] at h
              simp [hhttp, hhttps, h]
          · cases h

theorem getPort_printed (hport : 0 ≤ uri.m_port ∧ uri.m_port < 2 ^ 31) : uri.printed.uri.getPort = uri.getPort := by
  cases hdefault : uri.isDefaultPort with
  | true =>
      have hzero : uri.printed.uri.m_port = 0 := by simp [Parts.uri, printed, hdefault]
      rw [← getPort_of_default hdefault]
      simp only [getPort, hzero, setPort]
      rfl
  | false =>
      obtain ⟨n, hn⟩ := Int.eq_ofNat_of_zero_le hport.1
      have hself : uri.printed.uri.m_port = uri.m_port := by
        simp only [Parts.uri, printed, hdefault, Bool.false_eq_true, if_false, Option.elim_some, hn]
        exact Http.atoi_toString (by omega)
      simp only [getPort, hself]
      rfl

theorem getPath_printed (uri : Uri) : uri.printed.uri.getPath = uri.getPath := by
  have hne : uri.getPath.isEmpty = false := by
    rw [getPath]
    split
    · rfl
    · next hpath => simpa using hpath
  have hself : uri.printed.uri.m_path = uri.getPath := rfl
  rw [getPath, hself, hne]
  rfl

theorem agrees_printed (hport : 0 ≤ uri.m_port ∧ uri.m_port < 2 ^ 31) :
    Agrees uri.printed.uri uri ↔ kept uri.m_userinfo = uri.m_userinfo := by
  have huser : uri.printed.uri.getUserinfo = kept uri.m_userinfo := kept_nonempty _
  constructor
  · intro hagrees
    rw [← huser]
    exact hagrees.userinfo
  · intro hkept
    exact ⟨rfl, huser.trans hkept, rfl, getPort_printed hport, getPath_printed uri, getD_nonempty _, getD_nonempty _⟩

theorem Accepted.of_split (h : Accepted uri s) (hs : split s = some parts) :
    parts.Valid IsHost ∧ s = parts.text ∧ uri = parts.uri := by
  rcases h with @⟨parts', hvalid, rfl, rfl⟩ | @⟨scheme, path, query, fragment, hscheme, rfl, -, hslashes, -⟩ |
    ⟨-, hnone⟩
  · cases hvalid.split_text.symm.trans hs
    exact ⟨hvalid, rfl, rfl⟩
  · rw [split_path hscheme hslashes] at hs
    cases hs
  · rw [split, splitScheme_none hnone] at hs
    cases hs

theorem ascii_neg {n : Int} (hn : n < 0) :
    ∃ m : Nat, ascii (ToString.toString n) = 45 :: ascii (ToString.toString m) := by
  obtain ⟨m, rfl⟩ := Int.eq_negSucc_of_lt_zero hn
  refine ⟨m + 1, ?_⟩
  have htext : ToString.toString (Int.negSucc m) = "-" ++ ToString.toString (m + 1) := rfl
  rw [htext, ascii, String.toList_append, List.map_append]
  rfl

theorem WellFormed.not_negative (h : WellFormed uri) (hport : uri.m_port < 0)
    (hcreate : Create uri.toString = some (some uri')) : uri'.getPort ≠ uri.getPort := by
  obtain ⟨n, hn⟩ := ascii_neg hport
  have hdefault : uri.isDefaultPort = false := by
    simp only [isDefaultPort]
    rw [if_neg (by omega)]
    split
    · exact decide_eq_false (by omega)
    · split
      · exact decide_eq_false (by omega)
      · rfl
  have hprinted : uri.printed.port = some (45 :: ascii (ToString.toString n)) := by
    rw [printed, hdefault, ← hn]
    rfl
  have hdigits : ∀ c ∈ ascii (ToString.toString n), CharClass.digit.has c = true := fun c hc => Http.digits_char hc
  have hbytes : InAuthority (portText uri.printed.port) := by
    rw [hprinted]
    refine List.forall_mem_cons.mpr ⟨⟨by decide, by decide⟩, List.forall_mem_cons.mpr ⟨⟨by decide, by decide⟩, ?_⟩⟩
    exact fun c hc => inAuthority_digit (hdigits c hc)
  have hdelimited : uri.printed.Delimited :=
    ⟨h.scheme, fun u hu => forall_nonempty (userinfo_bytes h.userinfo) u hu,
      inAuthority_append.mpr ⟨h.host.inAuthority, hbytes⟩, isPath_getPath h.path⟩
  -- in front of the last digits stands the sign, not the colon
  have hnone : (splitPort (uri.printed.host ++ portText uri.printed.port)).2 = none := by
    have htext : uri.printed.host ++ portText uri.printed.port =
        uri.printed.host ++ [58, 45] ++ ascii (ToString.toString n) := by
      rw [hprinted, List.append_assoc]
      rfl
    have hlast : (uri.printed.host ++ [58, 45]).getLast? = some 45 := by simp
    have hcut : ((uri.printed.host ++ [58, 45] ++ ascii (ToString.toString n)).rdropWhile
        CharClass.digit.has).getLast? = some 45 := by
      rw [rdropWhile_cut hdigits (by rw [hlast]; exact forall_mem_some rfl), hlast]
    rw [htext, splitPort, if_neg (by rw [hcut]; decide)]
  rw [toString_eq] at hcreate
  obtain ⟨-, -, rfl⟩ := (accepted_of_create hcreate).of_split hdelimited.split_text
  rw [getPort, Parts.uri]
  simp only [hnone, Option.elim_none, ne_eq, not_true_eq_false, if_false]
  rw [getPort, if_pos (Int.ne_of_lt hport)]
  split
  · omega
  · split <;> omega

end Mingfwq.Uri
