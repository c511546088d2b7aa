import Mingfwq.Uri.Lemmas.Scheme
import Mingfwq.Uri.Lemmas.User

/-!
# URIs with a scheme and an authority

What Create makes of the text of such a URI, and that what is accepted is such a text.
-/

namespace Mingfwq.Uri

open Lib

open Http (ascii atoi)

variable {pre xs ys h u d rest path : Bytes} {c : UInt8} {q n : Nat} {parser : Parser} {uri uri' : Uri}
  {port query fragment : Option Bytes} {parts : Parts}

/-! ## The bytes of an authority -/

theorem inAuthority_of_misses {e : Edge Action} (h : misses [e] ((64, 64) :: authority_end) = true)
    (hlo : e.lo ≤ c.toNat) (hhi : c.toNat ≤ e.hi) : c ≠ 64 ∧ authority_end.has c = false := by
  have hmiss := e.has_of_misses h hlo hhi
  rw [CharClass.has, List.any_cons, Bool.or_eq_false_iff] at hmiss
  refine ⟨?_, hmiss.2⟩
  rintro rfl
  cases hmiss.1

theorem IsHost.inAuthority (hhost : IsHost h) : InAuthority h := by
  cases hhost with
  | empty => exact fun c hc => nomatch hc
  | text hgoto hs hw hn =>
      obtain ⟨e, he, hlo, hhi, -, rfl⟩ := Table.exists_edge hgoto
      have hedge := Table.of_forEdges host_first_bytes (States.has_singleton.mpr rfl) he
      rw [hs, Bool.not_true, Bool.false_or] at hedge
      refine List.forall_mem_cons.mpr ⟨inAuthority_of_misses hedge hlo hhi, ?_⟩
      refine hw.forall_mem (p := fun c => c ≠ 64 ∧ authority_end.has c = false) hs fun s c u hs _ hgoto => ?_
      obtain ⟨e, he, hlo, hhi, hacts, -⟩ := Table.exists_edge hgoto
      have hedge := Table.of_forEdges host_bytes hs he
      rw [hacts, List.isEmpty_nil, Bool.not_true, Bool.false_or] at hedge
      exact inAuthority_of_misses hedge hlo hhi

theorem inAuthority_digit (h : CharClass.digit.has c = true) : c ≠ 64 ∧ authority_end.has c = false := by
  revert h
  exact forall_byte (P := fun c => CharClass.digit.has c = true → c ≠ 64 ∧ authority_end.has c = false)
    (by decide +kernel) c

theorem inAuthority_portText (hport : ∀ d ∈ port, IsPort d) : InAuthority (portText port) := by
  cases port with
  | none => exact fun c hc => nomatch hc
  | some d =>
      have hd := hport d rfl
      exact List.forall_mem_cons.mpr ⟨⟨by decide, by decide⟩, fun c hc => inAuthority_digit (hd.2 c hc)⟩

theorem userinfo_bytes (h : Coded userinfo_char u) : InAuthority u := by
  have hplain : ∀ c, userinfo_char.has c = true → c ≠ 64 ∧ authority_end.has c = false :=
    forall_byte (P := fun c => userinfo_char.has c = true → c ≠ 64 ∧ authority_end.has c = false) (by decide +kernel)
  have hdigit : ∀ c, CharClass.xdigit.has c = true → c ≠ 64 ∧ authority_end.has c = false :=
    forall_byte (P := fun c => CharClass.xdigit.has c = true → c ≠ 64 ∧ authority_end.has c = false) (by decide +kernel)
  intro c hc
  rcases h.mem hc with hc | rfl | hc
  · exact hplain c hc
  · exact ⟨by decide, by decide⟩
  · exact hdigit c hc

theorem endsAuthority (hpath : IsPath path) : EndsAuthority (path ++ tail query fragment) := by
  intro c hc
  rcases head_rest hpath c hc with rfl | rfl | rfl <;> rfl

/-! ## Registered names -/

theorem isHost_reg_name (hname : Coded reg_char h) : IsHost h := by
  by_cases hne : h = []
  · subst hne
    exact .empty
  · have hsub : ∀ n, (regStates.withPercent 258 259).has n = true → hostStates.has n = true := by
      intro n hn
      simp only [hostStates, hostEnds, regStates, innerStates, literalStates, States.withPercent, States.has,
        List.any_append, List.any_cons, List.any_nil, Bool.or_false, Bool.or_eq_true, Bool.and_eq_true,
        Nat.ble_eq] at hn ⊢
      omega
    obtain ⟨c, ys, s, n, rfl, hgoto, hs, hw, hn⟩ := reg_words.marked reg_marks hname hne
    exact .text hgoto (hsub s hs) (hw.mono hsub) (has_append.mpr (.inr hn))

/-! ## The colons of a host -/

theorem getLast?_literal (hw : Within uri_parser_next hostStates xs q n) (hq : literalStates.has q = true)
    (hn : hostEnds.has n = true) : xs.getLast? = some 93 := by
  induction hw with
  | nil =>
      simp only [literalStates, hostEnds, regStates, States.has, List.any_append, List.any_cons, List.any_nil,
        Bool.or_false, Bool.or_eq_true, Bool.and_eq_true, Nat.ble_eq] at hq hn
      omega
  | cons hgoto _ hw ih =>
      obtain ⟨e, he, hlo, hhi, -, rfl⟩ := Table.exists_edge hgoto
      have hedge := Table.of_forEdges literal_edges hq he
      simp only [Bool.or_eq_true, Bool.and_eq_true, beq_iff_eq] at hedge
      rcases hedge with htarget | ⟨⟨htarget, hbyte⟩, hbyte'⟩
      · rw [List.getLast?_cons, ih htarget hn]
        rfl
      · rw [hbyte] at hlo
        rw [hbyte'] at hhi
        rw [htarget] at hw
        cases hw with
        | nil => exact congrArg some (byte_eq (m := 93) hlo hhi)
        | cons hgoto _ _ =>
            obtain ⟨e, he, -, -, hacts, -⟩ := Table.exists_edge hgoto
            have hedge := Table.of_forEdges closed_edges (States.has_singleton.mpr rfl) he
            rw [hacts] at hedge
            cases hedge

theorem no_colon (hw : Within uri_parser_next hostStates xs q n) (hq : (hostEnds ++ innerStates).has q = true) :
    58 ∉ xs := by
  induction hw with
  | nil => exact List.not_mem_nil
  | cons hgoto _ _ ih =>
      obtain ⟨e, he, hlo, hhi, hacts, rfl⟩ := Table.exists_edge hgoto
      have hedge := Table.of_forEdges name_edges hq he
      rw [hacts, List.isEmpty_nil, Bool.not_true, Bool.false_or, Bool.and_eq_true] at hedge
      rw [List.mem_cons, not_or]
      exact ⟨Ne.symm (ne_colon hedge.2 hlo hhi), ih hedge.1⟩

theorem IsHost.colon (hhost : IsHost h) : 58 ∉ h ∨ h.getLast? = some 93 := by
  cases hhost with
  | empty => exact .inl List.not_mem_nil
  | text hgoto hs hw hn =>
      obtain ⟨e, he, hlo, hhi, -, rfl⟩ := Table.exists_edge hgoto
      have hedge := Table.of_forEdges host_first_edges (States.has_singleton.mpr rfl) he
      rw [hs, Bool.not_true, Bool.false_or, Bool.or_eq_true, Bool.and_eq_true] at hedge
      rcases hedge with hliteral | ⟨hname, hbyte⟩
      · right
        rw [List.getLast?_cons, getLast?_literal hw hliteral hn]
        rfl
      · left
        rw [List.mem_cons, not_or]
        exact ⟨Ne.symm (ne_colon hbyte hlo hhi), no_colon hw hname⟩

/-! ## Create -/

theorem createFrom_authority (hu : ∀ u ∈ parts.userinfo, Coded userinfo_char u) (hhost : IsHost parts.host)
    (hport : ∀ d ∈ parts.port, IsPort d) (hpath : IsPath parts.path)
    (hquery : ∀ f ∈ parts.query, Coded query_char f) (hfragment : ∀ f ∈ parts.fragment, Coded query_char f) :
    createFrom pre (parts.authority ++ (parts.path ++ tail parts.query parts.fragment)) 511 ⟨none, uri⟩ =
      some (some (((uri.setUserinfo (parts.userinfo.elim uri.m_userinfo kept)).withHost parts.host parts.port).withRest
        parts.path parts.query parts.fragment)) := by
  cases huser : parts.userinfo with
  | none =>
      have hv : InAuthority (parts.host ++ portText parts.port) :=
        inAuthority_append.mpr ⟨hhost.inAuthority, inAuthority_portText hport⟩
      have htext : parts.authority = parts.host ++ portText parts.port := by rw [Parts.authority, huser]; rfl
      rw [htext, createFrom_twin hv (endsAuthority hpath) (by rfl), List.append_assoc]
      exact createFrom_hostPort hhost hport hpath hquery hfragment
  | some u =>
      have htext : parts.authority ++ (parts.path ++ tail parts.query parts.fragment) =
          u ++ 64 :: (parts.host ++ (portText parts.port ++ (parts.path ++ tail parts.query parts.fragment))) := by
        rw [Parts.authority, huser]
        simp
      obtain ⟨host, hrun⟩ := @createFrom_userinfo pre
        (parts.host ++ (portText parts.port ++ (parts.path ++ tail parts.query parts.fragment))) u uri (hu u huser)
      rw [htext, hrun, createFrom_hostPort hhost hport hpath hquery hfragment]
      cases parts.port <;> rfl

theorem Parts.create (hvalid : parts.Valid IsHost) : Create parts.text = some (some parts.uri) := by
  have htext : parts.text = parts.scheme ++ 58 :: 47 :: 47 :: (parts.authority ++ (parts.path ++
      tail parts.query parts.fragment)) := by
    rw [Parts.text, List.append_assoc]
    rfl
  rw [htext, createFrom_scheme hvalid.scheme, createFrom_slashes, createFrom_authority hvalid.userinfo hvalid.host
    hvalid.port hvalid.path hvalid.query hvalid.fragment]
  obtain ⟨scheme, userinfo, host, port, path, query, fragment⟩ := parts
  cases port <;> cases query <;> cases fragment <;> rfl

/-! ## What is accepted -/

theorem accepted_authority (haccept : createFrom pre xs 511 ⟨none, uri⟩ = some (some uri')) :
    ∃ parts : Parts, xs = parts.authority ++ (parts.path ++ tail parts.query parts.fragment) ∧
      (∀ u ∈ parts.userinfo, Coded userinfo_char u) ∧ IsHost parts.host ∧ (∀ d ∈ parts.port, IsPort d) ∧
        IsPath parts.path ∧ (∀ f ∈ parts.query, Coded query_char f) ∧ ∀ f ∈ parts.fragment, Coded query_char f := by
  obtain ⟨v, rest, rfl, hv, hrest⟩ : ∃ v rest, xs = v ++ rest ∧ (∀ c ∈ v, authority_end.has c = false) ∧
      EndsAuthority rest := by
    refine ⟨xs.takeWhile (! authority_end.has ·), xs.dropWhile (! authority_end.has ·),
      List.takeWhile_append_dropWhile.symm, fun c hc => ?_, fun c hc => ?_⟩
    · simpa using List.all_eq_true.mp List.all_takeWhile c hc
    · have hnot := List.head?_dropWhile_not (! authority_end.has ·) xs
      rw [Option.mem_def] at hc
      rw [hc] at hnot
      simpa using hnot
  by_cases hat : 64 ∈ v
  · obtain ⟨u, w, rfl, hu⟩ := List.eq_append_cons_of_mem hat
    have hu : InAuthority u := fun c hc => ⟨fun heq => hu (heq ▸ hc), hv c (by simp [hc])⟩
    rw [List.append_assoc, List.cons_append] at haccept ⊢
    have huser := accepted_userinfo hu haccept
    obtain ⟨host, hrun⟩ := @createFrom_userinfo pre (w ++ rest) u uri huser
    rw [hrun] at haccept
    obtain ⟨h, port, path, query, fragment, htext, hhost, hport, hpath, hquery, hfragment⟩ := accepted_hostPort haccept
    refine ⟨⟨[], some u, h, port, path, query, fragment⟩, ?_, fun u' hu' => ?_, hhost, hport, hpath, hquery, hfragment⟩
    · rw [htext, Parts.authority]
      simp
    · obtain rfl := Option.some.inj hu'
      exact huser
  · have hv : InAuthority v := fun c hc => ⟨fun heq => hat (heq ▸ hc), hv c hc⟩
    rw [createFrom_twin hv hrest (by rfl)] at haccept
    obtain ⟨h, port, path, query, fragment, htext, hhost, hport, hpath, hquery, hfragment⟩ := accepted_hostPort haccept
    refine ⟨⟨[], none, h, port, path, query, fragment⟩, ?_, (fun u hu => nomatch hu), hhost, hport, hpath, hquery,
      hfragment⟩
    rw [htext, Parts.authority]
    simp

/-- What Create accepts. -/
inductive Accepted (uri : Uri) (xs : Bytes) : Prop
  | authority {parts : Parts} : parts.Valid IsHost → xs = parts.text → uri = parts.uri → Accepted uri xs
  | path {scheme path : Bytes} {query fragment : Option Bytes} : IsScheme scheme →
      xs = scheme ++ 58 :: (path ++ tail query fragment) → Coded path_char path →
      ¬ [47, 47] <+: path ++ tail query fragment → (∀ f ∈ query, Coded query_char f) →
      (∀ f ∈ fragment, Coded query_char f) → uri = ((new.setScheme scheme).withQuery query).withFragment fragment →
      Accepted uri xs
  | relative : uri.m_scheme = [] → NoScheme xs → Accepted uri xs

theorem accepted_of_create (haccept : Create xs = some (some uri)) : Accepted uri xs := by
  rcases accepted_begins haccept with @⟨scheme, rest, rfl, hscheme, hrest⟩ | ⟨hnone, hxs⟩
  · rcases accepted_behind_scheme hrest with ⟨rest, rfl, hauthority⟩ |
      ⟨path, query, fragment, rfl, hpath, hslashes, hquery, hfragment, rfl⟩
    · obtain ⟨parts, rfl, hu, hhost, hport, hpath, hquery, hfragment⟩ := accepted_authority hauthority
      have hvalid : Parts.Valid { parts with scheme } IsHost := ⟨hscheme, hu, hhost, hport, hpath, hquery, hfragment⟩
      have htext : scheme ++ 58 :: 47 :: 47 :: (parts.authority ++ (parts.path ++ tail parts.query parts.fragment)) =
          Parts.text { parts with scheme } := by
        rw [Parts.text, List.append_assoc scheme]
        rfl
      have hcreate := Parts.create hvalid
      rw [← htext, haccept] at hcreate
      exact .authority hvalid htext (Option.some.inj (Option.some.inj hcreate))
    · exact .path hscheme rfl hpath hslashes hquery hfragment rfl
  · exact .relative hnone hxs

end Mingfwq.Uri
