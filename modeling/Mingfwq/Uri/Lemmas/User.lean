import Mingfwq.Uri.Lemmas.Host

/-!
# The front of an authority

Up to the first colon a host and a userinfo are read in the same states, and the mark stands at the front. Behind the
colon the mark is moved if a digit comes first, which could be the first of a port.
-/

namespace Mingfwq.Uri

open Lib

variable {pre xs ys zs u v a b rest : Bytes} {c : UInt8} {q s n : Nat} {parser : Parser} {uri uri' : Uri}
  {acts : List Action} {mark : Option Nat}

/-- Bytes of an authority in front of the delimiter of a userinfo. -/
def InAuthority (xs : Bytes) : Prop := ∀ c ∈ xs, c ≠ 64 ∧ authority_end.has c = false

/-- What stands behind an authority. -/
def EndsAuthority (rest : Bytes) : Prop := ∀ c ∈ rest.head?, authority_end.has c = true

/-! ## Without a userinfo -/

/-- A byte leads alike from a state and from its twin, or only where a userinfo has to follow. -/
inductive Twins (q : Nat) (c : UInt8) : Prop
  | same : goto uri_parser_next q c = goto uri_parser_next (twin q) c → Twins q c
  | opens {acts : List Action} {n : Nat} : openStates.has n = true → goto uri_parser_next q c = some (acts, n) →
      goto uri_parser_next (twin q) c = some (acts, twin n) → Twins q c
  | user {n : Nat} : userStates.has n = true → goto uri_parser_next q c = some ([], n) →
      goto uri_parser_next (twin q) c = none → Twins q c

theorem twins (hq : openStates.has q = true) (hc : c ≠ 64) : Twins q c := by
  have hmem := States.mem_toList.mpr hq
  cases hgoto : goto uri_parser_next q c with
  | none =>
      cases htwin : goto uri_parser_next (twin q) c with
      | none => exact .same (hgoto.trans htwin.symm)
      | some edge =>
          obtain ⟨f, hf, hlo, hhi, -⟩ := Table.exists_edge htwin
          have hcovers := List.all_eq_true.mp (List.all_eq_true.mp twin_none q hmem) f hf
          obtain ⟨e, he, -⟩ := find?_of_covers hcovers (has_self hlo hhi)
          rw [← Table.next_eq] at he
          rw [goto, Option.map_eq_none_iff, uri_parser_next, he] at hgoto
          cases hgoto
  | some edge =>
      obtain ⟨acts, n⟩ := edge
      obtain ⟨e, he, hlo, hhi, rfl, rfl⟩ := Table.exists_edge hgoto
      have hedge := List.all_eq_true.mp (List.all_eq_true.mp twin_edges q hmem) e he
      simp only [Bool.or_eq_true, Bool.and_eq_true, beq_iff_eq, List.isEmpty_iff] at hedge
      rcases hedge with (⟨hat, hat'⟩ | hcovers) | ⟨⟨hacts, huser⟩, hmisses⟩
      · rw [hat] at hlo
        rw [hat'] at hhi
        have hat : c = 64 := byte_eq hlo hhi
        exact absurd hat hc
      · obtain ⟨f, hf, hP⟩ := find?_of_covers hcovers (has_self hlo hhi)
        simp only [Bool.and_eq_true, beq_iff_eq] at hP
        have htwin : goto uri_parser_next (twin q) c = some (f.acts, f.target) := by
          rw [goto, uri_parser_next, Table.next_eq, hf]
          rfl
        rw [hP.1, hP.2] at htwin
        by_cases hopen : openStates.has e.target = true
        · rw [if_pos hopen] at htwin
          exact .opens hopen hgoto htwin
        · rw [if_neg hopen] at htwin
          exact .same (hgoto.trans htwin.symm)
      · rw [hacts] at hgoto
        exact .user huser hgoto (Table.goto_of_misses hmisses (has_self hlo hhi))

theorem has_append {P Q : States} : States.has (P ++ Q) n = true ↔ P.has n = true ∨ Q.has n = true := by
  rw [States.has, List.any_append, Bool.or_eq_true]
  rfl

theorem twins_end (hq : openStates.has q = true) (hc : authority_end.has c = true) :
    goto uri_parser_next q c = goto uri_parser_next (twin q) c := by
  have hat : c ≠ 64 := by
    rintro rfl
    cases hc
  have hout {acts : List Action} {n : Nat} (hgoto : goto uri_parser_next q c = some (acts, n)) :
      (openStates ++ userStates).has n ≠ true := by
    obtain ⟨e, he, hlo, hhi, -, rfl⟩ := Table.exists_edge hgoto
    intro hopen
    have hbytes := Table.of_forEdges open_bytes hq he
    rw [hopen, Bool.not_true, Bool.false_or] at hbytes
    cases hc.symm.trans (e.has_of_misses hbytes hlo hhi)
  rcases twins hq hat with hsame | ⟨hopen, hgoto, -⟩ | ⟨huser, hgoto, -⟩
  · exact hsame
  · exact absurd (has_append.mpr (.inl hopen)) (hout hgoto)
  · exact absurd (has_append.mpr (.inr huser)) (hout hgoto)

theorem createFrom_user (hv : InAuthority v) (hrest : EndsAuthority rest) (hq : userStates.has q = true) :
    createFrom pre (v ++ rest) q parser = some none := by
  have hstates : q ∈ [255, 256, 257] := by
    simp only [userStates, States.has, List.any_cons, List.any_nil, Bool.or_false, Bool.and_eq_true,
      Nat.ble_eq] at hq
    simp only [List.mem_cons, List.not_mem_nil, or_false]
    omega
  induction v generalizing pre q with
  | nil =>
      cases rest with
      | nil =>
          have hend : eofActions q = [] ∧ ¬ uri_parser_first_final ≤ q := by
            simp only [List.mem_cons, List.not_mem_nil, or_false] at hstates
            rcases hstates with rfl | rfl | rfl <;> exact ⟨by rfl, by decide⟩
          rw [List.append_nil, createFrom_nil, hend.1, runActs, List.foldlM_nil]
          exact congrArg some (if_neg hend.2)
      | cons c rest =>
          rw [List.nil_append]
          exact createFrom_stuck (Table.goto_of_misses (List.all_eq_true.mp user_ends q hstates) (hrest c rfl))
  | cons c v ih =>
      obtain ⟨hc, hv⟩ := List.forall_mem_cons.mp hv
      rw [List.cons_append]
      cases hgoto : goto uri_parser_next q c with
      | none => exact createFrom_stuck hgoto
      | some edge =>
          obtain ⟨acts, n⟩ := edge
          obtain ⟨e, he, hlo, hhi, rfl, rfl⟩ := Table.exists_edge hgoto
          have hedge := Table.of_forEdges user_edges hq he
          simp only [Bool.or_eq_true, Bool.and_eq_true, beq_iff_eq, List.isEmpty_iff] at hedge
          rcases hedge with ⟨hat, hat'⟩ | ⟨hacts, htarget⟩
          · rw [hat] at hlo
            rw [hat'] at hhi
            have hat : c = 64 := byte_eq hlo hhi
            exact absurd hat hc.1
          · rw [hacts] at hgoto
            have hr : runActs (run (pre ++ c :: (v ++ rest))) [] pre.length parser = some parser := rfl
            rw [createFrom_cons hgoto hr]
            refine ih hv htarget ?_
            simp only [userStates, States.has, List.any_cons, List.any_nil, Bool.or_false, Bool.and_eq_true,
              Nat.ble_eq] at htarget
            simp only [List.mem_cons, List.not_mem_nil, or_false]
            omega

theorem createFrom_twin (hv : InAuthority v) (hrest : EndsAuthority rest) (hq : openStates.has q = true) :
    createFrom pre (v ++ rest) q parser = createFrom pre (v ++ rest) (twin q) parser := by
  induction v generalizing pre q parser with
  | nil =>
      cases rest with
      | nil =>
          have hend := List.all_eq_true.mp twin_end q (States.mem_toList.mpr hq)
          simp only [Bool.and_eq_true, beq_iff_eq, decide_eq_decide] at hend
          rw [List.append_nil, createFrom_nil, createFrom_nil, hend.1]
          simp only [hend.2]
      | cons c rest =>
          rw [List.nil_append, Uri.createFrom, Uri.createFrom, scan_goto_congr (twins_end hq (hrest c rfl))]
  | cons c v ih =>
      obtain ⟨⟨hat, -⟩, hv⟩ := List.forall_mem_cons.mp hv
      rw [List.cons_append]
      rcases twins hq hat with hsame | @⟨acts, n, hopen, hgoto, htwin⟩ | ⟨huser, hgoto, htwin⟩
      · rw [Uri.createFrom, Uri.createFrom, scan_goto_congr hsame]
      · cases hr : runActs (run (pre ++ c :: (v ++ rest))) acts pre.length parser with
        | none => rw [createFrom_fault hgoto hr, createFrom_fault htwin hr]
        | some parser' =>
            rw [createFrom_cons hgoto hr, createFrom_cons htwin hr]
            exact ih hv hopen
      · have hr : runActs (run (pre ++ c :: (v ++ rest))) [] pre.length parser = some parser := rfl
        rw [createFrom_stuck htwin, createFrom_cons hgoto hr]
        exact createFrom_user hv hrest huser

/-! ## A userinfo -/

theorem not_mem_of_coded {cl : CharClass} {m : UInt8} (h : Coded cl xs) (hcl : cl.has m = false) (h37 : m ≠ 37)
    (hx : CharClass.xdigit.has m = false) : m ∉ xs := by
  intro hm
  rcases h.mem hm with hc | hc | hc
  · cases hcl.symm.trans hc
  · exact h37 hc
  · cases hx.symm.trans hc

theorem colon_not_mem (h : Coded reg_char xs) : 58 ∉ xs := not_mem_of_coded h (by decide) (by decide) (by decide)

theorem dropWhile_colon (h : 58 ∉ a) (b : Bytes) : (a ++ b).dropWhile (· ≠ 58) = b.dropWhile (· ≠ 58) := by
  refine List.dropWhile_append_of_pos fun c hc => decide_eq_true ?_
  rintro rfl
  exact h hc

theorem kept_of_not_mem (h : 58 ∉ u) : kept u = u := by
  have hdrop := dropWhile_colon h []
  rw [List.append_nil] at hdrop
  rw [kept, hdrop]
  rfl

theorem kept_colon (h : 58 ∉ a) : kept (a ++ [58]) = a ++ [58] := by
  rw [kept, dropWhile_colon h]
  rfl

theorem kept_colon_cons (h : 58 ∉ a) :
    kept (a ++ 58 :: c :: b) = if CharClass.digit.has c then c :: b else a ++ 58 :: c :: b := by
  rw [kept, dropWhile_colon h]
  rfl

theorem run_save_userinfo :
    run (pre ++ u ++ rest) .save_userinfo (pre ++ u).length ⟨some pre.length, uri⟩ =
      some ⟨none, uri.setUserinfo u⟩ := by
  rw [run, Option.isSome_some, if_pos rfl, marked_append]
  rfl

/-- At the delimiter the bytes from the mark on are the userinfo. -/
theorem createFrom_at (h : goto uri_parser_next q 64 = some ([.save_userinfo], 522)) :
    createFrom (pre ++ u) (64 :: ys) q ⟨some pre.length, uri⟩ =
      createFrom (pre ++ u ++ [64]) ys 522 ⟨none, uri.setUserinfo u⟩ :=
  createFrom_cons h ((runActs_singleton _ _ _ _).trans run_save_userinfo)

theorem authStates_leads (h : authStates.has q = true) :
    goto uri_parser_next q 58 = some ([.save_host], 521) ∧
      goto uri_parser_next q 64 = some ([.save_userinfo], 522) := by
  have hall := List.all_eq_true.mp auth_ends q (States.mem_toList.mpr h)
  rw [Bool.and_eq_true] at hall
  exact ⟨Table.goto_of_leads hall.1 rfl, Table.goto_of_leads hall.2 rfl⟩

theorem colonStates_at (h : colonStates.has q = true) : goto uri_parser_next q 64 = some ([.save_userinfo], 522) :=
  Table.goto_of_leads (List.all_eq_true.mp colon_ends q (States.mem_toList.mpr h)) rfl

/-- Up to the first colon. -/
theorem createFrom_colon (h : Coded reg_char a) :
    createFrom pre (a ++ 58 :: zs) 511 ⟨mark, uri⟩ =
      createFrom (pre ++ (a ++ [58])) zs 521 ⟨some pre.length, uri.setHost a⟩ := by
  rw [← List.append_assoc]
  by_cases hne : a = []
  · subst hne
    rw [List.append_nil, List.nil_append]
    refine createFrom_cons no_user_colon ?_
    rw [runActs, List.foldlM_cons]
    simp [run]
  · obtain ⟨c, ys, s, n, rfl, hgoto, -, hw, hn⟩ := auth_words.marked auth_marks h hne
    rw [List.cons_append, createFrom_marked (.inr rfl) hgoto hw]
    exact createFrom_cons (authStates_leads hn).1 ((runActs_singleton _ _ _ _).trans run_save_host)

/-- Behind the first colon, where the mark is still at the front `a`. -/
theorem createFrom_behind_colon (h : Coded userinfo_char b) (ha : 58 ∉ a) :
    createFrom (pre ++ (a ++ [58])) (b ++ 64 :: ys) 521 ⟨some pre.length, uri⟩ =
      createFrom (pre ++ (a ++ 58 :: b) ++ [64]) ys 522 ⟨none, uri.setUserinfo (kept (a ++ 58 :: b))⟩ := by
  cases h with
  | nil =>
      rw [kept_colon ha]
      exact createFrom_at colon_at
  | @plain c b hc hb =>
      have htext : pre ++ (a ++ 58 :: c :: b) = pre ++ (a ++ [58]) ++ c :: b := by simp
      rw [List.cons_append, kept_colon_cons ha]
      cases hdigit : CharClass.digit.has c with
      | true =>
          obtain ⟨n, hn, hw⟩ := colon_words.within hb (s := 542) (by rfl)
          rw [if_pos rfl, createFrom_marked (.inr rfl) (Table.goto_of_leads colon_digit hdigit) hw, htext]
          exact createFrom_at (colonStates_at hn)
      | false =>
          have hrest : userinfo_rest.has c = true := by
            rw [userinfo_char, reg_char, CharClass.unreserved] at hc
            simp only [userinfo_rest, CharClass.has_append, Bool.or_eq_true] at hc ⊢
            rw [hdigit] at hc
            simpa using hc
          obtain ⟨n, hn, hw⟩ := colon_words.within hb (s := 255) (by rfl)
          have hgoto : goto uri_parser_next 521 c = some ([], 255) := Table.goto_of_leads colon_plain hrest
          have hwalk : walk (goto uri_parser_next) (c :: b) 521 = some n := by
            rw [walk_cons hgoto, hw.walk]
          rw [if_neg Bool.false_ne_true, ← List.cons_append, createFrom_walk hwalk, ← htext]
          exact createFrom_at (colonStates_at hn)
  | @coded x y b hx hy hb =>
      have htext : pre ++ (a ++ 58 :: 37 :: x :: y :: b) = pre ++ (a ++ [58]) ++ 37 :: x :: y :: b := by simp
      obtain ⟨m, hm, hgoto⟩ := colon_words.second y hy
      obtain ⟨n, hn, hw⟩ := colon_words.within hb hm
      have hwalk : walk (goto uri_parser_next) (37 :: x :: y :: b) 521 = some n := by
        rw [walk_cons colon_percent, walk_cons (colon_words.first x hx), walk_cons hgoto, hw.walk]
      rw [kept_colon_cons ha, if_neg (by decide), createFrom_walk hwalk, ← htext]
      exact createFrom_at (colonStates_at hn)

/-- A userinfo leaves a part of itself in the host, too, until that is set. -/
theorem createFrom_userinfo (h : Coded userinfo_char u) :
    ∃ host, createFrom pre (u ++ 64 :: ys) 511 ⟨none, uri⟩ =
      createFrom (pre ++ u ++ [64]) ys 522 ⟨none, (uri.setHost host).setUserinfo (kept u)⟩ := by
  rcases Coded.split_first (m := 58) h with h | ⟨a, b, rfl, ha, hb⟩
  · refine ⟨uri.m_host, ?_⟩
    have hself : uri.setHost uri.m_host = uri := rfl
    rw [kept_of_not_mem (colon_not_mem h), hself]
    by_cases hne : u = []
    · subst hne
      rw [List.append_nil]
      refine createFrom_cons no_user_at ?_
      rw [runActs, List.foldlM_cons]
      simp [run]
    · obtain ⟨c, xs, s, n, rfl, hgoto, -, hw, hn⟩ := auth_words.marked auth_marks h hne
      rw [List.cons_append, createFrom_marked (.inr rfl) hgoto hw]
      exact createFrom_at (authStates_leads hn).2
  · refine ⟨a, ?_⟩
    have htext : a ++ 58 :: b ++ 64 :: ys = a ++ 58 :: (b ++ 64 :: ys) := by simp
    rw [htext, createFrom_colon ha]
    exact createFrom_behind_colon hb (colon_not_mem ha)

/-! ## What is accepted in front of the delimiter -/

theorem hostOnly_at (hv : InAuthority v) (hq : hostOnly.has q = true) :
    createFrom pre (v ++ 64 :: ys) q parser ≠ some (some uri) := by
  induction v generalizing pre q parser with
  | nil =>
      intro h
      obtain ⟨acts, n, parser', hgoto, -⟩ := accepted_cons h
      obtain ⟨e, he, hlo, hhi, -⟩ := Table.exists_edge hgoto
      have hedge := Table.of_forEdges hostOnly_edges hq he
      simp only [Bool.and_eq_true, Bool.or_eq_true, decide_eq_true_eq] at hedge
      have hat : (64 : UInt8).toNat = 64 := rfl
      omega
  | cons c v ih =>
      intro h
      obtain ⟨⟨-, hc⟩, hv⟩ := List.forall_mem_cons.mp hv
      obtain ⟨acts, n, parser', hgoto, -, h⟩ := accepted_cons h
      obtain ⟨e, he, hlo, hhi, -, rfl⟩ := Table.exists_edge hgoto
      have hedge := Table.of_forEdges hostOnly_edges hq he
      simp only [Bool.and_eq_true, Bool.or_eq_true] at hedge
      rcases hedge.2 with htarget | hclass
      · exact ih hv htarget h
      · cases hc.symm.trans (e.has_of_inClass hclass hlo hhi)

theorem first_at (h : u ++ 64 :: ys = v ++ c :: rest) (hv : 64 ∉ v) :
    c = 64 ∧ v = u ∨ ∃ w, u = v ++ c :: w ∧ rest = w ++ 64 :: ys := by
  rcases List.append_eq_append_iff.mp h with ⟨w, rfl, hw⟩ | ⟨w, rfl, hw⟩
  · cases w with
    | nil => exact .inl ⟨(List.cons.inj hw).1.symm, List.append_nil u⟩
    | cons d w =>
        obtain rfl := (List.cons.inj hw).1
        exact absurd (List.mem_append_right _ List.mem_cons_self) hv
  · cases w with
    | nil => exact .inl ⟨(List.cons.inj hw).1, (List.append_nil v).symm⟩
    | cons d w =>
        obtain ⟨rfl, rfl⟩ := List.cons.inj hw
        exact .inr ⟨w, rfl, rfl⟩

theorem inAuthority_append : InAuthority (u ++ v) ↔ InAuthority u ∧ InAuthority v := List.forall_mem_append

/-- No userinfo goes on over its delimiter. -/
theorem at_not_mem {Q : States} (hsub : ∀ n, Q.has n = true →
    (authStates.withPercent 253 254 ++ colonStates.withPercent 256 257).has n = true)
    (hw : Within uri_parser_next Q xs s n) (hs : Q.has s = true) : 64 ∉ xs := by
  intro hmem
  refine hw.forall_mem (p := (· ≠ 64)) hs (fun s c u hs _ hgoto => ?_) 64 hmem rfl
  rintro rfl
  obtain ⟨e, he, hlo, hhi, hacts, -⟩ := Table.exists_edge hgoto
  have hedge := Table.of_forEdges at_bytes (hsub s hs) he
  rw [hacts] at hedge
  simp only [List.isEmpty_nil, Bool.not_true, Bool.false_or, Bool.or_eq_true, decide_eq_true_eq] at hedge
  have hat : (64 : UInt8).toNat = 64 := rfl
  omega

theorem accepted_behind_colon (hv : InAuthority v)
    (haccept : createFrom pre (v ++ 64 :: ys) 521 parser = some (some uri)) : Coded userinfo_char v := by
  have hsub : ∀ n, (colonStates.withPercent 256 257).has n = true →
      (authStates.withPercent 253 254 ++ colonStates.withPercent 256 257).has n = true :=
    fun n hn => has_append.mpr (.inr hn)
  cases v with
  | nil => exact .nil
  | cons c v =>
      obtain ⟨⟨hat, hend⟩, hv⟩ := List.forall_mem_cons.mp hv
      obtain ⟨acts, s, parser', hgoto, -, h⟩ := accepted_cons haccept
      have hs : (colonStates.withPercent 256 257).has s = true := by
        rcases Table.next_of_region (c := c) colon_start (States.has_singleton.mpr rfl) with
          hno | ⟨s', hs, hgoto'⟩ | ⟨e, he, hnext, hlo, hhi⟩
        · cases hgoto.symm.trans (Option.map_eq_none_iff.mpr hno)
        · cases hgoto.symm.trans hgoto'
          simp only [colonStates, States.withPercent, States.has, List.any_cons, List.any_nil, Bool.or_false,
            Bool.or_eq_true, Bool.and_eq_true, Nat.ble_eq] at hs ⊢
          omega
        · cases hgoto.symm.trans (congrArg (Option.map _) hnext)
          simp only [List.mem_cons, List.not_mem_nil, or_false] at he
          rcases he with rfl | rfl | rfl | rfl | rfl
          · obtain rfl : c = 35 := byte_eq hlo hhi
            cases hend
          · obtain rfl : c = 47 := byte_eq hlo hhi
            cases hend
          · rfl
          · obtain rfl : c = 63 := byte_eq hlo hhi
            cases hend
          · exact (hat (byte_eq hlo hhi)).elim
      obtain ⟨xs, zs, n, htext, hw, hn, -, hends⟩ :=
        accepted_words colon_only colon_region (by decide) (by decide) (by decide) hs h
      have hxs := at_not_mem hsub hw hs
      have hself : xs = v := by
        rcases hends with rfl | ⟨d, rest, rfl, e, he, hlo, hhi, -⟩
        · rw [List.append_nil] at htext
          exact absurd (htext ▸ by simp) hxs
        · rcases first_at htext hxs with ⟨-, hself⟩ | ⟨w, rfl, -⟩
          · exact hself
          · obtain ⟨hat, hend⟩ := hv d (by simp)
            simp only [List.mem_cons, List.not_mem_nil, or_false] at he
            rcases he with rfl | rfl | rfl | rfl
            · obtain rfl : d = 35 := byte_eq hlo hhi
              cases hend
            · obtain rfl : d = 47 := byte_eq hlo hhi
              cases hend
            · obtain rfl : d = 63 := byte_eq hlo hhi
              cases hend
            · exact (hat (byte_eq hlo hhi)).elim
      rw [hself] at hw
      exact colon_only.coded_marked colon_onlyMarks hgoto hs hw hn

theorem accepted_userinfo (hu : InAuthority u)
    (haccept : createFrom pre (u ++ 64 :: ys) 511 parser = some (some uri)) : Coded userinfo_char u := by
  have hsub : ∀ n, (authStates.withPercent 253 254).has n = true →
      (authStates.withPercent 253 254 ++ colonStates.withPercent 256 257).has n = true :=
    fun n hn => has_append.mpr (.inl hn)
  have hmono {a : Bytes} (ha : Coded reg_char a) : Coded userinfo_char a :=
    ha.mono fun c hc => by rw [userinfo_char, CharClass.has_append, hc, Bool.true_or]
  cases u with
  | nil => exact .nil
  | cons c u =>
      obtain ⟨⟨hat, hend⟩, hu'⟩ := List.forall_mem_cons.mp hu
      obtain ⟨acts, s, parser', hgoto, -, h⟩ := accepted_cons haccept
      rcases Table.next_of_region (c := c) auth_start (States.has_singleton.mpr rfl) with
        hno | ⟨s', hs, hgoto'⟩ | ⟨e, he, hnext, hlo, hhi⟩
      · cases hgoto.symm.trans (Option.map_eq_none_iff.mpr hno)
      · cases hgoto.symm.trans hgoto'
        rcases has_append.mp hs with hs | hs
        · obtain ⟨xs, zs, n, htext, hw, hn, h, hends⟩ := accepted_region auth_region hs h
          have hxs := at_not_mem hsub hw hs
          rcases hends with rfl | ⟨d, rest, rfl, e, he, hlo, hhi, hexit⟩
          · rw [List.append_nil] at htext
            exact absurd (htext ▸ by simp) hxs
          · obtain ⟨⟨mark', uri₁⟩, -, h⟩ := accepted_goto h hexit
            have hcoded (hout : (authStates.withPercent 253 254).has e.target ≠ true) : Coded reg_char (c :: xs) :=
              auth_only.coded_marked auth_onlyMarks hgoto' hs hw (auth_only.has_of_exit hn hexit hout)
            rcases first_at htext hxs with ⟨rfl, rfl⟩ | ⟨w, rfl, rfl⟩
            · refine hmono (hcoded ?_)
              simp only [List.mem_cons, List.not_mem_nil, or_false] at he
              rcases he with rfl | rfl | rfl | rfl | rfl | rfl | rfl | rfl <;> decide
            · obtain ⟨hat, hend⟩ := hu' d (by simp)
              have hw' : InAuthority w := fun x hx => hu' x (by simp [hx])
              simp only [List.mem_cons, List.not_mem_nil, or_false] at he
              rcases he with rfl | rfl | rfl | rfl | rfl | rfl | rfl | rfl
              · exact absurd h (hostOnly_at hw' (by rfl))
              · exact absurd h (hostOnly_at hw' (by rfl))
              · exact absurd h (hostOnly_at hw' (by rfl))
              · obtain rfl : d = 35 := byte_eq hlo hhi
                cases hend
              · obtain rfl : d = 47 := byte_eq hlo hhi
                cases hend
              · obtain rfl : d = 58 := byte_eq hlo hhi
                have hcolon : Coded userinfo_char (58 :: w) := .plain (by decide) (accepted_behind_colon hw' h)
                exact (hmono (hcoded (by decide))).append hcolon
              · obtain rfl : d = 63 := byte_eq hlo hhi
                cases hend
              · exact (hat (byte_eq hlo hhi)).elim
        · exact absurd h (hostOnly_at hu' (has_append.mpr (.inl hs)))
      · cases hgoto.symm.trans (congrArg (Option.map _) hnext)
        simp only [List.mem_cons, List.not_mem_nil, or_false] at he
        rcases he with rfl | rfl | rfl | rfl | rfl
        · obtain rfl : c = 35 := byte_eq hlo hhi
          cases hend
        · obtain rfl : c = 47 := byte_eq hlo hhi
          cases hend
        · obtain rfl : c = 58 := byte_eq hlo hhi
          exact .plain (by decide) (accepted_behind_colon hu' h)
        · obtain rfl : c = 63 := byte_eq hlo hhi
          cases hend
        · exact (hat (byte_eq hlo hhi)).elim

end Mingfwq.Uri
