import Mingfwq.Http.Lemmas.Decimal
import Mingfwq.Uri.Lemmas.Tail

/-!
# The host and what is behind it

Behind the delimiter of a userinfo only a host can come. All states in which it can end lead on alike.
-/

namespace Mingfwq.Uri

open Lib

open Http (atoi ascii)

variable {pre pre₀ xs ys zs h d rest path : Bytes} {c : UInt8} {q n : Nat} {parser parser' : Parser} {uri uri' : Uri}
  {acts : List Action} {mark : Option Nat} {query fragment : Option Bytes}

/-! ## Where a path can begin -/

/-- In front of `rest` the path, the query, the fragment or the end can come, and the URI is then `uri`. -/
structure PathFrom (pre rest : Bytes) (q : Nat) (parser : Parser) (uri : Uri) : Prop where
  ending : ∃ acts, Ending q acts ∧
    runActs (run (pre ++ rest)) acts pre.length parser = some ⟨none, uri.setPath []⟩
  slash : ∃ acts, goto uri_parser_next q 47 = some (acts, 513) ∧
    runActs (run (pre ++ rest)) acts pre.length parser = some ⟨some pre.length, uri⟩

/-- The URI with the components that stand behind the authority. -/
def withRest (uri : Uri) (path : Bytes) (query fragment : Option Bytes) : Uri :=
  ((uri.setPath path).withQuery query).withFragment fragment

theorem PathFrom.createFrom (hfrom : PathFrom pre (path ++ tail query fragment) q parser uri) (hpath : IsPath path)
    (hquery : ∀ f ∈ query, Coded query_char f) (hfragment : ∀ f ∈ fragment, Coded query_char f) :
    createFrom pre (path ++ tail query fragment) q parser = some (some (uri.withRest path query fragment)) := by
  obtain ⟨hcoded, hhead⟩ := hpath
  cases path with
  | nil =>
      obtain ⟨acts, hending, hr⟩ := hfrom.ending
      exact hending.createFrom hr hquery hfragment
  | cons c path =>
      obtain ⟨acts, hgoto, hr⟩ := hfrom.slash
      obtain rfl := hhead c rfl
      rw [List.cons_append] at hr ⊢
      rw [createFrom_cons hgoto hr]
      have hpath : Coded path_char path := by
        cases hcoded with
        | plain _ hpath => exact hpath
      exact createFrom_path hpath hquery hfragment

theorem PathFrom.accepted (hfrom : PathFrom pre xs q parser uri)
    (haccept : Uri.createFrom pre xs q parser = some (some uri'))
    (hxs : ∀ c ∈ xs.head?, c = 47 ∨ c = 63 ∨ c = 35) :
    ∃ path query fragment, xs = path ++ tail query fragment ∧ IsPath path ∧ (∀ f ∈ query, Coded query_char f) ∧
      (∀ f ∈ fragment, Coded query_char f) ∧ uri' = uri.withRest path query fragment := by
  have hform : ∃ path query fragment, xs = path ++ tail query fragment ∧ IsPath path ∧
      (∀ f ∈ query, Coded query_char f) ∧ ∀ f ∈ fragment, Coded query_char f := by
    by_cases hslash : xs.head? = some 47
    · obtain ⟨xs, rfl⟩ : ∃ ys, xs = 47 :: ys := ⟨xs.tail, (List.cons_head?_tail hslash).symm⟩
      obtain ⟨acts, hgoto, hr⟩ := hfrom.slash
      obtain ⟨⟨mark, uri₁⟩, -, haccept⟩ := accepted_goto haccept hgoto
      obtain ⟨-, path, query, fragment, rfl, hpath, hquery, hfragment⟩ := accepted_path haccept
      have hslashPath : IsPath (47 :: path) := ⟨.plain (by decide) hpath, fun c hc => (Option.some.inj hc).symm⟩
      exact ⟨47 :: path, query, fragment, rfl, hslashPath, hquery, hfragment⟩
    · obtain ⟨acts, hending, hr⟩ := hfrom.ending
      obtain ⟨query, fragment, -, rfl, hquery, hfragment, -⟩ := hending.accepted haccept fun c hc =>
        (hxs c hc).resolve_left fun heq => hslash (heq ▸ hc)
      exact ⟨[], query, fragment, rfl, ⟨.nil, fun c hc => nomatch hc⟩, hquery, hfragment⟩
  obtain ⟨path, query, fragment, rfl, hpath, hquery, hfragment⟩ := hform
  rw [hfrom.createFrom hpath hquery hfragment] at haccept
  exact ⟨path, query, fragment, rfl, hpath, hquery, hfragment, (Option.some.inj (Option.some.inj haccept)).symm⟩

/-! ## Ports -/

theorem within_port (h : ∀ c ∈ xs, CharClass.digit.has c = true) : Within uri_parser_next [(515, 515)] xs 515 515 := by
  induction xs with
  | nil => exact .nil
  | cons c xs ih =>
      obtain ⟨hc, hxs⟩ := List.forall_mem_cons.mp h
      exact .cons (Table.goto_of_leads port_digit hc) (States.has_singleton.mpr rfl) (ih hxs)

theorem createFrom_port (h : IsPort d) :
    createFrom pre (d ++ rest) 514 ⟨mark, uri⟩ = createFrom (pre ++ d) rest 515 ⟨some pre.length, uri⟩ := by
  obtain ⟨hne, hdigits⟩ := h
  cases d with
  | nil => exact absurd rfl hne
  | cons c d =>
      obtain ⟨hc, hd⟩ := List.forall_mem_cons.mp hdigits
      rw [List.cons_append]
      exact createFrom_marked (.inr rfl) (Table.goto_of_leads port_marks hc) (within_port hd)

theorem run_save_port (h : IsPort d) (hrest : ∀ c ∈ rest.head?, CharClass.digit.has c = false) :
    run (pre ++ d ++ rest) .save_port (pre ++ d).length ⟨some pre.length, uri⟩ = some ⟨none, uri.setPort (atoi d)⟩ := by
  obtain ⟨hne, hdigits⟩ := h
  have hlen : 0 < d.length := List.length_pos_iff.mpr hne
  have hmark : some (pre ++ d).length ≠ some pre.length := by
    rw [List.length_append]
    exact fun heq => absurd (Option.some.inj heq) (by omega)
  have hnil : ∀ c ∈ ([] : Bytes).head?, CharClass.digit.has c = false := fun c hc => nomatch hc
  have hatoi : atoi (d ++ rest) = atoi d := by
    have hd := Http.atoi_digits hne hdigits hnil
    rw [List.append_nil] at hd
    rw [Http.atoi_digits hne hdigits hrest, hd]
  rw [run, if_pos hmark, Option.map_some, List.append_assoc, List.drop_left, hatoi]

theorem pathFrom_port (h : IsPort d) (hrest : ∀ c ∈ rest.head?, CharClass.digit.has c = false) :
    PathFrom (pre ++ d) rest 515 ⟨some pre.length, uri⟩ (uri.setPort (atoi d)) := by
  have hport := @run_save_port pre d rest uri h hrest
  refine ⟨⟨_, port_ending, ?_⟩, ⟨_, port_slash, ?_⟩⟩
  · rw [runActs, List.foldlM_cons, hport]
    simp [run]
  · rw [runActs, List.foldlM_cons, hport]
    rfl

theorem digit_of_goto (hq : q = 514 ∨ q = 515) (h : goto uri_parser_next q c = some (acts, 515)) :
    CharClass.digit.has c = true := by
  obtain ⟨e, he, hlo, hhi, -, htarget⟩ := Table.exists_edge h
  have hstate : States.has [(514, 515)] q = true := by rcases hq with rfl | rfl <;> rfl
  have hedge := Table.of_forEdges port_bytes hstate he
  rw [htarget, bne_self_eq_false, Bool.false_or] at hedge
  exact e.has_of_inClass hedge hlo hhi

/-- Behind the colon of a port that is empty the pointer is null when the path is to be saved. -/
theorem accepted_port (haccept : createFrom pre xs 514 ⟨mark, uri⟩ = some (some uri')) :
    ∃ d rest, xs = d ++ rest ∧ IsPort d ∧ (∀ c ∈ rest.head?, c = 47 ∨ c = 63 ∨ c = 35) ∧
      createFrom (pre ++ d) rest 515 ⟨some pre.length, uri⟩ = some (some uri') := by
  have hnull : ∀ ys, runActs (run (pre ++ ys)) [.markh, .save_port, .save_path] pre.length ⟨mark, uri⟩ = none := by
    intro ys
    rw [runActs, List.foldlM_cons]
    simp [run, marked]
  cases xs with
  | nil =>
      obtain ⟨-, parser', hr, -⟩ := accepted_nil haccept
      have heof : eofActions 514 = [.markh, .save_port, .save_path] := by rfl
      have hno := hnull []
      rw [List.append_nil] at hno
      rw [heof, hno] at hr
      cases hr
  | cons c xs =>
      obtain ⟨acts, n, ⟨mark', uri₁⟩, hgoto, hr, h⟩ := accepted_cons haccept
      rcases Table.next_of_region (c := c) port_start (States.has_singleton.mpr rfl) with
        hno | ⟨s, hs, hgoto'⟩ | ⟨e, he, hnext, -, -⟩
      · cases hgoto.symm.trans (Option.map_eq_none_iff.mpr hno)
      · cases hgoto.symm.trans hgoto'
        obtain rfl := States.has_singleton.mp hs
        cases hr
        have hc := digit_of_goto (.inl rfl) hgoto'
        obtain ⟨ds, rest, n, rfl, hw, hn, h, hends⟩ := accepted_region port_region hs h
        obtain rfl := States.has_singleton.mp hn
        have hds : ∀ d ∈ ds, CharClass.digit.has d = true := by
          refine hw.forall_mem hs fun s d u hs hu hd => ?_
          obtain rfl := States.has_singleton.mp hu
          exact digit_of_goto (.inr (States.has_singleton.mp hs)) hd
        rw [List.append_assoc, List.singleton_append] at h
        refine ⟨c :: ds, rest, rfl, ⟨by simp, List.forall_mem_cons.mpr ⟨hc, hds⟩⟩, ?_, h⟩
        intro d hd
        rcases hends with rfl | ⟨d', rest, rfl, e, he, hlo, hhi, -⟩
        · cases hd
        · obtain rfl := Option.some.inj hd
          simp only [List.mem_cons, List.not_mem_nil, or_false] at he
          rcases he with rfl | rfl | rfl
          · exact .inr (.inr (byte_eq hlo hhi))
          · exact .inl (byte_eq hlo hhi)
          · exact .inr (.inl (byte_eq hlo hhi))
      · cases hgoto.symm.trans (congrArg (Option.map _) hnext)
        simp only [List.mem_cons, List.not_mem_nil, or_false] at he
        rcases he with rfl | rfl | rfl
        · rw [hnull] at hr
          cases hr
        · -- the mark is gone in front of the path
          have hgone : runActs (run (pre ++ c :: xs)) [.markh, .save_port] pre.length ⟨mark, uri⟩ =
              some ⟨none, uri⟩ := by
            rw [runActs, List.foldlM_cons]
            simp [run]
          cases hr.symm.trans hgone
          exact absurd rfl (accepted_path h).1
        · rw [hnull] at hr
          cases hr

/-! ## Hosts -/

/-- What is read behind the delimiter of a userinfo up to a place where a host can end. -/
inductive IsHost : Bytes → Prop
  | empty : IsHost []
  | text {c : UInt8} {xs : Bytes} {s n : Nat} : goto uri_parser_next 522 c = some ([.markh], s) →
      hostStates.has s = true → Within uri_parser_next hostStates xs s n → hostEnds.has n = true → IsHost (c :: xs)

/-- The state and the mark behind a host that begins behind the bytes `pre`. -/
inductive HostEnd (pre : Bytes) (uri : Uri) : Bytes → Nat → Parser → Prop
  | empty {mark : Option Nat} : HostEnd pre uri [] 522 ⟨mark, uri⟩
  | text {c : UInt8} {xs : Bytes} {n : Nat} :
      hostEnds.has n = true → HostEnd pre uri (c :: xs) n ⟨some pre.length, uri⟩

/-- All states in which a host can end lead on alike. -/
structure HostLeads (q : Nat) : Prop where
  ending : Ending q [.save_host, .markh, .save_path]
  slash : goto uri_parser_next q 47 = some ([.save_host, .markh], 513)
  colon : goto uri_parser_next q 58 = some ([.save_host], 514)

theorem hostLeads (h : hostEnds.has q = true) : HostLeads q := by
  have hall := List.all_eq_true.mp host_ends q (States.mem_toList.mpr h)
  simp only [Bool.and_eq_true, decide_eq_true_eq, beq_iff_eq] at hall
  obtain ⟨⟨⟨⟨⟨hfinal, heof⟩, hquery⟩, hfragment⟩, hslash⟩, hcolon⟩ := hall
  exact ⟨⟨hfinal, heof, Table.goto_of_leads hquery rfl, Table.goto_of_leads hfragment rfl⟩,
    Table.goto_of_leads hslash rfl, Table.goto_of_leads hcolon rfl⟩

theorem run_save_host :
    run (pre ++ h ++ rest) .save_host (pre ++ h).length ⟨some pre.length, uri⟩ =
      some ⟨some pre.length, uri.setHost h⟩ := by
  rw [run, if_pos (by simp), marked_append]
  rfl

theorem HostEnd.pathFrom (hend : HostEnd pre uri h q parser) : PathFrom (pre ++ h) rest q parser (uri.setHost h) := by
  cases hend with
  | empty =>
      rw [List.append_nil]
      refine ⟨⟨_, no_host_ending, ?_⟩, ⟨_, no_host_slash, ?_⟩⟩
      · rw [runActs, List.foldlM_cons]
        simp [run]
      · rw [runActs, List.foldlM_cons]
        simp [run]
  | @text c xs n hn =>
      have hhost := @run_save_host pre (c :: xs) rest uri
      obtain ⟨hending, hslash, -⟩ := hostLeads hn
      refine ⟨⟨_, hending, ?_⟩, ⟨_, hslash, ?_⟩⟩
      · rw [runActs, List.foldlM_cons, hhost]
        simp [run]
      · rw [runActs, List.foldlM_cons, hhost]
        rfl

theorem HostEnd.colon (hend : HostEnd pre uri h q parser) :
    ∃ acts mark, goto uri_parser_next q 58 = some (acts, 514) ∧
      ∀ rest, runActs (run (pre ++ h ++ rest)) acts (pre ++ h).length parser = some ⟨mark, uri.setHost h⟩ := by
  cases hend with
  | empty =>
      refine ⟨_, some pre.length, no_host_colon, fun rest => ?_⟩
      rw [List.append_nil, runActs, List.foldlM_cons]
      simp [run]
  | @text c xs n hn =>
      refine ⟨_, some pre.length, (hostLeads hn).colon, fun rest => ?_⟩
      rw [runActs_singleton, run_save_host]

theorem createFrom_host (hhost : IsHost h) :
    ∃ q parser, HostEnd pre uri h q parser ∧
      ∀ rest, createFrom pre (h ++ rest) 522 ⟨mark, uri⟩ = createFrom (pre ++ h) rest q parser := by
  cases hhost with
  | empty => exact ⟨522, ⟨mark, uri⟩, .empty, fun rest => by rw [List.append_nil, List.nil_append]⟩
  | text hgoto _ hw hn => exact ⟨_, _, .text hn, fun rest => createFrom_marked (.inr rfl) hgoto hw⟩

theorem hostEnds_of_acts (hq : hostStates.has q = true) (h : goto uri_parser_next q c = some (acts, n))
    (hacts : acts ≠ []) : hostEnds.has q = true := by
  have hstates : hostStates.has q = (hostEnds.has q || (innerStates ++ literalStates).has q) := by
    rw [hostStates, List.append_assoc, States.has, List.any_append]
    rfl
  rw [hstates, Bool.or_eq_true] at hq
  refine hq.resolve_right fun hinner => hacts ?_
  obtain ⟨e, he, -, -, rfl, -⟩ := Table.exists_edge h
  simpa using Table.of_forEdges host_inner hinner he

theorem hostEnds_of_final (hq : hostStates.has q = true) (h : uri_parser_first_final ≤ q) : hostEnds.has q = true := by
  simp only [hostStates, hostEnds, regStates, innerStates, literalStates, States.has, uri_parser_first_final,
    List.any_append, List.any_cons, List.any_nil, Bool.or_false, Bool.or_eq_true, Bool.and_eq_true,
    Nat.ble_eq] at hq h ⊢
  omega

/-- What is accepted behind the delimiter of a userinfo begins with a host. -/
theorem accepted_host (haccept : createFrom pre xs 522 ⟨mark, uri⟩ = some (some uri')) :
    ∃ h rest q parser, xs = h ++ rest ∧ IsHost h ∧ HostEnd pre uri h q parser ∧
      createFrom (pre ++ h) rest q parser = some (some uri') ∧
        ∀ c ∈ rest.head?, c = 58 ∨ c = 47 ∨ c = 63 ∨ c = 35 := by
  have hempty (hxs : ∀ c ∈ xs.head?, c = 58 ∨ c = 47 ∨ c = 63 ∨ c = 35) :
      ∃ h rest q parser, xs = h ++ rest ∧ IsHost h ∧ HostEnd pre uri h q parser ∧
        createFrom (pre ++ h) rest q parser = some (some uri') ∧
          ∀ c ∈ rest.head?, c = 58 ∨ c = 47 ∨ c = 63 ∨ c = 35 :=
    ⟨[], xs, 522, ⟨mark, uri⟩, rfl, .empty, .empty, by rw [List.append_nil]; exact haccept, hxs⟩
  cases xs with
  | nil => exact hempty fun c hc => nomatch hc
  | cons c xs =>
      obtain ⟨acts, n, parser₁, hgoto, hr, h⟩ := accepted_cons haccept
      rcases Table.next_of_region (c := c) host_start (States.has_singleton.mpr rfl) with
        hno | ⟨s, hs, hgoto'⟩ | ⟨e, he, hnext, hlo, hhi⟩
      · cases hgoto.symm.trans (Option.map_eq_none_iff.mpr hno)
      · cases hgoto.symm.trans hgoto'
        cases hr
        obtain ⟨ys, zs, n, rfl, hw, hn, h, hends⟩ := accepted_region host_region hs h
        rw [List.append_assoc, List.singleton_append] at h
        have hend : hostEnds.has n = true := by
          rcases hends with rfl | ⟨d, rest, rfl, e, he, -, -, hexit⟩
          · exact hostEnds_of_final hn (accepted_nil h).1
          · refine hostEnds_of_acts hn hexit ?_
            rintro hacts
            simp only [List.mem_cons, List.not_mem_nil, or_false] at he
            rcases he with rfl | rfl | rfl | rfl <;> cases hacts
        refine ⟨c :: ys, zs, n, _, rfl, .text hgoto' hs hw hend, .text hend, h, fun d hd => ?_⟩
        rcases hends with rfl | ⟨d', rest, rfl, e, he, hlo, hhi, -⟩
        · cases hd
        · obtain rfl := Option.some.inj hd
          simp only [List.mem_cons, List.not_mem_nil, or_false] at he
          rcases he with rfl | rfl | rfl | rfl
          · exact .inr (.inr (.inr (byte_eq hlo hhi)))
          · exact .inr (.inl (byte_eq hlo hhi))
          · exact .inl (byte_eq hlo hhi)
          · exact .inr (.inr (.inl (byte_eq hlo hhi)))
      · refine hempty fun d hd => ?_
        obtain rfl := Option.some.inj hd
        simp only [List.mem_cons, List.not_mem_nil, or_false] at he
        rcases he with rfl | rfl | rfl | rfl
        · exact .inr (.inr (.inr (byte_eq hlo hhi)))
        · exact .inr (.inl (byte_eq hlo hhi))
        · exact .inl (byte_eq hlo hhi)
        · exact .inr (.inr (.inl (byte_eq hlo hhi)))

/-! ## A host and a port -/

/-- The URI with the components behind the delimiter of a userinfo. -/
def withHost (uri : Uri) (host : Bytes) (port : Option Bytes) : Uri :=
  port.elim (uri.setHost host) fun d => (uri.setHost host).setPort (atoi d)

theorem head_rest (hpath : IsPath path) :
    ∀ c ∈ (path ++ tail query fragment).head?, c = 47 ∨ c = 63 ∨ c = 35 := by
  intro c hc
  cases path with
  | cons d path => exact .inl (hpath.2 c hc)
  | nil =>
      cases query with
      | some q => exact .inr (.inl (Option.some.inj hc).symm)
      | none =>
          cases fragment with
          | some f => exact .inr (.inr (Option.some.inj hc).symm)
          | none => cases hc

theorem not_digit (h : c = 47 ∨ c = 63 ∨ c = 35) : CharClass.digit.has c = false := by
  rcases h with rfl | rfl | rfl <;> rfl

theorem createFrom_hostPort {port : Option Bytes} (hhost : IsHost h) (hport : ∀ d ∈ port, IsPort d)
    (hpath : IsPath path) (hquery : ∀ f ∈ query, Coded query_char f) (hfragment : ∀ f ∈ fragment, Coded query_char f) :
    createFrom pre (h ++ (portText port ++ (path ++ tail query fragment))) 522 ⟨mark, uri⟩ =
      some (some ((uri.withHost h port).withRest path query fragment)) := by
  obtain ⟨q, parser, hend, hrun⟩ := @createFrom_host pre h uri mark hhost
  rw [hrun]
  cases port with
  | none => exact hend.pathFrom.createFrom hpath hquery hfragment
  | some d =>
      obtain ⟨acts, mark', hgoto, hr⟩ := hend.colon
      have hd := hport d rfl
      have htext : portText (some d) ++ (path ++ tail query fragment) =
          58 :: (d ++ (path ++ tail query fragment)) := rfl
      rw [htext, createFrom_cons hgoto (hr _), createFrom_port hd]
      exact (pathFrom_port hd fun c hc => not_digit (head_rest hpath c hc)).createFrom hpath hquery hfragment

/-- What is accepted behind the delimiter of a userinfo. -/
theorem accepted_hostPort (haccept : createFrom pre xs 522 ⟨mark, uri⟩ = some (some uri')) :
    ∃ h port path query fragment, xs = h ++ (portText port ++ (path ++ tail query fragment)) ∧ IsHost h ∧
      (∀ d ∈ port, IsPort d) ∧ IsPath path ∧ (∀ f ∈ query, Coded query_char f) ∧
        ∀ f ∈ fragment, Coded query_char f := by
  obtain ⟨h, rest, q, parser, rfl, hhost, hend, haccept, hhead⟩ := accepted_host haccept
  by_cases hcolon : rest.head? = some 58
  · obtain ⟨rest, rfl⟩ : ∃ ys, rest = 58 :: ys := ⟨rest.tail, (List.cons_head?_tail hcolon).symm⟩
    obtain ⟨acts, mark', hgoto, hr⟩ := hend.colon
    obtain ⟨parser', hr', haccept⟩ := accepted_goto haccept hgoto
    cases hr'.symm.trans (hr _)
    obtain ⟨d, rest, rfl, hd, hhead, haccept⟩ := accepted_port haccept
    obtain ⟨path, query, fragment, rfl, hpath, hquery, hfragment, -⟩ :=
      (pathFrom_port hd fun c hc => not_digit (hhead c hc)).accepted haccept hhead
    refine ⟨h, some d, path, query, fragment, rfl, hhost, fun d' hd' => ?_, hpath, hquery, hfragment⟩
    obtain rfl := Option.some.inj hd'
    exact hd
  · obtain ⟨path, query, fragment, rfl, hpath, hquery, hfragment, -⟩ := hend.pathFrom.accepted haccept fun c hc =>
      (hhead c hc).resolve_left fun heq => hcolon (heq ▸ hc)
    exact ⟨h, none, path, query, fragment, rfl, hhost, (fun d hd => nomatch hd), hpath, hquery, hfragment⟩

end Mingfwq.Uri
