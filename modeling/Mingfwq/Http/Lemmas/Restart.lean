import Mingfwq.Http.Lemmas.ResponseHead

/-!
# The automaton of httpclient_parser.rl, restarted inside a head

The loop of recvResponse restarts the automaton in every round. What the restarted run does with a piece of a head is
compared with the run over the whole head, which is in another state.
-/

namespace Mingfwq.Http

open Lib

/-- The run from state `cs` is broken off at the last byte, in the final state. -/
def httpclient_parser_accepts (bytes : Bytes) (cs : Nat) : Bool :=
  accepts httpclient_parser_next HttpClientParser.Action.breaks httpclient_parser_first_final bytes cs

namespace HttpClientParser

/-- The states of a run over a head, once its first byte is read. -/
def onHead (b : Nat) : Bool := b == 3 || 8 ≤ b

/-- The states of the size line of a chunk, behind the digits. -/
def sized (a : Nat) : Bool := 3 ≤ a && a ≤ 7

/-- The states of a run over a head behind a hexadecimal digit. -/
def behindDigit : List Nat :=
  [13, 15, 17, 19, 21, 23, 25, 29, 30, 38, 42, 46, 49, 50, 53, 55, 57, 64, 69, 70, 73, 78, 79, 81, 86, 87, 90, 94,
    96, 100, 102, 107, 115, 117, 119]

/-- The states a restarted run can be in while the run over the head is in state `b`. -/
def apart (a b : Nat) : Bool :=
  a == 1 || (a == 2 && behindDigit.contains b) || (a == 3 && [24, 71, 88].contains b) ||
    (4 ≤ a && a ≤ 7 && [19, 23].contains b) || (8 ≤ a && a ≤ 11) || (12 ≤ a && a ≤ 18 && [19, 23].contains b) ||
    (a == 19 && [23, 24].contains b)

/-- The states where a header or the end of the head is about to begin. -/
def lineStart (b : Nat) : Bool := b == 20 || b == 43

/-- The check of two edges for the same byte: the run over the head goes on, the restarted one stays beside it or ends
as the size line of a chunk does, at the end of a line. -/
def staysBeside (a : Nat) (e f : Edge Action) : Bool :=
  !f.acts.any Action.breaks && onHead f.target &&
    if e.acts.any Action.breaks then
      lineStart f.target && e.target == httpclient_parser_first_final && (sized a || e.acts.contains .chunk_size)
    else e.target == f.target || (apart e.target f.target &&
      (!sized e.target || sized a || e.acts.contains .chunk_size))

theorem edges_beside {a b : Nat} {c : UInt8} {e f : Edge Action} (h : apart a b = true) (hb : onHead b = true)
    (he : httpclient_parser_next a c = some e) (hf : httpclient_parser_next b c = some f) :
    staysBeside a e f = true := by
  have hall : ∀ row ∈ httpclient_parser_table, row.1 < 20 →
      ∀ row' ∈ httpclient_parser_table, apart row.1 row'.1 = true → onHead row'.1 = true →
        ∀ e ∈ row.2, ∀ f ∈ row'.2, e.lo ≤ f.hi → f.lo ≤ e.hi → staysBeside row.1 e f = true := by decide +kernel
  have ha : a < 20 := by
    simp only [apart, Bool.or_eq_true, Bool.and_eq_true, beq_iff_eq, decide_eq_true_eq] at h
    omega
  obtain ⟨hrow, hlo, hhi⟩ := Table.forall_next (P := fun a e => a < 20 →
      ∀ row' ∈ httpclient_parser_table, apart a row'.1 = true → onHead row'.1 = true →
        ∀ f ∈ row'.2, e.lo ≤ f.hi → f.lo ≤ e.hi → staysBeside a e f = true)
    (fun row hrow e he hlt row' hrow' h hb => hall row hrow hlt row' hrow' h hb e he) he
  obtain ⟨hstay, hlo', hhi'⟩ := Table.forall_next (P := fun b f => apart a b = true → onHead b = true →
      e.lo ≤ f.hi → f.lo ≤ e.hi → staysBeside a e f = true)
    (fun row' hrow' f hf h hb => hrow ha row' hrow' h hb f hf) hf
  exact hstay h hb (by omega) (by omega)

theorem onHead_next {b : Nat} {c : UInt8} {f : Edge Action} (hb : onHead b = true)
    (hf : httpclient_parser_next b c = some f) (hlive : f.acts.any Action.breaks = false) : onHead f.target = true :=
  (Table.forall_next (P := fun b f => onHead b = true → f.acts.any Action.breaks = false → onHead f.target = true)
    (by decide +kernel) hf).1 hb hlive

/-- The states inside the name of a header. -/
def inName (b : Nat) : Bool := b == 21 || (25 ≤ b && b ≤ 34) || (44 ≤ b && b ≤ 60) || (101 ≤ b && b ≤ 111)

/-- The states of a run that is restarted where a line begins, or inside a name. -/
def astray (a b : Nat) : Bool := (a == 1 && lineStart b) || ([1, 2, 8, 9, 10, 11].contains a && inName b)

theorem astray_restart {a b : Nat} (h : astray a b = true) : astray httpclient_parser_start b = true := by
  simp only [astray, Bool.or_eq_true, Bool.and_eq_true] at h ⊢
  rcases h with ⟨-, h⟩ | ⟨-, h⟩
  · exact .inl ⟨rfl, h⟩
  · exact .inr ⟨rfl, h⟩

/-- The check of two edges for the same byte: neither run ends. -/
def goesAstray (e f : Edge Action) : Bool :=
  !e.acts.any Action.breaks && !f.acts.any Action.breaks && astray e.target f.target

/-- The colon behind a name is no byte for the restarted run. -/
theorem edges_astray {a b : Nat} {c : UInt8} {e f : Edge Action} (h : astray a b = true)
    (he : httpclient_parser_next a c = some e) (hf : httpclient_parser_next b c = some f) :
    goesAstray e f = true := by
  have hall : ∀ row ∈ httpclient_parser_table, row.1 < 12 →
      ∀ row' ∈ httpclient_parser_table, astray row.1 row'.1 = true →
        ∀ e ∈ row.2, ∀ f ∈ row'.2, e.lo ≤ f.hi → f.lo ≤ e.hi → goesAstray e f = true := by decide +kernel
  have ha : a < 12 := by
    simp only [astray, Bool.or_eq_true, Bool.and_eq_true, beq_iff_eq, List.contains_iff_mem, List.mem_cons,
      List.not_mem_nil, or_false] at h
    omega
  obtain ⟨hrow, hlo, hhi⟩ := Table.forall_next (P := fun a e => a < 12 →
      ∀ row' ∈ httpclient_parser_table, astray a row'.1 = true → ∀ f ∈ row'.2, e.lo ≤ f.hi → f.lo ≤ e.hi →
        goesAstray e f = true)
    (fun row hrow e he hlt row' hrow' h => hall row hrow hlt row' hrow' h e he) he
  obtain ⟨hgo, hlo', hhi'⟩ := Table.forall_next (P := fun b f => astray a b = true → e.lo ≤ f.hi → f.lo ≤ e.hi →
      goesAstray e f = true) (fun row' hrow' f hf h => hrow ha row' hrow' h f hf) hf
  exact hgo h (by omega) (by omega)

/-! ## The flag of chunks -/

section Chunked

variable {δ : Type} {cb : Callbacks δ} {buffer : Bytes} {n p : Nat} {k k' : HttpClientParser × δ}

theorem run_chunked {a : Action} (h : run cb buffer n a p k = some k') (hset : k.1.chunked = true ∨ a = .chunk_size) :
    k'.1.chunked = true := by
  obtain ⟨parser, d⟩ := k
  cases a with
  | mark | start_field | write_field | start_value | write_content_len | write_connection_close =>
      cases h
      simpa using hset
  | trans_chunked =>
      cases h
      rfl
  | chunk_size =>
      obtain ⟨d', -, rfl⟩ := Option.map_eq_some_iff.mp h
      rfl
  | write_value | reason_phrase | status_code | http_version | done =>
      obtain ⟨d', -, rfl⟩ := Option.map_eq_some_iff.mp h
      simpa using hset

theorem runActs_chunked {acts : List Action} (h : runActs (run cb buffer n) acts p k = some k')
    (hset : k.1.chunked = true ∨ .chunk_size ∈ acts) : k'.1.chunked = true := by
  induction acts generalizing k with
  | nil =>
      cases h
      simpa using hset
  | cons a acts ih =>
      rw [runActs, List.foldlM_cons] at h
      obtain ⟨k₁, hk₁, hrest⟩ := Option.bind_eq_some_iff.mp h
      rcases hset with hset | hset
      · exact ih hrest (.inl (run_chunked hk₁ (.inl hset)))
      · rcases List.mem_cons.mp hset with heq | hmem
        · exact ih hrest (.inl (run_chunked hk₁ (.inr heq.symm)))
        · exact ih hrest (.inr hmem)

end Chunked

/-! ## The runs side by side -/

section Alongside

variable {δ : Type} {cb : Callbacks δ} {buffer xs rest : Bytes} {n p a b : Nat} {k k' : HttpClientParser × δ}

/-- In the state of the run over the head, or apart from it and then, behind a size, with the flag of chunks set. -/
def Alongside (a b : Nat) (k : HttpClientParser × δ) : Prop :=
  onHead b = true ∧ (a = b ∨ apart a b = true ∧ (sized a = true → k.1.chunked = true))

/-- The restarted run is broken off together with the run over the head, or at the end of a line that it takes for a
size. -/
def EndsAlongside (both : Bool) (a b : Nat) (k : HttpClientParser × δ) : Prop :=
  if both then a = b else a = httpclient_parser_first_final ∧ lineStart b = true ∧ k.1.chunked = true

theorem Alongside.restart (h : Alongside a b k) (k' : HttpClientParser × δ) :
    Alongside httpclient_parser_start b k' :=
  ⟨h.1, .inr ⟨rfl, fun hsized => absurd hsized (by decide)⟩⟩

theorem Alongside.step {c : UInt8} {e f : Edge Action} (h : Alongside a b k) (he : httpclient_parser_next a c = some e)
    (hf : httpclient_parser_next b c = some f) (hk : runActs (run cb buffer n) e.acts p k = some k') :
    if e.acts.any Action.breaks then EndsAlongside (f.acts.any Action.breaks) e.target f.target k'
    else f.acts.any Action.breaks = false ∧ Alongside e.target f.target k' := by
  obtain ⟨hb, rfl | ⟨hapart, hflag⟩⟩ := h
  · cases he.symm.trans hf
    split
    · next hbreaks =>
        rw [hbreaks]
        rfl
    · next hlive =>
        have hlive := eq_false_of_ne_true hlive
        exact ⟨hlive, onHead_next hb hf hlive, .inl rfl⟩
  · have hstay := edges_beside hapart hb he hf
    simp only [staysBeside, Bool.and_eq_true, Bool.not_eq_true'] at hstay
    obtain ⟨⟨hlive, hhead⟩, hstay⟩ := hstay
    have hset : sized a = true ∨ .chunk_size ∈ e.acts → k'.1.chunked = true := by
      intro hset
      exact runActs_chunked hk (hset.imp_left hflag)
    split at hstay
    · next hbreaks =>
        rw [if_pos hbreaks, hlive]
        simp only [Bool.and_eq_true, Bool.or_eq_true, List.contains_iff_mem, beq_iff_eq] at hstay
        exact ⟨hstay.1.2, hstay.1.1, hset hstay.2⟩
    · next hgo =>
        rw [if_neg hgo]
        simp only [Bool.and_eq_true, Bool.or_eq_true, List.contains_iff_mem, beq_iff_eq, Bool.not_eq_true'] at hstay
        refine ⟨hlive, hhead, hstay.imp_right fun ⟨hapart', hsized⟩ => ⟨hapart', fun hs => hset ?_⟩⟩
        rcases hsized with (hno | hsized) | hmem
        · exact absurd (hno.symm.trans hs) (by decide)
        · exact .inl hsized
        · exact .inr hmem

/-- A restarted run over a piece, while the run over the head goes on to its end. -/
theorem Alongside.scan (h : Alongside a b k)
    (hacc : httpclient_parser_accepts (xs ++ rest) b = true) :
    (Lib.scan httpclient_parser_next Action.breaks (run cb buffer n) p xs a k).Beside httpclient_parser_next
      Action.breaks httpclient_parser_first_final Alongside EndsAlongside p xs rest :=
  scan_beside (fun h he hf hk => h.step he hf hk) h hacc

/-- The first run over a head is in the same state. -/
theorem scan_first (hfirst : xs.head? = some 72)
    (hacc : httpclient_parser_accepts (xs ++ rest) httpclient_parser_start) :
    (Lib.scan httpclient_parser_next Action.breaks (run cb buffer n) p xs httpclient_parser_start k).Beside
      httpclient_parser_next Action.breaks httpclient_parser_first_final Alongside EndsAlongside p xs rest := by
  obtain ⟨t, rfl⟩ : ∃ t, xs = 72 :: t := by
    cases xs with
    | nil => cases hfirst
    | cons c t => exact ⟨t, by rw [Option.some.inj hfirst]⟩
  have hedge : httpclient_parser_next httpclient_parser_start 72 = some ⟨72, 72, [.mark], 8⟩ := by rfl
  obtain ⟨e, he, hrest⟩ := accepts_cons hacc
  cases hedge.symm.trans he
  rw [scan_cons_live hedge rfl rfl]
  have halong : ∀ k : HttpClientParser × δ, Alongside 8 8 k := fun _ => ⟨rfl, .inl rfl⟩
  exact ((halong _).scan hrest).cons

/-- A run that is astray is never broken off: it fails, or both go on. -/
theorem astray_scan (h : astray a b = true)
    (hacc : httpclient_parser_accepts (xs ++ rest) b = true) :
    (Lib.scan httpclient_parser_next Action.breaks (run cb buffer n) p xs a k).Failed ∨
      ∃ a' k' b', Lib.scan httpclient_parser_next Action.breaks (run cb buffer n) p xs a k = .live a' k' ∧
        astray a' b' = true ∧ httpclient_parser_accepts rest b' = true := by
  have hbeside : (Lib.scan httpclient_parser_next Action.breaks (run cb buffer n) p xs a k).Beside
      httpclient_parser_next Action.breaks httpclient_parser_first_final (fun a b _ => astray a b = true)
        (fun _ _ _ _ => False) p xs rest := by
    apply scan_beside _ h hacc
    intro a b k k' c e f p h he hf _
    have hgo := edges_astray h he hf
    simp only [goesAstray, Bool.and_eq_true, Bool.not_eq_true'] at hgo
    rw [hgo.1.1, if_neg Bool.false_ne_true]
    exact ⟨hgo.1.2, hgo.2⟩
  cases hrun : Lib.scan httpclient_parser_next Action.breaks (run cb buffer n) p xs a k with
  | live a' k' =>
      rw [hrun] at hbeside
      obtain ⟨b', hastray, haccepts⟩ := hbeside
      exact .inr ⟨a', k', b', rfl, hastray, haccepts⟩
  | stop p' cs k' =>
      rw [hrun] at hbeside
      obtain ⟨both, b', n, hno, -⟩ := hbeside
      exact hno.elim
  | err p' k' => exact .inl trivial
  | fault => exact .inl trivial

end Alongside

end HttpClientParser

end Mingfwq.Http
