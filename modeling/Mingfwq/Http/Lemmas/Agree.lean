import Mingfwq.Http.Lemmas.Registers
import Mingfwq.Http.Lemmas.Pending

/-!
# Two runs over the same bytes

The bytes of a read stand at offset `b` of another buffer. As long as a run reads only registers it has set itself,
the run over the other buffer hands the same pieces to the callbacks.
-/

namespace Mingfwq.Http

open Lib

/-! ## Callbacks see only the piece they get -/

section Callback

variable {α : Type} {at_ at' value value' : Bytes} {length vlen : Nat} {parsed : Parsed α}

/-- Two pointers at the same `length` bytes. -/
structure SamePiece (at_ at' : Bytes) (length : Nat) : Prop where
  take_eq : at_.take length = at'.take length
  le : length ≤ at_.length
  le' : length ≤ at'.length

theorem stdString_some (h : SamePiece at_ at' length) : stdString at_ length = some (at_.take length) :=
  if_pos h.le

theorem stdString_congr (h : SamePiece at_ at' length) : stdString at_ length = stdString at' length := by
  rw [stdString, stdString, if_pos h.le, if_pos h.le', h.take_eq]

theorem strncmpEq_take (a s : Bytes) (n : Nat) : strncmpEq (a.take n) s n = strncmpEq a s n := by
  induction n generalizing a s with
  | zero => simp only [strncmpEq]
  | succ n ih =>
      cases a with
      | nil => rfl
      | cons a as =>
          cases s with
          | nil => rfl
          | cons b bs => simp only [List.take_succ_cons, strncmpEq, ih]

theorem strncmpEq_congr {s : Bytes} (h : SamePiece at_ at' length) :
    strncmpEq at_ s length = strncmpEq at' s length := by
  rw [← strncmpEq_take, h.take_eq, strncmpEq_take]

theorem setString_congr {set : Bytes → α → α} (h : SamePiece at_ at' length) :
    Parsed.setString set parsed at_ length = Parsed.setString set parsed at' length := by
  rw [Parsed.setString, Parsed.setString, stdString_congr h]

theorem setString_some {set : Bytes → α → α} (h : SamePiece at_ at' length) :
    ∃ parsed', Parsed.setString set parsed at_ length = some parsed' :=
  ⟨_, by rw [Parsed.setString, stdString_some h]; rfl⟩

theorem setVersion_congr {set : UInt8 → α → α} (h : SamePiece at_ at' length) :
    Parsed.setVersion set parsed at_ length = Parsed.setVersion set parsed at' length := by
  simp only [Parsed.setVersion, strncmpEq_congr h, stdString_congr h]

theorem setVersion_some {set : UInt8 → α → α} (h : SamePiece at_ at' length) :
    ∃ parsed', Parsed.setVersion set parsed at_ length = some parsed' := by
  rw [Parsed.setVersion, stdString_some h]
  split
  · exact ⟨_, rfl⟩
  · split
    · exact ⟨_, rfl⟩
    · exact ⟨_, rfl⟩

theorem setHeader_congr {set : Bytes → Bytes → α → α} (h : SamePiece at_ at' length)
    (hv : SamePiece value value' vlen) :
    Parsed.setHeader set parsed at_ length value vlen = Parsed.setHeader set parsed at' length value' vlen := by
  rw [Parsed.setHeader, Parsed.setHeader, stdString_congr h, stdString_congr hv]

theorem setHeader_some {set : Bytes → Bytes → α → α} (h : SamePiece at_ at' length)
    (hv : SamePiece value value' vlen) : ∃ parsed', Parsed.setHeader set parsed at_ length value vlen =
      some parsed' := by
  rw [Parsed.setHeader, stdString_some h, stdString_some hv]
  split
  · exact ⟨_, rfl⟩
  · exact ⟨_, rfl⟩

theorem isPrefixOf_blank {name tok x : Bytes} (h : 32 ∉ name) :
    name.isPrefixOf (tok ++ 32 :: x) = name.isPrefixOf tok := by
  induction name generalizing tok with
  | nil => simp
  | cons c name ih =>
      have hc : c ≠ 32 := fun hc => h (hc ▸ List.mem_cons_self)
      cases tok with
      | nil => simp [List.isPrefixOf, hc]
      | cons t tok => simp only [List.cons_append, List.isPrefixOf, ih (fun hm => h (List.mem_cons_of_mem _ hm))]

theorem CharsToHttpMethod_blank {tok x y : Bytes} :
    CharsToHttpMethod (tok ++ 32 :: x) = CharsToHttpMethod (tok ++ 32 :: y) := by
  have hnames : ∀ m ∈ HTTP_METHOD_MAP, 32 ∉ ascii m.2 := by decide
  have hfind : HTTP_METHOD_MAP.find? (fun m => (ascii m.2).isPrefixOf (tok ++ 32 :: x)) =
      HTTP_METHOD_MAP.find? (fun m => (ascii m.2).isPrefixOf (tok ++ 32 :: y)) := by
    rw [← List.head?_filter, ← List.head?_filter]
    congr 1
    apply List.filter_congr
    intro m hm
    rw [isPrefixOf_blank (hnames m hm), isPrefixOf_blank (hnames m hm)]
  rw [CharsToHttpMethod, CharsToHttpMethod, hfind]

theorem on_request_method_congr {parsed : Parsed HttpRequest} (h : SamePiece at_ at' length)
    (hblank : at_[length]? = some 32) (hblank' : at'[length]? = some 32) :
    on_request_method parsed at_ length = on_request_method parsed at' length := by
  have hsplit : ∀ {l : Bytes}, l[length]? = some 32 → l = l.take length ++ 32 :: l.drop (length + 1) := by
    intro l hl
    obtain ⟨hlt, hget⟩ := List.getElem?_eq_some_iff.mp hl
    rw [← hget, List.getElem_cons_drop, List.take_append_drop]
  have hm : CharsToHttpMethod at_ = CharsToHttpMethod at' := by
    rw [hsplit hblank, hsplit hblank', h.take_eq]
    exact CharsToHttpMethod_blank
  simp only [on_request_method, hm, stdString_congr h]

theorem on_request_method_some {parsed : Parsed HttpRequest} (h : SamePiece at_ at' length) :
    ∃ parsed', on_request_method parsed at_ length = some parsed' := by
  rw [on_request_method, stdString_some h]
  dsimp only
  split
  · exact ⟨_, rfl⟩
  · exact ⟨_, rfl⟩

end Callback

/-! ## The runs -/

variable {buffer buffer' : Bytes} {b n n' p : Nat}

/-- The first `n` bytes of one buffer are the bytes from `b` on of the other. -/
structure Shifted (buffer buffer' : Bytes) (b n : Nat) : Prop where
  take_eq : buffer.take n = (buffer'.drop b).take n
  le : n ≤ buffer.length
  le' : b + n ≤ buffer'.length

theorem Shifted.samePiece (h : Shifted buffer buffer' b n) {i length : Nat} (hle : i + length ≤ n) :
    SamePiece (buffer.drop i) (buffer'.drop (b + i)) length := by
  have hle₁ := h.le
  have hle₂ := h.le'
  refine ⟨?_, by rw [List.length_drop]; omega, by rw [List.length_drop]; omega⟩
  have htake : ((buffer.take n).drop i).take length = (((buffer'.drop b).take n).drop i).take length := by
    rw [h.take_eq]
  rw [List.drop_take, List.drop_take, List.take_take, List.take_take, Nat.min_eq_left (by omega),
    List.drop_drop] at htake
  exact htake

theorem Shifted.getElem? (h : Shifted buffer buffer' b n) (hp : p < n) : buffer[p]? = buffer'[b + p]? := by
  have hget : (buffer.take n)[p]? = ((buffer'.drop b).take n)[p]? := by rw [h.take_eq]
  rw [List.getElem?_take_of_lt hp, List.getElem?_take_of_lt hp, List.getElem?_drop] at hget
  exact hget

/-- Two runs with the same message so far, that agree on the registers the first has set, before position `p`. -/
structure Agree (b p : Nat) (own : List HttpParser.Register) (k k' : HttpParser × Parsed HttpRequest) : Prop where
  parsed_eq : k.2 = k'.2
  mark : .mark ∈ own → k.1.mark ≤ p ∧ k'.1.mark = b + k.1.mark
  field_start : .field_start ∈ own → k.1.field_start ≤ p ∧ k'.1.field_start = b + k.1.field_start
  field_len : .field_len ∈ own → k.1.field_start + k.1.field_len ≤ p ∧ k'.1.field_len = k.1.field_len
  query_start : .query_start ∈ own → k.1.query_start ≤ p ∧ k'.1.query_start = b + k.1.query_start

namespace Agree

variable {own own' : List HttpParser.Register} {k k' : HttpParser × Parsed HttpRequest}
  {parser parser' : HttpParser} {d d' : Parsed HttpRequest} {a : HttpParser.Action}

theorem of_nil (h : k.2 = k'.2) : Agree b p [] k k' := by
  refine ⟨h, ?_, ?_, ?_, ?_⟩ <;>
  · intro hr
    cases hr

theorem mono (h : Agree b p own k k') (hsub : own' ⊆ own) : Agree b p own' k k' :=
  ⟨h.parsed_eq, fun hr => h.mark (hsub hr), fun hr => h.field_start (hsub hr), fun hr => h.field_len (hsub hr),
    fun hr => h.query_start (hsub hr)⟩

theorem next (h : Agree b p own k k') : Agree b (p + 1) own k k' := by
  refine ⟨h.parsed_eq, fun hr => ?_, fun hr => ?_, fun hr => ?_, fun hr => ?_⟩
  · exact ⟨Nat.le_succ_of_le (h.mark hr).1, (h.mark hr).2⟩
  · exact ⟨Nat.le_succ_of_le (h.field_start hr).1, (h.field_start hr).2⟩
  · exact ⟨Nat.le_succ_of_le (h.field_len hr).1, (h.field_len hr).2⟩
  · exact ⟨Nat.le_succ_of_le (h.query_start hr).1, (h.query_start hr).2⟩

/-- Both runs go on, and stay agreed. -/
def Both (b p : Nat) (own : List HttpParser.Register) (o o' : Option (HttpParser × Parsed HttpRequest)) : Prop :=
  ∃ k k', o = some k ∧ o' = some k' ∧ Agree b p own k k'

theorem callback {o o' : Option (Parsed HttpRequest)} (h : Agree b p own (parser, d) (parser', d'))
    (hsome : ∃ e, o = some e) (ho : o = o') : Both b p own (o.map (parser, ·)) (o'.map (parser', ·)) := by
  obtain ⟨e, he⟩ := hsome
  subst ho
  subst he
  exact ⟨_, _, rfl, rfl, rfl, h.mark, h.field_start, h.field_len, h.query_start⟩

theorem LEN_eq {reg reg' : Nat} (hreg : reg ≤ p ∧ reg' = b + reg) : LEN reg' (b + p) = LEN reg p := by
  rw [hreg.2, LEN_of_le (by omega), LEN_of_le hreg.1]
  omega

theorem piece {reg reg' : Nat} (hsh : Shifted buffer buffer' b n) (hp : p < n) (hreg : reg ≤ p ∧ reg' = b + reg) :
    SamePiece (buffer.drop reg) (buffer'.drop reg') (LEN reg p) := by
  rw [hreg.2, LEN_of_le hreg.1]
  exact hsh.samePiece (by omega)

/-- A callback on the piece from a register on. -/
theorem element {cb : ElementCb (Parsed HttpRequest)} {reg reg' : Nat}
    (h : Agree b p own (parser, d) (parser', d))
    (hsome : ∀ at_ at' length, SamePiece at_ at' length → ∃ e, cb d at_ length = some e)
    (hcb : ∀ at_ at' length, SamePiece at_ at' length → cb d at_ length = cb d at' length)
    (hsh : Shifted buffer buffer' b n) (hp : p < n) (hreg : reg ≤ p ∧ reg' = b + reg) :
    Both b p own ((cb d (buffer.drop reg) (LEN reg p)).map (parser, ·))
      ((cb d (buffer'.drop reg') (LEN reg' (b + p))).map (parser', ·)) := by
  rw [LEN_eq hreg]
  exact h.callback (hsome _ _ _ (piece hsh hp hreg)) (hcb _ _ _ (piece hsh hp hreg))

theorem watch_own (hw : HttpParser.registerUse.watch a p own = some own') :
    (∀ r ∈ HttpParser.registerUse.reads a, r ∈ own) ∧
      own' = HttpParser.registerUse.sets a ++ own.filter (· ∉ HttpParser.registerUse.drops a) := by
  rw [RegisterUse.watch] at hw
  split at hw
  · next hreads => exact ⟨hreads, (Option.some.inj hw).symm⟩
  · cases hw

/-- An action at the same byte keeps two runs agreed, if the first has set what it reads. -/
theorem run (hsh : Shifted buffer buffer' b n) (hp : p < n)
    (hblank : a = .request_method → buffer[p]? = some 32) (h : Agree b p own k k')
    (hw : HttpParser.registerUse.watch a p own = some own') :
    Both b p own' (HttpParser.run HttpRequestParser.callbacks buffer n a p k)
      (HttpParser.run HttpRequestParser.callbacks buffer' n' a (b + p) k') := by
  obtain ⟨parser, d⟩ := k
  obtain ⟨parser', d'⟩ := k'
  obtain ⟨hreads, rfl⟩ := watch_own hw
  have hd : d = d' := h.parsed_eq
  subst hd
  have hfilter : own.filter (· ∉ HttpParser.registerUse.drops a) ⊆ own := List.filter_subset_self own
  have h' := h.mono hfilter
  cases a with
  | mark | start_value =>
      refine ⟨_, _, rfl, rfl, rfl, fun _ => ⟨Nat.le_refl p, rfl⟩, fun hr => h.field_start ?_, fun hr => h.field_len ?_,
        fun hr => h.query_start ?_⟩ <;> simpa [HttpParser.registerUse] using hr
  | start_field =>
      refine ⟨_, _, rfl, rfl, rfl, fun hr => h.mark ?_, fun _ => ⟨Nat.le_refl p, rfl⟩, fun hr => ?_,
        fun hr => h.query_start ?_⟩
      · simpa [HttpParser.registerUse] using hr
      · simp [HttpParser.registerUse] at hr
      · simpa [HttpParser.registerUse] using hr
  | write_field =>
      have hstart := h.field_start (hreads _ (List.mem_singleton.mpr rfl))
      refine ⟨_, _, rfl, rfl, rfl, fun hr => h.mark ?_, fun _ => hstart, fun _ => ?_, fun hr => h.query_start ?_⟩
      · simpa [HttpParser.registerUse] using hr
      · refine ⟨?_, LEN_eq hstart⟩
        simp only [LEN_of_le hstart.1]
        have := hstart.1
        dsimp only at this ⊢
        omega
      · simpa [HttpParser.registerUse] using hr
  | start_query =>
      refine ⟨_, _, rfl, rfl, rfl, fun hr => h.mark ?_, fun hr => h.field_start ?_, fun hr => h.field_len ?_,
        fun _ => ⟨Nat.le_refl p, rfl⟩⟩ <;> simpa [HttpParser.registerUse] using hr
  | xml | json | request_uri =>
      exact ⟨_, _, rfl, rfl, rfl, h'.mark, h'.field_start, h'.field_len, h'.query_start⟩
  | done =>
      simp only [HttpParser.run, HttpRequestParser.callbacks, on_request_header_done, Parsed.ignore, Option.map_some]
      split <;> split <;> exact ⟨_, _, rfl, rfl, rfl, h'.mark, h'.field_start, h'.field_len, h'.query_start⟩
  | request_method =>
      have hmark := h.mark (hreads _ (List.mem_singleton.mpr rfl))
      have hle := hmark.1
      have hget : (buffer.drop parser.mark)[LEN parser.mark p]? = some 32 := by
        rw [LEN_of_le hle, List.getElem?_drop, Nat.add_sub_cancel' hle]
        exact hblank rfl
      have hget' : (buffer'.drop parser'.mark)[LEN parser.mark p]? = some 32 := by
        rw [LEN_of_le hle, List.getElem?_drop, hmark.2, Nat.add_assoc, Nat.add_sub_cancel' hle, ← hsh.getElem? hp]
        exact hblank rfl
      refine h'.callback (on_request_method_some (piece hsh hp hmark)) ?_
      rw [LEN_eq hmark]
      exact on_request_method_congr (piece hsh hp hmark) hget hget'
  | fragment | request_path =>
      dsimp only [HttpParser.run, HttpRequestParser.callbacks]
      exact h'.element (fun _ _ _ => setString_some) (fun _ _ _ => setString_congr) hsh hp
        (h.mark (hreads _ (List.mem_singleton.mpr rfl)))
  | query_string =>
      dsimp only [HttpParser.run, HttpRequestParser.callbacks]
      exact h'.element (fun _ _ _ => setString_some) (fun _ _ _ => setString_congr) hsh hp
        (h.query_start (hreads _ (List.mem_singleton.mpr rfl)))
  | http_version =>
      dsimp only [HttpParser.run, HttpRequestParser.callbacks]
      exact h'.element (fun _ _ _ => setVersion_some) (fun _ _ _ => setVersion_congr) hsh hp
        (h.mark (hreads _ (List.mem_singleton.mpr rfl)))
  | write_value =>
      have hstart := h.field_start (hreads _ (by simp [HttpParser.registerUse]))
      have hlen := h.field_len (hreads _ (by simp [HttpParser.registerUse]))
      have hmark := h.mark (hreads _ (by simp [HttpParser.registerUse]))
      have hname : SamePiece (buffer.drop parser.field_start) (buffer'.drop parser'.field_start) parser.field_len := by
        rw [hstart.2]
        exact hsh.samePiece (Nat.le_trans hlen.1 (Nat.le_of_lt hp))
      dsimp only [HttpParser.run, HttpRequestParser.callbacks]
      refine h'.callback (setHeader_some hname (piece hsh hp hmark)) ?_
      rw [LEN_eq hmark, hlen.2]
      exact setHeader_congr hname (piece hsh hp hmark)

/-- The runs over `bytes`, which stand at position `p` of one buffer and at `b + p` of the other, end alike. -/
theorem scan {uri_relaxed : Bool} {bytes : Bytes} {cs : Nat} (hsh : Shifted buffer buffer' b n)
    (hbytes : bytes = (buffer.take n).drop p) (hp : p + bytes.length = n) (h : Agree b p own k k')
    (hwatch : Lib.scan (http_parser_next uri_relaxed) HttpParser.Action.breaks HttpParser.registerUse.watch p bytes cs
      own ≠ .fault) :
    (Lib.scan (http_parser_next uri_relaxed) HttpParser.Action.breaks
        (HttpParser.run HttpRequestParser.callbacks buffer n) p bytes cs k).Rel b (fun k k' => k.2 = k'.2)
      (Lib.scan (http_parser_next uri_relaxed) HttpParser.Action.breaks
        (HttpParser.run HttpRequestParser.callbacks buffer' n') (b + p) bytes cs k') := by
  refine scan_sim (R := fun rest p own k k' => rest = (buffer.take n).drop p ∧ p + rest.length = n ∧ Agree b p own k k')
    ?_ ?_ ⟨hbytes, hp, h⟩ hwatch
  · rintro c rest cs e p own own' k k' ⟨hrest, hlen, hagree⟩ he hw
    rw [List.length_cons] at hlen
    have hlt : p < n := by omega
    have hget : buffer[p]? = some c := by
      have hhead : ((buffer.take n).drop p)[0]? = some c := by rw [← hrest]; rfl
      rwa [List.getElem?_drop, Nat.add_zero, List.getElem?_take_of_lt hlt] at hhead
    have hacts : Both b p own' (runActs (HttpParser.run HttpRequestParser.callbacks buffer n) e.acts p k)
        (runActs (HttpParser.run HttpRequestParser.callbacks buffer' n') e.acts (b + p) k') := by
      refine runActs_sim (R := fun own => Agree b p own) ?_ hagree hw
      intro a ha own own' k k' hk hw
      exact Agree.run hsh hlt (fun hm => http_parser_method_blank he (hm ▸ ha) ▸ hget) hk hw
    obtain ⟨k₁, k₁', hr, hr', hk⟩ := hacts
    have hrest' : rest = (buffer.take n).drop (p + 1) := by
      rw [← List.drop_drop, ← hrest]
      rfl
    exact ⟨k₁, k₁', hr, hr', hrest', by omega, hk.next⟩
  · rintro rest p own k k' ⟨-, -, hagree⟩
    exact hagree.parsed_eq

end Agree

end Mingfwq.Http
