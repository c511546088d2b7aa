import Mingfwq.Http.HttpParser

/-!
# The size of a chunk

What the automaton and `strtol` make of the line in front of the data of a chunk.
-/

namespace Mingfwq.Http

open Lib

/-- `xdigit` -/
def xdigit (c : UInt8) : Bool := (digit 16 c).isSome

/-- `chunk_size = xdigit+` -/
structure IsChunkSize (size : Bytes) : Prop where
  ne_nil : size ≠ []
  digits : ∀ c ∈ size, xdigit c = true

def crlf : Bytes := [13, 10]

@[simp] theorem length_crlf : crlf.length = 2 := rfl

variable {base acc acc' : Nat} {c : UInt8} {size xs ys rest : Bytes}

/-! ## The value of the digits -/

theorem digitsValue_append (h : ∀ c ∈ xs, (digit base c).isSome) :
    digitsValue base (xs ++ ys) acc = digitsValue base ys (digitsValue base xs acc) := by
  induction xs generalizing acc with
  | nil => rfl
  | cons c xs ih =>
      obtain ⟨d, hd⟩ := Option.isSome_iff_exists.mp (h c List.mem_cons_self)
      simp only [List.cons_append, digitsValue, hd]
      exact ih fun c hc => h c (List.mem_cons_of_mem _ hc)

theorem digitsValue_stop (h : ∀ c ∈ xs, (digit base c).isSome) (hc : digit base c = none) :
    digitsValue base (xs ++ c :: rest) acc = digitsValue base xs acc := by
  rw [digitsValue_append h]
  simp only [digitsValue, hc]

theorem digitsValue_mono (h : acc ≤ acc') : digitsValue base xs acc ≤ digitsValue base xs acc' := by
  induction xs generalizing acc acc' with
  | nil => exact h
  | cons c xs ih =>
      simp only [digitsValue]
      cases digit base c with
      | none => exact h
      | some d => exact ih (Nat.add_le_add_right (Nat.mul_le_mul_right base h) d)

theorem digitsValue_suffix (h : ∀ c ∈ ys, (digit base c).isSome) (hsuffix : xs <:+ ys) :
    digitsValue base xs 0 ≤ digitsValue base ys 0 := by
  obtain ⟨lost, rfl⟩ := hsuffix
  rw [digitsValue_append fun c hc => h c (List.mem_append_left _ hc)]
  exact digitsValue_mono (Nat.zero_le _)

theorem digitsValue_zeros (n : Nat) : digitsValue 16 (List.replicate n 48) 0 = 0 := by
  have hzero : digit 16 48 = some 0 := by decide
  induction n with
  | zero => rfl
  | succ n ih =>
      simp only [List.replicate_succ, digitsValue, hzero]
      exact ih

/-- A digit is no blank and no sign, and not the `x` of a prefix. -/
theorem xdigit_plain (h : xdigit c = true) :
    isspace c = false ∧ c ≠ 45 ∧ c ≠ 43 ∧ c ≠ 120 ∧ c ≠ 88 ∧ c ≠ 13 ∧ c ≠ 10 := by
  revert h
  exact forall_byte (P := fun c => xdigit c = true →
    isspace c = false ∧ c ≠ 45 ∧ c ≠ 43 ∧ c ≠ 120 ∧ c ≠ 88 ∧ c ≠ 13 ∧ c ≠ 10) (by decide +kernel) c

theorem skipHexPrefix_digits (h : ∀ c ∈ xs, xdigit c = true) :
    skipHexPrefix 16 (xs ++ 13 :: rest) = xs ++ 13 :: rest := by
  rw [skipHexPrefix.eq_def]
  split
  · next x d s heq =>
      have hx : x ≠ 120 ∧ x ≠ 88 := by
        cases xs with
        | nil => cases heq
        | cons c xs =>
            cases xs with
            | nil =>
                simp only [List.cons_append, List.nil_append, List.cons.injEq] at heq
                rw [← heq.2.1]
                decide
            | cons c' xs =>
                simp only [List.cons_append, List.cons.injEq] at heq
                obtain ⟨-, -, -, hx, hx', -⟩ := xdigit_plain (h c' (by simp))
                exact ⟨heq.2.1 ▸ hx, heq.2.1 ▸ hx'⟩
      rw [if_neg fun hprefix => hprefix.2.1.elim hx.1 hx.2, heq]
  · rfl

theorem strtol_size (h : IsChunkSize size) :
    strtol (size ++ 13 :: rest) 16 = min (2 ^ 63 - 1) (digitsValue 16 size 0 : Int) := by
  obtain ⟨hne, hdigits⟩ := h
  have hvalue : digitsValue 16 (size ++ 13 :: rest) 0 = digitsValue 16 size 0 :=
    digitsValue_stop hdigits (by decide)
  have hskip : skipHexPrefix 16 (size ++ 13 :: rest) = size ++ 13 :: rest := skipHexPrefix_digits hdigits
  cases size with
  | nil => exact absurd rfl hne
  | cons c size =>
      obtain ⟨hspace, hminus, hplus, -⟩ := xdigit_plain (hdigits c List.mem_cons_self)
      rw [List.cons_append] at hvalue hskip ⊢
      simp only [strtol, List.dropWhile_cons, hspace, Bool.false_eq_true, if_false]
      split
      · next heq => exact absurd (List.cons.inj heq).1 hminus
      · next heq => exact absurd (List.cons.inj heq).1 hplus
      · rw [hskip, hvalue]

/-- The content_len of a chunk of this size. -/
def sizeValue (size : Bytes) : Int := toInt32 (min (2 ^ 63 - 1) (digitsValue 16 size 0 : Int))

/-- It is the size, unless that is too great for an `int`. -/
theorem sizeValue_of_lt (h : digitsValue 16 size 0 < 2 ^ 31) : sizeValue size = digitsValue 16 size 0 := by
  rw [sizeValue, toInt32, Int.min_eq_right (by omega), Int.bmod_eq_of_le] <;> omega

theorem sizeValue_lt (size : Bytes) : sizeValue size < 2 ^ 31 := by
  have h := Int.bmod_lt (x := min (2 ^ 63 - 1) (digitsValue 16 size 0 : Int)) (m := 2 ^ 32) (by decide)
  rw [sizeValue, toInt32]
  omega

/-- A content_len that is not negative is no more than the size. -/
theorem sizeValue_le (h : 0 ≤ sizeValue size) : sizeValue size ≤ digitsValue 16 size 0 := by
  rw [sizeValue, toInt32, Int.bmod_def] at h ⊢
  split at h <;> omega

/-- A content_len of 0 is a multiple of 2^32. -/
theorem sizeValue_eq_zero (h : sizeValue size = 0) : 2 ^ 32 ∣ digitsValue 16 size 0 := by
  rw [sizeValue, toInt32, Int.bmod_def] at h
  omega

/-! ## The run over the line -/

open HttpClientParser HttpResponseParser

theorem next_xdigit (h : xdigit c = true) :
    (∃ e, httpclient_parser_next httpclient_parser_start c = some e ∧ e.acts = [.mark] ∧ e.target = 2) ∧
      ∃ e, httpclient_parser_next 2 c = some e ∧ e.acts = [] ∧ e.target = 2 := by
  have hall := forall_byte (P := fun c => xdigit c = true →
    (httpclient_parser_next httpclient_parser_start c).map (fun e => (e.acts, e.target)) = some ([.mark], 2) ∧
      (httpclient_parser_next 2 c).map (fun e => (e.acts, e.target)) = some ([], 2)) (by decide +kernel) c h
  obtain ⟨⟨e, he, heq⟩, ⟨f, hf, hfeq⟩⟩ := hall.imp Option.map_eq_some_iff.mp Option.map_eq_some_iff.mp
  simp only [Prod.mk.injEq] at heq hfeq
  exact ⟨⟨e, he, heq⟩, ⟨f, hf, hfeq⟩⟩

section Line

variable {buffer : Bytes} {n p : Nat} {m : HttpClientParser} {d : Parsed HttpResponse}

theorem scan_digits {δ : Type} {cb : Callbacks δ} {k : HttpClientParser × δ} (h : ∀ c ∈ xs, xdigit c = true) :
    scan httpclient_parser_next Action.breaks (HttpClientParser.run cb buffer n) p xs 2 k = .live 2 k := by
  induction xs generalizing p with
  | nil => rfl
  | cons c xs ih =>
      obtain ⟨e, he, hacts, htarget⟩ := (next_xdigit (h c List.mem_cons_self)).2
      rw [scan_cons_live he (by rw [hacts]; rfl) (by rw [hacts]; rfl), htarget]
      exact ih fun c hc => h c (List.mem_cons_of_mem _ hc)

theorem scan_size (h : IsChunkSize size) :
    scan httpclient_parser_next Action.breaks (HttpClientParser.run callbacks buffer n) p size httpclient_parser_start
      (m, d) = .live 2 ({ m with mark := p }, d) := by
  obtain ⟨hne, hdigits⟩ := h
  cases size with
  | nil => exact absurd rfl hne
  | cons c size =>
      obtain ⟨e, he, hacts, htarget⟩ := (next_xdigit (hdigits c List.mem_cons_self)).1
      have hmarked : runActs (HttpClientParser.run callbacks buffer n) e.acts p (m, d) =
          some ({ m with mark := p }, d) := by
        rw [hacts]
        rfl
      rw [scan_cons_live he hmarked (by rw [hacts]; rfl), htarget]
      exact scan_digits fun c hc => hdigits c (List.mem_cons_of_mem _ hc)

/-- The parser behind the size. -/
def sizedParser (m : HttpClientParser) (p : Nat) (size : Bytes) : HttpClientParser :=
  { m with
    mark := p
    chunked := true
    content_len := sizeValue size
    chunks_done := sizeValue size ≤ 0 }

theorem scan_cr (h : IsChunkSize size) (hbuffer : buffer.drop p = size ++ 13 :: rest) {q : Nat} :
    scan httpclient_parser_next Action.breaks (HttpClientParser.run callbacks buffer n) q (13 :: xs) 2
        ({ m with mark := p }, d) =
      scan httpclient_parser_next Action.breaks (HttpClientParser.run callbacks buffer n) (q + 1) xs 3
        (sizedParser m p size, d) := by
  have hnext : httpclient_parser_next 2 13 = some ⟨13, 13, [.chunk_size], 3⟩ := by rfl
  have hrun : HttpClientParser.run callbacks buffer n .chunk_size q ({ m with mark := p }, d) =
      some (sizedParser m p size, d) := by
    have hvalue : toInt32 (strtol (buffer.drop p) 16) = sizeValue size := by rw [hbuffer, strtol_size h, sizeValue]
    simp only [HttpClientParser.run, hvalue]
    split <;> rfl
  exact scan_cons_live hnext (by rw [runActs, List.foldlM_cons, hrun]; rfl) rfl

/-- The whole line. -/
theorem scan_line (h : IsChunkSize size) (hbuffer : buffer.drop p = size ++ 13 :: rest) :
    scan httpclient_parser_next Action.breaks (HttpClientParser.run callbacks buffer n) p (size ++ crlf ++ xs)
        httpclient_parser_start (m, d) =
      .stop (p + size.length + 2) httpclient_parser_first_final
        ({ sizedParser m p size with body_start := p + size.length + 2 }, d) := by
  have hnext : httpclient_parser_next 3 10 = some ⟨10, 10, [.done], 120⟩ := by rfl
  rw [List.append_assoc, scan_append, scan_size h]
  simp only [crlf, List.cons_append, List.nil_append]
  rw [scan_cr h hbuffer, scan_cons_stop hnext rfl rfl]
  rfl

/-- A line that is not at its end yet. -/
theorem scan_part (h : IsChunkSize size) (hbuffer : buffer.drop p = xs ++ rest) (hxs : xs = size ∨ xs = size ++ [13]) :
    ∃ cs m', scan httpclient_parser_next Action.breaks (HttpClientParser.run callbacks buffer n) p xs
      httpclient_parser_start (m, d) = .live cs (m', d) := by
  rcases hxs with rfl | rfl
  · exact ⟨_, _, scan_size h⟩
  · rw [List.append_assoc, List.singleton_append] at hbuffer
    rw [scan_append, scan_size h]
    simp only
    rw [scan_cr h hbuffer]
    exact ⟨_, _, rfl⟩

/-- A line without a size is an error. -/
theorem scan_noSize (hc : c = 13 ∨ c = 10) :
    (scan httpclient_parser_next Action.breaks (HttpClientParser.run callbacks buffer n) p (c :: xs)
      httpclient_parser_start (m, d)).Failed := by
  have hnext : httpclient_parser_next httpclient_parser_start c = none := by
    rcases hc with rfl | rfl
    · rfl
    · rfl
  rw [scan_cons_err hnext]
  trivial

end Line

end Mingfwq.Http
