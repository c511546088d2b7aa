import Mathlib.Algebra.Ring.Nat
import Mathlib.Data.List.TakeWhile
import Mingfwq.Log.Lemmas.Scan

/-!
# The grammar of a pattern

Of an escape `%%` the scanner takes one character only, so the second `%` stands before whatever comes next.
-/

namespace Mingfwq.LogFormatter

/-! ## Pieces -/

/-- What a pattern is made of. `percent` is a `%` that is directly before another one: not a piece of the grammar, but
what the scanner reads. -/
inductive Piece where
  | literal (c : Char)
  | escape
  | percent
  | plain (k : Char)
  | braced (k : Char) (f : List Char)
  deriving DecidableEq, Repr

def Piece.text : Piece → List Char
  | .literal c => [c]
  | .escape => ['%', '%']
  | .percent => ['%']
  | .plain k => ['%', k]
  | .braced k f => '%' :: k :: '{' :: (f ++ ['}'])

def render (ps : List Piece) : List Char := ps.flatMap Piece.text

theorem render_cons (piece : Piece) (ps : List Piece) : render (piece :: ps) = piece.text ++ render ps := rfl

def Registered (name : List Char) : Prop := s_format_items.contains (String.ofList name) = true

/-- The pieces stand where they can, with `tail` behind them; a specifier without braces is not directly before a
character of `stop`. -/
def Valid (stop : Char → Bool) (tail : List Char) : List Piece → Prop
  | [] => True
  | .literal c :: ps => c ≠ '%' ∧ Valid stop tail ps
  | .escape :: ps => Valid stop tail ps
  | .percent :: ps => (render ps ++ tail).head? = some '%' ∧ Valid stop tail ps
  | .plain k :: ps => Registered [k] ∧ (∀ c ∈ (render ps ++ tail).head?, stop c = false) ∧ Valid stop tail ps
  | .braced k f :: ps => Registered [k] ∧ '}' ∉ f ∧ Valid stop tail ps

/-- A letter or a brace. -/
def stop (c : Char) : Bool := nameChar c || c = '{'

variable {pattern a u v f t tail : List Char} {k c : Char} {ps w : List Piece} {acc : String} {p : Parse} {r : Nat}

def flush (text : String) : List FormatItem := if text.isEmpty then [] else [.StringFormatItem text]

/-- The items of the pieces, with `text` before them. -/
def expected : List Piece → String → List FormatItem
  | [], text => flush text
  | .literal c :: ps, text => expected ps (text.push c)
  | .escape :: ps, text => expected ps (text.push '%')
  | .percent :: ps, text => expected ps (text.push '%')
  | .plain k :: ps, text => flush text ++ .made (.ofList [k]) "" :: expected ps ""
  | .braced k f :: ps, text => flush text ++ .made (.ofList [k]) (.ofList f) :: expected ps ""

/-- The pattern is made of pieces that the scanner reads. -/
def IsWord (pattern : List Char) : Prop := ∃ w, Valid stop [] w ∧ .escape ∉ w ∧ render w = pattern

theorem registered_letter (h : Registered [k]) : k.isAlpha = true := by
  simp only [Registered, s_format_items, List.contains_cons, List.contains_nil, Bool.or_false, Bool.or_eq_true,
    beq_iff_eq, ← String.toList_inj, String.toList_ofList] at h
  rcases h with h | h | h | h | h | h | h | h | h | h | h | h <;> (cases h; decide)

theorem registered_singleton (h : Registered u) : ∃ k, u = [k] := by
  have hlength : ∀ s ∈ s_format_items, s.toList.length = 1 := by decide
  have hone := hlength (String.ofList u) (by simpa [Registered] using h)
  rw [String.toList_ofList] at hone
  exact List.length_eq_one_iff.mp hone

/-! ## Percent signs -/

def weight : FormatItem → Nat
  | .StringFormatItem str => str.toList.count '%'
  | .made _ fmt => 1 + fmt.toList.count '%'

def weights (items : List FormatItem) : Nat := (items.map weight).sum

theorem weights_append {l m : List FormatItem} : weights (l ++ m) = weights l + weights m := by
  rw [weights, List.map_append, List.sum_append]
  rfl

theorem weights_flush : weights (flush acc) = acc.toList.count '%' := by
  rw [flush]
  split
  · next h =>
      rw [String.isEmpty_iff.mp h]
      rfl
  · simp [weights, weight]

theorem weights_made {key fmt : String} {l : List FormatItem} :
    weights (flush acc ++ .made key fmt :: l) = acc.toList.count '%' + (1 + fmt.toList.count '%') + weights l := by
  rw [weights_append, weights_flush, Nat.add_assoc]
  rfl

theorem registered_ne (h : Registered [k]) : k ≠ '%' := by
  rintro rfl
  cases registered_letter h

theorem weights_expected (h : Valid stop tail ps) :
    weights (expected ps acc) + ps.count .escape = acc.toList.count '%' + (render ps).count '%' := by
  induction ps generalizing acc with
  | nil => exact weights_flush
  | cons piece ps ih =>
      rw [render_cons, List.count_append]
      cases piece with
      | literal c =>
          have hrest := @ih (acc.push c) h.2
          simp only [expected, Piece.text, String.toList_push, List.count_append] at hrest ⊢
          simp [h.1] at hrest ⊢
          omega
      | escape =>
          have hrest := @ih (acc.push '%') h
          simp only [expected, Piece.text, String.toList_push, List.count_append] at hrest ⊢
          simp at hrest ⊢
          omega
      | percent =>
          have hrest := @ih (acc.push '%') h.2
          simp only [expected, Piece.text, String.toList_push, List.count_append] at hrest ⊢
          simp at hrest ⊢
          omega
      | plain k =>
          have hrest := @ih "" h.2.2
          have hk := registered_ne h.1
          simp only [expected, Piece.text, weights_made] at hrest ⊢
          simp [hk] at hrest ⊢
          omega
      | braced k f =>
          have hrest := @ih "" h.2.2
          have hk := registered_ne h.1
          simp only [expected, Piece.text, weights_made] at hrest ⊢
          simp [hk] at hrest ⊢
          omega

/-! ## What the scanner reads -/

/-- `vec` at the end. -/
def finish (p : Parse) : List (String × String × Nat) := if p.nstr.isEmpty then p.vec else p.vec ++ [(p.nstr, "", 0)]

def Known (e : String × String × Nat) : Prop := e.2.2 ≠ 0 → s_format_items.contains e.1 = true

def start : Parse := ⟨0, "", [], false⟩

theorem m_items_eq (m_pattern : String) :
    m_items m_pattern = (finish (parse m_pattern.toList m_pattern.length start)).map item := rfl

theorem init_eq_false {m_pattern : String} : init m_pattern = false ↔
    (parse m_pattern.toList m_pattern.length start).m_error = false ∧
      ∀ e ∈ finish (parse m_pattern.toList m_pattern.length start), Known e := by
  have hinit : init m_pattern = ((parse m_pattern.toList m_pattern.length start).m_error ||
      (finish (parse m_pattern.toList m_pattern.length start)).any fun e =>
        e.2.2 ≠ 0 && !s_format_items.contains e.1) := rfl
  rw [hinit, Bool.or_eq_false_iff, List.any_eq_false]
  simp [Known]

theorem known_finish (h : ∀ e ∈ p.vec, Known e) : ∀ e ∈ finish p, Known e := by
  intro e he
  rw [finish] at he
  split at he
  · exact h e he
  · rcases List.mem_append.mp he with he | he
    · exact h e he
    · rw [List.mem_singleton.mp he]
      exact fun hn => absurd rfl hn

theorem map_finish : (finish p).map item = p.vec.map item ++ flush p.nstr := by
  rw [finish, flush]
  split
  · rw [List.append_nil]
  · rw [List.map_append]
    rfl

/-- What a run over the pieces leaves. -/
structure Reads (w : List Piece) (p q : Parse) : Prop where
  error : q.m_error = p.m_error
  items : (finish q).map item = p.vec.map item ++ expected w p.nstr
  known : (∀ e ∈ p.vec, Known e) → ∀ e ∈ finish q, Known e

theorem item_registered {fmt : String} (h : Registered u) : item (.ofList u, fmt, 1) = .made (.ofList u) fmt := by
  rw [item, if_neg (by decide)]
  exact if_pos h

/-- A specifier, and what is read behind it. -/
theorem Reads.specifier {q : Parse} {n : Nat} {fmt : String} {piece : Piece} (hk : Registered [k])
    (hpiece : ∀ text, expected (piece :: w) text = flush text ++ .made (.ofList [k]) fmt :: expected w "")
    (h : Reads w { p with i := n, nstr := "", vec := finish p ++ [(.ofList [k], fmt, 1)] } q) :
    Reads (piece :: w) p q where
  error := h.error
  items := by
    rw [h.items, hpiece, List.map_append, map_finish, List.map_singleton, item_registered hk, List.append_assoc,
      List.append_assoc, List.singleton_append]
  known := fun hp => h.known fun e he => by
    rcases List.mem_append.mp he with he | he
    · exact known_finish hp e he
    · rw [List.mem_singleton.mp he]
      exact fun _ => hk

theorem letter_nameChar (h : k.isAlpha = true) : ∀ c ∈ [k], nameChar c = true := by
  intro c hc
  rw [List.mem_singleton.mp hc, nameChar, h]
  rfl

theorem stop_eq_false : stop c = false ↔ nameChar c = false ∧ c ≠ '{' := by
  simp [stop]

/-- A specifier without braces. -/
theorem scan_plain (h : pattern = a ++ '%' :: (u ++ v)) (hu : ∀ c ∈ u, nameChar c = true)
    (hv : ∀ c ∈ v.head?, stop c = false) : scan pattern a.length pattern.length ⟨a.length + 1, 0, 0, "", ""⟩ =
      ⟨a.length + 1 + u.length, 0, 0, .ofList u, ""⟩ := by
  have hlen : (a ++ ['%']).length = a.length + 1 := by simp
  cases v with
  | nil => exact scan_name_end (by rw [h]; simp) hlen hu (by rw [h]; simp; omega)
  | cons c v =>
      obtain ⟨hc, hopen⟩ := stop_eq_false.mp (hv c rfl)
      exact @scan_name pattern (a ++ ['%']) u v a.length pattern.length c (by rw [h]; simp) hlen hu hc hopen
        (by rw [h]; simp; omega)

theorem scan_braced (h : pattern = a ++ '%' :: (u ++ '{' :: (f ++ '}' :: v))) (hu : ∀ c ∈ u, nameChar c = true)
    (hf : '}' ∉ f) : scan pattern a.length pattern.length ⟨a.length + 1, 0, 0, "", ""⟩ =
      ⟨a.length + 1 + u.length + 1 + f.length + 1, 0, a.length + 1 + u.length, .ofList u, .ofList f⟩ :=
  have hlen : (a ++ ['%']).length = a.length + 1 := by simp
  @scan_format pattern (a ++ ['%']) u v f a.length pattern.length (by rw [h]; simp) hlen hu hf
    (by rw [h]; simp; omega)

theorem reads_word (hvalid : Valid stop [] w) (hw : Piece.escape ∉ w) (h : pattern = a ++ render w)
    (hi : p.i = a.length) (hr : (render w).length ≤ r) : Reads w p (parse pattern r p) := by
  induction w generalizing a p r with
  | nil =>
      have hnone : pattern[p.i]? = none := List.getElem?_eq_none (by rw [h, hi]; simp [render])
      rw [parse_end hnone]
      exact ⟨rfl, map_finish, known_finish⟩
  | cons piece w ih =>
      have hrest : Piece.escape ∉ w := fun hmem => hw (List.mem_cons_of_mem _ hmem)
      rw [render_cons] at h hr
      cases piece with
      | literal c =>
          obtain ⟨r, rfl⟩ : ∃ r', r = r' + 1 := ⟨r - 1, by simp [Piece.text] at hr; omega⟩
          have hat : pattern[p.i]? = some c := hi ▸ getElem?_at h
          rw [parse_literal hat hvalid.1]
          have hreads := @ih (a ++ [c]) { p with i := p.i + 1, nstr := p.nstr.push c } r hvalid.2 hrest
            (by rw [h]; simp [Piece.text]) (by simp [hi]) (by simp [Piece.text] at hr; omega)
          exact ⟨hreads.error, hreads.items, hreads.known⟩
      | escape => exact absurd List.mem_cons_self hw
      | percent =>
          obtain ⟨r, rfl⟩ : ∃ r', r = r' + 1 := ⟨r - 1, by simp [Piece.text] at hr; omega⟩
          obtain ⟨v, hv⟩ := List.head?_eq_some_iff.mp hvalid.1
          rw [List.append_nil] at hv
          have hat : pattern[p.i]? = some '%' := hi ▸ getElem?_at h
          have hnext : pattern[p.i + 1]? = some '%' := by
            have hlen : p.i + 1 = (a ++ ['%']).length := by simp [hi]
            rw [hlen]
            exact @getElem?_at pattern (a ++ ['%']) v '%' (by rw [h, hv]; simp [Piece.text])
          rw [parse_percent hat hnext]
          have hreads := @ih (a ++ ['%']) { p with i := p.i + 1, nstr := p.nstr.push '%' } r hvalid.2 hrest
            (by rw [h]; simp [Piece.text]) (by simp [hi]) (by simp [Piece.text] at hr; omega)
          exact ⟨hreads.error, hreads.items, hreads.known⟩
      | plain k =>
          obtain ⟨r, rfl⟩ : ∃ r', r = r' + 1 := ⟨r - 1, by simp [Piece.text] at hr; omega⟩
          have hat : pattern[p.i]? = some '%' := hi ▸ getElem?_at h
          have hnext : pattern[p.i + 1]? ≠ some '%' := by
            have hlen : p.i + 1 = (a ++ ['%']).length := by simp [hi]
            rw [hlen, @getElem?_at pattern (a ++ ['%']) (render w) k (by rw [h]; simp [Piece.text])]
            exact fun heq => registered_ne hvalid.1 (Option.some.inj heq)
          have hscan := @scan_plain pattern a [k] (render w) h (letter_nameChar (registered_letter hvalid.1))
            (by simpa using hvalid.2.1)
          rw [← hi] at hscan
          rw [parse_specifier hat hnext hscan rfl]
          refine .specifier hvalid.1 (fun _ => rfl)
            (@ih (a ++ ['%', k]) _ r hvalid.2.2 hrest (by rw [h]; simp [Piece.text]) (by simp [hi])
              (by simp [Piece.text] at hr; omega))
      | braced k f =>
          obtain ⟨r, rfl⟩ : ∃ r', r = r' + 1 := ⟨r - 1, by simp [Piece.text] at hr; omega⟩
          have hat : pattern[p.i]? = some '%' := hi ▸ getElem?_at h
          have hnext : pattern[p.i + 1]? ≠ some '%' := by
            have hlen : p.i + 1 = (a ++ ['%']).length := by simp [hi]
            rw [hlen, @getElem?_at pattern (a ++ ['%']) ('{' :: (f ++ ['}'] ++ render w)) k
              (by rw [h]; simp [Piece.text])]
            exact fun heq => registered_ne hvalid.1 (Option.some.inj heq)
          have hscan := @scan_braced pattern a [k] (render w) f (by rw [h]; simp [Piece.text])
            (letter_nameChar (registered_letter hvalid.1)) hvalid.2.1
          rw [← hi] at hscan
          rw [parse_specifier hat hnext hscan rfl]
          refine .specifier hvalid.1 (fun _ => rfl) (@ih (a ++ Piece.text (.braced k f)) _ r hvalid.2.2 hrest
            (by rw [h]; simp) (by simp [hi, Piece.text]; omega) (by simp [Piece.text] at hr; omega))

/-- The scanner finds no fault in the rest of the pattern. -/
structure Accepts (pattern : List Char) (r : Nat) (p : Parse) : Prop where
  error : (parse pattern r p).m_error = false
  known : ∀ e ∈ (parse pattern r p).vec, Known e

theorem Accepts.of_eq {p' : Parse} {r' : Nat} (h : Accepts pattern r p)
    (heq : parse pattern r p = parse pattern r' p') : Accepts pattern r' p' :=
  ⟨heq ▸ h.error, heq ▸ h.known⟩

theorem Accepts.registered {l : List (String × String × Nat)} {fmt : String} (h : Accepts pattern r p)
    (hp : p.vec = l ++ [(.ofList u, fmt, 1)]) : Registered u := by
  have hmem : (.ofList u, fmt, 1) ∈ (parse pattern r p).vec := by
    refine (parse_keeps pattern r p).1.subset ?_
    rw [hp]
    simp
  exact h.known _ hmem Nat.one_ne_zero

theorem not_accepts (h : p.m_error = true) : ¬Accepts pattern r p := by
  intro haccepts
  have herror := (parse_keeps pattern r p).2 h
  rw [haccepts.error] at herror
  cases herror

theorem exists_name (t : List Char) :
    ∃ u v, t = u ++ v ∧ (∀ c ∈ u, nameChar c = true) ∧ ∀ c ∈ v.head?, nameChar c = false := by
  refine ⟨t.takeWhile nameChar, t.dropWhile nameChar, List.takeWhile_append_dropWhile.symm,
    fun c hc => List.mem_takeWhile_imp hc, fun c hc => ?_⟩
  have hnot := List.head?_dropWhile_not nameChar t
  rw [Option.mem_def.mp hc] at hnot
  exact hnot

theorem word_of_accepts (h : pattern = a ++ t) (hi : p.i = a.length) (hr : t.length ≤ r)
    (haccepts : Accepts pattern r p) : ∃ w, Valid stop [] w ∧ .escape ∉ w ∧ render w = t := by
  induction r generalizing a t p with
  | zero =>
      obtain rfl := List.length_eq_zero_iff.mp (Nat.le_zero.mp hr)
      exact ⟨[], trivial, List.not_mem_nil, rfl⟩
  | succ r ih =>
      cases t with
      | nil => exact ⟨[], trivial, List.not_mem_nil, rfl⟩
      | cons c t =>
          have hat : pattern[p.i]? = some c := hi ▸ getElem?_at h
          rw [List.length_cons, Nat.add_le_add_iff_right] at hr
          by_cases hc : c = '%'
          · subst hc
            have hnextlen : p.i + 1 = (a ++ ['%']).length := by simp [hi]
            by_cases hnext : pattern[p.i + 1]? = some '%'
            · -- an escape, or what is left of one
              obtain ⟨w, hvalid, hw, rfl⟩ := ih (a := a ++ ['%']) (t := t) (by rw [h]; simp) (by simp [hi]) hr
                (haccepts.of_eq (parse_percent hat hnext))
              have hhead : (render w).head? = some '%' := by
                rw [← hnext, hnextlen, h, List.getElem?_append_right (by simp)]
                simp [List.head?_eq_getElem?]
              exact ⟨.percent :: w, ⟨by rw [List.append_nil]; exact hhead, hvalid⟩, by simpa using hw, rfl⟩
            · obtain ⟨u, v, rfl, hu, hv⟩ := exists_name t
              rw [List.length_append] at hr
              by_cases hopen : v.head? = some '{'
              · obtain ⟨v, rfl⟩ := List.head?_eq_some_iff.mp hopen
                by_cases hclose : '}' ∈ v
                · obtain ⟨f, v, rfl, hf⟩ := List.eq_append_cons_of_mem hclose
                  have hscan := scan_braced h hu hf
                  rw [← hi] at hscan
                  have hrest := haccepts.of_eq (parse_specifier hat hnext hscan rfl)
                  have hname := hrest.registered rfl
                  obtain ⟨k, rfl⟩ := registered_singleton hname
                  obtain ⟨w, hvalid, hw, rfl⟩ := ih (a := a ++ Piece.text (.braced k f)) (t := v)
                    (by rw [h]; simp [Piece.text]) (by simp [hi, Piece.text]; omega) (by simp at hr; omega) hrest
                  exact ⟨.braced k f :: w, ⟨hname, hf, hvalid⟩, by simpa using hw, by simp [render, Piece.text]⟩
                · have hscan := @scan_no_end pattern (a ++ ['%']) u v p.i pattern.length (by rw [h]; simp)
                    hnextlen.symm hu hclose (by rw [h]; simp; omega)
                  have hstatus : (scan pattern p.i pattern.length ⟨p.i + 1, 0, 0, "", ""⟩).fmt_status ≠ 0 := by
                    rw [hscan]
                    exact Nat.one_ne_zero
                  exact absurd (haccepts.of_eq (parse_error hat hnext rfl hstatus)) (not_accepts rfl)
              · have hstop : ∀ c ∈ v.head?, stop c = false := fun c hc =>
                  stop_eq_false.mpr ⟨hv c hc, fun heq => hopen (heq ▸ Option.mem_def.mp hc)⟩
                have hscan := scan_plain h hu hstop
                rw [← hi] at hscan
                have hrest := haccepts.of_eq (parse_specifier hat hnext hscan rfl)
                have hname := hrest.registered rfl
                obtain ⟨k, rfl⟩ := registered_singleton hname
                obtain ⟨w, hvalid, hw, rfl⟩ := ih (a := a ++ ['%', k]) (t := v) (by rw [h]; simp) (by simp [hi])
                  (by simp at hr; omega) hrest
                exact ⟨.plain k :: w, ⟨hname, by simpa using hstop, hvalid⟩, by simpa using hw, rfl⟩
          · obtain ⟨w, hvalid, hw, rfl⟩ := ih (a := a ++ [c]) (t := t) (by rw [h]; simp) (by simp [hi]) hr
              (haccepts.of_eq (parse_literal hat hc))
            exact ⟨.literal c :: w, ⟨hc, hvalid⟩, by simpa using hw, rfl⟩

theorem isError_iff (pattern : String) : (new pattern).isError = true ↔ ¬IsWord pattern.toList := by
  rw [← not_iff_not, not_not, Bool.not_eq_true]
  show init pattern = false ↔ _
  rw [init_eq_false]
  constructor
  · rintro ⟨herror, hknown⟩
    have hvec : ∀ e ∈ (parse pattern.toList pattern.length start).vec, Known e := by
      intro e he
      refine hknown e ?_
      rw [finish]
      split
      · exact he
      · exact List.mem_append_left _ he
    exact word_of_accepts (a := []) (t := pattern.toList) rfl rfl (Nat.le_of_eq String.length_toList) ⟨herror, hvec⟩
  · rintro ⟨w, hvalid, hw, hrender⟩
    have hreads := @reads_word pattern.toList [] w start pattern.length hvalid hw hrender.symm rfl
      (by rw [hrender, String.length_toList])
    exact ⟨hreads.error, hreads.known fun e he => by cases he⟩

theorem m_items_word {pattern : String} (hvalid : Valid stop [] w) (hw : Piece.escape ∉ w)
    (hrender : render w = pattern.toList) : m_items pattern = expected w "" := by
  have hreads := @reads_word pattern.toList [] w start pattern.length hvalid hw hrender.symm rfl
    (by rw [hrender, String.length_toList])
  rw [m_items_eq, hreads.items]
  rfl

/-! ## The grammar -/

/-- More rounds than the loops are given change nothing. -/
def Terminates (pattern : String) : Prop :=
  (∀ k, parse pattern.toList (pattern.length + k) start = parse pattern.toList pattern.length start) ∧
    ∀ i k, scan pattern.toList i (pattern.length + k) ⟨i + 1, 0, 0, "", ""⟩ =
      scan pattern.toList i pattern.length ⟨i + 1, 0, 0, "", ""⟩

/-- init makes the items of the pieces, without an error. -/
structure Formats (ps : List Piece) : Prop where
  terminates : Terminates (.ofList (render ps))
  noError : (new (.ofList (render ps))).isError = false
  items : m_items (.ofList (render ps)) = expected ps ""

theorem terminates (pattern : String) : Terminates pattern := by
  have hlen : pattern.toList.length = pattern.length := String.length_toList
  exact ⟨fun k => parse_enough (by rw [hlen]; exact Nat.sub_le _ _),
    fun i k => scan_enough (by rw [hlen]; exact Nat.sub_le _ _)⟩

theorem formats_iff (hvalid : Valid stop [] ps) : Formats ps ↔ Piece.escape ∉ ps := by
  have hlist : render ps = (String.ofList (render ps)).toList := String.toList_ofList.symm
  constructor
  · intro h hmem
    have hword : IsWord (String.ofList (render ps)).toList := by
      by_contra hnot
      have herror := (isError_iff _).mpr hnot
      rw [h.noError] at herror
      cases herror
    obtain ⟨w, hw_valid, hw, hrender⟩ := hword
    have hitems : expected w "" = expected ps "" := (m_items_word hw_valid hw hrender).symm.trans h.items
    have hw_weights : weights (expected w "") + w.count .escape = _ := weights_expected hw_valid
    have hps_weights : weights (expected ps "") + ps.count .escape = _ := weights_expected hvalid
    rw [hitems, List.count_eq_zero_of_not_mem hw, hrender, ← hlist] at hw_weights
    have hpos : 0 < ps.count .escape := List.count_pos_iff.mpr hmem
    omega
  · intro hw
    refine ⟨terminates _, ?_, m_items_word hvalid hw hlist⟩
    rw [← Bool.not_eq_true, isError_iff, not_not]
    exact ⟨ps, hvalid, hw, hlist⟩

/-- A specifier at the front whose name is not registered or whose brace is not closed; the name are the letters
behind the `%`, which is not that of an escape. -/
def BadSpecifier (tail : List Char) : Prop :=
  ∃ name rest, tail = '%' :: (name ++ rest) ∧ (∀ c ∈ name, c.isAlpha = true) ∧ (∀ c ∈ rest.head?, c.isAlpha = false) ∧
    (name = [] → rest.head? ≠ some '%') ∧ (¬Registered name ∨ ∃ f, rest = '{' :: f ∧ '}' ∉ f)

/-- There is a specifier like that behind pieces of the grammar. -/
def Bad (pattern : List Char) (ps : List Piece) : Prop :=
  ∃ tail, pattern = render ps ++ tail ∧ Valid (fun c => c.isAlpha || c = '{') tail ps ∧ BadSpecifier tail

theorem IsWord.literal (h : IsWord (c :: t)) (hc : c ≠ '%') : IsWord t := by
  obtain ⟨w, hvalid, hw, hrender⟩ := h
  cases w with
  | nil => cases hrender
  | cons piece w =>
      have hrest : Piece.escape ∉ w := fun hmem => hw (List.mem_cons_of_mem _ hmem)
      rw [render_cons] at hrender
      cases piece with
      | literal d =>
          simp only [Piece.text, List.cons_append, List.nil_append, List.cons.injEq] at hrender
          exact ⟨w, hvalid.2, hrest, hrender.2⟩
      | escape => exact absurd List.mem_cons_self hw
      | percent => exact absurd (List.cons.inj hrender).1.symm hc
      | plain k => exact absurd (List.cons.inj hrender).1.symm hc
      | braced k f => exact absurd (List.cons.inj hrender).1.symm hc

theorem IsWord.percent (h : IsWord ('%' :: t)) : t.head? = some '%' ∨
    (∃ k v, t = k :: v ∧ Registered [k] ∧ (∀ c ∈ v.head?, stop c = false) ∧ IsWord v) ∨
      ∃ k f v, t = k :: '{' :: (f ++ '}' :: v) ∧ Registered [k] ∧ '}' ∉ f ∧ IsWord v := by
  obtain ⟨w, hvalid, hw, hrender⟩ := h
  cases w with
  | nil => cases hrender
  | cons piece w =>
      have hrest : Piece.escape ∉ w := fun hmem => hw (List.mem_cons_of_mem _ hmem)
      rw [render_cons] at hrender
      cases piece with
      | literal d => exact absurd (List.cons.inj hrender).1 hvalid.1
      | escape => exact absurd List.mem_cons_self hw
      | percent =>
          simp only [Piece.text, List.cons_append, List.nil_append, List.cons.injEq, true_and] at hrender
          have hhead := hvalid.1
          rw [List.append_nil, hrender] at hhead
          exact .inl hhead
      | plain k =>
          simp only [Piece.text, List.cons_append, List.nil_append, List.cons.injEq, true_and] at hrender
          have hstop := hvalid.2.1
          rw [List.append_nil] at hstop
          exact .inr (.inl ⟨k, render w, hrender.symm, hvalid.1, hstop, w, hvalid.2.2, hrest, rfl⟩)
      | braced k f =>
          simp only [Piece.text, List.cons_append, List.append_assoc, List.nil_append, List.cons.injEq,
            true_and] at hrender
          exact .inr (.inr ⟨k, f, render w, hrender.symm, hvalid.1, hvalid.2.1, w, hvalid.2.2, hrest, rfl⟩)

theorem letter_of_append (hname : ∀ c ∈ u, c.isAlpha = true) (hrest : ∀ c ∈ v.head?, c.isAlpha = false)
    (hk : k.isAlpha = true) (h : u ++ v = k :: t) : ∃ u', u = k :: u' ∧ u' ++ v = t := by
  cases u with
  | nil =>
      have hletter := hrest k (by rw [List.nil_append] at h; rw [h]; rfl)
      rw [hk] at hletter
      cases hletter
  | cons c u =>
      obtain ⟨rfl, rfl⟩ := List.cons.inj h
      exact ⟨u, rfl, rfl⟩

theorem BadSpecifier.not_word (h : BadSpecifier tail) : ¬IsWord tail := by
  obtain ⟨name, rest, rfl, hname, hrest, hescape, hbad⟩ := h
  intro hword
  rcases hword.percent with hpercent | ⟨k, v, heq, hk, hstop, -⟩ | ⟨k, f, v, heq, hk, hf, -⟩
  · cases name with
    | nil => exact hescape rfl hpercent
    | cons c name =>
        obtain rfl : c = '%' := Option.some.inj hpercent
        cases hname '%' List.mem_cons_self
  · obtain ⟨name, rfl, rfl⟩ := letter_of_append hname hrest (registered_letter hk) heq
    cases name with
    | nil =>
        rcases hbad with hbad | ⟨f, rfl, -⟩
        · exact hbad hk
        · cases hstop '{' rfl
    | cons c name =>
        have hletter := hname c (by simp)
        have hnot := (stop_eq_false.mp (hstop c rfl)).1
        rw [nameChar, hletter] at hnot
        cases hnot
  · obtain ⟨name, rfl, hbrace⟩ := letter_of_append hname hrest (registered_letter hk) heq
    cases name with
    | nil =>
        rcases hbad with hbad | ⟨g, rfl, hg⟩
        · exact hbad hk
        · obtain ⟨-, rfl⟩ := List.cons.inj hbrace
          exact hg (by simp)
    | cons c name =>
        obtain ⟨rfl, -⟩ := List.cons.inj hbrace
        cases hname '{' (by simp)

theorem format_inj {g : List Char} (hf : '}' ∉ f) (hg : '}' ∉ g) (h : f ++ '}' :: u = g ++ '}' :: v) : u = v := by
  induction f generalizing g with
  | nil =>
      cases g with
      | nil => exact (List.cons.inj h).2
      | cons c g =>
          obtain ⟨rfl, -⟩ := List.cons.inj h
          exact absurd List.mem_cons_self hg
  | cons c f ih =>
      cases g with
      | nil =>
          obtain ⟨rfl, -⟩ := List.cons.inj h
          exact absurd List.mem_cons_self hf
      | cons d g =>
          exact ih (fun hmem => hf (List.mem_cons_of_mem _ hmem)) (fun hmem => hg (List.mem_cons_of_mem _ hmem))
            (List.cons.inj h).2

theorem not_word_append (hpercent : Piece.percent ∉ ps) (hescape : Piece.escape ∉ ps)
    (hvalid : Valid (fun c => c.isAlpha || c = '{') tail ps) (h : ¬IsWord tail) : ¬IsWord (render ps ++ tail) := by
  induction ps with
  | nil => exact h
  | cons piece ps ih =>
      have hrest := ih (fun hmem => hpercent (List.mem_cons_of_mem _ hmem))
        fun hmem => hescape (List.mem_cons_of_mem _ hmem)
      intro hword
      rw [render_cons, List.append_assoc] at hword
      cases piece with
      | literal c => exact hrest hvalid.2 (hword.literal hvalid.1)
      | escape => exact hescape List.mem_cons_self
      | percent => exact hpercent List.mem_cons_self
      | plain k =>
          have hword : IsWord ('%' :: (k :: (render ps ++ tail))) := hword
          rcases hword.percent with heq | ⟨k', v, heq, -, -, hv⟩ | ⟨k', f, v, heq, -⟩
          · exact registered_ne hvalid.1 (Option.some.inj heq)
          · obtain ⟨-, rfl⟩ := List.cons.inj heq
            exact hrest hvalid.2.2 hv
          · obtain ⟨-, heq⟩ := List.cons.inj heq
            have hbrace := hvalid.2.1 '{' (by rw [heq]; rfl)
            cases hbrace
      | braced k f =>
          have hword : IsWord ('%' :: (k :: '{' :: (f ++ '}' :: (render ps ++ tail)))) := by
            simpa [Piece.text] using hword
          rcases hword.percent with heq | ⟨k', v, heq, -, hstop, -⟩ | ⟨k', f', v, heq, -, hf', hv⟩
          · exact registered_ne hvalid.1 (Option.some.inj heq)
          · obtain ⟨-, rfl⟩ := List.cons.inj heq
            cases hstop '{' rfl
          · simp only [List.cons.injEq, true_and] at heq
            exact hrest hvalid.2.2 (format_inj hvalid.2.1 hf' heq.2 ▸ hv)

/-- Patterns of the grammar get their items exactly if there is no escape in them; a pattern with a bad specifier gets
an error exactly if it is not made of pieces that the scanner reads, and so wherever no escape is before the
specifier. -/
theorem formatter_iff (ps : List Piece) (pattern : String) (hpercent : Piece.percent ∉ ps) :
    (Valid stop [] ps → (Formats ps ↔ Piece.escape ∉ ps)) ∧
      (Bad pattern.toList ps → ((new pattern).isError = true ↔ ¬IsWord pattern.toList) ∧
        (Piece.escape ∉ ps → (new pattern).isError = true)) := by
  refine ⟨fun hvalid => formats_iff hvalid, fun hbad => ⟨isError_iff pattern, fun hescape => ?_⟩⟩
  obtain ⟨tail, hpattern, hvalid, htail⟩ := hbad
  rw [isError_iff, hpattern]
  exact not_word_append hpercent hescape hvalid htail.not_word

theorem formatter_iff_m : Formats [.literal 'a', .plain 'm'] ∧ (new "a%q").isError = true := by
  refine ⟨((formatter_iff _ "" (by decide)).1 ?_).mpr (by decide),
    ((formatter_iff [.literal 'a'] "a%q" (by decide)).2 ?_).2 (by decide)⟩
  · exact ⟨by decide, by unfold Registered; decide, nofun, trivial⟩
  · exact ⟨['%', 'q'], by decide, ⟨by decide, trivial⟩, ['q'], [], rfl, List.all_eq_true.mp (by decide), nofun,
      by decide, .inl (by unfold Registered; decide)⟩

/-- `%%` alone is an error, and in `%%d{%q}` the name `q` is none. -/
theorem not_formats_escape :
    (¬ ∀ ps, Valid stop [] ps → Piece.percent ∉ ps → Formats ps) ∧
      ¬ ∀ (pattern : String) (ps : List Piece), Piece.percent ∉ ps → Bad pattern.toList ps →
        (new pattern).isError = true := by
  constructor
  · intro h
    have hnoError := (h [.escape] trivial (by decide)).noError
    exact absurd hnoError (by decide)
  · intro h
    have hbad : Bad "%%d{%q}".toList [.escape, .literal 'd', .literal '{'] :=
      ⟨['%', 'q', '}'], by decide, ⟨by decide, by decide, trivial⟩, ['q'], ['}'], rfl, List.all_eq_true.mp (by decide),
        by rintro c ⟨⟩; rfl, by decide, .inl (by unfold Registered; decide)⟩
    have herror := h "%%d{%q}" _ (by decide) hbad
    exact absurd herror (by decide)

end Mingfwq.LogFormatter
