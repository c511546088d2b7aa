import Mingfwq.Log.Formatter

/-!
# The scanner of a pattern

What the inner loop makes of the text behind a `%`, and how many rounds the loops take.
-/

namespace Mingfwq.LogFormatter

variable {pattern a u v f t : List Char} {i r k : Nat} {s : Scan} {p : Parse} {c : Char}

/-- What the inner loop takes for a part of the name. -/
def nameChar (c : Char) : Bool := c.isAlpha || c = '}'

theorem getElem?_at (h : pattern = a ++ c :: v) : pattern[a.length]? = some c := by
  rw [h, List.getElem?_append_right (Nat.le_refl _), Nat.sub_self, List.getElem?_cons_zero]

theorem substr_at (h : pattern = a ++ u ++ v) : substr pattern a.length u.length = .ofList u := by
  rw [substr, h, List.append_assoc, List.drop_left, List.take_left]

/-! ## Rounds -/

theorem scan_enough (h : pattern.length - s.n ≤ r) : scan pattern i (r + k) s = scan pattern i r s := by
  induction r generalizing s with
  | zero =>
      have hnone : pattern[s.n]? = none := List.getElem?_eq_none (by omega)
      cases k with
      | zero => rfl
      | succ k => simp only [scan, hnone]
  | succ r ih =>
      rw [Nat.succ_add, scan, scan]
      cases pattern[s.n]? with
      | none => rfl
      | some c =>
          dsimp only
          split
          · rfl
          · split
            · exact ih (by simp only; omega)
            · split
              · rfl
              · split
                · exact ih (by simp only; omega)
                · exact ih (by simp only; omega)

/-! ## One round -/

theorem nameChar_iff : nameChar c = true ↔ ¬(!c.isAlpha ∧ c ≠ '{' ∧ c ≠ '}') ∧ c ≠ '{' := by
  rw [nameChar, Bool.or_eq_true, decide_eq_true_eq]
  constructor
  · intro h
    have hopen : c ≠ '{' := by
      rintro rfl
      revert h
      decide
    refine ⟨fun hn => ?_, hopen⟩
    rcases h with h | h
    · simp [h] at hn
    · exact hn.2.2 h
  · rintro ⟨h, hopen⟩
    by_contra hn
    simp only [not_or, Bool.not_eq_true] at hn
    exact h ⟨by simp [hn.1], hopen, hn.2⟩

theorem scan_skip (hat : pattern[s.n]? = some c) (hname : s.fmt_status = 0 → nameChar c = true)
    (hclose : s.fmt_status = 1 → c ≠ '}') (hlast : s.n + 1 = pattern.length → s.str.isEmpty = false) :
    scan pattern i (r + 1) s = scan pattern i r { s with n := s.n + 1 } := by
  have hbreak : ¬(s.fmt_status = 0 ∧ !c.isAlpha ∧ c ≠ '{' ∧ c ≠ '}') := fun h => (nameChar_iff.mp (hname h.1)).1 h.2
  have hopen : ¬(s.fmt_status = 0 ∧ c = '{') := fun h => (nameChar_iff.mp (hname h.1)).2 h.2
  have hend : ¬(s.n + 1 = pattern.length ∧ s.str.isEmpty) := by
    rintro ⟨hn, hstr⟩
    rw [hlast hn] at hstr
    cases hstr
  rw [scan, hat]
  dsimp only
  rw [if_neg hbreak, if_neg hopen, if_neg fun h => hclose h.1 h.2, if_neg hend]

theorem scan_last (hat : pattern[s.n]? = some c) (hname : s.fmt_status = 0 → nameChar c = true)
    (hclose : s.fmt_status = 1 → c ≠ '}') (hlast : s.n + 1 = pattern.length) (hstr : s.str.isEmpty = true) :
    scan pattern i (r + 1) s = { s with n := s.n + 1, str := substr pattern (i + 1) pattern.length } := by
  have hbreak : ¬(s.fmt_status = 0 ∧ !c.isAlpha ∧ c ≠ '{' ∧ c ≠ '}') := fun h => (nameChar_iff.mp (hname h.1)).1 h.2
  have hopen : ¬(s.fmt_status = 0 ∧ c = '{') := fun h => (nameChar_iff.mp (hname h.1)).2 h.2
  have hnone : pattern[s.n + 1]? = none := List.getElem?_eq_none (by omega)
  rw [scan, hat]
  dsimp only
  rw [if_neg hbreak, if_neg hopen, if_neg fun h => hclose h.1 h.2, if_pos ⟨hlast, hstr⟩]
  cases r with
  | zero => rfl
  | succ r => rw [scan, hnone]

theorem scan_break (hat : pattern[s.n]? = some c) (hstatus : s.fmt_status = 0) (hname : nameChar c = false)
    (hopen : c ≠ '{') : scan pattern i (r + 1) s = { s with str := substr pattern (i + 1) (s.n - i - 1) } := by
  have hbreak : !c.isAlpha ∧ c ≠ '{' ∧ c ≠ '}' := by
    by_contra hn
    rw [nameChar_iff.mpr ⟨hn, hopen⟩] at hname
    cases hname
  rw [scan, hat]
  dsimp only
  rw [if_pos ⟨hstatus, hbreak⟩]

theorem scan_open (hat : pattern[s.n]? = some '{') (hstatus : s.fmt_status = 0) :
    scan pattern i (r + 1) s = scan pattern i r { s with
      str := substr pattern (i + 1) (s.n - i - 1)
      fmt_status := 1
      fmt_begin := s.n
      n := s.n + 1 } := by
  rw [scan, hat]
  dsimp only
  rw [if_neg fun h => h.2.2.1 rfl, if_pos ⟨hstatus, rfl⟩]

theorem scan_close (hat : pattern[s.n]? = some '}') (hstatus : s.fmt_status = 1) :
    scan pattern i (r + 1) s = { s with
      fmt := substr pattern (s.fmt_begin + 1) (s.n - s.fmt_begin - 1)
      fmt_status := 0
      n := s.n + 1 } := by
  have hne : s.fmt_status ≠ 0 := by omega
  rw [scan, hat]
  dsimp only
  rw [if_neg fun h => hne h.1, if_neg fun h => hne h.1, if_pos ⟨hstatus, rfl⟩]

/-! ## The name and the format -/

/-- Over a part of the name, or of the format, with something behind it. -/
theorem scan_over (h : pattern = a ++ u ++ v) (hv : v ≠ []) (hn : s.n = a.length)
    (hname : s.fmt_status = 0 → ∀ c ∈ u, nameChar c = true) (hclose : s.fmt_status = 1 → '}' ∉ u) :
    scan pattern i (r + u.length) s = scan pattern i r { s with n := a.length + u.length } := by
  induction u generalizing a s with
  | nil =>
      obtain ⟨n, _⟩ := s
      subst hn
      rfl
  | cons c u ih =>
      have hat : pattern[s.n]? = some c := by
        rw [hn]
        exact getElem?_at (by rw [h, List.append_assoc, List.cons_append])
      have hlen : s.n + 1 ≠ pattern.length := by
        have hpos := List.length_pos_iff.mpr hv
        rw [h, hn]
        simp only [List.length_append, List.length_cons]
        omega
      have hskip := @scan_skip pattern i (r + u.length) s c hat (fun h0 => hname h0 c List.mem_cons_self)
        (fun h1 heq => hclose h1 (heq ▸ List.mem_cons_self)) fun h => absurd h hlen
      rw [List.length_cons, ← Nat.add_assoc, hskip]
      have hrest := @ih (a ++ [c]) { s with n := s.n + 1 } (by rw [h]; simp) (by simp [hn])
        (fun h0 d hd => hname h0 d (List.mem_cons_of_mem _ hd)) fun h1 hd => hclose h1 (List.mem_cons_of_mem _ hd)
      rw [hrest]
      congr 2
      simp only [List.length_append, List.length_singleton]
      omega

/-- A name at the end of the pattern. -/
theorem scan_name_end (h : pattern = a ++ u) (hi : a.length = i + 1) (hu : ∀ c ∈ u, nameChar c = true)
    (hr : u.length ≤ r) :
    scan pattern i r ⟨i + 1, 0, 0, "", ""⟩ = ⟨i + 1 + u.length, 0, 0, .ofList u, ""⟩ := by
  rcases List.eq_nil_or_concat u with rfl | ⟨w, c, rfl⟩
  · have hnone : pattern[i + 1]? = none := List.getElem?_eq_none (by rw [h]; simp [hi])
    cases r with
    | zero => rfl
    | succ r => rw [scan, hnone]; rfl
  · rw [List.concat_eq_append] at h hu hr ⊢
    rw [List.length_append, List.length_singleton] at hr ⊢
    obtain ⟨k, rfl⟩ : ∃ k, r = k + 1 + w.length := ⟨r - w.length - 1, by omega⟩
    have hover := @scan_over pattern a w [c] i (k + 1) ⟨i + 1, 0, 0, "", ""⟩ (by rw [h, List.append_assoc]) (by simp)
      hi.symm (fun _ d hd => hu d (List.mem_append_left _ hd)) (fun h1 => by cases h1)
    rw [hover]
    have hat : pattern[a.length + w.length]? = some c := by
      rw [← List.length_append]
      exact getElem?_at (by rw [h, List.append_assoc])
    have hlast := @scan_last pattern i k ⟨a.length + w.length, 0, 0, "", ""⟩ c hat
      (fun _ => hu c (by simp)) (fun h1 => by cases h1) (by rw [h]; simp [Nat.add_assoc]) rfl
    rw [hlast]
    have hsub : substr pattern (i + 1) pattern.length = .ofList (w ++ [c]) := by
      rw [substr, ← hi, h, List.drop_left, List.take_of_length_le (by simp)]
    simp only [hsub, hi]
    rfl

/-- A name with another character behind it. -/
theorem scan_name (h : pattern = a ++ u ++ c :: v) (hi : a.length = i + 1) (hu : ∀ c ∈ u, nameChar c = true)
    (hc : nameChar c = false) (hopen : c ≠ '{') (hr : u.length < r) :
    scan pattern i r ⟨i + 1, 0, 0, "", ""⟩ = ⟨i + 1 + u.length, 0, 0, .ofList u, ""⟩ := by
  obtain ⟨k, rfl⟩ : ∃ k, r = k + 1 + u.length := ⟨r - u.length - 1, by omega⟩
  have hover := @scan_over pattern a u (c :: v) i (k + 1) ⟨i + 1, 0, 0, "", ""⟩ h (by simp) hi.symm (fun _ => hu)
    (fun h1 => by cases h1)
  rw [hover]
  have hat : pattern[a.length + u.length]? = some c := by
    rw [← List.length_append]
    exact getElem?_at h
  rw [scan_break hat rfl hc hopen]
  have hsub : substr pattern (i + 1) (a.length + u.length - i - 1) = .ofList u := by
    rw [← hi, show a.length + u.length - i - 1 = u.length by omega]
    exact substr_at h
  dsimp only
  rw [hsub, hi]

/-- A name with a format. -/
theorem scan_format (h : pattern = a ++ u ++ '{' :: (f ++ '}' :: v)) (hi : a.length = i + 1)
    (hu : ∀ c ∈ u, nameChar c = true) (hf : '}' ∉ f) (hr : u.length + f.length + 2 ≤ r) :
    scan pattern i r ⟨i + 1, 0, 0, "", ""⟩ =
      ⟨i + 1 + u.length + 1 + f.length + 1, 0, i + 1 + u.length, .ofList u, .ofList f⟩ := by
  obtain ⟨k, rfl⟩ : ∃ k, r = k + 1 + f.length + 1 + u.length := ⟨r - u.length - f.length - 2, by omega⟩
  have hover := @scan_over pattern a u ('{' :: (f ++ '}' :: v)) i (k + 1 + f.length + 1) ⟨i + 1, 0, 0, "", ""⟩ h
    (by simp) hi.symm (fun _ => hu) (fun h1 => by cases h1)
  rw [hover]
  have hat : pattern[a.length + u.length]? = some '{' := by
    rw [← List.length_append]
    exact getElem?_at h
  rw [scan_open hat rfl]
  have hsub : substr pattern (i + 1) (a.length + u.length - i - 1) = .ofList u := by
    rw [← hi, show a.length + u.length - i - 1 = u.length by omega]
    exact substr_at h
  have hformat : pattern = (a ++ u ++ ['{']) ++ f ++ '}' :: v := by
    rw [h]
    simp
  have hskip := @scan_over pattern (a ++ u ++ ['{']) f ('}' :: v) i (k + 1)
    ⟨a.length + u.length + 1, 1, a.length + u.length, .ofList u, ""⟩ hformat (by simp) (by simp [Nat.add_assoc])
    (fun h0 => by cases h0) (fun _ => hf)
  dsimp only
  rw [hsub, hskip]
  have hclose : pattern[(a ++ u ++ ['{']).length + f.length]? = some '}' := by
    rw [← List.length_append]
    exact getElem?_at hformat
  rw [scan_close hclose rfl]
  have hfmt := @substr_at pattern (a ++ u ++ ['{']) f ('}' :: v) hformat
  simp only [List.length_append, List.length_singleton, hi] at hfmt ⊢
  rw [show i + 1 + u.length + 1 + f.length - (i + 1 + u.length) - 1 = f.length by omega, hfmt]

theorem scan_unterminated (hstatus : s.fmt_status = 1) (h : '}' ∉ pattern.drop s.n) :
    (scan pattern i r s).fmt_status = 1 := by
  induction r generalizing s with
  | zero => exact hstatus
  | succ r ih =>
      cases hat : pattern[s.n]? with
      | none =>
          rw [scan, hat]
          exact hstatus
      | some c =>
          obtain ⟨hlt, hget⟩ := List.getElem?_eq_some_iff.mp hat
          have hdrop : pattern.drop s.n = c :: pattern.drop (s.n + 1) := by
            rw [← hget]
            exact List.drop_eq_getElem_cons hlt
          rw [hdrop, List.mem_cons, not_or] at h
          by_cases hlast : s.n + 1 = pattern.length ∧ s.str.isEmpty = true
          · rw [scan_last hat (fun h0 => by omega) (fun _ => Ne.symm h.1) hlast.1 hlast.2]
            exact hstatus
          · rw [scan_skip hat (fun h0 => by omega) (fun _ => Ne.symm h.1)
              fun hn => by simpa using fun hs => hlast ⟨hn, hs⟩]
            exact ih hstatus h.2

theorem scan_no_end (h : pattern = a ++ u ++ '{' :: v) (hi : a.length = i + 1) (hu : ∀ c ∈ u, nameChar c = true)
    (hv : '}' ∉ v) (hr : u.length < r) : (scan pattern i r ⟨i + 1, 0, 0, "", ""⟩).fmt_status = 1 := by
  obtain ⟨k, rfl⟩ : ∃ k, r = k + 1 + u.length := ⟨r - u.length - 1, by omega⟩
  have hover := @scan_over pattern a u ('{' :: v) i (k + 1) ⟨i + 1, 0, 0, "", ""⟩ h (by simp) hi.symm (fun _ => hu)
    (fun h1 => by cases h1)
  have hat : pattern[a.length + u.length]? = some '{' := by
    rw [← List.length_append]
    exact getElem?_at h
  rw [hover, scan_open hat rfl]
  refine scan_unterminated rfl ?_
  have hdrop : pattern.drop (a.length + u.length + 1) = v := by
    rw [← List.length_append, h, List.drop_append]
    simp
  simpa only [hdrop] using hv

theorem le_scan_n : s.n ≤ (scan pattern i r s).n := by
  induction r generalizing s with
  | zero => exact Nat.le_refl _
  | succ r ih =>
      have hrest {s' : Scan} (h : s'.n = s.n + 1) : s.n ≤ (scan pattern i r s').n := by
        have hle := @ih s'
        omega
      rw [scan]
      cases pattern[s.n]? with
      | none => exact Nat.le_refl _
      | some c =>
          dsimp only
          split
          · exact Nat.le_refl _
          · split
            · exact hrest rfl
            · split
              · exact Nat.le_succ _
              · split
                · exact hrest rfl
                · exact hrest rfl

/-! ## The outer loop -/

theorem parse_end (h : pattern[p.i]? = none) : parse pattern r p = p := by
  cases r with
  | zero => rfl
  | succ r => rw [parse, h]

theorem parse_literal (hat : pattern[p.i]? = some c) (hc : c ≠ '%') :
    parse pattern (r + 1) p = parse pattern r { p with i := p.i + 1, nstr := p.nstr.push c } := by
  rw [parse, hat]
  dsimp only
  rw [if_pos hc]

theorem parse_percent (hat : pattern[p.i]? = some '%') (hnext : pattern[p.i + 1]? = some '%') :
    parse pattern (r + 1) p = parse pattern r { p with i := p.i + 1, nstr := p.nstr.push '%' } := by
  rw [parse, hat]
  dsimp only
  rw [if_neg (by simp), if_pos hnext]

/-- The loop goes on behind a specifier. -/
theorem parse_specifier (hat : pattern[p.i]? = some '%') (hnext : pattern[p.i + 1]? ≠ some '%')
    (hscan : scan pattern p.i pattern.length ⟨p.i + 1, 0, 0, "", ""⟩ = s) (hstatus : s.fmt_status = 0) :
    parse pattern (r + 1) p = parse pattern r { p with
      i := s.n
      nstr := ""
      vec := (if p.nstr.isEmpty then p.vec else p.vec ++ [(p.nstr, "", 0)]) ++ [(s.str, s.fmt, 1)] } := by
  rw [parse, hat]
  dsimp only
  rw [if_neg (by simp), if_neg hnext, hscan, if_pos hstatus]

theorem parse_error (hat : pattern[p.i]? = some '%') (hnext : pattern[p.i + 1]? ≠ some '%')
    (hscan : scan pattern p.i pattern.length ⟨p.i + 1, 0, 0, "", ""⟩ = s) (hstatus : s.fmt_status ≠ 0) :
    parse pattern (r + 1) p = parse pattern r { p with
      i := p.i + 1
      vec := p.vec ++ [("<pattern_error>", s.fmt, 0)]
      m_error := true } := by
  rw [parse, hat]
  dsimp only
  rw [if_neg (by simp), if_neg hnext, hscan, if_neg hstatus]

/-- What a round does: it moves on, and keeps the items and an error. -/
theorem parse_succ (pattern : List Char) (p : Parse) : pattern[p.i]? = none ∨
    ∃ p', (∀ r, parse pattern (r + 1) p = parse pattern r p') ∧ p.i < p'.i ∧ p.vec <+: p'.vec ∧
      (p.m_error = true → p'.m_error = true) := by
  cases hat : pattern[p.i]? with
  | none => exact .inl rfl
  | some c =>
      refine .inr ?_
      by_cases hc : c = '%'
      · subst hc
        by_cases hnext : pattern[p.i + 1]? = some '%'
        · exact ⟨_, fun r => parse_percent hat hnext, Nat.lt_succ_self _, List.prefix_refl _, id⟩
        · cases hscan : (scan pattern p.i pattern.length ⟨p.i + 1, 0, 0, "", ""⟩).fmt_status with
          | zero =>
              have hle := @le_scan_n pattern p.i pattern.length ⟨p.i + 1, 0, 0, "", ""⟩
              refine ⟨_, fun r => parse_specifier hat hnext rfl hscan, hle, ?_, id⟩
              dsimp only
              split
              · exact List.prefix_append _ _
              · rw [List.append_assoc]
                exact List.prefix_append _ _
          | succ n =>
              refine ⟨_, fun r => parse_error hat hnext rfl (by omega), Nat.lt_succ_self _, List.prefix_append _ _, ?_⟩
              exact fun _ => rfl
      · exact ⟨_, fun r => parse_literal hat hc, Nat.lt_succ_self _, List.prefix_refl _, id⟩

theorem parse_enough (h : pattern.length - p.i ≤ r) : parse pattern (r + k) p = parse pattern r p := by
  induction r generalizing p with
  | zero =>
      have hnone : pattern[p.i]? = none := List.getElem?_eq_none (by omega)
      rw [parse_end hnone, parse_end hnone]
  | succ r ih =>
      rcases parse_succ pattern p with hnone | ⟨p', hround, hlt, -, -⟩
      · rw [parse_end hnone, parse_end hnone]
      · rw [Nat.succ_add, hround, hround]
        exact ih (by omega)

theorem parse_keeps (pattern : List Char) (r : Nat) (p : Parse) :
    p.vec <+: (parse pattern r p).vec ∧ (p.m_error = true → (parse pattern r p).m_error = true) := by
  induction r generalizing p with
  | zero => exact ⟨List.prefix_refl _, id⟩
  | succ r ih =>
      rcases parse_succ pattern p with hnone | ⟨p', hround, -, hvec, herror⟩
      · rw [parse_end hnone]
        exact ⟨List.prefix_refl _, id⟩
      · rw [hround]
        exact ⟨hvec.trans (ih p').1, fun h => (ih p').2 (herror h)⟩

end Mingfwq.LogFormatter
