import Mingfwq.Lib.Automaton

/-!
# The characters of URIs

The classes of RFC 3986, and words over a class in which other bytes stand percent-encoded.
-/

namespace Mingfwq.Lib

def CharClass.alpha : CharClass := [(65, 90), (97, 122)]

def CharClass.digit : CharClass := [(48, 57)]

def CharClass.xdigit : CharClass := [(48, 57), (65, 70), (97, 102)]

def CharClass.unreserved : CharClass := alpha ++ digit ++ [(45, 45), (46, 46), (95, 95), (126, 126)]

def CharClass.sub_delims : CharClass := [(33, 33), (36, 36), (38, 44), (59, 59), (61, 61)]

/-- Characters of the class, and `%` with two hexadecimal digits. -/
inductive Coded (cl : CharClass) : List UInt8 → Prop
  | nil : Coded cl []
  | plain {c xs} : cl.has c = true → Coded cl xs → Coded cl (c :: xs)
  | coded {a b xs} : CharClass.xdigit.has a = true → CharClass.xdigit.has b = true → Coded cl xs →
    Coded cl (37 :: a :: b :: xs)

section Coded

variable {cl cl' : CharClass} {xs ys : List UInt8} {c : UInt8}

theorem Coded.mono (h : Coded cl xs) (hsub : ∀ c, cl.has c = true → cl'.has c = true) : Coded cl' xs := by
  induction h with
  | nil => exact .nil
  | plain hc _ ih => exact .plain (hsub _ hc) ih
  | coded ha hb _ ih => exact .coded ha hb ih

theorem Coded.append (hx : Coded cl xs) (hy : Coded cl ys) : Coded cl (xs ++ ys) := by
  induction hx with
  | nil => exact hy
  | plain hc _ ih => exact .plain hc ih
  | coded ha hb _ ih => exact .coded ha hb ih

theorem Coded.of_all (h : ∀ c ∈ xs, cl.has c = true) : Coded cl xs := by
  induction xs with
  | nil => exact .nil
  | cons c xs ih => exact .plain (h c List.mem_cons_self) (ih fun d hd => h d (List.mem_cons_of_mem _ hd))

theorem Coded.mem (h : Coded cl xs) (hc : c ∈ xs) : cl.has c = true ∨ c = 37 ∨ CharClass.xdigit.has c = true := by
  induction h with
  | nil => cases hc
  | @plain d xs hd _ ih =>
      rcases List.mem_cons.mp hc with rfl | hc
      · exact .inl hd
      · exact ih hc
  | @coded a b xs ha hb _ ih =>
      simp only [List.mem_cons] at hc
      rcases hc with rfl | rfl | rfl | hc
      · exact .inr (.inl rfl)
      · exact .inr (.inr ha)
      · exact .inr (.inr hb)
      · exact ih hc

theorem Coded.split_first {m : UInt8} (h : Coded (cl ++ [(m.toNat, m.toNat)]) xs) :
    Coded cl xs ∨ ∃ ys zs, xs = ys ++ m :: zs ∧ Coded cl ys ∧ Coded (cl ++ [(m.toNat, m.toNat)]) zs := by
  induction h with
  | nil => exact .inl .nil
  | @plain c xs hc hxs ih =>
      rw [CharClass.has_append, Bool.or_eq_true] at hc
      rcases hc with hc | hc
      · rcases ih with ih | ⟨ys, zs, rfl, hys, hzs⟩
        · exact .inl (.plain hc ih)
        · exact .inr ⟨c :: ys, zs, rfl, .plain hc hys, hzs⟩
      · obtain rfl : c = m := by
          simp only [CharClass.has, List.any_cons, List.any_nil, Bool.or_false, Bool.and_eq_true,
            decide_eq_true_eq] at hc
          exact UInt8.toNat_inj.mp (Nat.le_antisymm hc.2 hc.1)
        exact .inr ⟨[], xs, rfl, .nil, hxs⟩
  | @coded a b xs ha hb _ ih =>
      rcases ih with ih | ⟨ys, zs, rfl, hys, hzs⟩
      · exact .inl (.coded ha hb ih)
      · exact .inr ⟨37 :: a :: b :: ys, zs, rfl, .coded ha hb hys, hzs⟩

end Coded

/-! ## Automata that read words -/

section Reads

variable {Act σ : Type} {step : σ → UInt8 → Option (List Act × σ)} {cl : CharClass} {s u u' : σ} {xs : List UInt8}

/-- In state `s` the automaton reads words over the class, with the states `u` and `u'` behind the `%`. -/
structure Reads (step : σ → UInt8 → Option (List Act × σ)) (cl : CharClass) (s u u' : σ) : Prop where
  plain : ∀ c, cl.has c = true → step s c = some ([], s)
  percent : step s 37 = some ([], u)
  first : ∀ c, CharClass.xdigit.has c = true → step u c = some ([], u')
  second : ∀ c, CharClass.xdigit.has c = true → step u' c = some ([], s)

theorem Reads.walk (h : Reads step cl s u u') (hxs : Coded cl xs) : walk step xs s = some s := by
  induction hxs with
  | nil => rfl
  | plain hc _ ih => rw [walk_cons (h.plain _ hc), ih]
  | coded ha hb _ ih => rw [walk_cons h.percent, walk_cons (h.first _ ha), walk_cons (h.second _ hb), ih]

/-- A word at whose first byte an action runs. -/
theorem Reads.scan_marked {κ : Type} {next : Nat → UInt8 → Option (Edge Act)} {breaks : Act → Bool}
    {run : Act → Nat → κ → Option κ} {q s u u' p : Nat} {a : Act} {k k' : κ} {ys : List UInt8}
    (h : Reads (goto next) cl s u u') (hplain : ∀ c, cl.has c = true → goto next q c = some ([a], s))
    (hpercent : goto next q 37 = some ([a], u)) (hr : run a p k = some k') (hb : breaks a = false)
    (hxs : Coded cl xs) (hne : xs ≠ []) :
    scan next breaks run p (xs ++ ys) q k = scan next breaks run (p + xs.length) ys s k' := by
  have hacts : runActs run [a] p k = some k' := (runActs_singleton run a p k).trans hr
  have hany : [a].any breaks = false := by rw [List.any_cons, hb]; rfl
  cases hxs with
  | nil => exact absurd rfl hne
  | @plain c xs hc hxs =>
      rw [List.length_cons, Nat.add_comm xs.length, ← Nat.add_assoc]
      exact (scan_goto_live (hplain c hc) hacts hany).trans (scan_walk (h.walk hxs))
  | @coded a b xs ha hb hxs =>
      have hwalk : Lib.walk (goto next) (a :: b :: xs) u = some s := by
        rw [walk_cons (h.first a ha), walk_cons (h.second b hb), h.walk hxs]
      rw [List.length_cons, Nat.add_comm (a :: b :: xs).length, ← Nat.add_assoc]
      exact (scan_goto_live hpercent hacts hany).trans (scan_walk hwalk)

end Reads

end Mingfwq.Lib
