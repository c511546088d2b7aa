import Mingfwq.Http.Http

/-!
# The header map

Its order, and the map that elements in that order build.
-/

namespace Mingfwq.Http

variable {a b c key k : Bytes} {val v : Bytes} {l m : MapType}

/-! ## The order of the names -/

/-- The C string, in lower case. -/
def folded (s : Bytes) : Bytes := (s.takeWhile (· != 0)).map tolower

theorem folded_zero : folded (0 :: a) = [] := rfl

theorem folded_cons {x : UInt8} (h : x ≠ 0) : folded (x :: a) = tolower x :: folded a := by
  rw [folded, List.takeWhile_cons_of_pos (by simpa using h), List.map_cons, folded]

theorem tolower_pos {x : UInt8} (h : x ≠ 0) : tolower 0 < tolower x := by
  have hzero : tolower 0 = 0 := rfl
  have hx : 0 < x := UInt8.pos_iff_ne_zero.mpr h
  rw [hzero, tolower]
  split
  · next hupper =>
      rw [UInt8.lt_iff_toNat_lt, UInt8.toNat_add]
      have hle := UInt8.le_iff_toNat_le.mp hupper.1
      have hge := UInt8.le_iff_toNat_le.mp hupper.2
      simp only [UInt8.reduceToNat] at hle hge ⊢
      omega
  · exact hx

theorem strcasecmp_eq : strcasecmp a b = compare (folded a) (folded b) := by
  induction a generalizing b with
  | nil =>
      cases b with
      | nil => rfl
      | cons y b =>
          by_cases hy : y = 0
          · subst hy
            rfl
          · rw [strcasecmp, if_neg hy, folded_cons hy]
            rfl
  | cons x a ih =>
      cases b with
      | nil =>
          by_cases hx : x = 0
          · subst hx
            rfl
          · rw [strcasecmp, if_neg hx, folded_cons hx]
            rfl
      | cons y b =>
          rw [strcasecmp]
          by_cases hx : x = 0
          · subst hx
            by_cases hy : y = 0
            · subst hy
              rfl
            · rw [if_pos (tolower_pos hy), folded_zero, folded_cons hy]
              rfl
          · by_cases hy : y = 0
            · subst hy
              rw [if_neg (UInt8.lt_asymm (tolower_pos hx)), if_pos (tolower_pos hx), folded_zero, folded_cons hx]
              rfl
            · rw [folded_cons hx, folded_cons hy, List.compare_cons_cons, if_neg hx, ih]
              rcases Nat.lt_trichotomy (tolower x).toNat (tolower y).toNat with h | h | h
              · have hlt : tolower x < tolower y := UInt8.lt_iff_toNat_lt.mpr h
                rw [if_pos hlt, Std.compare_eq_lt.mpr hlt]
                rfl
              · rw [UInt8.toNat_inj.mp h, if_neg (UInt8.lt_irrefl _), if_neg (UInt8.lt_irrefl _), Std.compare_self]
                rfl
              · have hgt : tolower y < tolower x := UInt8.lt_iff_toNat_lt.mpr h
                rw [if_neg (UInt8.lt_asymm hgt), if_pos hgt, Std.compare_eq_gt.mpr hgt]
                rfl

theorem strcasecmp_swap : strcasecmp a b = (strcasecmp b a).swap := by
  rw [strcasecmp_eq, strcasecmp_eq]
  exact Std.OrientedOrd.eq_swap

theorem strcasecmp_gt : strcasecmp a b = .gt ↔ strcasecmp b a = .lt := by
  rw [strcasecmp_swap]
  cases strcasecmp b a <;> simp

theorem strcasecmp_trans (hab : strcasecmp a b = .lt) (hbc : strcasecmp b c = .lt) : strcasecmp a c = .lt := by
  rw [strcasecmp_eq] at hab hbc ⊢
  exact Std.TransCmp.lt_trans hab hbc

/-! ## Elements in their order -/

/-- What a `std::map` keeps of its elements. -/
def MapType.Ordered (m : MapType) : Prop := m.Pairwise fun e f => strcasecmp e.1 f.1 = .lt

theorem MapType.set_last (h : ∀ e ∈ l, strcasecmp e.1 key = .lt) : MapType.set l key val = l ++ [(key, val)] := by
  induction l with
  | nil => rfl
  | cons e l ih =>
      obtain ⟨c, w⟩ := e
      have hgt : strcasecmp key c = .gt := strcasecmp_gt.mpr (h (c, w) List.mem_cons_self)
      rw [MapType.set, hgt, ih fun e he => h e (List.mem_cons_of_mem _ he), List.cons_append]

theorem MapType.set_set (hkey : ∀ e ∈ l, strcasecmp e.1 key = .lt) (hk : strcasecmp k key ≠ .eq) :
    (l.set k v).set key val = (l ++ [(key, val)]).set k v := by
  induction l with
  | nil =>
      cases h : strcasecmp k key with
      | lt => simp only [MapType.set, List.nil_append, h, strcasecmp_gt.mpr h]
      | eq => exact absurd h hk
      | gt => simp only [MapType.set, List.nil_append, h, strcasecmp_gt.mp h]
  | cons e l ih =>
      obtain ⟨c, w⟩ := e
      have hlt : strcasecmp c key = .lt := hkey (c, w) List.mem_cons_self
      have hrest : ∀ e ∈ l, strcasecmp e.1 key = .lt := fun e he => hkey e (List.mem_cons_of_mem _ he)
      rw [List.cons_append, MapType.set, MapType.set]
      cases h : strcasecmp k c with
      | lt =>
          have hkkey : strcasecmp key k = .gt := strcasecmp_gt.mpr (strcasecmp_trans h hlt)
          simp only [MapType.set, hkkey, strcasecmp_gt.mpr hlt, MapType.set_last hrest]
      | eq => simp only [MapType.set, strcasecmp_gt.mpr hlt, MapType.set_last hrest]
      | gt => simp only [MapType.set, strcasecmp_gt.mpr hlt, ih hrest]

theorem MapType.foldl_set (h : (l ++ m).Ordered) (hk : ∀ e ∈ m, strcasecmp k e.1 ≠ .eq) :
    m.foldl (fun m e => m.set e.1 e.2) (l.set k v) = (l ++ m).set k v := by
  induction m generalizing l with
  | nil => rw [List.append_nil, List.foldl_nil]
  | cons e m ih =>
      have hbefore : ∀ f ∈ l, strcasecmp f.1 e.1 = .lt := fun f hf =>
        (List.pairwise_append.mp h).2.2 f hf e List.mem_cons_self
      have happend : l ++ e :: m = l ++ [e] ++ m := by rw [List.append_assoc, List.singleton_append]
      rw [List.foldl_cons, MapType.set_set hbefore (hk e List.mem_cons_self), happend]
      rw [happend] at h
      exact ih h fun e he => hk e (List.mem_cons_of_mem _ he)

/-! ## Lookups -/

theorem strcasecmp_eq_iff : strcasecmp a b = .eq ↔ folded a = folded b := by
  rw [strcasecmp_eq]
  exact Std.LawfulEqCmp.compare_eq_iff_eq

theorem strcasecmp_comm : strcasecmp a b = .eq ↔ strcasecmp b a = .eq := by
  rw [strcasecmp_eq_iff, strcasecmp_eq_iff]
  exact eq_comm

theorem strcasecmp_congr (h : strcasecmp a b = .eq) (c : Bytes) : strcasecmp a c = strcasecmp b c := by
  rw [strcasecmp_eq, strcasecmp_eq, strcasecmp_eq_iff.mp h]

theorem MapType.find_cons {e : Bytes × Bytes} :
    MapType.find (e :: m) k = if strcasecmp k e.1 = .eq then some e.2 else m.find k := by
  unfold MapType.find
  by_cases h : strcasecmp k e.1 = .eq
  · rw [List.find?_cons_of_pos (by simpa using h), if_pos h]
    rfl
  · rw [List.find?_cons_of_neg (by simpa using h), if_neg h]

theorem MapType.find_congr (h : strcasecmp a b = .eq) : m.find a = m.find b := by
  unfold MapType.find
  simp only [strcasecmp_congr h]

theorem MapType.find_set : (m.set key val).find k = if strcasecmp k key = .eq then some val else m.find k := by
  induction m with
  | nil => rw [MapType.set, MapType.find_cons]
  | cons e m ih =>
      obtain ⟨c, w⟩ := e
      rw [MapType.set]
      cases h : strcasecmp key c with
      | lt => simp only [MapType.find_cons]
      | eq =>
          have hc : strcasecmp k c = .eq ↔ strcasecmp k key = .eq := by
            rw [strcasecmp_eq_iff, strcasecmp_eq_iff, strcasecmp_eq_iff.mp h]
          simp only [MapType.find_cons, hc]
          split <;> rfl
      | gt =>
          simp only [MapType.find_cons, ih]
          by_cases hc : strcasecmp k c = .eq
          · have hk : strcasecmp k key ≠ .eq := by
              intro hk
              rw [← strcasecmp_congr hk, hc] at h
              cases h
            rw [if_pos hc, if_pos hc, if_neg hk]
          · rw [if_neg hc, if_neg hc]

theorem MapType.mem_set {e : Bytes × Bytes} (h : e ∈ m.set key val) : strcasecmp key e.1 = .eq ∨ e ∈ m := by
  induction m with
  | nil =>
      obtain rfl : e = (key, val) := by simpa [MapType.set] using h
      exact .inl (strcasecmp_eq_iff.mpr rfl)
  | cons d m ih =>
      obtain ⟨c, w⟩ := d
      rw [MapType.set] at h
      cases hc : strcasecmp key c with
      | lt =>
          simp only [hc, List.mem_cons] at h
          rcases h with rfl | h
          · exact .inl (strcasecmp_eq_iff.mpr rfl)
          · exact .inr (List.mem_cons.mpr h)
      | eq =>
          simp only [hc, List.mem_cons] at h
          rcases h with rfl | h
          · exact .inl hc
          · exact .inr (List.mem_cons_of_mem _ h)
      | gt =>
          simp only [hc, List.mem_cons] at h
          rcases h with rfl | h
          · exact .inr List.mem_cons_self
          · exact (ih h).imp_right (List.mem_cons_of_mem _)

theorem MapType.Ordered.set (h : m.Ordered) : (m.set key val).Ordered := by
  induction m with
  | nil => exact List.pairwise_singleton _ _
  | cons d m ih =>
      obtain ⟨c, w⟩ := d
      obtain ⟨hd, hm⟩ := List.pairwise_cons.mp h
      rw [MapType.set]
      cases hc : strcasecmp key c with
      | lt =>
          refine List.pairwise_cons.mpr ⟨fun e he => ?_, h⟩
          rcases List.mem_cons.mp he with rfl | he
          · exact hc
          · exact strcasecmp_trans hc (hd e he)
      | eq => exact List.pairwise_cons.mpr ⟨hd, hm⟩
      | gt =>
          refine List.pairwise_cons.mpr ⟨fun e he => ?_, ih hm⟩
          rcases MapType.mem_set he with hkey | he
          · show strcasecmp c e.1 = .lt
            rw [strcasecmp_swap, ← strcasecmp_congr hkey, hc]
            rfl
          · exact hd e he

theorem MapType.Ordered.countP_eq (h : m.Ordered) :
    m.countP (fun e => strcasecmp e.1 k = .eq) = (m.find k).isSome.toNat := by
  induction m with
  | nil => rfl
  | cons d m ih =>
      obtain ⟨hd, hm⟩ := List.pairwise_cons.mp h
      rw [List.countP_cons, MapType.find_cons, ih hm]
      by_cases hk : strcasecmp d.1 k = .eq
      · have hnone : MapType.find m k = none := by
          rw [MapType.find, Option.map_eq_none_iff, List.find?_eq_none]
          intro e he heq
          have hlt := hd e he
          rw [strcasecmp_congr hk, of_decide_eq_true heq] at hlt
          cases hlt
        rw [if_pos (strcasecmp_comm.mp hk), hnone]
        simp [hk]
      · rw [if_neg fun heq => hk (strcasecmp_comm.mp heq)]
        simp [hk]

end Mingfwq.Http
