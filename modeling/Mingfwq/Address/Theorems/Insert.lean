import Mathlib.Algebra.Ring.Nat
import Mingfwq.Address.Insert

/-!
# The text of an IPv6 address reads back

The first run of zeros, wherever it is and however long, becomes the double colon; all later zeros are printed.
-/

namespace Mingfwq

open Lib

variable {o : ByteOrder} {c : Char} {n : Nat}

/-! ## One group -/

theorem hexDigit_digitChar {d : Nat} (h : d < 16) : hexDigit d.digitChar = some d := by
  have hall : ∀ d < 16, hexDigit d.digitChar = some d := by decide
  exact hall d h

theorem mem_toDigits (h : c ∈ Nat.toDigits 16 n) : ∃ d < 16, c = d.digitChar := by
  induction n using Nat.strongRecOn with
  | ind n ih =>
      rw [Nat.toDigits_eq_if (by decide)] at h
      split at h
      · next hlt => exact ⟨n, hlt, List.mem_singleton.mp h⟩
      · rcases List.mem_append.mp h with h | h
        · exact ih (n / 16) (Nat.div_lt_self (by omega) (by decide)) h
        · exact ⟨n % 16, Nat.mod_lt _ (by decide), List.mem_singleton.mp h⟩

theorem toDigits_ne (h : c ∈ Nat.toDigits 16 n) : c ≠ ':' ∧ c ≠ ']' := by
  obtain ⟨d, hd, rfl⟩ := mem_toDigits h
  have hall : ∀ d < 16, d.digitChar ≠ ':' ∧ d.digitChar ≠ ']' := by decide
  exact hall d hd

theorem foldlM_toDigits (n : Nat) :
    (Nat.toDigits 16 n).foldlM (fun n c => (hexDigit c).map (16 * n + ·)) 0 = some n := by
  induction n using Nat.strongRecOn with
  | ind n ih =>
      rw [Nat.toDigits_eq_if (by decide)]
      split
      · next hlt =>
          rw [List.foldlM_cons, hexDigit_digitChar hlt]
          simp
      · have hdigit : hexDigit (n % 16).digitChar = some (n % 16) := hexDigit_digitChar (Nat.mod_lt _ (by decide))
        rw [List.foldlM_append, ih (n / 16) (Nat.div_lt_self (by omega) (by decide))]
        simp [hdigit, Nat.div_add_mod]

theorem hexGroup_toDigits (h : n < 65536) : hexGroup (Nat.toDigits 16 n) = some n := by
  have hlen : (Nat.toDigits 16 n).length ≤ 4 := (Nat.length_toDigits_le_iff (by decide) (by decide)).mpr h
  have hcond : ¬(Nat.toDigits 16 n = [] ∨ 4 < (Nat.toDigits 16 n).length) := by
    rintro (hnil | hlong)
    · exact Nat.toDigits_ne_nil hnil
    · omega
  rw [hexGroup, if_neg hcond, foldlM_toDigits]

/-! ## One side of the double colon -/

/-- Groups as they are printed. -/
def printed (groups : List Nat) : List Char := [':'].intercalate (groups.map (Nat.toDigits 16))

theorem piece_toDigits {groups : List Nat} : ∀ piece ∈ groups.map (Nat.toDigits 16), piece ≠ [] ∧ ':' ∉ piece := by
  intro piece h
  obtain ⟨n, -, rfl⟩ := List.mem_map.mp h
  exact ⟨Nat.toDigits_ne_nil, fun hcolon => (toDigits_ne hcolon).1 rfl⟩

theorem readGroups_toDigits (quad : Bool) {groups : List Nat} (h : ∀ n ∈ groups, n < 65536) :
    readGroups quad (groups.map (Nat.toDigits 16)) = some groups := by
  induction groups with
  | nil => rfl
  | cons n groups ih =>
      obtain ⟨hn, hgroups⟩ := List.forall_mem_cons.mp h
      cases groups with
      | nil => rw [List.map_singleton, readGroups, hexGroup_toDigits hn]
      | cons m groups =>
          rw [List.map_cons, List.map_cons, readGroups, hexGroup_toDigits hn, ← List.map_cons, ih hgroups]
          · rfl
          · exact fun hnil => nomatch hnil

theorem readSide_printed (quad : Bool) {groups : List Nat} (h : ∀ n ∈ groups, n < 65536) :
    readSide quad (printed groups) = some groups := by
  cases groups with
  | nil => rfl
  | cons n groups =>
      have hne : printed (n :: groups) ≠ [] := by
        obtain ⟨c, rest, hdigits⟩ := List.exists_cons_of_ne_nil (Nat.toDigits_ne_nil (n := n) (b := 16))
        rw [printed, List.map_cons, hdigits, List.intercalate_cons_cons_left]
        exact List.cons_ne_nil _ _
      have hsplit : (printed (n :: groups)).splitOn ':' = (n :: groups).map (Nat.toDigits 16) :=
        List.splitOn_intercalate _ (fun piece hpiece => (piece_toDigits piece hpiece).2) (List.cons_ne_nil _ _)
      rw [readSide, if_neg hne, hsplit, readGroups_toDigits quad h]

/-! ## The whole text -/

/-- The texts that groups may be printed as: all of them, or those around a run of zeros. -/
inductive Text : List Nat → List Char → Prop
  | all (groups : List Nat) : Text groups (printed groups)
  | around (front back : List Nat) (k : Nat) :
      Text (front ++ (List.replicate (k + 1) 0 ++ back)) (printed front ++ ':' :: ':' :: printed back)

theorem doubled_printed (groups : List Nat) : doubled ':' (printed groups) = 0 := doubled_intercalate piece_toDigits

theorem getLast?_printed (groups : List Nat) : (printed groups).getLast? ≠ some ':' :=
  getLast?_intercalate piece_toDigits

theorem not_mem_printed (groups : List Nat) : ']' ∉ printed groups := by
  intro hmem
  rcases mem_intercalate hmem with hcolon | ⟨piece, hpiece, hc⟩
  · exact absurd hcolon (by decide)
  · obtain ⟨n, -, rfl⟩ := List.mem_map.mp hpiece
    exact (toDigits_ne hc).2 rfl

namespace Text

variable {groups : List Nat} {text : List Char}

theorem doubled_le (h : Text groups text) : doubled ':' text ≤ 1 := by
  cases h with
  | all => exact Nat.le_trans (Nat.le_of_eq (doubled_printed _)) (Nat.zero_le 1)
  | around front back k =>
      have hhead : (printed back).head? ≠ some ':' := head?_intercalate piece_toDigits
      rw [doubled_append (.inl (getLast?_printed _)), doubled_printed, doubled, doubled_of_head hhead, doubled_printed]
      decide

theorem not_mem (h : Text groups text) : ']' ∉ text := by
  cases h with
  | all => exact not_mem_printed _
  | around front back k => simp [not_mem_printed]

theorem reads (h : Text groups text) (hlen : groups.length = 8) (hlt : ∀ n ∈ groups, n < 65536) :
    inet_pton text = some groups := by
  cases h with
  | all =>
      rw [inet_pton, cutDoubled_eq_none (doubled_printed _)]
      simp only [readSide_printed true hlt, Option.filter_some, hlen, decide_true, if_true]
  | around front back k =>
      have hfront : ∀ n ∈ front, n < 65536 := fun n hn => hlt n (by simp [hn])
      have hback : ∀ n ∈ back, n < 65536 := fun n hn => hlt n (by simp [hn])
      have hsum : front.length + (k + 1 + back.length) = 8 := by simpa using hlen
      have hrun : 8 - (front.length + back.length) = k + 1 := by omega
      rw [inet_pton, cutDoubled_append (doubled_printed _) (getLast?_printed _)]
      simp only [readSide_printed false hfront, readSide_printed true hback, Option.bind_eq_bind, Option.bind_some]
      rw [if_pos (by omega), hrun, List.append_assoc]

end Text

namespace IPv6Address

/-! ## The loop -/

variable {p : Nat} {os : List Char} {groups rest : List Nat}

/-- Groups that are printed behind others. -/
def colons (groups : List Nat) : List Char := groups.flatMap fun n => ':' :: Nat.toDigits 16 n

theorem printed_cons (n : Nat) (groups : List Nat) : printed (n :: groups) = Nat.toDigits 16 n ++ colons groups := by
  induction groups generalizing n with
  | nil => simp [printed, colons]
  | cons m groups ih =>
      have hstep : printed (n :: m :: groups) = Nat.toDigits 16 n ++ [':'] ++ printed (m :: groups) :=
        List.intercalate_cons_cons
      rw [hstep, ih]
      simp [colons]

theorem insertLoop_used (groups : List Nat) :
    insertLoop .big (some p) groups os true = (os ++ colons groups, true) := by
  induction groups generalizing p os with
  | nil => simp [insertLoop, colons]
  | cons n groups ih =>
      rw [insertLoop]
      simp [ih, colons, byteswapOnLittleEndian]

theorem insertLoop_zeros (k : Nat) :
    insertLoop .big (some 0) (List.replicate k 0 ++ rest) os false = insertLoop .big (some 0) rest os false := by
  induction k with
  | zero => rfl
  | succ k ih =>
      rw [List.replicate_succ, List.cons_append, insertLoop]
      simpa using ih

theorem insertLoop_behind {n : Nat} (hn : n ≠ 0) :
    insertLoop .big (some 0) (n :: rest) os false = (os ++ ':' :: colons (n :: rest), true) := by
  rw [insertLoop]
  simp [hn, insertLoop_used, colons, byteswapOnLittleEndian]

theorem insertLoop_before (hp : p ≠ 0) (h : ∀ n ∈ groups, n ≠ 0) :
    ∃ previous, insertLoop .big (some p) (groups ++ rest) os false =
      insertLoop .big previous rest (os ++ colons groups) false := by
  induction groups generalizing p os with
  | nil => exact ⟨some p, by simp [colons]⟩
  | cons n groups ih =>
      obtain ⟨hn, hgroups⟩ := List.forall_mem_cons.mp h
      obtain ⟨previous, hloop⟩ := @ih n (os ++ ':' :: Nat.toDigits 16 n) hn hgroups
      refine ⟨previous, ?_⟩
      rw [List.cons_append, insertLoop]
      simp [hn, hp, byteswapOnLittleEndian, hloop, colons]

/-- The groups before the first zero. -/
theorem insertLoop_front (h : 0 ∉ groups) :
    ∃ previous, insertLoop .big none (groups ++ rest) ['['] false =
      insertLoop .big previous rest ('[' :: printed groups) false := by
  cases groups with
  | nil => exact ⟨none, rfl⟩
  | cons n groups =>
      rw [List.mem_cons, not_or] at h
      have hn : n ≠ 0 := Ne.symm h.1
      have hgroups : ∀ m ∈ groups, m ≠ 0 := fun m hm hzero => h.2 (hzero ▸ hm)
      obtain ⟨previous, hloop⟩ := @insertLoop_before n ('[' :: Nat.toDigits 16 n) groups rest hn hgroups
      refine ⟨previous, ?_⟩
      rw [List.cons_append, insertLoop, printed_cons]
      simp [hn, byteswapOnLittleEndian, hloop]

theorem insertLoop_zero (previous : Option Nat) :
    insertLoop .big previous (0 :: rest) os false = insertLoop .big (some 0) rest os false := by
  rw [insertLoop]
  simp

theorem exists_zeros (groups : List Nat) :
    ∃ k back, groups = List.replicate k 0 ++ back ∧ ∀ n ∈ back.head?, n ≠ 0 := by
  induction groups with
  | nil => exact ⟨0, [], rfl, by simp⟩
  | cons n groups ih =>
      by_cases hn : n = 0
      · obtain ⟨k, back, rfl, hback⟩ := ih
        exact ⟨k + 1, back, by rw [hn]; rfl, hback⟩
      · exact ⟨0, n :: groups, rfl, by simpa using hn⟩

/-- The loop and what is printed behind it. -/
def printGroups (o : ByteOrder) (groups : List Nat) : List Char :=
  let (os, used_zeros) := insertLoop o none groups ['['] false
  if !used_zeros && groups.getLast? = some 0 then os ++ [':', ':'] else os

theorem printGroups_text (groups : List Nat) : ∃ text, printGroups .big groups = '[' :: text ∧ Text groups text := by
  by_cases hzero : 0 ∈ groups
  · obtain ⟨front, tail, rfl, hfront⟩ := List.eq_append_cons_of_mem hzero
    obtain ⟨k, back, rfl, hback⟩ := exists_zeros tail
    obtain ⟨previous, hloop⟩ := @insertLoop_front front (0 :: (List.replicate k 0 ++ back)) hfront
    refine ⟨_, ?_, Text.around front back k⟩
    rw [printGroups, hloop, insertLoop_zero, insertLoop_zeros]
    cases back with
    | nil =>
        have hlast : (0 :: List.replicate k 0).getLast? = some 0 := by
          rw [← List.replicate_succ, List.getLast?_replicate]
          rfl
        simp [insertLoop, hlast, printed]
    | cons n back =>
        rw [insertLoop_behind (hback n rfl), printed_cons]
        simp [colons]
  · obtain ⟨previous, hloop⟩ := @insertLoop_front groups [] hzero
    refine ⟨_, ?_, .all groups⟩
    have hlast : groups.getLast? ≠ some 0 := fun hlast => hzero (List.mem_of_getLast? hlast)
    rw [List.append_nil] at hloop
    simp [printGroups, hloop, insertLoop, hlast]

/-! ## The groups of an address -/

variable {addr : Vector UInt8 16} {m_addr m_addr' : sockaddr_in6}

/-- The eight groups, of which the network sees the high byte first. -/
def networkGroups (m_addr : sockaddr_in6) : List Nat := u6_addr16 .big m_addr.sin6_addr

def getPort (o : ByteOrder) (m_addr : sockaddr_in6) : Nat := byteswapOnLittleEndian o 2 m_addr.sin6_port.toNat

theorem length_u6_addr16 : (u6_addr16 o addr).length = 8 := by
  rw [u6_addr16, List.length_map, List.length_range]

theorem length_pair {i : Nat} (hi : i < 8) : ((addr.toList.drop (2 * i)).take 2).length = 2 := by
  rw [List.length_take, List.length_drop, Vector.length_toList]
  omega

theorem u6_addr16_lt {n : Nat} (h : n ∈ u6_addr16 o addr) : n < 65536 := by
  obtain ⟨i, hi, rfl⟩ := List.mem_map.mp h
  have hlt := ByteOrder.value_lt o ((addr.toList.drop (2 * i)).take 2)
  rwa [length_pair (List.mem_range.mp hi)] at hlt

theorem map_u6_addr16 : (u6_addr16 o addr).map (byteswapOnLittleEndian o 2) = u6_addr16 .big addr := by
  rw [u6_addr16, u6_addr16, List.map_map]
  refine List.map_congr_left fun i hi => ?_
  have hlen : ((addr.toList.drop (2 * i)).take 2).length = 2 := length_pair (List.mem_range.mp hi)
  cases o with
  | big => rfl
  | little =>
      have hbytes := lowBytes_ofLowBytes ((addr.toList.drop (2 * i)).take 2)
      rw [hlen] at hbytes
      simp only [Function.comp, byteswapOnLittleEndian, ByteOrder.value, ByteOrder.swap, hbytes]

theorem byteswap_eq_zero (h : n < 65536) : byteswapOnLittleEndian o 2 n = 0 ↔ n = 0 := by
  cases o with
  | big => rfl
  | little =>
      constructor
      · intro hzero
        rw [← ByteOrder.swap_swap (n := 2) h]
        exact congrArg (ByteOrder.swap 2) hzero
      · rintro rfl
        rfl

theorem insertLoop_map {previous : Option Nat} {groups : List Nat} {used_zeros : Bool}
    (hprevious : ∀ n ∈ previous, n < 65536) (h : ∀ n ∈ groups, n < 65536) :
    insertLoop o previous groups os used_zeros =
      insertLoop .big (previous.map (byteswapOnLittleEndian o 2)) (groups.map (byteswapOnLittleEndian o 2)) os
        used_zeros := by
  induction groups generalizing previous os used_zeros with
  | nil => rfl
  | cons n groups ih =>
      obtain ⟨hn, hgroups⟩ := List.forall_mem_cons.mp h
      have hprevious' : previous.map (byteswapOnLittleEndian o 2) = some 0 ↔ previous = some 0 := by
        cases previous with
        | none => simp
        | some m => simp [byteswap_eq_zero (o := o) (hprevious m rfl)]
      have hnext : ∀ m ∈ some n, m < 65536 := fun m hm => Option.mem_some.mp hm ▸ hn
      rw [insertLoop, List.map_cons, insertLoop]
      simp only [byteswap_eq_zero hn, hprevious', Option.isSome_map, ih hnext hgroups, Option.map_some]
      rfl

theorem insert_eq (o : ByteOrder) (m_addr : sockaddr_in6) :
    insert o m_addr = printGroups .big (networkGroups m_addr) ++ [']', ':'] ++ Nat.toDigits 10 (getPort o m_addr) := by
  have hloop : insertLoop o none (u6_addr16 o m_addr.sin6_addr) ['['] false =
      insertLoop .big none (networkGroups m_addr) ['['] false := by
    rw [insertLoop_map (by simp) fun n hn => u6_addr16_lt hn, map_u6_addr16]
    rfl
  have hlast : (u6_addr16 o m_addr.sin6_addr)[7]? = some 0 ↔ (networkGroups m_addr).getLast? = some 0 := by
    rw [List.getLast?_eq_getElem?, networkGroups, length_u6_addr16, ← map_u6_addr16 (o := o), List.getElem?_map]
    cases hget : (u6_addr16 o m_addr.sin6_addr)[7]? with
    | none => simp
    | some n => simp [byteswap_eq_zero (o := o) (u6_addr16_lt (List.mem_of_getElem? hget))]
  simp only [insert, hloop, hlast, printGroups, getPort]

/-- The text in the brackets reads back, with at most one double colon, and the port stands behind it. -/
def Printed (o : ByteOrder) (m_addr : sockaddr_in6) (text : List Char) : Prop :=
  ∃ literal, text = '[' :: (literal ++ ']' :: ':' :: Nat.toDigits 10 (getPort o m_addr)) ∧
    doubled ':' literal ≤ 1 ∧ inet_pton literal = some (networkGroups m_addr)

theorem insert_text (o : ByteOrder) (m_addr : sockaddr_in6) :
    ∃ literal, insert o m_addr = '[' :: (literal ++ ']' :: ':' :: Nat.toDigits 10 (getPort o m_addr)) ∧
      Text (networkGroups m_addr) literal := by
  obtain ⟨literal, hprint, htext⟩ := printGroups_text (networkGroups m_addr)
  refine ⟨literal, ?_, htext⟩
  rw [insert_eq, hprint]
  simp

/-- What is printed for an address is a literal that reads as its groups, and only addresses with the same groups and
port are printed alike. -/
theorem insert_reads (o : ByteOrder) (m_addr m_addr' : sockaddr_in6) :
    Printed o m_addr (insert o m_addr) ∧
      (insert o m_addr = insert o m_addr' ↔
        networkGroups m_addr = networkGroups m_addr' ∧ getPort o m_addr = getPort o m_addr') := by
  have hreads : ∀ {m_addr : sockaddr_in6} {literal}, Text (networkGroups m_addr) literal →
      inet_pton literal = some (networkGroups m_addr) :=
    fun htext => htext.reads length_u6_addr16 fun n hn => u6_addr16_lt hn
  obtain ⟨literal, hinsert, htext⟩ := insert_text o m_addr
  refine ⟨⟨literal, hinsert, htext.doubled_le, hreads htext⟩, ?_⟩
  constructor
  · intro heq
    obtain ⟨literal', hinsert', htext'⟩ := insert_text o m_addr'
    rw [hinsert, hinsert'] at heq
    obtain ⟨rfl, hport⟩ := first_unique htext.not_mem htext'.not_mem (List.cons.inj heq).2
    have hdigits := congrArg (Nat.ofDigitChars 10 · 0) (List.cons.inj hport).2
    simp only [Nat.ofDigitChars_ten_toDigits] at hdigits
    exact ⟨Option.some.inj ((hreads htext).symm.trans (hreads htext')), hdigits⟩
  · rintro ⟨hgroups, hport⟩
    rw [insert_eq, insert_eq, hgroups, hport]

/-- The first run of zeros is left out, not the longest. -/
example : insert .big ⟨10, 80, 0, #v[0, 1, 0, 0, 0, 2, 0, 0, 0, 0, 0, 3, 0, 0, 0, 0], 0⟩ =
    "[1::2:0:0:3:0:0]:80".toList := by decide

end IPv6Address

end Mingfwq
