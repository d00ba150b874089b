/-
  Decimal numbers as Go's `fmt` and `strconv` write and read them.

  `padded w n` is `%0wd`. A digit string is the padding of its value to its own length
  (`padded_digitsVal`), so reading a field of fixed width (`fixedDigits`) undoes writing it and
  accepts nothing else. `sscanInt64_repr`, `atoi_repr`: what `%d` wrote is read back, up to int64's
  range.
-/
import Mathlib.Algebra.Order.Ring.Int
import Mathlib.Data.List.Induction
import Mathlib.Data.List.TakeWhile
import SaasChassis.Lib.Text

namespace SaasChassis.Lib

/-- The value of a string of digits. -/
abbrev digitsVal (cs : List Char) : ℕ := Nat.ofDigitChars 10 cs 0

/-- `fmt.Sprintf("%0wd", n)`. -/
def padded (w n : ℕ) : List Char :=
  List.replicate (w - (Nat.toDigits 10 n).length) '0' ++ Nat.toDigits 10 n

theorem isDigit_of_mem_padded {w n : ℕ} {c : Char} (h : c ∈ padded w n) : c.isDigit := by
  rcases List.mem_append.mp h with h | h
  · rw [List.eq_of_mem_replicate h]
    decide
  · exact Nat.isDigit_of_mem_toDigits (by omega) (by omega) h

theorem length_padded {w n : ℕ} (hw : 0 < w) (hn : n < 10 ^ w) : (padded w n).length = w := by
  have hlen : (Nat.toDigits 10 n).length ≤ w := (Nat.length_toDigits_le_iff (by omega) hw).mpr hn
  rw [padded, List.length_append, List.length_replicate]
  omega

theorem digitsVal_padded (w n : ℕ) : digitsVal (padded w n) = n := by
  rw [padded, digitsVal, Nat.ofDigitChars_append, Nat.ofDigitChars_replicate_zero, mul_zero,
    Nat.ofDigitChars_ten_toDigits]

theorem digitsVal_append_one (cs : List Char) (c : Char) :
    digitsVal (cs ++ [c]) = 10 * digitsVal cs + (c.toNat - 48) := by
  rw [digitsVal, Nat.ofDigitChars_append, Nat.ofDigitChars_cons, Nat.ofDigitChars_nil]
  rfl

theorem digit_bounds {c : Char} (h : c.isDigit) : 48 ≤ c.toNat ∧ c.toNat ≤ 57 := by
  rw [Char.isDigit, Bool.and_eq_true, decide_eq_true_eq, decide_eq_true_eq] at h
  exact h

theorem digitsVal_lt {cs : List Char} (h : ∀ c ∈ cs, c.isDigit) :
    digitsVal cs < 10 ^ cs.length := by
  induction cs using List.reverseRecOn with
  | nil => simp
  | append_singleton cs c ih =>
    have hcs := ih fun d hd => h d (List.mem_append_left _ hd)
    have hc := digit_bounds (h c (by simp))
    rw [digitsVal_append_one, List.length_append, List.length_singleton, pow_succ]
    omega

/-- Digit strings of one length are told apart by their values. -/
theorem digitsVal_inj {cs ds : List Char} (hc : ∀ c ∈ cs, c.isDigit) (hd : ∀ d ∈ ds, d.isDigit)
    (hlen : cs.length = ds.length) (h : digitsVal cs = digitsVal ds) : cs = ds := by
  induction cs using List.reverseRecOn generalizing ds with
  | nil => exact (List.length_eq_zero_iff.mp hlen.symm).symm
  | append_singleton cs c ih =>
    induction ds using List.reverseRecOn with
    | nil => simp at hlen
    | append_singleton ds d _ =>
      rw [digitsVal_append_one, digitsVal_append_one] at h
      rw [List.length_append, List.length_append, List.length_singleton,
        List.length_singleton] at hlen
      have hcb := digit_bounds (hc c (by simp))
      have hdb := digit_bounds (hd d (by simp))
      have hlast : c = d := Char.toNat_inj.mp (by omega)
      have hinit := ih (fun x hx => hc x (List.mem_append_left _ hx))
        (fun x hx => hd x (List.mem_append_left _ hx)) (by omega) (by omega)
      rw [hinit, hlast]

theorem padded_digitsVal {cs : List Char} (hne : cs ≠ []) (h : ∀ c ∈ cs, c.isDigit) :
    padded cs.length (digitsVal cs) = cs := by
  have hlen := length_padded (List.length_pos_iff.mpr hne) (digitsVal_lt h)
  exact digitsVal_inj (fun _ hc => isDigit_of_mem_padded hc) h hlen (digitsVal_padded _ _)

/-! ## Fields of fixed width -/

/-- The first `w` characters as a number, and what follows them. -/
def fixedDigits (w : ℕ) (cs : List Char) : Option (ℕ × List Char) :=
  if (cs.take w).length = w ∧ (cs.take w).all Char.isDigit then
    some (digitsVal (cs.take w), cs.drop w)
  else none

theorem fixedDigits_padded {w n : ℕ} (hw : 0 < w) (hn : n < 10 ^ w) (cs : List Char) :
    fixedDigits w (padded w n ++ cs) = some (n, cs) := by
  have hlen := length_padded hw hn
  have htake : (padded w n ++ cs).take w = padded w n := List.take_left' hlen
  have hdrop : (padded w n ++ cs).drop w = cs := List.drop_left' hlen
  have hdigits : (padded w n).all Char.isDigit :=
    List.all_eq_true.mpr fun _ hc => isDigit_of_mem_padded hc
  rw [fixedDigits, htake, hdrop, if_pos ⟨hlen, hdigits⟩, digitsVal_padded]

theorem eq_of_fixedDigits {w n : ℕ} {cs rest : List Char} (hw : 0 < w)
    (h : fixedDigits w cs = some (n, rest)) : cs = padded w n ++ rest ∧ n < 10 ^ w := by
  rw [fixedDigits] at h
  split at h
  next hds =>
    obtain ⟨hlen, hdigits⟩ := hds
    obtain ⟨rfl, rfl⟩ := Prod.mk.inj (Option.some.inj h)
    have hall : ∀ c ∈ cs.take w, c.isDigit := List.all_eq_true.mp hdigits
    have hne : cs.take w ≠ [] := List.ne_nil_of_length_pos (by omega)
    have hpad := padded_digitsVal hne hall
    have hlt := digitsVal_lt hall
    rw [hlen] at hpad hlt
    rw [hpad, List.take_append_drop]
    exact ⟨rfl, hlt⟩
  next => exact nomatch h

/-! ## Integers -/

/-- `fmt.Sscanf(s, "%d", &i)` for an `int64`: what follows the number is not looked at. -/
def sscanInt64 (s : String) : Option ℤ :=
  -- a newline is no blank for `Sscanf`
  let cs := s.toList.dropWhile fun c => isSpace c && c ≠ '\n'
  let negative := cs.head? = some '-'
  let digits := (if cs.head? = some '-' ∨ cs.head? = some '+' then cs.tail else cs).takeWhile
    Char.isDigit
  let i : ℤ := if negative then -digitsVal digits else digitsVal digits
  if digits ≠ [] ∧ -2 ^ 63 ≤ i ∧ i < 2 ^ 63 then some i else none

/-- `strconv.Atoi`, for an `int` of 64 bits. -/
def atoi (s : String) : Option ℤ :=
  let cs := s.toList
  let digits := if cs.head? = some '-' ∨ cs.head? = some '+' then cs.tail else cs
  let i : ℤ := if cs.head? = some '-' then -digitsVal digits else digitsVal digits
  if digits ≠ [] ∧ digits.all Char.isDigit ∧ -2 ^ 63 ≤ i ∧ i < 2 ^ 63 then some i else none

theorem isSpace_digit {c : Char} (h : c.isDigit) : isSpace c = false := by
  have hall : ∀ n < 58, 48 ≤ n → isSpace (Char.ofNat n) = false := by decide
  have hb := digit_bounds h
  rw [← Char.ofNat_toNat c]
  exact hall c.toNat (by omega) hb.1

theorem not_sign_of_isDigit {c : Char} (h : c.isDigit) : c ≠ '-' ∧ c ≠ '+' := by
  constructor
  all_goals
    rintro rfl
    exact nomatch h

theorem sscanInt64_repr {n : ℕ} (h : n < 2 ^ 63) : sscanInt64 n.repr = some (n : ℤ) := by
  have hdigits : ∀ c ∈ Nat.toDigits 10 n, c.isDigit :=
    fun c hc => Nat.isDigit_of_mem_toDigits (by omega) (by omega) hc
  obtain ⟨c, cs, hcs⟩ := List.exists_cons_of_ne_nil (Nat.toDigits_ne_nil (b := 10) (n := n))
  have hc : c.isDigit := hdigits c (by simp [hcs])
  have hblank : n.repr.toList.dropWhile (fun c => isSpace c && c ≠ '\n') = c :: cs := by
    rw [Nat.toList_repr, hcs, List.dropWhile_cons_of_neg]
    simp [isSpace_digit hc]
  have hsign := not_sign_of_isDigit hc
  have hall : (c :: cs).takeWhile Char.isDigit = c :: cs := by
    rw [← hcs]
    exact List.takeWhile_eq_self_iff.mpr hdigits
  have hval : digitsVal (c :: cs) = n := by
    rw [← hcs]
    exact Nat.ofDigitChars_ten_toDigits
  simp only [sscanInt64, hblank, List.head?_cons, Option.some.injEq, hsign, or_self, if_false,
    hall, hval]
  rw [if_pos ⟨List.cons_ne_nil c cs, by omega, by omega⟩]

theorem atoi_repr (n : ℕ) : atoi n.repr = if n < 2 ^ 63 then some (n : ℤ) else none := by
  have hdigits : ∀ c ∈ Nat.toDigits 10 n, c.isDigit :=
    fun c hc => Nat.isDigit_of_mem_toDigits (by omega) (by omega) hc
  obtain ⟨c, cs, hcs⟩ := List.exists_cons_of_ne_nil (Nat.toDigits_ne_nil (b := 10) (n := n))
  have hsign : c ≠ '-' ∧ c ≠ '+' := not_sign_of_isDigit (hdigits c (by simp [hcs]))
  have hlist : n.repr.toList = c :: cs := by rw [Nat.toList_repr, hcs]
  have hall : (c :: cs).all Char.isDigit := by
    rw [← hcs]
    exact List.all_eq_true.mpr hdigits
  have hval : digitsVal (c :: cs) = n := by
    rw [← hcs]
    exact Nat.ofDigitChars_ten_toDigits
  simp only [atoi, hlist, List.head?_cons, Option.some.injEq, hsign, or_self, if_false, hall, hval]
  refine if_congr ⟨fun h => by omega, fun h => ⟨List.cons_ne_nil c cs, trivial, by omega, by omega⟩⟩
    rfl rfl

end SaasChassis.Lib
