/-
  Strings of UTF-16 code units, as JavaScript and the escapes of JSON have them: a surrogate may
  stand in one without its other half.

  `scan` reads the characters; `toWellFormed` is the string with U+FFFD for each lone surrogate,
  which is also what Go's decoder makes of it. `toWellFormed_ofString`: text survives, and
  `ofString_toWellFormed`: so does every string without a lone surrogate.
-/
import Mathlib.Data.List.Basic

namespace SaasChassis.Lib

structure Utf16 where
  units : List UInt16
  deriving DecidableEq

namespace Utf16

/-! ## Surrogates -/

def isHigh (u : UInt16) : Bool := 0xD800 ≤ u.toNat && u.toNat < 0xDC00

def isLow (u : UInt16) : Bool := 0xDC00 ≤ u.toNat && u.toNat < 0xE000

/-- The character of a pair of surrogates. -/
def combine (high low : UInt16) : Char :=
  Char.ofNat (0x10000 + (high.toNat - 0xD800) * 0x400 + (low.toNat - 0xDC00))

/-- The character of a unit that is no half of a pair. -/
def single (u : UInt16) : Option Char :=
  if isHigh u || isLow u then none else some (Char.ofNat u.toNat)

/-- The characters of a string; `none` for a lone surrogate. -/
def scan : List UInt16 → List (Option Char)
  | [] => []
  | [u] => [single u]
  | u :: v :: units =>
    if isHigh u && isLow v then some (combine u v) :: scan units else single u :: scan (v :: units)

def encodeChar (c : Char) : List UInt16 :=
  if c.toNat < 0x10000 then [UInt16.ofNat c.toNat]
  else
    [UInt16.ofNat (0xD800 + (c.toNat - 0x10000) / 0x400),
     UInt16.ofNat (0xDC00 + (c.toNat - 0x10000) % 0x400)]

def ofString (s : String) : Utf16 := ⟨s.toList.flatMap encodeChar⟩

instance : Coe String Utf16 := ⟨ofString⟩

/-- No surrogate is without its other half. -/
def isWellFormed (s : Utf16) : Bool := (scan s.units).all Option.isSome

def toWellFormed (s : Utf16) : String :=
  String.ofList ((scan s.units).map (·.getD '\uFFFD'))

/-! ## Characters and their units -/

theorem char_toNat {n : ℕ} (h : n < 0xD800 ∨ 0xDFFF < n ∧ n < 0x110000) :
    (Char.ofNat n).toNat = n := by
  rw [Char.ofNat, dif_pos h]
  rfl

/-- A character is no surrogate. -/
theorem char_valid (c : Char) : c.toNat < 0xD800 ∨ 0xDFFF < c.toNat ∧ c.toNat < 0x110000 := c.valid

theorem single_eq_some {u : UInt16} {c : Char} (h : single u = some c) : encodeChar c = [u] := by
  unfold single at h
  split at h
  next => cases h
  next hlone =>
    have hnot : ¬((0xD800 ≤ u.toNat ∧ u.toNat < 0xDC00) ∨
        (0xDC00 ≤ u.toNat ∧ u.toNat < 0xE000)) := by
      simpa [isHigh, isLow] using hlone
    have hlt := u.toNat_lt
    have hc : c.toNat = u.toNat := by
      rw [← Option.some.inj h]
      exact char_toNat (by omega)
    rw [encodeChar, hc, if_pos hlt, UInt16.ofNat_toNat]

theorem encodeChar_combine {u v : UInt16} (hu : isHigh u) (hv : isLow v) :
    encodeChar (combine u v) = [u, v] := by
  simp only [isHigh, isLow, Bool.and_eq_true, decide_eq_true_eq] at hu hv
  have hc : (combine u v).toNat =
      0x10000 + (u.toNat - 0xD800) * 0x400 + (v.toNat - 0xDC00) := char_toNat (by omega)
  have hhigh : 0xD800 + ((combine u v).toNat - 0x10000) / 0x400 = u.toNat := by omega
  have hlow : 0xDC00 + ((combine u v).toNat - 0x10000) % 0x400 = v.toNat := by omega
  rw [encodeChar, if_neg (by omega), hhigh, hlow, UInt16.ofNat_toNat, UInt16.ofNat_toNat]

/-- A character is read back from its units, whatever follows. -/
theorem scan_encodeChar (c : Char) (units : List UInt16) :
    scan (encodeChar c ++ units) = some c :: scan units := by
  have hvalid := char_valid c
  unfold encodeChar
  split
  next hlt =>
    have hu := UInt16.toNat_ofNat_of_lt' hlt
    have hnot : isHigh (UInt16.ofNat c.toNat) = false ∧ isLow (UInt16.ofNat c.toNat) = false := by
      simp only [isHigh, isLow, hu, Bool.and_eq_false_iff, decide_eq_false_iff_not]
      omega
    have hsingle : single (UInt16.ofNat c.toNat) = some c := by
      rw [single, hnot.1, hnot.2, hu, Char.ofNat_toNat]
      rfl
    cases units with
    | nil => exact congrArg (fun o => [o]) hsingle
    | cons v units => rw [List.singleton_append, scan, hnot.1, hsingle]; rfl
  next hge =>
    have hsize : UInt16.size = 0x10000 := rfl
    have hhigh : (UInt16.ofNat (0xD800 + (c.toNat - 0x10000) / 0x400)).toNat =
        0xD800 + (c.toNat - 0x10000) / 0x400 :=
      UInt16.toNat_ofNat_of_lt' (by omega)
    have hlow : (UInt16.ofNat (0xDC00 + (c.toNat - 0x10000) % 0x400)).toNat =
        0xDC00 + (c.toNat - 0x10000) % 0x400 :=
      UInt16.toNat_ofNat_of_lt' (by omega)
    have hpair : isHigh (UInt16.ofNat (0xD800 + (c.toNat - 0x10000) / 0x400)) &&
        isLow (UInt16.ofNat (0xDC00 + (c.toNat - 0x10000) % 0x400)) := by
      simp only [isHigh, isLow, hhigh, hlow, Bool.and_eq_true, decide_eq_true_eq]
      omega
    have hcombine : 0x10000 + (0xD800 + (c.toNat - 0x10000) / 0x400 - 0xD800) * 0x400 +
        (0xDC00 + (c.toNat - 0x10000) % 0x400 - 0xDC00) = c.toNat := by omega
    rw [List.cons_append, List.singleton_append, scan, if_pos hpair, combine, hhigh, hlow,
      hcombine, Char.ofNat_toNat]

theorem scan_ofString (s : String) : scan (ofString s).units = s.toList.map some := by
  unfold ofString
  induction s.toList with
  | nil => rfl
  | cons c cs ih => rw [List.flatMap_cons, scan_encodeChar, ih, List.map_cons]

/-! ## Round trips -/

@[simp] theorem toWellFormed_ofString (s : String) : (ofString s).toWellFormed = s := by
  rw [toWellFormed, scan_ofString, List.map_map]
  exact (congrArg String.ofList (List.map_id _)).trans String.ofList_toList

theorem ofString_injective {s t : String} (h : ofString s = ofString t) : s = t := by
  rw [← toWellFormed_ofString s, h, toWellFormed_ofString]

/-- The units behind a string whose characters are these. -/
theorem flatMap_of_scan {units : List UInt16} {cs : List Char} (h : scan units = cs.map some) :
    cs.flatMap encodeChar = units := by
  induction units using scan.induct generalizing cs with
  | case1 =>
    obtain rfl : cs = [] := by simpa [scan] using h.symm
    rfl
  | case2 u =>
    obtain ⟨c, rest, rfl, hc, hrest⟩ := List.map_eq_cons_iff.mp h.symm
    obtain rfl : rest = [] := List.map_eq_nil_iff.mp hrest
    rw [List.flatMap_singleton, single_eq_some hc.symm]
  | case3 u v units hpair ih =>
    rw [scan, if_pos hpair] at h
    obtain ⟨c, rest, rfl, hc, hrest⟩ := List.map_eq_cons_iff.mp h.symm
    obtain ⟨hu, hv⟩ := Bool.and_eq_true_iff.mp hpair
    rw [List.flatMap_cons, Option.some.inj hc, encodeChar_combine hu hv, ih hrest.symm]
    rfl
  | case4 u v units hpair ih =>
    rw [scan, if_neg hpair] at h
    obtain ⟨c, rest, rfl, hc, hrest⟩ := List.map_eq_cons_iff.mp h.symm
    rw [List.flatMap_cons, single_eq_some hc.symm, ih hrest.symm]
    rfl

theorem ofString_of_scan {s : Utf16} {t : String} (h : scan s.units = t.toList.map some) :
    ofString t = s := congrArg Utf16.mk (flatMap_of_scan h)

/-- The characters, where none is missing. -/
theorem map_getD {os : List (Option Char)} (h : ∀ o ∈ os, o.isSome) (c : Char) :
    (os.map (·.getD c)).map some = os := by
  rw [List.map_map]
  refine (List.map_congr_left fun o ho => ?_).trans (List.map_id os)
  obtain ⟨d, rfl⟩ := Option.isSome_iff_exists.mp (h o ho)
  rfl

theorem ofString_toWellFormed {s : Utf16} (h : s.isWellFormed) : ofString s.toWellFormed = s := by
  refine ofString_of_scan ?_
  rw [toWellFormed, String.toList_ofList, map_getD (List.all_eq_true.mp h)]

/-- No lone surrogate was replaced where no U+FFFD comes out. -/
theorem isWellFormed_of_notMem {s : Utf16} (h : '\uFFFD' ∉ s.toWellFormed.toList) :
    s.isWellFormed := by
  refine List.all_eq_true.mpr fun o ho => ?_
  cases o with
  | some c => rfl
  | none =>
    refine absurd ?_ h
    rw [toWellFormed, String.toList_ofList]
    exact List.mem_map.mpr ⟨none, ho, rfl⟩

theorem toWellFormed_eq_iff {s : Utf16} {t : String} (h : '\uFFFD' ∉ t.toList) :
    s.toWellFormed = t ↔ s = ofString t := by
  constructor
  · rintro rfl
    exact (ofString_toWellFormed (isWellFormed_of_notMem h)).symm
  · rintro rfl
    exact toWellFormed_ofString t

end Utf16

end SaasChassis.Lib
