/-
  Calendar days in Go's layout "2006-01-02".

  A `Day` is a date that exists, in a year of at most four digits. `parse_eq_some_iff`:
  `time.Parse` accepts exactly what `Time.Format` writes, and gives the day back.
-/
import SaasChassis.Lib.Decimal

namespace SaasChassis.Lib

def isLeap (year : ℕ) : Bool := year % 4 = 0 && (year % 100 ≠ 0 || year % 400 = 0)

/-- `daysIn(m, year)` of Go's `time`. -/
def daysIn (month year : ℕ) : ℕ :=
  if month = 2 then (if isLeap year then 29 else 28) else 30 + (month + month / 8) % 2

structure Day where
  year : ℕ
  month : ℕ
  day : ℕ
  year_le : year ≤ 9999
  month_mem : 1 ≤ month ∧ month ≤ 12
  day_mem : 1 ≤ day ∧ day ≤ daysIn month year
  deriving DecidableEq

namespace Day

theorem day_le (d : Day) : d.day ≤ 31 := by
  have hin : daysIn d.month d.year ≤ 31 := by
    unfold daysIn
    split
    · split <;> omega
    · omega
  exact d.day_mem.2.trans hin

/-- `t.Format("2006-01-02")`. -/
def format (d : Day) : String :=
  String.ofList (padded 4 d.year ++ '-' :: (padded 2 d.month ++ '-' :: padded 2 d.day))

/-- The literal `-` of the layout. -/
def skipDash (cs : List Char) : Option (List Char) :=
  if cs.head? = some '-' then some cs.tail else none

/-- `time.Parse("2006-01-02", s)`. -/
def parse (s : String) : Option Day := do
  let (year, cs) ← fixedDigits 4 s.toList
  let cs ← skipDash cs
  let (month, cs) ← fixedDigits 2 cs
  let cs ← skipDash cs
  let (day, cs) ← fixedDigits 2 cs
  if h : (year ≤ 9999 ∧ (1 ≤ month ∧ month ≤ 12) ∧ 1 ≤ day ∧ day ≤ daysIn month year) ∧
      cs = [] then
    some ⟨year, month, day, h.1.1, h.1.2.1, h.1.2.2⟩
  else none

theorem eq_of_skipDash {cs rest : List Char} (h : skipDash cs = some rest) : cs = '-' :: rest := by
  unfold skipDash at h
  split at h
  next hhead =>
    obtain ⟨tail, rfl⟩ := List.head?_eq_some_iff.mp hhead
    rw [← Option.some.inj h]
    rfl
  next => exact nomatch h

theorem parse_format (d : Day) : parse d.format = some d := by
  have hyear := fixedDigits_padded (w := 4) (by omega) (Nat.lt_succ_of_le d.year_le)
  have hmonth := fixedDigits_padded (w := 2) (n := d.month) (by omega)
    (by have := d.month_mem.2; omega)
  have hday := fixedDigits_padded (w := 2) (n := d.day) (by omega)
    (by have := d.day_le; omega) []
  rw [List.append_nil] at hday
  have hdash : ∀ cs, skipDash ('-' :: cs) = some cs := fun _ => rfl
  simp only [parse, format, String.toList_ofList, hyear, hmonth, hday, hdash, Option.bind_eq_bind,
    Option.bind_some]
  rw [dif_pos ⟨⟨d.year_le, d.month_mem, d.day_mem⟩, trivial⟩]

theorem format_of_parse {s : String} {d : Day} (h : parse s = some d) : s = d.format := by
  simp only [parse, Option.bind_eq_bind, Option.bind_eq_some_iff] at h
  obtain ⟨⟨year, cs⟩, hyear, cs', hdash, ⟨month, rest⟩, hmonth, rest', hdash', ⟨day, tail⟩, hday,
    h⟩ := h
  split at h
  next hvalid =>
    cases h
    have hy := (eq_of_fixedDigits (by omega) hyear).1
    have hm := (eq_of_fixedDigits (by omega) hmonth).1
    have hd := (eq_of_fixedDigits (by omega) hday).1
    dsimp only at hdash hdash' hm hd hvalid
    rw [hvalid.2, List.append_nil] at hd
    rw [eq_of_skipDash hdash, hm, eq_of_skipDash hdash', hd] at hy
    rw [format, ← hy, String.ofList_toList]
  next => exact nomatch h

theorem parse_eq_some_iff {s : String} {d : Day} : parse s = some d ↔ s = d.format :=
  ⟨format_of_parse, fun h => h ▸ parse_format d⟩

theorem format_injective {d d' : Day} (h : d.format = d'.format) : d = d' :=
  Option.some.inj ((parse_format d).symm.trans (h ▸ parse_format d'))

theorem length_format (d : Day) : d.format.toList.length = 10 := by
  have hyear := length_padded (w := 4) (by omega) (Nat.lt_succ_of_le d.year_le)
  have hmonth := length_padded (w := 2) (n := d.month) (by omega)
    (by have := d.month_mem.2; omega)
  have hday := length_padded (w := 2) (n := d.day) (by omega) (by have := d.day_le; omega)
  simp [format, hyear, hmonth, hday]

end Day

end SaasChassis.Lib
