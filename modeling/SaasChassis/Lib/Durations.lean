/-
  Durations in words, as the npm package `ms` reads them: a decimal number, blanks, and a unit in
  one of its spellings and in any case. Without a unit the number is of milliseconds.

  `Duration` is what is written, `text` the string and `milliseconds` what it means, exactly: the
  package computes with doubles. `digits_of_text` reads digits and one more character back off the
  string; no other duration is written like that.
-/
import Mathlib.Algebra.Order.Ring.Rat
import SaasChassis.Lib.Decimal

namespace SaasChassis.Lib

inductive TimeUnit where
  | millisecond | second | minute | hour | day | week | year
  deriving DecidableEq, Repr

namespace TimeUnit

def names : TimeUnit → List String
  | millisecond => ["milliseconds", "millisecond", "msecs", "msec", "ms"]
  | second => ["seconds", "second", "secs", "sec", "s"]
  | minute => ["minutes", "minute", "mins", "min", "m"]
  | hour => ["hours", "hour", "hrs", "hr", "h"]
  | day => ["days", "day", "d"]
  | week => ["weeks", "week", "w"]
  | year => ["years", "year", "yrs", "yr", "y"]

/-- A year has 365.25 days. -/
def milliseconds : TimeUnit → ℕ
  | millisecond => 1
  | second => 1000
  | minute => 60000
  | hour => 3600000
  | day => 86400000
  | week => 604800000
  | year => 31557600000

end TimeUnit

/-- `-?(\d+)?\.?\d+ *(unit)?`, in any case. -/
structure Duration where
  negative : Bool
  whole : List Char
  /-- What is behind the point; `none` without a point. -/
  fraction : Option (List Char)
  blanks : ℕ
  /-- The unit, and how it is written. -/
  unit : Option (TimeUnit × String)
  digits : ∀ c ∈ whole ++ fraction.getD [], c.isDigit = true
  some_digit : fraction.getD whole ≠ []
  named : ∀ u ∈ unit, ∃ name ∈ u.1.names, u.2.toList.map Char.toLower = name.toList

namespace Duration

def number (d : Duration) : List Char :=
  (if d.negative then ['-'] else []) ++ d.whole ++
    match d.fraction with
    | some digits => '.' :: digits
    | none => []

def word (d : Duration) : List Char :=
  match d.unit with
  | some u => u.2.toList
  | none => []

def text (d : Duration) : String :=
  String.ofList (d.number ++ List.replicate d.blanks ' ' ++ d.word)

def value (d : Duration) : ℚ :=
  (if d.negative then -1 else 1) * digitsVal (d.whole ++ d.fraction.getD []) /
    10 ^ (d.fraction.getD []).length

def scale (d : Duration) : ℕ :=
  match d.unit with
  | some u => u.1.milliseconds
  | none => 1

def milliseconds (d : Duration) : ℚ := d.value * d.scale

theorem text_toList (d : Duration) :
    d.text.toList = d.number ++ List.replicate d.blanks ' ' ++ d.word := String.toList_ofList

/-! ## Reading digits back -/

theorem names_no_digit (u : TimeUnit) : ∀ name ∈ u.names, ∀ c ∈ name.toList, c.isDigit = false := by
  have hall : u.names.all (fun name => name.toList.all fun c => !c.isDigit) = true := by
    cases u <;> decide
  simpa [List.all_eq_true] using hall

theorem names_ne_nil (u : TimeUnit) : ∀ name ∈ u.names, name.toList ≠ [] := by
  cases u <;> decide

theorem toLower_digit {c : Char} (h : c.isDigit = true) : c.toLower = c := by
  have hbounds := digit_bounds h
  unfold Char.toLower
  split
  next hupper =>
    have h65 : 65 ≤ c.toNat := hupper.1
    omega
  next => rfl

/-- A unit has no digit in it. -/
theorem word_no_digit (d : Duration) : ∀ c ∈ d.word, c.isDigit = false := by
  intro c hc
  unfold word at hc
  split at hc
  next u hu =>
    by_contra hdigit
    rw [Bool.not_eq_false] at hdigit
    obtain ⟨name, hname, hlower⟩ := d.named u hu
    have hmem : c ∈ name.toList := by
      rw [← hlower, ← toLower_digit hdigit]
      exact List.mem_map_of_mem hc
    rw [names_no_digit u.1 name hname c hmem] at hdigit
    cases hdigit
  next => cases hc

theorem word_ne_nil {d : Duration} {u : TimeUnit × String} (h : d.unit = some u) :
    u.2.toList ≠ [] := by
  intro hempty
  obtain ⟨name, hname, hlower⟩ := d.named u h
  rw [hempty, List.map_nil] at hlower
  exact names_ne_nil u.1 name hname hlower.symm

/-- The last character of a number is a digit. -/
theorem number_last (d : Duration) : ∃ cs c, d.number = cs ++ [c] ∧ c.isDigit = true := by
  obtain ⟨cs, c, hlast⟩ := (List.eq_nil_or_concat' _).resolve_left d.some_digit
  have hdigit : c.isDigit = true := by
    refine d.digits c (List.mem_append.mpr ?_)
    have hmem : c ∈ d.fraction.getD d.whole := hlast ▸ List.mem_append_right cs List.mem_cons_self
    cases hfraction : d.fraction with
    | none => exact Or.inl (by simpa [hfraction] using hmem)
    | some digits => exact Or.inr (by simpa [hfraction] using hmem)
  unfold number
  cases hfraction : d.fraction with
  | none =>
    rw [hfraction, Option.getD_none] at hlast
    exact ⟨(if d.negative then ['-'] else []) ++ cs, c, by simp [hlast], hdigit⟩
  | some digits =>
    rw [hfraction, Option.getD_some] at hlast
    exact ⟨(if d.negative then ['-'] else []) ++ d.whole ++ '.' :: cs, c, by simp [hlast], hdigit⟩

/-- Of the durations, only unsigned whole numbers with a unit of one letter right behind are
    written as digits and one character that is no digit. -/
theorem digits_of_text {d : Duration} {ds : List Char} {c : Char} (h : d.text.toList = ds ++ [c])
    (hds : ∀ x ∈ ds, x.isDigit = true) (hc : c.isDigit = false) (hblank : c ≠ ' ') :
    d.negative = false ∧ d.fraction = none ∧ d.blanks = 0 ∧
      ∃ u, d.unit = some (u, String.singleton c) := by
  rw [text_toList] at h
  cases hunit : d.unit with
  | none =>
    have hword : d.word = [] := by
      unfold word
      rw [hunit]
    rw [hword, List.append_nil] at h
    cases hblanks : d.blanks with
    | zero =>
      obtain ⟨cs, l, hnumber, hl⟩ := d.number_last
      rw [hblanks, hnumber, List.replicate_zero, List.append_nil] at h
      obtain rfl : l = c := by simpa using (List.append_inj' h rfl).2
      rw [hl] at hc
      cases hc
    | succ n =>
      rw [hblanks, List.replicate_succ', ← List.append_assoc] at h
      have hspace : ' ' = c := by simpa using (List.append_inj' h rfl).2
      exact absurd hspace.symm hblank
  | some u =>
    have hword : d.word = u.2.toList := by
      unfold word
      rw [hunit]
    obtain ⟨ws, l, hlast⟩ := (List.eq_nil_or_concat' _).resolve_left (word_ne_nil hunit)
    rw [hword, hlast, ← List.append_assoc] at h
    obtain ⟨hbefore, hl⟩ := List.append_inj' h rfl
    obtain rfl : l = c := by simpa using hl
    have hdigit : ∀ x ∈ d.number ++ List.replicate d.blanks ' ' ++ ws, x.isDigit = true :=
      hbefore ▸ hds
    have hws : ws = [] := by
      refine List.eq_nil_iff_forall_not_mem.mpr fun x hx => ?_
      have hno := d.word_no_digit x (by rw [hword, hlast]; exact List.mem_append_left _ hx)
      rw [hdigit x (List.mem_append_right _ hx)] at hno
      cases hno
    have habsent (x : Char) (hx : x.isDigit = false) :
        x ∉ d.number ++ List.replicate d.blanks ' ' ++ ws := fun hmem => by
      rw [hdigit x hmem] at hx
      cases hx
    refine ⟨?_, ?_, ?_, u.1, ?_⟩
    · by_contra hnegative
      rw [Bool.not_eq_false] at hnegative
      exact habsent '-' (by decide) (by simp [number, hnegative])
    · by_contra hfraction
      obtain ⟨digits, hfraction⟩ := Option.ne_none_iff_exists'.mp hfraction
      exact habsent '.' (by decide) (by simp [number, hfraction])
    · by_contra hblanks
      exact habsent ' ' (by decide) (by simp [hblanks])
    · rw [hws, List.nil_append] at hlast
      have hname : u.2 = String.singleton l := by
        rw [← String.toList_inj, hlast, String.toList_singleton]
      rw [← hname]

end Duration

end SaasChassis.Lib
