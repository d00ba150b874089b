/-
  PostgreSQL's column types, as functions of the text a statement gives: `uuid`, `varchar(n)` and
  what `jsonb` and `text` refuse.

  `uuidIn` follows the manual: 32 hexadecimal digits of either case, a hyphen allowed after each
  group of four, braces allowed around them all. `uuidIn_format`: what the server prints it reads
  back.
-/
import SaasChassis.Lib.Json

namespace SaasChassis.Lib.Postgres

/-! ## UUIDs -/

/-- A value of type `uuid`. -/
structure Uuid where
  digits : List (Fin 16)
  length_digits : digits.length = 32
  deriving DecidableEq

def hexDigits : List Char :=
  ['0', '1', '2', '3', '4', '5', '6', '7', '8', '9', 'a', 'b', 'c', 'd', 'e', 'f']

def hexChar (d : Fin 16) : Char := hexDigits.getD d '0'

/-- A hexadecimal digit of either case. -/
def hexDigit (c : Char) : Option (Fin 16) := (List.finRange 16).find? fun d => hexChar d = c.toLower

/-- The digits from the `i`-th on. -/
def uuidDigits : ℕ → List Char → Option (List (Fin 16))
  | _, [] => some []
  | i, c :: '-' :: cs =>
    (hexDigit c).bind fun d =>
      if (i + 1) % 4 = 0 ∧ i + 1 < 32 then (uuidDigits (i + 1) cs).map (d :: ·) else none
  | i, c :: cs => (hexDigit c).bind fun d => (uuidDigits (i + 1) cs).map (d :: ·)

def unbraced : List Char → List Char
  | '{' :: cs => if cs.getLast? = some '}' then cs.dropLast else '{' :: cs
  | cs => cs

/-- The input function of `uuid`. -/
def uuidIn (s : String) : Option Uuid :=
  (uuidDigits 0 (unbraced s.toList)).bind fun ds =>
    if h : ds.length = 32 then some ⟨ds, h⟩ else none

/-- The digits from the `i`-th on, in groups of 8, 4, 4, 4 and 12. -/
def formatDigits : ℕ → List (Fin 16) → List Char
  | _, [] => []
  | i, d :: ds =>
    hexChar d :: ((if i + 1 ∈ [8, 12, 16, 20] then ['-'] else []) ++ formatDigits (i + 1) ds)

/-- The output function of `uuid`. -/
def Uuid.format (u : Uuid) : String := String.ofList (formatDigits 0 u.digits)

theorem hexDigit_hexChar (d : Fin 16) : hexDigit (hexChar d) = some d := by
  revert d
  decide

theorem hexChar_ne (d : Fin 16) : hexChar d ≠ '-' ∧ hexChar d ≠ '{' := by
  revert d
  decide

/-- A first character other than a hyphen is read as a digit. -/
theorem uuidDigits_cons {i : ℕ} {c : Char} {cs : List Char} (h : cs.head? ≠ some '-') :
    uuidDigits i (c :: cs) =
      (hexDigit c).bind fun d => (uuidDigits (i + 1) cs).map (d :: ·) := by
  cases cs with
  | nil => rfl
  | cons c' cs =>
    have hc : c' ≠ '-' := fun he => h (he ▸ rfl)
    rw [uuidDigits]
    simpa using hc

theorem head_formatDigits (i : ℕ) (ds : List (Fin 16)) :
    (formatDigits i ds).head? ≠ some '-' := by
  cases ds with
  | nil => exact nofun
  | cons d ds => simpa [formatDigits] using (hexChar_ne d).1

theorem uuidDigits_formatDigits {i : ℕ} {ds : List (Fin 16)} (h : i + ds.length = 32) :
    uuidDigits i (formatDigits i ds) = some ds := by
  induction ds generalizing i with
  | nil => rfl
  | cons d ds ih =>
    rw [List.length_cons] at h
    have hrest := ih (i := i + 1) (by omega)
    unfold formatDigits
    split
    next hgroup =>
      have hi : (i + 1) % 4 = 0 ∧ i + 1 < 32 := by
        simp only [List.mem_cons, List.not_mem_nil, or_false] at hgroup
        omega
      rw [List.cons_append, List.nil_append, uuidDigits, hexDigit_hexChar, Option.bind_some,
        if_pos hi, hrest]
      rfl
    next =>
      rw [List.nil_append, uuidDigits_cons (head_formatDigits _ _), hexDigit_hexChar,
        Option.bind_some, hrest]
      rfl

theorem uuidIn_format (u : Uuid) : uuidIn u.format = some u := by
  obtain ⟨ds, hlen⟩ := u
  have hbraces : unbraced (formatDigits 0 ds) = formatDigits 0 ds := by
    cases ds with
    | nil => rfl
    | cons d ds =>
      unfold unbraced
      split
      next hbrace =>
        exact absurd (List.cons.inj hbrace).1 (hexChar_ne d).2
      next => rfl
  rw [uuidIn, Uuid.format, String.toList_ofList, hbraces, uuidDigits_formatDigits (by omega),
    Option.bind_some, dif_pos hlen]

theorem format_injective {u v : Uuid} (h : u.format = v.format) : u = v := by
  have hu := uuidIn_format u
  rw [h, uuidIn_format v] at hu
  exact (Option.some.inj hu).symm

/-- What the text of a UUID is made of. -/
theorem mem_of_uuidDigits {i : ℕ} {cs : List Char} {ds : List (Fin 16)}
    (h : uuidDigits i cs = some ds) : ∀ c ∈ cs, c = '-' ∨ (hexDigit c).isSome := by
  induction i, cs using uuidDigits.induct generalizing ds with
  | case1 => exact fun c hc => absurd hc List.not_mem_nil
  | case2 i c cs ih =>
    rw [uuidDigits] at h
    obtain ⟨d, hd, h⟩ := Option.bind_eq_some_iff.mp h
    split at h
    next =>
      obtain ⟨ds', hds', _⟩ := Option.map_eq_some_iff.mp h
      have hrest := ih hds'
      intro c' hc'
      obtain rfl | hc' := List.mem_cons.mp hc'
      · exact Or.inr (hd ▸ rfl)
      · obtain rfl | hc' := List.mem_cons.mp hc'
        · exact Or.inl rfl
        · exact hrest c' hc'
    next => exact nomatch h
  | case3 i c cs hne ih =>
    have hhead : cs.head? ≠ some '-' := by
      intro hc
      obtain ⟨rest, rfl⟩ := List.head?_eq_some_iff.mp hc
      exact hne rest rfl
    rw [uuidDigits_cons hhead] at h
    obtain ⟨d, hd, h⟩ := Option.bind_eq_some_iff.mp h
    obtain ⟨ds', hds', _⟩ := Option.map_eq_some_iff.mp h
    rw [List.forall_mem_cons]
    exact ⟨Or.inr (hd ▸ rfl), ih hds'⟩

theorem notMem_of_uuidIn {s : String} {c : Char} (h : (uuidIn s).isSome) (hhyphen : c ≠ '-')
    (hdigit : hexDigit c = none) (hopen : c ≠ '{') (hclose : c ≠ '}') : c ∉ s.toList := by
  intro hmem
  obtain ⟨u, hu⟩ := Option.isSome_iff_exists.mp h
  obtain ⟨ds, hds, _⟩ := Option.bind_eq_some_iff.mp hu
  have hin : c ∈ unbraced s.toList := by
    unfold unbraced
    split
    next cs hs =>
      rw [hs] at hmem
      have hcs := (List.mem_cons.mp hmem).resolve_left hopen
      split
      next hlast =>
        obtain ⟨l, rfl⟩ := List.getLast?_eq_some_iff.mp hlast
        rw [List.dropLast_concat]
        exact (List.mem_append.mp hcs).resolve_right fun he => hclose (List.mem_singleton.mp he)
      next => exact List.mem_cons_of_mem _ hcs
    next => exact hmem
  obtain he | he := mem_of_uuidDigits hds c hin
  · exact hhyphen he
  · rw [hdigit] at he
    exact nomatch he

/-! ## Character strings -/

/-- `text`: no character but NUL is refused. -/
def isText (s : String) : Bool := !s.toList.contains '\x00'

theorem isText_append (s t : String) : isText (s ++ t) = (isText s && isText t) := by
  simp [isText, String.toList_append]

/-- Assignment to `varchar(n)`: what is beyond `n` characters has to be blank and is cut off. -/
def varchar (n : ℕ) (s : String) : Option String :=
  if isText s && (s.toList.drop n).all (· == ' ') then some (String.ofList (s.toList.take n))
  else none

/-! ## JSON -/

/-- A string of a `jsonb` document, or a key. -/
def isJsonbString (s : Utf16) : Bool := s.isWellFormed && isText s.toWellFormed

mutual

/-- `jsonb` refuses a document with a NUL or a lone surrogate in one of its strings. -/
def isJsonb : WireJson → Bool
  | .str s => isJsonbString s
  | .arr xs => areJsonb xs
  | .obj members => haveJsonb members
  | _ => true

def areJsonb : List WireJson → Bool
  | [] => true
  | x :: xs => isJsonb x && areJsonb xs

def haveJsonb : List (Utf16 × WireJson) → Bool
  | [] => true
  | (key, value) :: members => isJsonbString key && isJsonb value && haveJsonb members

end

/-- A pair of surrogates is one character, its first half is none. -/
example : isJsonb (.obj [("name", .str ⟨[0xD83D, 0xDE00]⟩)]) ∧
    !isJsonb (.obj [("name", .str ⟨[0xD83D]⟩)]) := by
  decide

end SaasChassis.Lib.Postgres
