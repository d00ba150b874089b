/-
  Strings as Go's `strings` package and JavaScript's `String` see them: split, join, trim and
  caseless comparison.

  `splitAt_joinAt`: splitting what was joined gives the list back, unless it was empty;
  `mem_splitAt_joinAt` says what comes back when elements hold the separator.
  `splitFirst_append`: a prefix without the separator is split off as it was; `eq_of_splitFirst`
  and `eq_of_splitThree` put the parts together again.
-/
import Mathlib.Data.List.Basic

namespace SaasChassis.Lib

/-- `strings.Join(xs, sep)` for a one-character separator. -/
def joinAt (sep : Char) (xs : List String) : String :=
  String.ofList ([sep].intercalate (xs.map String.toList))

/-- `strings.Split(s, sep)`, and JavaScript's `s.split(sep)`: never the empty list. -/
def splitAt (sep : Char) (s : String) : List String :=
  (s.toList.splitOn sep).map String.ofList

/-- `strings.SplitN(s, sep, 2)`. -/
def splitFirst (sep : Char) (s : String) : List String :=
  let before := s.toList.takeWhile (· ≠ sep)
  match s.toList.dropWhile (· ≠ sep) with
  | [] => [s]
  | _ :: after => [String.ofList before, String.ofList after]

/-- `strings.SplitN(s, sep, 3)`. -/
def splitThree (sep : Char) (s : String) : List String :=
  match splitFirst sep s with
  | [first, rest] => first :: splitFirst sep rest
  | parts => parts

/-- `strings.HasPrefix(s, start)`. -/
def hasPrefix (s start : String) : Bool := start.toList.isPrefixOf s.toList

def trimBy (blank : Char → Bool) (s : String) : String :=
  String.ofList ((s.toList.dropWhile blank).reverse.dropWhile blank).reverse

/-- `textproto.TrimString`. -/
def trimString : String → String :=
  trimBy fun c => c = ' ' || c = '\t' || c = '\n' || c = '\r'

/-- `unicode.IsSpace`. -/
def isSpace (c : Char) : Bool :=
  [0x09, 0x0A, 0x0B, 0x0C, 0x0D, 0x20, 0x85, 0xA0, 0x1680, 0x2028, 0x2029, 0x202F, 0x205F,
    0x3000].contains c.toNat || (0x2000 ≤ c.toNat && c.toNat ≤ 0x200A)

/-- `strings.TrimSpace`. -/
def trimSpace : String → String := trimBy isSpace

/-- Case folding, for comparison with ASCII words. -/
def foldChar (c : Char) : Char :=
  -- the two non-ASCII runes that fold to an ASCII letter: long s and the Kelvin sign
  if c = '\u017F' then 'S' else if c = '\u212A' then 'K' else c.toUpper

/-- `strings.EqualFold` against an ASCII word. -/
def equalFold (s t : String) : Bool := s.toList.map foldChar == t.toList.map foldChar

/-- Splitting a join gives the list back when it is not empty and no element holds the
    separator. -/
theorem splitAt_joinAt {sep : Char} {xs : List String} (hne : xs ≠ [])
    (h : ∀ x ∈ xs, sep ∉ x.toList) : splitAt sep (joinAt sep xs) = xs := by
  have hsep : ∀ l ∈ xs.map String.toList, sep ∉ l := by
    intro l hl
    obtain ⟨x, hx, rfl⟩ := List.mem_map.mp hl
    exact h x hx
  have hround := List.splitOn_intercalate sep hsep (by simp [hne])
  rw [splitAt, joinAt, String.toList_ofList, hround, List.map_map]
  have hid : (String.ofList ∘ String.toList) = id := by
    funext s
    exact String.ofList_toList
  rw [hid, List.map_id]

theorem splitFirst_append {sep : Char} {before : String} (h : sep ∉ before.toList)
    (after : String) :
    splitFirst sep (before ++ String.singleton sep ++ after) = [before, after] := by
  have hl : (before ++ String.singleton sep ++ after).toList =
      before.toList ++ sep :: after.toList := by
    simp
  have hb : ∀ c ∈ before.toList, decide (c ≠ sep) = true := by
    intro c hc
    simpa using fun he : c = sep => h (he ▸ hc)
  have htake : (before.toList ++ sep :: after.toList).takeWhile (· ≠ sep) = before.toList := by
    rw [List.takeWhile_append_of_pos hb]
    simp
  have hdrop : (before.toList ++ sep :: after.toList).dropWhile (· ≠ sep) =
      sep :: after.toList := by
    rw [List.dropWhile_append_of_pos hb]
    simp
  unfold splitFirst
  simp only [hl, htake, hdrop, String.ofList_toList]

theorem eq_of_splitFirst {sep : Char} {s before after : String}
    (h : splitFirst sep s = [before, after]) :
    s = before ++ String.singleton sep ++ after ∧ sep ∉ before.toList := by
  unfold splitFirst at h
  dsimp only at h
  split at h
  next => exact nomatch h
  next c rest hdrop =>
    have hc : c = sep := by
      have hhead := List.head?_dropWhile_not (· ≠ sep) s.toList
      rw [hdrop, List.head?_cons] at hhead
      simpa using hhead
    obtain ⟨rfl, rfl⟩ : String.ofList (s.toList.takeWhile (· ≠ sep)) = before ∧
        String.ofList rest = after := by
      simpa using h
    refine ⟨?_, ?_⟩
    · have hs := List.takeWhile_append_dropWhile (p := (· ≠ sep)) (l := s.toList)
      rw [hdrop, hc] at hs
      rw [← String.toList_inj]
      simpa using hs.symm
    · rw [String.toList_ofList]
      intro hmem
      simpa using List.all_eq_true.mp List.all_takeWhile sep hmem

theorem splitThree_append {sep : Char} {first second : String} (h1 : sep ∉ first.toList)
    (h2 : sep ∉ second.toList) (third : String) :
    splitThree sep (first ++ String.singleton sep ++
      (second ++ String.singleton sep ++ third)) = [first, second, third] := by
  rw [splitThree, splitFirst_append h1]
  dsimp only
  rw [splitFirst_append h2]

theorem eq_of_splitThree {sep : Char} {s first second third : String}
    (h : splitThree sep s = [first, second, third]) :
    s = first ++ String.singleton sep ++ (second ++ String.singleton sep ++ third) ∧
      sep ∉ first.toList ∧ sep ∉ second.toList := by
  unfold splitThree at h
  split at h
  next first' rest hsplit =>
    obtain ⟨rfl, hrest⟩ := List.cons.inj h
    obtain ⟨hs, h1⟩ := eq_of_splitFirst hsplit
    obtain ⟨rfl, h2⟩ := eq_of_splitFirst hrest
    exact ⟨hs, h1, h2⟩
  next hparts =>
    -- `SplitN(s, sep, 2)` has no third part
    unfold splitFirst at h
    dsimp only at h
    split at h <;> simp at h

theorem hasPrefix_iff {s start : String} : hasPrefix s start ↔ ∃ rest, s = start ++ rest := by
  rw [hasPrefix, List.isPrefixOf_iff_prefix]
  constructor
  · rintro ⟨rest, h⟩
    refine ⟨String.ofList rest, ?_⟩
    rw [← String.toList_inj, String.toList_append, String.toList_ofList, h]
  · rintro ⟨rest, rfl⟩
    rw [String.toList_append]
    exact List.prefix_append _ _

/-- The first part of a string is read off any prefix that ends with the separator. -/
theorem first_of_hasPrefix {sep : Char} {first rest : String} (start : String)
    (h1 : sep ∉ first.toList) (h2 : sep ∉ start.toList)
    (h : hasPrefix (first ++ String.singleton sep ++ rest) (start ++ String.singleton sep)) :
    first = start := by
  obtain ⟨rest', he⟩ := hasPrefix_iff.mp h
  have hparts := splitFirst_append h1 rest
  rw [he, splitFirst_append h2] at hparts
  exact (List.cons.inj hparts).1.symm

/-- The last separator is where it is. -/
theorem append_sep_inj {α : Type} {sep : α} {xs ys as bs : List α}
    (h : xs ++ sep :: as = ys ++ sep :: bs) (ha : sep ∉ as) (hb : sep ∉ bs) :
    xs = ys ∧ as = bs := by
  rcases List.append_eq_append_iff.mp h with ⟨mid, rfl, hmid⟩ | ⟨mid, rfl, hmid⟩
  · cases mid with
    | nil => exact ⟨(List.append_nil xs).symm, (List.cons.inj hmid).2⟩
    | cons c mid =>
      refine absurd ?_ ha
      rw [(List.cons.inj hmid).2]
      exact List.mem_append_right mid List.mem_cons_self
  · cases mid with
    | nil => exact ⟨List.append_nil ys, (List.cons.inj hmid).2.symm⟩
    | cons c mid =>
      refine absurd ?_ hb
      rw [(List.cons.inj hmid).2]
      exact List.mem_append_right mid List.mem_cons_self

theorem splitAt_ne_nil (sep : Char) (s : String) : splitAt sep s ≠ [] := by
  have h : s.toList.splitOn sep ≠ [] := List.splitOn_ne_nil sep s.toList
  intro he
  exact h (List.map_eq_nil_iff.mp he)

/-- Splitting a join splits every element. -/
theorem splitAt_joinAt_flatMap {sep : Char} {xs : List String} (hne : xs ≠ []) :
    splitAt sep (joinAt sep xs) = xs.flatMap (splitAt sep) := by
  rw [splitAt, joinAt, String.toList_ofList]
  induction xs with
  | nil => exact absurd rfl hne
  | cons x xs ih =>
    cases xs with
    | nil => simp [splitAt, List.intercalate]
    | cons y ys =>
      have hcons : [sep].intercalate ((x :: y :: ys).map String.toList) =
          x.toList ++ sep :: [sep].intercalate ((y :: ys).map String.toList) := by
        simp [List.intercalate]
      rw [hcons, List.splitOn_append_cons_self, List.map_append, ih (List.cons_ne_nil y ys),
        List.flatMap_cons]
      rfl

/-- What a join is split into besides its elements: the pieces of those that hold the separator,
    and the empty string for an empty list. -/
def strays (sep : Char) (xs : List String) : List String :=
  if xs = [] then [""] else (xs.filter (sep ∈ ·.toList)).flatMap (splitAt sep)

theorem mem_splitAt_joinAt {sep : Char} {xs : List String} {s : String} :
    s ∈ splitAt sep (joinAt sep xs) ↔ (s ∈ xs ∧ sep ∉ s.toList) ∨ s ∈ strays sep xs := by
  unfold strays
  by_cases hne : xs = []
  · subst hne
    simp [joinAt, splitAt, List.intercalate]
  · rw [if_neg hne, splitAt_joinAt_flatMap hne, List.mem_flatMap, List.mem_flatMap]
    constructor
    · intro ⟨x, hx, hs⟩
      by_cases hsep : sep ∈ x.toList
      · exact Or.inr ⟨x, List.mem_filter.mpr ⟨hx, by simpa using hsep⟩, hs⟩
      · rw [splitAt, List.splitOn_eq_singleton hsep] at hs
        obtain rfl : s = x := by simpa using hs
        exact Or.inl ⟨hx, hsep⟩
    · rintro (⟨hs, hsep⟩ | ⟨x, hx, hs⟩)
      · exact ⟨s, hs, by simp [splitAt, List.splitOn_eq_singleton hsep]⟩
      · exact ⟨x, (List.mem_filter.mp hx).1, hs⟩

end SaasChassis.Lib
