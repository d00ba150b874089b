/-
  Pages of a listing ordered by a key that need not be unique. Nothing here names a program.

  A listing of `rows` is any order of them by descending key; rows with one key may come in another
  order each time. `page size k` is the `k`-th page of a listing, from 0. A cut after `b` rows is
  clean when no key has rows on both sides of it, in whatever listing (`CleanCut`, a count over
  `rows`). `pages_perm_iff`: pages taken from one listing each make up the rows, whatever the
  listings, exactly when all cuts between pages are clean.
-/
import Mathlib.Data.List.Flatten
import Mathlib.Data.List.Nodup
import Mathlib.Order.Lattice

namespace SaasChassis.Lib

variable {α β : Type} [LinearOrder β] {key : α → β} {rows l l' : List α} {size b i n : ℕ}

/-! ## Listings -/

/-- An order of the rows by descending key. -/
structure Listing (key : α → β) (rows l : List α) : Prop where
  perm : l.Perm rows
  descending : l.Pairwise fun x y => key y ≤ key x

def page (size k : ℕ) (l : List α) : List α := (l.drop (k * size)).take size

/-- The first `n` pages, each of a listing of its own. -/
def pages (size n : ℕ) (listings : ℕ → List α) : List α :=
  (List.range n).flatMap fun k => page size k (listings k)

/-- Rows with a key above that of `x`, or at least that of `x`. -/
def countAbove (key : α → β) (rows : List α) (x : α) : ℕ := rows.countP (key x < key ·)
def countFrom (key : α → β) (rows : List α) (x : α) : ℕ := rows.countP (key x ≤ key ·)

/-- No key has rows among the first `b` and rows after them. -/
def CleanCut (key : α → β) (rows : List α) (b : ℕ) : Prop :=
  ∀ x ∈ rows, ¬ (countAbove key rows x < b ∧ b < countFrom key rows x)

instance (key : α → β) (rows : List α) (b : ℕ) : Decidable (CleanCut key rows b) :=
  inferInstanceAs (Decidable (∀ x ∈ rows, ¬ (countAbove key rows x < b ∧ b < countFrom key rows x)))

theorem countP_le_of_drop {p : α → Bool} (h : ∀ x ∈ l.drop i, p x = false) : l.countP p ≤ i := by
  have hdrop : (l.drop i).countP p = 0 := List.countP_eq_zero.mpr fun x hx => by simp [h x hx]
  have hsplit : l.countP p = (l.take i).countP p + (l.drop i).countP p := by
    rw [← List.countP_append, List.take_append_drop]
  have htake : (l.take i).countP p ≤ (l.take i).length := List.countP_le_length
  rw [List.length_take] at htake
  omega

theorem lt_countP_of_take {p : α → Bool} (hi : i < l.length)
    (h : ∀ x ∈ l.take (i + 1), p x = true) : i < l.countP p := by
  have hle : (l.take (i + 1)).countP p ≤ l.countP p := (List.take_sublist _ _).countP_le
  rw [List.countP_eq_length.mpr h, List.length_take] at hle
  omega

/-- Where the rows with one key stand. -/
theorem Listing.place (h : Listing key rows l) {x : α} (hx : l[i]? = some x) :
    countAbove key rows x ≤ i ∧ i < countFrom key rows x := by
  obtain ⟨hi, rfl⟩ := List.getElem?_eq_some_iff.mp hx
  have horder := List.pairwise_iff_getElem.mp h.descending
  unfold countAbove countFrom
  rw [← h.perm.countP_eq, ← h.perm.countP_eq]
  constructor
  · refine countP_le_of_drop fun y hy => ?_
    obtain ⟨j, hj, rfl⟩ := List.mem_iff_getElem.mp hy
    rw [List.length_drop] at hj
    rw [List.getElem_drop, decide_eq_false_iff_not, not_lt]
    rcases Nat.eq_zero_or_pos j with rfl | hpos
    · exact le_refl _
    · exact horder i (i + j) hi (by omega) (by omega)
  · refine lt_countP_of_take hi fun y hy => ?_
    obtain ⟨j, hj, rfl⟩ := List.mem_iff_getElem.mp hy
    rw [List.length_take] at hj
    rw [List.getElem_take, decide_eq_true_eq]
    rcases Nat.lt_or_ge j i with hlt | hge
    · exact horder j i (by omega) hi hlt
    · have heq : j = i := by omega
      subst heq
      exact le_refl _

/-! ## Clean cuts -/

/-- The rows before a clean cut. -/
def before (key : α → β) (rows : List α) (b : ℕ) : List α :=
  rows.filter fun x => countFrom key rows x ≤ b

theorem cleanCut_zero (key : α → β) (rows : List α) : CleanCut key rows 0 :=
  fun _ _ h => Nat.not_lt_zero _ h.1

theorem cleanCut_of_length_le (h : rows.length ≤ b) : CleanCut key rows b := by
  intro x _ hb
  have hle : countFrom key rows x ≤ rows.length := List.countP_le_length
  omega

theorem Listing.take_perm (h : Listing key rows l) (hcut : CleanCut key rows b) :
    (l.take b).Perm (before key rows b) := by
  have hinside : ∀ x ∈ l.take b, countFrom key rows x ≤ b := by
    intro x hx
    obtain ⟨i, hi⟩ := List.mem_iff_getElem?.mp hx
    rw [List.getElem?_take] at hi
    split at hi
    next hlt =>
      have hplace := h.place hi
      have hmem : x ∈ rows := h.perm.mem_iff.mp (List.mem_of_getElem? hi)
      have hclean := hcut x hmem
      omega
    next => cases hi
  have houtside : ∀ x ∈ l.drop b, ¬ countFrom key rows x ≤ b := by
    intro x hx
    obtain ⟨i, hi⟩ := List.mem_iff_getElem?.mp hx
    rw [List.getElem?_drop] at hi
    have hplace := h.place hi
    omega
  have hfilter : l.filter (fun x => countFrom key rows x ≤ b) = l.take b := by
    conv_lhs => rw [← List.take_append_drop b l]
    rw [List.filter_append, List.filter_eq_self.mpr fun x hx => by simpa using hinside x hx,
      List.filter_eq_nil_iff.mpr fun x hx => by simpa using houtside x hx, List.append_nil]
  rw [← hfilter]
  exact h.perm.filter _

theorem take_succ_page (size k : ℕ) (l : List α) :
    l.take ((k + 1) * size) = l.take (k * size) ++ page size k l := by
  rw [page, Nat.succ_mul, List.take_add]

theorem length_pages_le (size n : ℕ) (listings : ℕ → List α) :
    (pages size n listings).length ≤ n * size := by
  induction n with
  | zero => simp [pages]
  | succ n ih =>
    have hpage : (page size n (listings n)).length ≤ size := List.length_take_le _ _
    rw [pages] at ih
    rw [pages, List.range_succ, List.flatMap_append, List.flatMap_singleton, List.length_append,
      Nat.succ_mul]
    omega

/-- Pages between clean cuts make up what stands before the last. -/
theorem pages_perm {listings : ℕ → List α} (h : ∀ k, Listing key rows (listings k))
    (hcut : ∀ k, CleanCut key rows (k * size)) (n : ℕ) :
    (pages size n listings).Perm (before key rows (n * size)) := by
  induction n with
  | zero =>
    have hnone : before key rows (0 * size) = [] := by
      refine List.filter_eq_nil_iff.mpr fun x hx => ?_
      have hpos : 0 < countFrom key rows x := List.countP_pos_iff.mpr ⟨x, hx, by simp⟩
      simp
      omega
    rw [hnone]
    exact .refl _
  | succ n ih =>
    have hpages : pages size (n + 1) listings =
        pages size n listings ++ page size n (listings n) := by
      unfold pages
      rw [List.range_succ, List.flatMap_append, List.flatMap_singleton]
    have hstart := (h n).take_perm (hcut n)
    have hend := (h n).take_perm (hcut (n + 1))
    rw [take_succ_page] at hend
    rw [hpages]
    exact ((ih.trans hstart.symm).append_right _).trans hend

theorem before_of_length_le (h : rows.length ≤ b) : before key rows b = rows := by
  refine List.filter_eq_self.mpr fun x _ => ?_
  have hle : countFrom key rows x ≤ rows.length := List.countP_le_length
  simp
  omega

/-! ## Sorting -/

/-- The listing that a stable sort makes of an order of the rows. -/
def listed (key : α → β) (l : List α) : List α := l.mergeSort fun x y => key y ≤ key x

theorem listing_listed (key : α → β) (h : l.Perm rows) : Listing key rows (listed key l) := by
  refine ⟨(List.mergeSort_perm l _).trans h, ?_⟩
  have hsorted : (listed key l).Pairwise fun x y => decide (key y ≤ key x) = true :=
    List.pairwise_mergeSort
      (fun x y z hxy hyz => by
        simp only [decide_eq_true_eq] at *
        exact le_trans hyz hxy)
      (fun x y => by simpa using le_total (key y) (key x)) l
  exact hsorted.imp fun hle => by simpa using hle

theorem Listing.listed_eq (h : Listing key rows l) : listed key l = l :=
  List.mergeSort_of_pairwise (h.descending.imp fun hle => by simpa using hle)

/-! ## Rows that come twice -/

theorem countP_mono_key {p q : α → Bool} (h : ∀ x, p x = true → q x = true) (rows : List α) :
    rows.countP p ≤ rows.countP q :=
  List.countP_mono_left fun x _ => h x

theorem Listing.key_eq (h : Listing key rows l) {x y : α} (hy : l[i]? = some y)
    (habove : countAbove key rows x ≤ i) (hfrom : i < countFrom key rows x) : key y = key x := by
  have hplace := h.place hy
  rcases lt_trichotomy (key x) (key y) with hlt | heq | hgt
  · have hle : countFrom key rows y ≤ countAbove key rows x :=
      countP_mono_key (fun z hz => by
        simp only [decide_eq_true_eq] at *
        exact lt_of_lt_of_le hlt hz) rows
    omega
  · exact heq.symm
  · have hle : countFrom key rows x ≤ countAbove key rows y :=
      countP_mono_key (fun z hz => by
        simp only [decide_eq_true_eq] at *
        exact lt_of_lt_of_le hgt hz) rows
    omega

theorem Listing.swap {x y : α} (h : Listing key rows (l ++ x :: y :: l')) (hkey : key x = key y) :
    Listing key rows (l ++ y :: x :: l') := by
  have hperm : (l ++ y :: x :: l').Perm (l ++ x :: y :: l') :=
    (List.Perm.swap x y l').append_left l
  refine ⟨hperm.trans h.perm, ?_⟩
  obtain ⟨hl, hrest, hcross⟩ := List.pairwise_append.mp h.descending
  obtain ⟨hx, hrest⟩ := List.pairwise_cons.mp hrest
  obtain ⟨hy, hrest⟩ := List.pairwise_cons.mp hrest
  refine List.pairwise_append.mpr ⟨hl, ?_, fun a ha b hb => hcross a ha b ?_⟩
  · refine List.pairwise_cons.mpr ⟨fun a ha => ?_, List.pairwise_cons.mpr ⟨fun a ha => ?_, hrest⟩⟩
    · rcases List.mem_cons.mp ha with rfl | ha
      · exact le_of_eq hkey
      · exact hy a ha
    · exact hx a (List.mem_cons_of_mem _ ha)
  · simp only [List.mem_cons] at hb ⊢
    tauto

/-- Across a cut that is not clean two rows may change places. -/
theorem Listing.exists_swap (h : Listing key rows l) (hcut : ¬ CleanCut key rows b) :
    ∃ y l₁ l₂, Listing key rows l₁ ∧ Listing key rows l₂ ∧ 0 < b ∧ b < rows.length ∧
      l₁[b - 1]? = some y ∧ l₂[b]? = some y := by
  unfold CleanCut at hcut
  push Not at hcut
  obtain ⟨x, -, habove, hfrom⟩ := hcut
  have hlength : countFrom key rows x ≤ rows.length := List.countP_le_length
  have hsame : l.length = rows.length := h.perm.length_eq
  obtain ⟨m, rfl⟩ : ∃ m, b = m + 1 := ⟨b - 1, by omega⟩
  have hm : m < l.length := by omega
  have hm' : m + 1 < l.length := by omega
  have hsplit : l.take m ++ l[m] :: l[m + 1] :: l.drop (m + 2) = l := by
    rw [← List.drop_eq_getElem_cons hm', ← List.drop_eq_getElem_cons hm, List.take_append_drop]
  have hy : key l[m] = key x := h.key_eq (List.getElem?_eq_getElem hm) (by omega) (by omega)
  have hz : key l[m + 1] = key x := h.key_eq (List.getElem?_eq_getElem hm') (by omega) (by omega)
  have hswap : Listing key rows (l.take m ++ l[m + 1] :: l[m] :: l.drop (m + 2)) := by
    refine Listing.swap ?_ (hy.trans hz.symm)
    rw [hsplit]
    exact h
  have htake : (l.take m).length = m := by rw [List.length_take]; omega
  refine ⟨l[m], l, _, h, hswap, by omega, by omega, List.getElem?_eq_getElem hm, ?_⟩
  rw [List.getElem?_append_right (by omega), htake, Nat.add_sub_cancel_left]
  rfl

theorem mem_page {k : ℕ} {x : α} (hx : l[i]? = some x) (hlow : k * size ≤ i)
    (hhigh : i < (k + 1) * size) : x ∈ page size k l := by
  refine List.mem_iff_getElem?.mpr ⟨i - k * size, ?_⟩
  rw [Nat.succ_mul] at hhigh
  rw [page, List.getElem?_take, if_pos (by omega), List.getElem?_drop, Nat.add_sub_cancel' hlow, hx]

/-- Enough pages, of whatever listings, make up the rows exactly when no key straddles two. -/
theorem pages_perm_iff (hsize : 0 < size) (hnodup : rows.Nodup) (hn : rows.length ≤ n * size) :
    (∀ listings, (∀ k, Listing key rows (listings k)) → (pages size n listings).Perm rows) ↔
      ∀ k, CleanCut key rows (k * size) := by
  constructor
  · intro h k
    by_contra hcut
    obtain ⟨y, l₁, l₂, h₁, h₂, hpos, hlt, hy₁, hy₂⟩ :=
      (listing_listed key (.refl rows)).exists_swap hcut
    have hk : 0 < k := Nat.pos_of_mul_pos_right hpos
    have hkn : k < n := Nat.lt_of_mul_lt_mul_right (Nat.lt_of_lt_of_le hlt hn)
    let listings : ℕ → List α := fun j => if j = k then l₂ else l₁
    have hlistings : ∀ j, Listing key rows (listings j) := by
      intro j
      dsimp only [listings]
      split
      · exact h₂
      · exact h₁
    have hdistinct := (h listings hlistings).nodup_iff.mpr hnodup
    rw [pages, List.nodup_flatMap] at hdistinct
    have hdisjoint := List.pairwise_iff_getElem.mp hdistinct.2 (k - 1) k
      (by rw [List.length_range]; omega) (by rw [List.length_range]; omega) (by omega)
    rw [List.getElem_range, List.getElem_range] at hdisjoint
    refine hdisjoint (a := y) ?_ ?_
    · have hne : listings (k - 1) = l₁ := if_neg (by omega)
      show y ∈ page size (k - 1) (listings (k - 1))
      rw [hne]
      have hbound : (k - 1) * size + size = k * size := by
        rw [← Nat.succ_mul]
        congr 1
        omega
      refine mem_page hy₁ (by omega) ?_
      rw [Nat.succ_mul]
      omega
    · have heq : listings k = l₂ := if_pos rfl
      show y ∈ page size k (listings k)
      rw [heq]
      refine mem_page hy₂ (Nat.le_refl _) ?_
      rw [Nat.succ_mul]
      omega
  · intro hcut listings hlistings
    have hperm := pages_perm hlistings hcut n
    rw [before_of_length_le hn] at hperm
    exact hperm

end SaasChassis.Lib
