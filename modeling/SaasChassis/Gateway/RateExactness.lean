/-
  The rate limiter over the requests of all tenants, each under the plan of its own.

  The counters are read with the lemmas on one tenant's keys (`Tracks`); what is new is that
  other requests write in between. A key tells its tenant, its kind and its number, except that
  "x:hour" counts its minutes under the keys of the hours of "x", and "x:burst" under those of its
  seconds. `clash` says when that matters: from the second minute of the Unix epoch on, a counter
  is gone by the time its key is another's. `Booked` is the invariant of a run, `Booked.touch`
  its step for one counter; `admits_exactly` reads the decision off it.
-/
import SaasChassis.Gateway.RateLimits

namespace SaasChassis.Gateway

open SaasChassis.Lib Counters

/-! ## Requests -/

structure RateRequest where
  tenantID : String
  plan : String
  now : ℕ

/-- One request at one instant. -/
def RateRequest.handle (q : RateRequest) (r : Counters) : Counters × Bool :=
  rateLimit q.tenantID q.plan q.now r

/-- The counters that the requests, in this order, leave. -/
def countersAfter (qs : List RateRequest) : Counters :=
  run (fun r q => (q.handle r).1) (fun _ => none) qs

/-- Whether `q` is handed on after the requests `before`. -/
def admits (before : List RateRequest) (q : RateRequest) : Bool :=
  (q.handle (countersAfter before)).2

/-! ## Kinds of counters -/

inductive RateKind where
  | perMinute | perHour | perSecond
  deriving DecidableEq

namespace RateKind

def stem : RateKind → String
  | perMinute => ""
  | perHour => ":hour"
  | perSecond => ":burst"

def name : RateKind → String
  | perMinute => ":"
  | perHour => ":hour:"
  | perSecond => ":burst:"

def width : RateKind → ℕ
  | perMinute => minute
  | perHour => hour
  | perSecond => second

def limit (k : RateKind) (plan : String) : ℤ :=
  match k with
  | perMinute => (limitsFor plan).requestsPerMinute
  | perHour => (limitsFor plan).requestsPerHour
  | perSecond => (limitsFor plan).burstSize

end RateKind

/-- The key of the bucket that is current at `now`. -/
def rateKey (tenantID : String) (k : RateKind) (now : ℕ) : String :=
  numberedKey tenantID k.name (now / k.width)

/-- Its increment, with the expiry the middleware sets. -/
def countIn (k : RateKind) (tenantID : String) (now : ℕ) : Counters → Counters :=
  match k with
  | .perMinute => countMinute tenantID now
  | .perHour => countHour tenantID now
  | .perSecond => countSecond tenantID now

/-! ## Statement -/

/-- A tenant's clock minute, hour or second. -/
def RateRequest.bucket (k : RateKind) (q : RateRequest) : String × ℕ :=
  (q.tenantID, q.now / k.width)

def RateRequest.limit (k : RateKind) (q : RateRequest) : ℤ := k.limit q.plan

/-- Those that passed the minute check. -/
def passedMinute (qs : List RateRequest) : List RateRequest :=
  allotted (RateRequest.bucket .perMinute) (fun q => (q.limit .perMinute).toNat) qs

/-- Those that passed both. -/
def passedBoth (qs : List RateRequest) : List RateRequest :=
  allotted (RateRequest.bucket .perHour) (fun q => (q.limit .perHour).toNat) (passedMinute qs)

/-- What each kind of counter counts. -/
def counted (qs : List RateRequest) : RateKind → List RateRequest
  | .perMinute => qs
  | .perHour => passedMinute qs
  | .perSecond => passedBoth qs

/-- What is asked of the request `q` after the requests `before`. -/
structure AdmitsExactly (before : List RateRequest) (q : RateRequest) : Prop where
  admitted : admits before q = true ↔
    ((countLike (RateRequest.bucket .perMinute) q (before ++ [q]) : ℕ) : ℤ) ≤ q.limit .perMinute ∧
    ((countLike (RateRequest.bucket .perHour) q (passedMinute (before ++ [q])) : ℕ) : ℤ) ≤
      q.limit .perHour ∧
    ((countLike (RateRequest.bucket .perSecond) q (passedBoth (before ++ [q])) : ℕ) : ℤ) ≤
      q.limit .perSecond
  /-- Other tenants take no part. -/
  alone : admits before q = admits (before.filter (·.tenantID = q.tenantID)) q
  /-- No counter expires while its bucket is current. -/
  live : ∀ p ∈ before ++ [q], ∀ k t, q.now ≤ t → t / k.width = q.now / k.width →
    (countersAfter (before ++ [q])).countAt (rateKey p.tenantID k q.now) t =
      (countersAfter (before ++ [q])).countAt (rateKey p.tenantID k q.now) q.now

/-- No tenant's id is another's with the name of a kind behind it; UUIDs never are. -/
def IdsApart (qs : List RateRequest) : Prop :=
  ∀ p ∈ qs, ∀ q ∈ qs, p.tenantID ≠ q.tenantID ++ ":hour" ∧ p.tenantID ≠ q.tenantID ++ ":burst"

/-- Or else the first minute of the Unix epoch is over. -/
def KeysApart (qs : List RateRequest) : Prop :=
  IdsApart qs ∨ ∀ p ∈ qs, minute ≤ p.now

/-! ## Keys -/

theorem RateKind.name_toList (k : RateKind) : k.name.toList = k.stem.toList ++ [':'] := by
  cases k <;> decide

/-- Equal keys have equal numbers, and tenants and kinds that are written alike. -/
theorem rateKey_inj {T U : String} {k l : RateKind} {m n : ℕ}
    (h : numberedKey T k.name m = numberedKey U l.name n) :
    m = n ∧ T ++ k.stem = U ++ l.stem := by
  rw [← String.toList_inj, numberedKey_toList, numberedKey_toList, k.name_toList, l.name_toList,
    String.toList_append, String.toList_append] at h
  simp only [List.append_assoc, List.append_cancel_left_eq, List.singleton_append] at h
  simp only [← List.append_assoc] at h
  have hdigits (i : ℕ) : ':' ∉ Nat.toDigits 10 i := fun hmem => by
    have hdigit := Nat.isDigit_of_mem_toDigits (by omega) (by omega) hmem
    cases hdigit
  obtain ⟨hwritten, hnumber⟩ := append_sep_inj h (hdigits m) (hdigits n)
  refine ⟨?_, ?_⟩
  · rw [← Nat.ofDigitChars_ten_toDigits (n := m), hnumber, Nat.ofDigitChars_ten_toDigits]
  · rw [← String.toList_inj, String.toList_append, String.toList_append]
    exact hwritten

/-- The tenants `T` and `U` do not write each other's keys, or the first minute is over. -/
def Safe (T U : String) (now : ℕ) : Prop :=
  (T ≠ U ++ ":hour" ∧ T ≠ U ++ ":burst" ∧ U ≠ T ++ ":hour" ∧ U ≠ T ++ ":burst") ∨ minute ≤ now

theorem hour_ne_burst (T U : String) : T ++ ":hour" ≠ U ++ ":burst" := by
  intro h
  have hlast := congrArg (fun s : String => s.toList.getLast?) h
  revert hlast
  simp

/-- Bucket numbers of different kinds that meet after the first minute. -/
theorem meeting_numbers {now t : ℕ} (hlate : minute ≤ now) (hle : now ≤ t) :
    (now / minute = t / hour →
      (now / minute + 3) * minute ≤ t ∧ now / hour < t / hour) ∧
    now / minute ≠ t / second ∧ now / hour ≠ t / minute ∧
    (now / second = t / minute →
      (now / second + 3) * second ≤ t ∧ now / minute < t / minute) := by
  unfold minute hour second at *
  omega

/-- Where a counter that is hit at `now` has the key of another one at `t`, it is gone by then, and
    the other's bucket has not begun. -/
theorem clash {T U : String} {k l : RateKind} {now t : ℕ} (hsafe : Safe T U now) (hle : now ≤ t)
    (hne : ¬ (T = U ∧ k = l)) (h : rateKey T k now = rateKey U l t) :
    (now / k.width + 3) * k.width ≤ t ∧ now / l.width < t / l.width := by
  obtain ⟨hnumber, hwritten⟩ := rateKey_inj h
  by_cases hkl : k = l
  · subst hkl
    exact absurd ⟨(String.append_left_inj _).mp hwritten, rfl⟩ hne
  · cases k with
    | perMinute =>
      rw [RateKind.stem, String.append_empty] at hwritten
      cases l with
      | perMinute => exact absurd rfl hkl
      | perHour =>
        obtain hapart | hlate := hsafe
        · exact absurd hwritten hapart.1
        · exact (meeting_numbers hlate hle).1 hnumber
      | perSecond =>
        obtain hapart | hlate := hsafe
        · exact absurd hwritten hapart.2.1
        · exact absurd hnumber (meeting_numbers hlate hle).2.1
    | perHour =>
      cases l with
      | perMinute =>
        obtain hapart | hlate := hsafe
        · exact absurd (hwritten.trans String.append_empty).symm hapart.2.2.1
        · exact absurd hnumber (meeting_numbers hlate hle).2.2.1
      | perHour => exact absurd rfl hkl
      | perSecond => exact absurd hwritten (hour_ne_burst T U)
    | perSecond =>
      cases l with
      | perMinute =>
        obtain hapart | hlate := hsafe
        · exact absurd (hwritten.trans String.append_empty).symm hapart.2.2.2
        · exact (meeting_numbers hlate hle).2.2.2 hnumber
      | perHour => exact absurd hwritten.symm (hour_ne_burst U T)
      | perSecond => exact absurd rfl hkl

/-! ## One counter -/

section Touch

variable {T U : String} {k l : RateKind} {now : ℕ} {r r' : Counters}

/-- Counters of clock minutes end within two minutes of their bucket. -/
def Bounded (T : String) (now : ℕ) (r : Counters) : Prop :=
  ∀ t, now ≤ t → ∀ c, r.get (rateKey T .perMinute t) t = some c →
    ∃ e, c.expiresAt = some e ∧ e ≤ (t / minute + 3) * minute

theorem countIn_of_ne {key : String} (h : key ≠ rateKey T k now) :
    countIn k T now r key = r key := by
  cases k with
  | perMinute => exact countMinute_of_ne h
  | perHour => exact hit_of_ne h ..
  | perSecond => exact hit_of_ne h ..

theorem expiry_le {w : ℕ} (hw : 0 < w) (now : ℕ) : now + 2 * w ≤ (now / w + 3) * w := by
  have hlt := Nat.lt_mul_div_succ now hw
  rw [Nat.mul_add, Nat.mul_one, Nat.mul_comm] at hlt
  rw [Nat.add_mul]
  omega

/-- What stands under the key that was hit. -/
theorem countIn_entry (hb : Bounded T now r) (k : RateKind) :
    ∃ count e, countIn k T now r (rateKey T k now) = some { count, expiresAt := some e } ∧
      e ≤ (now / k.width + 3) * k.width := by
  cases k with
  | perHour => exact ⟨_, _, hit_self .., expiry_le (by decide) now⟩
  | perSecond => exact ⟨_, _, hit_self .., expiry_le (by decide) now⟩
  | perMinute =>
    show ∃ count e, countMinute T now r (numberedKey T ":" (now / minute)) = _ ∧ _
    unfold countMinute
    split
    next => exact ⟨_, _, hit_self .., expiry_le (by decide) now⟩
    next hlater =>
      -- the count goes on from a counter that is there, with its expiry
      cases hget : r.get (numberedKey T ":" (now / minute)) now with
      | none =>
        refine absurd ?_ hlater
        rw [nextCount, countAt, hget]
        rfl
      | some c =>
        obtain ⟨e, hexpires, hle⟩ := hb now (Nat.le_refl now) c hget
        have hself := incr_self (numberedKey T ":" (now / minute)) now r
        rw [hget, Option.bind_some, hexpires] at hself
        exact ⟨_, e, hself, hle⟩

/-- A counter that is gone counts nothing. -/
theorem get_expired {key : String} {count : ℤ} {e t : ℕ}
    (h : r key = some { count, expiresAt := some e }) (hle : e ≤ t) : r.get key t = none := by
  unfold Counters.get
  rw [h]
  simpa using hle

/-- A tenant's other counters, and those of other tenants, are as they were. -/
theorem Tracks.untouched {ts : List ℕ} (h : Tracks U l.name l.width ts now r)
    (hpast : ∀ x ∈ ts, x ≤ now) (hb : Bounded T now r) (hsafe : Safe T U now)
    (hne : ¬ (T = U ∧ k = l)) : Tracks U l.name l.width ts now (countIn k T now r) := by
  intro t ht
  by_cases hkey : rateKey T k now = rateKey U l t
  · obtain ⟨hgone, hlater⟩ := clash hsafe ht hne hkey
    obtain ⟨count, e, hentry, he⟩ := countIn_entry hb k
    have hzero : (countIn k T now r).countAt (rateKey U l t) t = 0 := by
      rw [countAt, get_expired (hkey ▸ hentry) (Nat.le_trans he hgone)]
      rfl
    have hnone : countLike (· / l.width) t ts = 0 := by
      refine List.countP_eq_zero.mpr fun x hx => ?_
      have hbucket : x / l.width ≤ now / l.width := Nat.div_le_div_right (hpast x hx)
      simp only [decide_eq_true_eq]
      omega
    rw [hnone]
    exact hzero
  · have hsame : countIn k T now r (rateKey U l t) = r (rateKey U l t) :=
      countIn_of_ne (Ne.symm hkey)
    exact (countAt_of_eq hsame t).trans (h t ht)

theorem Bounded.touch (h : Bounded U now r) (hb : Bounded T now r) (hsafe : Safe T U now)
    (k : RateKind) : Bounded U now (countIn k T now r) := by
  intro t ht c hc
  by_cases hkey : rateKey T k now = rateKey U .perMinute t
  · obtain ⟨count, e, hentry, he⟩ := countIn_entry hb k
    by_cases hown : T = U ∧ k = .perMinute
    · obtain ⟨rfl, rfl⟩ := hown
      have hnumber : now / minute = t / minute := numberedKey_inj hkey
      have hfound : countIn .perMinute T now r (rateKey T .perMinute t) = some c :=
        (Option.filter_eq_some_iff.mp hc).1
      rw [← hkey, hentry] at hfound
      obtain rfl := Option.some.inj hfound
      exact ⟨e, rfl, hnumber ▸ he⟩
    · obtain ⟨hgone, -⟩ := clash hsafe ht hown hkey
      rw [get_expired (hkey ▸ hentry) (Nat.le_trans he hgone)] at hc
      cases hc
  · refine h t ht c ?_
    unfold Counters.get at hc ⊢
    rwa [countIn_of_ne (Ne.symm hkey)] at hc

end Touch

/-! ## All counters -/

def timesOf (T : String) (qs : List RateRequest) : List ℕ :=
  (qs.filter (·.tenantID = T)).map (·.now)

theorem timesOf_own (q : RateRequest) (qs : List RateRequest) :
    timesOf q.tenantID (qs ++ [q]) = timesOf q.tenantID qs ++ [q.now] := by
  simp [timesOf]

theorem timesOf_other {T : String} {q : RateRequest} (h : q.tenantID ≠ T) (qs : List RateRequest) :
    timesOf T (qs ++ [q]) = timesOf T qs := by
  simp [timesOf, h]

theorem countLike_timesOf (k : RateKind) (q : RateRequest) (qs : List RateRequest) :
    countLike (· / k.width) q.now (timesOf q.tenantID qs) =
      countLike (RateRequest.bucket k) q qs := by
  unfold countLike timesOf
  rw [List.countP_map, List.countP_filter]
  refine List.countP_congr fun p _ => ?_
  simp [RateRequest.bucket, and_comm]

/-- For each of the tenants, every counter counts what its kind is to count. -/
structure Booked (ids : List String) (lists : RateKind → List RateRequest) (now : ℕ)
    (r : Counters) : Prop where
  tracks : ∀ T ∈ ids, ∀ k, Tracks T k.name k.width (timesOf T (lists k)) now r
  bounded : ∀ T ∈ ids, Bounded T now r
  past : ∀ k, ∀ p ∈ lists k, p.now ≤ now

theorem Tracks.own {T : String} {k : RateKind} {ts : List ℕ} {now : ℕ} {r : Counters}
    (h : Tracks T k.name k.width ts now r) :
    Tracks T k.name k.width (ts ++ [now]) now (countIn k T now r) := by
  cases k with
  | perMinute => exact h.hitFirst (by decide) (by decide)
  | perHour => exact h.hit (by decide) (by decide)
  | perSecond => exact h.hit (by decide) (by decide)

section Booked

variable {ids : List String} {lists : RateKind → List RateRequest} {now : ℕ} {r : Counters}
  {q : RateRequest}

theorem Booked.later (h : Booked ids lists now r) {now' : ℕ} (hle : now ≤ now') :
    Booked ids lists now' r where
  tracks T hT k := (h.tracks T hT k).later hle
  bounded T hT t ht := h.bounded T hT t (Nat.le_trans hle ht)
  past k p hp := Nat.le_trans (h.past k p hp) hle

/-- The request `q` is counted under one of its keys. -/
theorem Booked.touch (h : Booked ids lists q.now r) (hq : q.tenantID ∈ ids)
    (hsafe : ∀ U ∈ ids, Safe q.tenantID U q.now) (k : RateKind) :
    Booked ids (Function.update lists k (lists k ++ [q])) q.now
      (countIn k q.tenantID q.now r) where
  tracks U hU l := by
    by_cases hown : q.tenantID = U ∧ k = l
    · obtain ⟨rfl, rfl⟩ := hown
      rw [Function.update_self, timesOf_own]
      exact (h.tracks q.tenantID hU k).own
    · have htimes : timesOf U (Function.update lists k (lists k ++ [q]) l) =
          timesOf U (lists l) := by
        by_cases hkl : l = k
        · subst hkl
          rw [Function.update_self]
          exact timesOf_other (fun hid => hown ⟨hid, rfl⟩) _
        · rw [Function.update_of_ne hkl]
      rw [htimes]
      refine (h.tracks U hU l).untouched (fun x hx => ?_) (h.bounded _ hq) (hsafe U hU) hown
      obtain ⟨p, hp, rfl⟩ := List.mem_map.mp hx
      exact h.past l p (List.mem_filter.mp hp).1
  bounded U hU := (h.bounded U hU).touch (h.bounded _ hq) (hsafe U hU) k
  past l p hp := by
    by_cases hkl : l = k
    · subst hkl
      rw [Function.update_self] at hp
      obtain hp | hp := List.mem_append.mp hp
      · exact h.past l p hp
      · rw [List.mem_singleton.mp hp]
    · rw [Function.update_of_ne hkl] at hp
      exact h.past l p hp

theorem Booked.exceeds_iff (h : Booked ids lists q.now r) (hq : q.tenantID ∈ ids) (k : RateKind) :
    q.limit k < r.nextCount (rateKey q.tenantID k q.now) q.now ↔
      ¬ countLike (RateRequest.bucket k) q (lists k) < (q.limit k).toNat := by
  rw [← countLike_timesOf]
  exact (h.tracks q.tenantID hq k).exceeds_iff (q.limit k)

end Booked

/-! ## One request -/

section Request

variable {ids : List String} {r : Counters} {before : List RateRequest} {q : RateRequest}

theorem handle_eq (q : RateRequest) (r : Counters) :
    q.handle r =
      if q.limit .perMinute < r.nextCount (rateKey q.tenantID .perMinute q.now) q.now then
        (countIn .perMinute q.tenantID q.now r, false)
      else
        let r := countIn .perMinute q.tenantID q.now r
        if q.limit .perHour < r.nextCount (rateKey q.tenantID .perHour q.now) q.now then
          (countIn .perHour q.tenantID q.now r, false)
        else
          let r := countIn .perHour q.tenantID q.now r
          if q.limit .perSecond < r.nextCount (rateKey q.tenantID .perSecond q.now) q.now then
            (countIn .perSecond q.tenantID q.now r, false)
          else (countIn .perSecond q.tenantID q.now r, true) :=
  rateLimit_eq q.tenantID q.plan q.now r

/-- There is room for `q` in the counter of its own, after the requests `before`. -/
def Room (before : List RateRequest) (q : RateRequest) (k : RateKind) : Prop :=
  countLike (RateRequest.bucket k) q (counted before k) < (q.limit k).toNat

theorem passedMinute_concat (before : List RateRequest) (q : RateRequest) :
    (Room before q .perMinute → passedMinute (before ++ [q]) = passedMinute before ++ [q]) ∧
    (¬ Room before q .perMinute → passedMinute (before ++ [q]) = passedMinute before) :=
  ⟨fun h => allotted_of_lt h, fun h => allotted_of_not_lt h⟩

theorem passedBoth_concat (hm : Room before q .perMinute) :
    (Room before q .perHour → passedBoth (before ++ [q]) = passedBoth before ++ [q]) ∧
    (¬ Room before q .perHour → passedBoth (before ++ [q]) = passedBoth before) := by
  unfold passedBoth
  rw [(passedMinute_concat before q).1 hm]
  exact ⟨fun h => allotted_of_lt h, fun h => allotted_of_not_lt h⟩

/-- The request is counted by minute; by hour as well when there was room; by second as well when
    there was room again. -/
theorem counted_of_room (hm : Room before q .perMinute) (hh : Room before q .perHour) :
    counted (before ++ [q]) = Function.update (Function.update (Function.update (counted before)
      .perMinute (before ++ [q])) .perHour (passedMinute before ++ [q]))
        .perSecond (passedBoth before ++ [q]) := by
  funext k
  cases k with
  | perMinute => rfl
  | perHour => exact (passedMinute_concat before q).1 hm
  | perSecond => exact (passedBoth_concat hm).1 hh

theorem counted_of_hour_full (hm : Room before q .perMinute) (hh : ¬ Room before q .perHour) :
    counted (before ++ [q]) = Function.update (Function.update (counted before)
      .perMinute (before ++ [q])) .perHour (passedMinute before ++ [q]) := by
  funext k
  cases k with
  | perMinute => rfl
  | perHour => exact (passedMinute_concat before q).1 hm
  | perSecond => exact (passedBoth_concat hm).2 hh

theorem counted_of_minute_full (hm : ¬ Room before q .perMinute) :
    counted (before ++ [q]) = Function.update (counted before) .perMinute (before ++ [q]) := by
  have hpassed := (passedMinute_concat before q).2 hm
  funext k
  cases k with
  | perMinute => rfl
  | perHour => exact hpassed
  | perSecond =>
    show passedBoth (before ++ [q]) = passedBoth before
    unfold passedBoth
    rw [hpassed]

/-- A request is counted as far as it comes, and handed on when there was room in every counter. -/
theorem Booked.handle (h : Booked ids (counted before) q.now r) (hq : q.tenantID ∈ ids)
    (hsafe : ∀ U ∈ ids, Safe q.tenantID U q.now) :
    Booked ids (counted (before ++ [q])) q.now (q.handle r).1 ∧
      ((q.handle r).2 = true ↔
        Room before q .perMinute ∧ Room before q .perHour ∧ Room before q .perSecond) := by
  have hminute := h.touch hq hsafe .perMinute
  have hhour := hminute.touch hq hsafe .perHour
  have hsecond := hhour.touch hq hsafe .perSecond
  have hm : q.limit .perMinute < r.nextCount (rateKey q.tenantID .perMinute q.now) q.now ↔
      ¬ Room before q .perMinute := h.exceeds_iff hq .perMinute
  have hh : q.limit .perHour < (countIn .perMinute q.tenantID q.now r).nextCount
      (rateKey q.tenantID .perHour q.now) q.now ↔ ¬ Room before q .perHour :=
    hminute.exceeds_iff hq .perHour
  have hs : q.limit .perSecond < (countIn .perHour q.tenantID q.now
      (countIn .perMinute q.tenantID q.now r)).nextCount
        (rateKey q.tenantID .perSecond q.now) q.now ↔ ¬ Room before q .perSecond :=
    hhour.exceeds_iff hq .perSecond
  rw [handle_eq]
  by_cases hroomM : Room before q .perMinute
  · rw [if_neg (hm.not.mpr (not_not_intro hroomM))]
    dsimp only
    by_cases hroomH : Room before q .perHour
    · rw [if_neg (hh.not.mpr (not_not_intro hroomH)), counted_of_room hroomM hroomH]
      by_cases hroomS : Room before q .perSecond
      · rw [if_neg (hs.not.mpr (not_not_intro hroomS))]
        exact ⟨hsecond, iff_of_true rfl ⟨hroomM, hroomH, hroomS⟩⟩
      · rw [if_pos (hs.mpr hroomS)]
        exact ⟨hsecond, iff_of_false Bool.false_ne_true fun hall => hroomS hall.2.2⟩
    · rw [if_pos (hh.mpr hroomH), counted_of_hour_full hroomM hroomH]
      exact ⟨hhour, iff_of_false Bool.false_ne_true fun hall => hroomH hall.2.1⟩
  · rw [if_pos (hm.mpr hroomM), counted_of_minute_full hroomM]
    exact ⟨hminute, iff_of_false Bool.false_ne_true fun hall => hroomM hall.1⟩

end Request

/-! ## Runs -/

theorem KeysApart.of_subset {ps qs : List RateRequest} (h : KeysApart qs) (hsub : ps ⊆ qs) :
    KeysApart ps := by
  obtain hids | hlate := h
  · exact Or.inl fun p hp q hq => hids p (hsub hp) q (hsub hq)
  · exact Or.inr fun p hp => hlate p (hsub hp)

theorem KeysApart.safe {qs : List RateRequest} (h : KeysApart qs) {q : RateRequest} (hq : q ∈ qs) :
    ∀ U ∈ qs.map (·.tenantID), Safe q.tenantID U q.now := by
  intro U hU
  obtain ⟨p, hp, rfl⟩ := List.mem_map.mp hU
  obtain hids | hlate := h
  · have hqp := hids q hq p hp
    have hpq := hids p hp q hq
    exact Or.inl ⟨hqp.1, hqp.2, hpq.1, hpq.2⟩
  · exact Or.inr (hlate q hq)

theorem booked_start (ids : List String) : Booked ids (counted []) 0 (fun _ => none) where
  tracks _ _ k _ _ := by cases k <;> rfl
  bounded _ _ _ _ _ hc := by cases hc
  past k _ hp := by cases k <;> cases hp

theorem countersAfter_concat (qs : List RateRequest) (q : RateRequest) :
    countersAfter (qs ++ [q]) = (q.handle (countersAfter qs)).1 := by
  unfold countersAfter
  rw [run_append]
  rfl

/-- Over a run of requests in the order of their times. -/
theorem booked_run {ids : List String} {qs : List RateRequest}
    (hsorted : (qs.map (·.now)).Pairwise (· ≤ ·)) (hids : ∀ q ∈ qs, q.tenantID ∈ ids)
    (hsafe : ∀ q ∈ qs, ∀ U ∈ ids, Safe q.tenantID U q.now) {now : ℕ}
    (hnow : ∀ q ∈ qs, q.now ≤ now) : Booked ids (counted qs) now (countersAfter qs) := by
  induction qs using List.reverseRecOn generalizing now with
  | nil => exact (booked_start ids).later (Nat.zero_le now)
  | append_singleton qs q ih =>
    rw [List.map_append] at hsorted
    obtain ⟨hbefore, -, hlast⟩ := List.pairwise_append.mp hsorted
    have hmem : q ∈ qs ++ [q] := List.mem_append_right qs List.mem_cons_self
    have hbooked : Booked ids (counted qs) q.now (countersAfter qs) :=
      ih hbefore (fun p hp => hids p (List.mem_append_left [q] hp))
        (fun p hp => hsafe p (List.mem_append_left [q] hp))
        fun p hp => hlast p.now (List.mem_map_of_mem hp) q.now List.mem_cons_self
    rw [countersAfter_concat]
    exact (hbooked.handle (hids q hmem) (hsafe q hmem)).1.later (hnow q hmem)

section Run

variable {before : List RateRequest} {q : RateRequest}

theorem past_last (hsorted : ((before ++ [q]).map (·.now)).Pairwise (· ≤ ·)) :
    ∀ p ∈ before ++ [q], p.now ≤ q.now := by
  rw [List.map_append] at hsorted
  obtain ⟨-, -, hlast⟩ := List.pairwise_append.mp hsorted
  intro p hp
  obtain hp | hp := List.mem_append.mp hp
  · exact hlast p.now (List.mem_map_of_mem hp) q.now List.mem_cons_self
  · rw [List.mem_singleton.mp hp]

theorem admits_iff_room (hsorted : ((before ++ [q]).map (·.now)).Pairwise (· ≤ ·))
    (hkeys : KeysApart (before ++ [q])) :
    admits before q = true ↔
      Room before q .perMinute ∧ Room before q .perHour ∧ Room before q .perSecond := by
  have hmem : q ∈ before ++ [q] := List.mem_append_right before List.mem_cons_self
  have hid (p : RateRequest) (hp : p ∈ before ++ [q]) :
      p.tenantID ∈ (before ++ [q]).map (·.tenantID) := List.mem_map_of_mem hp
  have hsub : before.Sublist (before ++ [q]) := List.sublist_append_left before [q]
  have hbooked : Booked ((before ++ [q]).map (·.tenantID)) (counted before) q.now
      (countersAfter before) :=
    booked_run (hsorted.sublist (hsub.map _)) (fun p hp => hid p (hsub.subset hp))
      (fun p hp => hkeys.safe (hsub.subset hp)) fun p hp => past_last hsorted p (hsub.subset hp)
  exact (hbooked.handle (hid q hmem) (hkeys.safe hmem)).2

theorem room_iff {k : RateKind} {qs : List RateRequest} :
    ((countLike (RateRequest.bucket k) q (qs ++ [q]) : ℕ) : ℤ) ≤ q.limit k ↔
      countLike (RateRequest.bucket k) q qs < (q.limit k).toNat := by
  rw [countLike_concat, if_pos rfl]
  omega

/-- The counts include the request itself. -/
theorem rooms_iff :
    (Room before q .perMinute ∧ Room before q .perHour ∧ Room before q .perSecond) ↔
      ((countLike (RateRequest.bucket .perMinute) q (before ++ [q]) : ℕ) : ℤ) ≤
        q.limit .perMinute ∧
      ((countLike (RateRequest.bucket .perHour) q (passedMinute (before ++ [q])) : ℕ) : ℤ) ≤
        q.limit .perHour ∧
      ((countLike (RateRequest.bucket .perSecond) q (passedBoth (before ++ [q])) : ℕ) : ℤ) ≤
        q.limit .perSecond := by
  rw [room_iff]
  refine and_congr_right fun hm => ?_
  rw [(passedMinute_concat before q).1 hm, room_iff]
  refine and_congr_right fun hh => ?_
  rw [(passedBoth_concat hm).1 hh, room_iff]
  rfl

theorem counted_filter (p : RateRequest → Bool)
    (hp : ∀ a b : RateRequest, a.tenantID = b.tenantID → p a = p b) (qs : List RateRequest)
    (k : RateKind) : counted (qs.filter p) k = (counted qs k).filter p := by
  have hbucket (k : RateKind) (a b : RateRequest) (h : a.bucket k = b.bucket k) : p a = p b :=
    hp a b (congrArg Prod.fst h)
  have hminute : passedMinute (qs.filter p) = (passedMinute qs).filter p :=
    (filter_allotted (hbucket .perMinute) qs).symm
  cases k with
  | perMinute => rfl
  | perHour => exact hminute
  | perSecond =>
    show passedBoth (qs.filter p) = (passedBoth qs).filter p
    unfold passedBoth
    rw [hminute]
    exact (filter_allotted (hbucket .perHour) (passedMinute qs)).symm

/-- The requests of other tenants leave room for as many of a tenant's own. -/
theorem room_own (before : List RateRequest) (q : RateRequest) (k : RateKind) :
    Room (before.filter (·.tenantID = q.tenantID)) q k ↔ Room before q k := by
  unfold Room
  rw [counted_filter _ (fun a b hab => by rw [hab]), countLike_filter]
  intro p hbucket
  exact decide_eq_true (congrArg Prod.fst hbucket)

/-- Requests of any tenants, in the order of their times. -/
theorem admits_exactly (hsorted : ((before ++ [q]).map (·.now)).Pairwise (· ≤ ·))
    (hkeys : KeysApart (before ++ [q])) : AdmitsExactly before q where
  admitted := (admits_iff_room hsorted hkeys).trans rooms_iff
  alone := by
    have hsub : (before.filter (·.tenantID = q.tenantID) ++ [q]).Sublist (before ++ [q]) :=
      List.filter_sublist.append (.refl [q])
    have hown := admits_iff_room (hsorted.sublist (hsub.map _)) (hkeys.of_subset hsub.subset)
    simp only [room_own] at hown
    exact Bool.eq_iff_iff.mpr ((admits_iff_room hsorted hkeys).trans hown.symm)
  live p hp k t ht hbucket := by
    have hbooked : Booked ((before ++ [q]).map (·.tenantID)) (counted (before ++ [q])) q.now
        (countersAfter (before ++ [q])) :=
      booked_run hsorted (fun p hp => List.mem_map_of_mem hp) (fun p hp => hkeys.safe hp)
        (past_last hsorted)
    have htracks := hbooked.tracks p.tenantID (List.mem_map_of_mem hp) k
    have hlater := htracks t ht
    rw [hbucket, countLike_congr hbucket] at hlater
    exact hlater.trans (htracks q.now (Nat.le_refl q.now)).symm

/-- Eleven free requests in one second, with another tenant's in between. -/
theorem admits_exactly_sample :
    AdmitsExactly (List.replicate 10 ⟨"a", "free", minute⟩ ++ [⟨"a:burst", "pro", minute⟩])
      ⟨"a", "unknown", minute⟩ :=
  admits_exactly (by decide) (.inr (by decide))

/-- In the first minute of the epoch, the clock minute of "a:burst" has the key of second 0 of
    "a". -/
theorem burst_of_another :
    ¬ AdmitsExactly (List.replicate 10 ⟨"a:burst", "free", 0⟩) ⟨"a", "free", 0⟩ := by
  intro h
  have hrefused : admits (List.replicate 10 ⟨"a:burst", "free", 0⟩) ⟨"a", "free", 0⟩ = false := by
    decide +kernel
  have hown : admits ((List.replicate 10 (⟨"a:burst", "free", 0⟩ : RateRequest)).filter
      (·.tenantID = "a")) ⟨"a", "free", 0⟩ = true := by
    decide +kernel
  have halone := h.alone
  rw [hrefused, hown] at halone
  exact Bool.false_ne_true halone

end Run

end SaasChassis.Gateway
