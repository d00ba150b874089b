/-
  RateLimitMiddleware over the counters it keeps in Redis.

  The middleware counts a tenant's requests by clock minute; those that pass by clock hour; those
  that pass again by second. `rateLimit` is one request at one instant, with the counters it leaves;
  a run is a tenant's requests in order. `admitted_eq`: the requests that pass are the first
  `burstSize` of each second among the first `requestsPerHour` of each clock hour among the first
  `requestsPerMinute` of each clock minute.

  Its comment promises a sliding window. `slidingWindow_iff` says for which requests the limits hold
  in windows that start anywhere, `sixty_in_a_minute` shows one tenant that gets twice its limit,
  and `admitted_le_twice` that nobody gets more than that.
-/
import SaasChassis.Lib.FixedWindow
import SaasChassis.Lib.Runs
import SaasChassis.Gateway.Middleware

namespace SaasChassis.Gateway

open SaasChassis.Lib

/-! ## Redis -/

structure RateCounter where
  count : ℤ
  /-- In nanoseconds; `none` until the key got a time to live. -/
  expiresAt : Option ℕ
  deriving DecidableEq, Repr

abbrev Counters := String → Option RateCounter

namespace Counters

def get (key : String) (now : ℕ) (r : Counters) : Option RateCounter :=
  (r key).filter fun c => c.expiresAt.all (now < ·)

def countAt (key : String) (now : ℕ) (r : Counters) : ℤ := ((r.get key now).map (·.count)).getD 0

/-- The answer of `INCR`. -/
def nextCount (key : String) (now : ℕ) (r : Counters) : ℤ := r.countAt key now + 1

def incr (key : String) (now : ℕ) (r : Counters) : Counters :=
  Function.update r key
    (some { count := r.nextCount key now, expiresAt := (r.get key now).bind (·.expiresAt) })

def expire (key : String) (ttl now : ℕ) (r : Counters) : Counters :=
  match r.get key now with
  | some c => Function.update r key (some { c with expiresAt := some (now + ttl) })
  | none => r

end Counters

/-! ## One request -/

def second : ℕ := 1000000000
def minute : ℕ := 60 * second
def hour : ℕ := 3600 * second

/-- `time.Now().Unix()`. -/
def unix (now : ℕ) : ℤ := (now / second : ℕ)

/-- The counters after a request, and whether it is handed on. -/
def rateLimit (tenantID plan : String) (now : ℕ) (r : Counters) : Counters × Bool :=
  let limits := limitsFor plan
  let key := minuteKey tenantID (unix now)
  let count := r.nextCount key now
  let r := r.incr key now
  let r := if count = 1 then r.expire key (2 * minute) now else r
  if limits.requestsPerMinute < count then (r, false)
  else
    let hourKey := hourKey tenantID (unix now)
    let hourCount := r.nextCount hourKey now
    let r := (r.incr hourKey now).expire hourKey (2 * hour) now
    if limits.requestsPerHour < hourCount then (r, false)
    else
      let burstKey := burstKey tenantID (unix now)
      let burstCount := r.nextCount burstKey now
      let r := (r.incr burstKey now).expire burstKey (2 * second) now
      if limits.burstSize < burstCount then (r, false) else (r, true)

/-- A tenant's requests so far: the counters, and the times of those handed on. -/
structure RateState where
  counters : Counters
  admitted : List ℕ

def RateState.start : RateState := { counters := fun _ => none, admitted := [] }

def RateState.step (tenantID plan : String) (s : RateState) (now : ℕ) : RateState :=
  let (counters, passes) := rateLimit tenantID plan now s.counters
  { counters := counters
    admitted := if passes then s.admitted ++ [now] else s.admitted }

/-- When the requests at `times` are handed on. -/
def admittedTimes (tenantID plan : String) (times : List ℕ) : List ℕ :=
  (run (RateState.step tenantID plan) RateState.start times).admitted

/-! ## What the limits leave of a list of times -/

def withinMinutes (plan : String) (times : List ℕ) : List ℕ :=
  quota (· / minute) (limitsFor plan).requestsPerMinute.toNat times

def withinHours (plan : String) (times : List ℕ) : List ℕ :=
  quota (· / hour) (limitsFor plan).requestsPerHour.toNat (withinMinutes plan times)

def withinQuotas (plan : String) (times : List ℕ) : List ℕ :=
  quota (· / second) (limitsFor plan).burstSize.toNat (withinHours plan times)

/-! ## Keys -/

def numberedKey (tenantID kind : String) (n : ℕ) : String :=
  "ratelimit:" ++ tenantID ++ kind ++ toString (n : ℤ)

theorem toList_toString (n : ℕ) : (toString (n : ℤ)).toList = Nat.toDigits 10 n := Nat.toList_repr

theorem numberedKey_toList (tenantID kind : String) (n : ℕ) :
    (numberedKey tenantID kind n).toList =
      ("ratelimit:" ++ tenantID).toList ++ (kind.toList ++ Nat.toDigits 10 n) := by
  unfold numberedKey
  rw [String.toList_append, toList_toString, @String.toList_append _ kind, List.append_assoc]

theorem unix_div (t k : ℕ) : unix t / k = (t / (k * second) : ℕ) := by
  rw [Nat.mul_comm, ← Nat.div_div_eq_div_mul, unix]
  exact (Int.natCast_ediv _ _).symm

theorem minuteKey_unix (tenantID : String) (t : ℕ) :
    minuteKey tenantID (unix t) = numberedKey tenantID ":" (t / minute) := by
  have hdiv : unix t / 60 = (t / minute : ℕ) := unix_div t 60
  unfold minuteKey numberedKey
  rw [hdiv]
  rfl

theorem hourKey_unix (tenantID : String) (t : ℕ) :
    hourKey tenantID (unix t) = numberedKey tenantID ":hour:" (t / hour) := by
  have hdiv : unix t / 3600 = (t / hour : ℕ) := unix_div t 3600
  unfold hourKey numberedKey
  rw [hdiv]
  rfl

theorem burstKey_unix (tenantID : String) (t : ℕ) :
    burstKey tenantID (unix t) = numberedKey tenantID ":burst:" (t / second) := by
  unfold burstKey unix numberedKey
  rfl

theorem numberedKey_inj {tenantID kind : String} {m n : ℕ}
    (h : numberedKey tenantID kind m = numberedKey tenantID kind n) : m = n := by
  rw [← String.toList_inj, numberedKey_toList, numberedKey_toList, List.append_cancel_left_eq,
    List.append_cancel_left_eq] at h
  rw [← Nat.ofDigitChars_ten_toDigits (n := m), h, Nat.ofDigitChars_ten_toDigits]

theorem toDigits_ne {c : Char} (hc : c.isDigit = false) (n : ℕ) (cs : List Char) :
    Nat.toDigits 10 n ≠ c :: cs := by
  intro h
  have hmem : c ∈ Nat.toDigits 10 n := by rw [h]; exact List.mem_cons_self
  have hdigit := Nat.isDigit_of_mem_toDigits (by omega) (by omega) hmem
  rw [hc] at hdigit
  cases hdigit

/-- The three kinds of keys do not meet. -/
theorem minuteKey_ne_hourKey (tenantID : String) (m n : ℕ) :
    numberedKey tenantID ":" m ≠ numberedKey tenantID ":hour:" n := by
  rw [Ne, ← String.toList_inj, numberedKey_toList, numberedKey_toList, List.append_cancel_left_eq]
  intro h
  exact toDigits_ne rfl _ _ (List.cons.inj h).2

theorem minuteKey_ne_burstKey (tenantID : String) (m n : ℕ) :
    numberedKey tenantID ":" m ≠ numberedKey tenantID ":burst:" n := by
  rw [Ne, ← String.toList_inj, numberedKey_toList, numberedKey_toList, List.append_cancel_left_eq]
  intro h
  exact toDigits_ne rfl _ _ (List.cons.inj h).2

theorem hourKey_ne_burstKey (tenantID : String) (m n : ℕ) :
    numberedKey tenantID ":hour:" m ≠ numberedKey tenantID ":burst:" n := by
  rw [Ne, ← String.toList_inj, numberedKey_toList, numberedKey_toList, List.append_cancel_left_eq]
  intro h
  have hhead : 'h' = 'b' := (List.cons.inj (List.cons.inj h).2).1
  revert hhead
  decide

/-! ## Counters -/

namespace Counters

/-- `INCR` and then `EXPIRE`. -/
def hit (key : String) (ttl now : ℕ) (r : Counters) : Counters :=
  (r.incr key now).expire key ttl now

theorem countAt_of_eq {r r' : Counters} {key : String} (h : r' key = r key) (t : ℕ) :
    r'.countAt key t = r.countAt key t := by
  unfold countAt get
  rw [h]

theorem countAt_of_some {r : Counters} {key : String} {c : RateCounter} (h : r key = some c) {t : ℕ}
    (hlive : c.expiresAt.all (t < ·) = true) : r.countAt key t = c.count := by
  unfold countAt get
  rw [h, Option.filter_some, if_pos hlive]
  rfl

theorem exists_of_countAt_ne {r : Counters} {key : String} {t : ℕ} (h : r.countAt key t ≠ 0) :
    ∃ c, r key = some c ∧ c.expiresAt.all (t < ·) = true := by
  cases hget : r.get key t with
  | none => exact absurd (by rw [countAt, hget]; rfl) h
  | some c => exact ⟨c, Option.filter_eq_some_iff.mp hget⟩

theorem lives_earlier {c : RateCounter} {s t : ℕ} (h : c.expiresAt.all (t < ·) = true)
    (hle : s ≤ t) : c.expiresAt.all (s < ·) = true := by
  cases hend : c.expiresAt with
  | none => rfl
  | some endsAt =>
    rw [hend] at h
    simp only [Option.all_some, decide_eq_true_eq] at h ⊢
    omega

theorem incr_self (key : String) (now : ℕ) (r : Counters) :
    r.incr key now key =
      some { count := r.nextCount key now, expiresAt := (r.get key now).bind (·.expiresAt) } :=
  Function.update_self ..

theorem incr_of_ne {key key' : String} (h : key' ≠ key) (now : ℕ) (r : Counters) :
    r.incr key now key' = r key' :=
  Function.update_of_ne h ..

theorem expire_of_ne {key key' : String} (h : key' ≠ key) (ttl now : ℕ) (r : Counters) :
    r.expire key ttl now key' = r key' := by
  unfold expire
  cases r.get key now with
  | none => rfl
  | some c => exact Function.update_of_ne h ..

theorem hit_of_ne {key key' : String} (h : key' ≠ key) (ttl now : ℕ) (r : Counters) :
    r.hit key ttl now key' = r key' := by
  rw [hit, expire_of_ne h, incr_of_ne h]

/-- A key that has just been counted is there. -/
theorem get_incr (key : String) (now : ℕ) (r : Counters) :
    (r.incr key now).get key now =
      some { count := r.nextCount key now, expiresAt := (r.get key now).bind (·.expiresAt) } := by
  have hlive : ((r.get key now).bind (·.expiresAt)).all (now < ·) = true := by
    cases hget : r.get key now with
    | none => rfl
    | some c => exact (Option.filter_eq_some_iff.mp hget).2
  show (r.incr key now key).filter _ = _
  rw [incr_self]
  exact Option.filter_some.trans (if_pos hlive)

theorem hit_self (key : String) (ttl now : ℕ) (r : Counters) :
    r.hit key ttl now key =
      some { count := r.nextCount key now, expiresAt := some (now + ttl) } := by
  unfold hit expire
  rw [get_incr]
  exact Function.update_self ..

end Counters

open Counters

/-- From `now` on, the counter of the bucket of width `w` is what `times` has in it. -/
def Tracks (tenantID kind : String) (w : ℕ) (times : List ℕ) (now : ℕ) (r : Counters) : Prop :=
  ∀ t, now ≤ t → r.countAt (numberedKey tenantID kind (t / w)) t = countLike (· / w) t times

variable {tenantID kind plan : String} {w now now' : ℕ} {times : List ℕ} {r r' : Counters}

theorem Tracks.later (h : Tracks tenantID kind w times now r) (hle : now ≤ now') :
    Tracks tenantID kind w times now' r :=
  fun t ht => h t (Nat.le_trans hle ht)

theorem Tracks.of_same (h : Tracks tenantID kind w times now r)
    (hsame : ∀ n, r' (numberedKey tenantID kind n) = r (numberedKey tenantID kind n)) :
    Tracks tenantID kind w times now r' := by
  intro t ht
  rw [countAt_of_eq (hsame _)]
  exact h t ht

/-- A request at `now` is counted, with a key that lives to the end of its bucket. -/
theorem Tracks.counted (h : Tracks tenantID kind w times now r)
    (hother : ∀ n, n ≠ now / w →
      r' (numberedKey tenantID kind n) = r (numberedKey tenantID kind n))
    (hself : ∀ t, now ≤ t → t / w = now / w →
      r'.countAt (numberedKey tenantID kind (now / w)) t =
        r.nextCount (numberedKey tenantID kind (now / w)) now) :
    Tracks tenantID kind w (times ++ [now]) now r' := by
  intro t ht
  rw [countLike_concat]
  by_cases hsame : now / w = t / w
  · have hself' := hself t ht hsame.symm
    have hbefore := h now (Nat.le_refl now)
    rw [if_pos hsame, ← hsame, hself', nextCount, hbefore]
    rw [countLike_congr hsame]
    rfl
  · rw [if_neg hsame, countAt_of_eq (hother _ fun heq => hsame heq.symm)]
    exact h t ht

theorem lt_add_of_same_bucket (hw : 0 < w) {t ttl : ℕ} (hsame : t / w = now / w) (httl : w ≤ ttl) :
    t < now + ttl := by
  have ht := Nat.lt_mul_div_succ t hw
  have hnow := Nat.mul_div_le now w
  rw [hsame, Nat.mul_add] at ht
  omega

theorem Tracks.hit (hw : 0 < w) {ttl : ℕ} (httl : w ≤ ttl)
    (h : Tracks tenantID kind w times now r) :
    Tracks tenantID kind w (times ++ [now]) now
      (r.hit (numberedKey tenantID kind (now / w)) ttl now) := by
  refine h.counted (fun n hn => hit_of_ne (fun heq => hn (numberedKey_inj heq)) ttl now r) ?_
  intro t _ hsame
  refine countAt_of_some (hit_self _ ttl now r) ?_
  simpa using lt_add_of_same_bucket hw hsame httl

/-- The first hit of a bucket sets the time to live, the later ones keep it. -/
theorem Tracks.hitFirst (hw : 0 < w) {ttl : ℕ} (httl : w ≤ ttl)
    (h : Tracks tenantID kind w times now r) :
    Tracks tenantID kind w (times ++ [now]) now
      (if r.nextCount (numberedKey tenantID kind (now / w)) now = 1 then
        r.hit (numberedKey tenantID kind (now / w)) ttl now
      else r.incr (numberedKey tenantID kind (now / w)) now) := by
  split
  next => exact h.hit hw httl
  next hlater =>
    refine h.counted (fun n hn => incr_of_ne (fun heq => hn (numberedKey_inj heq)) now r) ?_
    intro t ht hsame
    refine countAt_of_some (incr_self _ now r) ?_
    -- the count is not 0, so the key is there, and at `t` still
    have hbefore := h now (Nat.le_refl now)
    have hcount := h t ht
    rw [hsame, countLike_congr hsame] at hcount
    have hne : r.countAt (numberedKey tenantID kind (now / w)) t ≠ 0 := by
      rw [nextCount] at hlater
      omega
    obtain ⟨c, hc, hlive⟩ := exists_of_countAt_ne hne
    have hget : r.get (numberedKey tenantID kind (now / w)) now = some c :=
      Option.filter_eq_some_iff.mpr ⟨hc, lives_earlier hlive ht⟩
    rw [hget]
    exact hlive

/-! ## One request, counted -/

structure Tracked (tenantID plan : String) (times : List ℕ) (now : ℕ) (r : Counters) : Prop where
  minutes : Tracks tenantID ":" minute times now r
  hours : Tracks tenantID ":hour:" hour (withinMinutes plan times) now r
  seconds : Tracks tenantID ":burst:" second (withinHours plan times) now r

theorem Tracked.later (h : Tracked tenantID plan times now r) (hle : now ≤ now') :
    Tracked tenantID plan times now' r :=
  ⟨h.minutes.later hle, h.hours.later hle, h.seconds.later hle⟩

/-- The counters after a request that only its minute has counted. -/
def countMinute (tenantID : String) (now : ℕ) (r : Counters) : Counters :=
  if r.nextCount (numberedKey tenantID ":" (now / minute)) now = 1 then
    r.hit (numberedKey tenantID ":" (now / minute)) (2 * minute) now
  else r.incr (numberedKey tenantID ":" (now / minute)) now

def countHour (tenantID : String) (now : ℕ) (r : Counters) : Counters :=
  r.hit (numberedKey tenantID ":hour:" (now / hour)) (2 * hour) now

def countSecond (tenantID : String) (now : ℕ) (r : Counters) : Counters :=
  r.hit (numberedKey tenantID ":burst:" (now / second)) (2 * second) now

theorem countMinute_of_ne {key : String} (h : key ≠ numberedKey tenantID ":" (now / minute)) :
    countMinute tenantID now r key = r key := by
  unfold countMinute
  split
  · exact hit_of_ne h ..
  · exact incr_of_ne h ..

theorem rateLimit_eq (tenantID plan : String) (now : ℕ) (r : Counters) :
    rateLimit tenantID plan now r =
      if (limitsFor plan).requestsPerMinute <
          r.nextCount (numberedKey tenantID ":" (now / minute)) now then
        (countMinute tenantID now r, false)
      else if (limitsFor plan).requestsPerHour <
          (countMinute tenantID now r).nextCount
            (numberedKey tenantID ":hour:" (now / hour)) now then
        (countHour tenantID now (countMinute tenantID now r), false)
      else if (limitsFor plan).burstSize <
          (countHour tenantID now (countMinute tenantID now r)).nextCount
            (numberedKey tenantID ":burst:" (now / second)) now then
        (countSecond tenantID now (countHour tenantID now (countMinute tenantID now r)), false)
      else
        (countSecond tenantID now (countHour tenantID now (countMinute tenantID now r)), true) := by
  unfold rateLimit
  simp only [minuteKey_unix, hourKey_unix, burstKey_unix]
  rfl

theorem nextCount_of_eq {key : String} (h : r' key = r key) (now : ℕ) :
    r'.nextCount key now = r.nextCount key now := by
  rw [nextCount, nextCount, countAt_of_eq h]

/-- `rateLimit` hands on what `rateLimitMiddleware` hands on, Redis answering from `r`. -/
theorem rateLimitMiddleware_rateLimit {env : Env} (c : Context) (hclock : env.now = unix now)
    (hincr : ∀ key, env.incr key = some (r.nextCount key now)) :
    (∃ c', rateLimitMiddleware env c = .ok c') ↔
      (rateLimit (c.request.header.get "X-Tenant-ID") c.tenantPlan now r).2 = true := by
  generalize htenant : c.request.header.get "X-Tenant-ID" = tenantID
  have hhour : (countMinute tenantID now r).nextCount
      (numberedKey tenantID ":hour:" (now / hour)) now =
        r.nextCount (numberedKey tenantID ":hour:" (now / hour)) now :=
    nextCount_of_eq (countMinute_of_ne (minuteKey_ne_hourKey tenantID _ _).symm) now
  have hburst : (countHour tenantID now (countMinute tenantID now r)).nextCount
      (numberedKey tenantID ":burst:" (now / second)) now =
        r.nextCount (numberedKey tenantID ":burst:" (now / second)) now :=
    nextCount_of_eq ((hit_of_ne (hourKey_ne_burstKey tenantID _ _).symm ..).trans
      (countMinute_of_ne (minuteKey_ne_burstKey tenantID _ _).symm)) now
  rw [rateLimitMiddleware_ok_iff, htenant, rateLimit_eq, hhour, hburst]
  unfold overLimit
  simp only [hincr, hclock, minuteKey_unix, hourKey_unix, burstKey_unix, exceeds_some,
    Option.isSome_some, Bool.true_and]
  split_ifs with hminute hhour hburst
  · simp [hminute]
  · simp [hhour]
  · simp [hburst]
  · simp [hminute, hhour, hburst]

theorem Tracked.countMinute (h : Tracked tenantID plan times now r) :
    Tracks tenantID ":" minute (times ++ [now]) now (countMinute tenantID now r) ∧
      Tracks tenantID ":hour:" hour (withinMinutes plan times) now (countMinute tenantID now r) ∧
      Tracks tenantID ":burst:" second (withinHours plan times) now
        (countMinute tenantID now r) := by
  refine ⟨h.minutes.hitFirst (by decide) (by decide), h.hours.of_same fun n => ?_,
    h.seconds.of_same fun n => ?_⟩
  · exact countMinute_of_ne (minuteKey_ne_hourKey tenantID _ n).symm
  · exact countMinute_of_ne (minuteKey_ne_burstKey tenantID _ n).symm

theorem Tracks.exceeds_iff (h : Tracks tenantID kind w times now r) (limit : ℤ) :
    limit < r.nextCount (numberedKey tenantID kind (now / w)) now ↔
      ¬ countLike (· / w) now times < limit.toNat := by
  rw [nextCount, h now (Nat.le_refl now)]
  omega

/-- A request is counted, and handed on exactly within the quotas. -/
theorem Tracked.step (h : Tracked tenantID plan times now r) :
    Tracked tenantID plan (times ++ [now]) now (rateLimit tenantID plan now r).1 ∧
      withinQuotas plan (times ++ [now]) =
        if (rateLimit tenantID plan now r).2 then withinQuotas plan times ++ [now]
        else withinQuotas plan times := by
  have hlongHour : hour ≤ 2 * hour := by decide
  have hlongSecond : second ≤ 2 * second := by decide
  obtain ⟨hminutes, hhours, hseconds⟩ := h.countMinute
  have hburst : Tracks tenantID ":burst:" second (withinHours plan times) now
      (countHour tenantID now (Gateway.countMinute tenantID now r)) :=
    hseconds.of_same fun n => hit_of_ne (hourKey_ne_burstKey tenantID _ n).symm ..
  rw [rateLimit_eq]
  simp only [h.minutes.exceeds_iff, hhours.exceeds_iff, hburst.exceeds_iff]
  by_cases hm : countLike (· / minute) now times < (limitsFor plan).requestsPerMinute.toNat
  · have hwm : withinMinutes plan (times ++ [now]) = withinMinutes plan times ++ [now] :=
      quota_of_lt hm
    have hminutes' : Tracks tenantID ":" minute (times ++ [now]) now
        (countHour tenantID now (Gateway.countMinute tenantID now r)) :=
      hminutes.of_same fun n => hit_of_ne (minuteKey_ne_hourKey tenantID n _) ..
    have hhours' : Tracks tenantID ":hour:" hour (withinMinutes plan (times ++ [now])) now
        (countHour tenantID now (Gateway.countMinute tenantID now r)) := by
      rw [hwm]
      exact hhours.hit (by decide) hlongHour
    by_cases hh : countLike (· / hour) now (withinMinutes plan times) <
        (limitsFor plan).requestsPerHour.toNat
    · have hwh : withinHours plan (times ++ [now]) = withinHours plan times ++ [now] := by
        rw [withinHours, hwm]
        exact quota_of_lt hh
      have hdone : Tracked tenantID plan (times ++ [now]) now
          (countSecond tenantID now (countHour tenantID now
            (Gateway.countMinute tenantID now r))) := by
        refine ⟨hminutes'.of_same fun n => ?_, hhours'.of_same fun n => ?_, ?_⟩
        · exact hit_of_ne (minuteKey_ne_burstKey tenantID n _) ..
        · exact hit_of_ne (hourKey_ne_burstKey tenantID n _) ..
        · rw [hwh]
          exact hburst.hit (by decide) hlongSecond
      by_cases hs : countLike (· / second) now (withinHours plan times) <
          (limitsFor plan).burstSize.toNat
      · simp only [hm, hh, hs, not_true_eq_false, if_false, if_true]
        refine ⟨hdone, ?_⟩
        rw [withinQuotas, hwh]
        exact quota_of_lt hs
      · simp only [hm, hh, hs, not_true_eq_false, not_false_eq_true, if_false, if_true,
          Bool.false_eq_true]
        refine ⟨hdone, ?_⟩
        rw [withinQuotas, hwh]
        exact quota_of_not_lt hs
    · have hwh : withinHours plan (times ++ [now]) = withinHours plan times := by
        rw [withinHours, hwm]
        exact quota_of_not_lt hh
      simp only [hm, hh, not_true_eq_false, not_false_eq_true, if_false, if_true,
        Bool.false_eq_true]
      refine ⟨⟨hminutes', hhours', hwh ▸ hburst⟩, ?_⟩
      rw [withinQuotas, hwh, withinQuotas]
  · have hwm : withinMinutes plan (times ++ [now]) = withinMinutes plan times :=
      quota_of_not_lt hm
    have hwh : withinHours plan (times ++ [now]) = withinHours plan times := by
      rw [withinHours, hwm, withinHours]
    simp only [hm, not_false_eq_true, if_true, Bool.false_eq_true, if_false]
    refine ⟨⟨hminutes, hwm ▸ hhours, hwh ▸ hseconds⟩, ?_⟩
    rw [withinQuotas, hwh, withinQuotas]

/-! ## Runs -/

theorem run_concat (tenantID plan : String) (times : List ℕ) (now : ℕ) :
    run (RateState.step tenantID plan) RateState.start (times ++ [now]) =
      (run (RateState.step tenantID plan) RateState.start times).step tenantID plan now := by
  rw [run_append]
  rfl

theorem tracked_start : Tracked tenantID plan [] 0 RateState.start.counters :=
  ⟨fun _ _ => rfl, fun _ _ => rfl, fun _ _ => rfl⟩

theorem run_tracked (hsorted : times.Pairwise (· ≤ ·)) :
    Tracked tenantID plan times (times.getLast?.getD 0)
        (run (RateState.step tenantID plan) RateState.start times).counters ∧
      admittedTimes tenantID plan times = withinQuotas plan times := by
  induction times using List.reverseRecOn with
  | nil => exact ⟨tracked_start, rfl⟩
  | append_singleton times now ih =>
    obtain ⟨hbefore, -, hlast⟩ := List.pairwise_append.mp hsorted
    obtain ⟨htracked, hadmitted⟩ := ih hbefore
    have hle : times.getLast?.getD 0 ≤ now := by
      cases hl : times.getLast? with
      | none => exact Nat.zero_le now
      | some last => exact hlast last (List.mem_of_getLast? hl) now List.mem_cons_self
    obtain ⟨hnext, hquota⟩ := (htracked.later hle).step
    unfold admittedTimes at hadmitted ⊢
    rw [run_concat, List.getLast?_concat, hquota, ← hadmitted]
    exact ⟨hnext, rfl⟩

theorem admitted_eq (tenantID plan : String) (hsorted : times.Pairwise (· ≤ ·)) :
    admittedTimes tenantID plan times = withinQuotas plan times :=
  (run_tracked hsorted).2

/-! ## Sliding windows -/

theorem limitsFor_nonneg (plan : String) :
    0 ≤ (limitsFor plan).requestsPerMinute ∧ 0 ≤ (limitsFor plan).requestsPerHour ∧
      0 ≤ (limitsFor plan).burstSize := by
  have hplan (plan : String) : 0 ≤ (planLimits plan).requestsPerMinute ∧
      0 ≤ (planLimits plan).requestsPerHour ∧ 0 ≤ (planLimits plan).burstSize := by
    unfold planLimits
    split <;> decide
  unfold limitsFor
  dsimp only
  split
  · exact hplan "free"
  · exact hplan plan

theorem withinQuotas_sublist (plan : String) (times : List ℕ) :
    (withinQuotas plan times).Sublist (withinHours plan times) := quota_sublist ..

theorem withinHours_sublist (plan : String) (times : List ℕ) :
    (withinHours plan times).Sublist (withinMinutes plan times) := quota_sublist ..

theorem withinQuotas_sorted (hsorted : times.Pairwise (· ≤ ·)) :
    (withinQuotas plan times).Pairwise (· ≤ ·) :=
  hsorted.sublist ((withinQuotas_sublist plan times).trans
    ((withinHours_sublist plan times).trans (quota_sublist ..)))

theorem withinQuotas_perMinute (plan : String) (times : List ℕ) :
    AlignedLimit minute (limitsFor plan).requestsPerMinute.toNat (withinQuotas plan times) :=
  fun b => Nat.le_trans ((withinQuotas_sublist plan times).trans
    (withinHours_sublist plan times)).countP_le (countP_quota_le b times)

theorem withinQuotas_perHour (plan : String) (times : List ℕ) :
    AlignedLimit hour (limitsFor plan).requestsPerHour.toNat (withinQuotas plan times) :=
  fun b => Nat.le_trans (withinQuotas_sublist plan times).countP_le
    (countP_quota_le b (withinMinutes plan times))

theorem slidingLimit_toNat {ts : List ℕ} {limit : ℤ} (hlimit : 0 ≤ limit) :
    SlidingLimit w limit.toNat ts ↔ ∀ x, (ts.countP (inWindow w x) : ℤ) ≤ limit :=
  forall_congr' fun x => by omega

/-- The limits hold in every window exactly when the requests within the quotas are spread out over
    the ends of clock minutes and clock hours. -/
theorem slidingWindow_iff (tenantID plan : String) (hsorted : times.Pairwise (· ≤ ·)) :
    ((∀ x, ((admittedTimes tenantID plan times).countP (inWindow minute x) : ℤ) ≤
          (limitsFor plan).requestsPerMinute) ∧
      ∀ x, ((admittedTimes tenantID plan times).countP (inWindow hour x) : ℤ) ≤
        (limitsFor plan).requestsPerHour) ↔
      SpreadOut minute (limitsFor plan).requestsPerMinute.toNat (withinQuotas plan times) ∧
        SpreadOut hour (limitsFor plan).requestsPerHour.toNat (withinQuotas plan times) := by
  obtain ⟨hrpm, hrph, -⟩ := limitsFor_nonneg plan
  rw [admitted_eq tenantID plan hsorted, ← slidingLimit_toNat hrpm, ← slidingLimit_toNat hrph,
    slidingLimit_iff (by decide) (withinQuotas_sorted hsorted) (withinQuotas_perMinute plan times),
    slidingLimit_iff (by decide) (withinQuotas_sorted hsorted) (withinQuotas_perHour plan times)]

/-- Nobody gets more than twice the limits. -/
theorem admitted_le_twice (tenantID plan : String) (hsorted : times.Pairwise (· ≤ ·)) (x : ℕ) :
    ((admittedTimes tenantID plan times).countP (inWindow minute x) : ℤ) ≤
        2 * (limitsFor plan).requestsPerMinute ∧
      ((admittedTimes tenantID plan times).countP (inWindow hour x) : ℤ) ≤
        2 * (limitsFor plan).requestsPerHour := by
  obtain ⟨hrpm, hrph, -⟩ := limitsFor_nonneg plan
  have hmin := countP_window_le (by decide) (withinQuotas_perMinute plan times) x
  have hhour := countP_window_le (by decide) (withinQuotas_perHour plan times) x
  rw [admitted_eq tenantID plan hsorted]
  exact ⟨by omega, by omega⟩

namespace Sample

/-- Ten requests in each of these seconds. -/
def tenIn (seconds : List ℕ) : List ℕ := seconds.flatMap fun s => List.replicate 10 (s * second)

end Sample

theorem slidingWindow_iff_sample :
    ((∀ x, ((admittedTimes "t1" "free" (Sample.tenIn [0, 61])).countP (inWindow minute x) : ℤ) ≤
          (limitsFor "free").requestsPerMinute) ∧
      ∀ x, ((admittedTimes "t1" "free" (Sample.tenIn [0, 61])).countP (inWindow hour x) : ℤ) ≤
        (limitsFor "free").requestsPerHour) ↔
      SpreadOut minute (limitsFor "free").requestsPerMinute.toNat
          (withinQuotas "free" (Sample.tenIn [0, 61])) ∧
        SpreadOut hour (limitsFor "free").requestsPerHour.toNat
          (withinQuotas "free" (Sample.tenIn [0, 61])) :=
  slidingWindow_iff "t1" "free" (by decide)

/-- The last three seconds of one clock minute and the first three of the next. -/
theorem sixty_in_a_minute :
    (Sample.tenIn [57, 58, 59, 60, 61, 62]).Pairwise (· ≤ ·) ∧
    (limitsFor "free").requestsPerMinute = 30 ∧
    (admittedTimes "t1" "free" (Sample.tenIn [57, 58, 59, 60, 61, 62])).countP
      (inWindow minute (57 * second)) = 60 := by
  have hsorted : (Sample.tenIn [57, 58, 59, 60, 61, 62]).Pairwise (· ≤ ·) := by decide +kernel
  rw [admitted_eq "t1" "free" hsorted]
  exact ⟨hsorted, by decide, by decide +kernel⟩

end SaasChassis.Gateway
