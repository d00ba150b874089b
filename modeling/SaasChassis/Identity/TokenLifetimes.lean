/-
  How long do tokens live, and how long do the clients think they do?

  An expiry string is read twice. jsonwebtoken has `ms` read it (`Duration`) and rounds down to
  seconds; `parseDurationToSeconds` knows digits with one of the letters s, m, h and d right behind
  (`Plain`) and takes 900 seconds for everything else. `parse_eq_floor_iff` compares the two on
  every string that `ms` accepts, `lifetimesAgree_iff` what login, refresh and switchTenant make of
  them. Numbers are exact, JavaScript's are up to 2^53.
-/
import Mathlib.Algebra.Order.Floor.Ring
import Mathlib.Data.Rat.Floor
import Mathlib.Tactic.FieldSimp
import Mathlib.Tactic.Linarith
import SaasChassis.Identity.RefreshTokens
import SaasChassis.Lib.Durations

namespace SaasChassis.Identity

open SaasChassis.Lib AuthService

/-! ## Statement -/

/-- The library's `exp - iat` for an expiry string: `exp` is `Math.floor(iat + ms / 1000)`. -/
def Reads (svc : Service) (d : Duration) : Prop :=
  svc.lifetime d.text = ⌊d.milliseconds / 1000⌋

structure LifetimesAgree (svc : Service) : Prop where
  login : ∀ env user ip device db res, (AuthService.login svc env user ip device db).2 = .ok res →
    res.expiresIn = res.accessToken.exp - res.accessToken.iat
  refresh : ∀ env value db res, refreshAccessToken svc env value db = .ok res →
    res.expiresIn = res.accessToken.exp - res.accessToken.iat
  switchTenant : ∀ env u t db res, AuthService.switchTenant svc env u t db = .ok res →
    res.expiresIn = res.accessToken.exp - res.accessToken.iat
  /-- The row of the refresh token ends when the library would have it end. -/
  expiresAt : ∀ env user ip device db res,
    (AuthService.login svc env user ip device db).2 = .ok res →
    ∃ rt, (AuthService.login svc env user ip device db).1.refreshTokens = db.refreshTokens ++ [rt] ∧
      rt.tokenHash = svc.sha256 res.refreshToken ∧
      rt.expiresAt = env.now + 1000 * svc.lifetime svc.refreshExpiry

/-- Digits with one of the four letters right behind. -/
def Plain (d : Duration) : Prop :=
  d.negative = false ∧ d.fraction = none ∧ d.blanks = 0 ∧
    ∃ u, ∃ c ∈ ['s', 'm', 'h', 'd'], d.unit = some (u, String.singleton c)

/-- Plain durations, and those of 900 seconds and a fraction of one. -/
def ReadAlike (d : Duration) : Prop :=
  Plain d ∨ 900000 ≤ d.milliseconds ∧ d.milliseconds < 901000

/-! ## Two readers of one string -/

/-- What the letters of the service stand for. -/
def secondsIn : Char → Option ℤ
  | 's' => some 1
  | 'm' => some 60
  | 'h' => some 3600
  | 'd' => some 86400
  | _ => none

theorem secondsIn_cases {c : Char} {k : ℤ} (h : secondsIn c = some k) :
    (c = 's' ∧ k = 1) ∨ (c = 'm' ∧ k = 60) ∨ (c = 'h' ∧ k = 3600) ∨ (c = 'd' ∧ k = 86400) := by
  unfold secondsIn at h
  split at h
  · exact Or.inl ⟨rfl, (Option.some.inj h).symm⟩
  · exact Or.inr (Or.inl ⟨rfl, (Option.some.inj h).symm⟩)
  · exact Or.inr (Or.inr (Or.inl ⟨rfl, (Option.some.inj h).symm⟩))
  · exact Or.inr (Or.inr (Or.inr ⟨rfl, (Option.some.inj h).symm⟩))
  · cases h

theorem foldl_digits (ds : List Char) (hds : ∀ c ∈ ds, c.isDigit = true) :
    ds.foldl (fun n c => 10 * n + (c.toNat - 48 : ℤ)) 0 = digitsVal ds := by
  induction ds using List.reverseRecOn with
  | nil => rfl
  | append_singleton ds c ih =>
    have hbounds := digit_bounds (hds c (by simp))
    rw [List.foldl_append, ih fun x hx => hds x (List.mem_append_left _ hx), digitsVal_append_one]
    simp only [List.foldl_cons, List.foldl_nil]
    omega

/-- The regular expression matches. -/
theorem parse_of_match {s : String} {ds : List Char} {c : Char} {k : ℤ} (hs : s.toList = ds ++ [c])
    (hne : ds ≠ []) (hds : ∀ x ∈ ds, x.isDigit = true) (hc : secondsIn c = some k) :
    parseDurationToSeconds s = digitsVal ds * k := by
  have hall : ds.reverse ≠ [] ∧ ds.reverse.all Char.isDigit = true := by
    simp [hne, List.all_eq_true.mpr hds]
  unfold parseDurationToSeconds
  rw [hs, List.reverse_append, List.reverse_singleton, List.singleton_append]
  dsimp only
  rw [if_pos hall, List.reverse_reverse, foldl_digits ds hds]
  obtain ⟨rfl, rfl⟩ | ⟨rfl, rfl⟩ | ⟨rfl, rfl⟩ | ⟨rfl, rfl⟩ := secondsIn_cases hc
  · exact (mul_one _).symm
  · rfl
  · rfl
  · rfl

/-- It does not. -/
theorem parse_of_no_match {s : String}
    (h : ∀ ds c, s.toList = ds ++ [c] → ds ≠ [] → (∀ x ∈ ds, x.isDigit = true) →
      secondsIn c = none) : parseDurationToSeconds s = 900 := by
  unfold parseDurationToSeconds
  dsimp only
  split
  next c digits hs =>
    split
    next hdigits =>
      have hs' : s.toList = digits.reverse ++ [c] := by
        rw [← List.reverse_reverse s.toList, hs, List.reverse_cons]
      have hnone := h digits.reverse c hs' (by simpa using hdigits.1) (by simpa using hdigits.2)
      split
      · cases hnone
      · cases hnone
      · cases hnone
      · cases hnone
      · rfl
    next => rfl
  next => rfl

theorem secondsIn_ne_none {c : Char} : secondsIn c ≠ none ↔ c ∈ ['s', 'm', 'h', 'd'] := by
  unfold secondsIn
  split
  · decide
  · decide
  · decide
  · decide
  next hs hm hh hd =>
    have hother : ¬ c = 's' ∧ ¬ c = 'm' ∧ ¬ c = 'h' ∧ ¬ c = 'd' := ⟨hs, hm, hh, hd⟩
    simpa using hother

/-- The service and the library mean the same by a letter. -/
theorem milliseconds_of_letter {u : TimeUnit} {c : Char} {k : ℤ} (hk : secondsIn c = some k)
    (hname : ∃ name ∈ u.names, [c].map Char.toLower = name.toList) :
    (u.milliseconds : ℤ) = 1000 * k := by
  revert hname
  obtain ⟨rfl, rfl⟩ | ⟨rfl, rfl⟩ | ⟨rfl, rfl⟩ | ⟨rfl, rfl⟩ := secondsIn_cases hk
  · cases u <;> decide
  · cases u <;> decide
  · cases u <;> decide
  · cases u <;> decide

theorem Plain.reading {d : Duration} (h : Plain d) : ∃ c k, d.text.toList = d.whole ++ [c] ∧
    secondsIn c = some k ∧ d.milliseconds = ((digitsVal d.whole * k : ℤ) : ℚ) * 1000 := by
  obtain ⟨hnegative, hfraction, hblanks, u, c, hletter, hunit⟩ := h
  obtain ⟨k, hk⟩ := Option.ne_none_iff_exists'.mp (secondsIn_ne_none.mpr hletter)
  refine ⟨c, k, ?_, hk, ?_⟩
  · simp [Duration.text_toList, Duration.number, Duration.word, hnegative, hfraction, hblanks,
      hunit]
  · have hname := d.named _ hunit
    rw [String.toList_singleton] at hname
    have hscale : ((d.scale : ℤ) : ℚ) = ((1000 * k : ℤ) : ℚ) := by
      have hunitMs := milliseconds_of_letter hk hname
      unfold Duration.scale
      rw [hunit]
      exact congrArg _ hunitMs
    have hvalue : d.value = digitsVal d.whole := by
      simp [Duration.value, hnegative, hfraction]
    push_cast at hscale
    rw [Duration.milliseconds, hvalue, hscale]
    push_cast
    ring

theorem plain_of_match {d : Duration} {ds : List Char} {c : Char}
    (hs : d.text.toList = ds ++ [c]) (hds : ∀ x ∈ ds, x.isDigit = true)
    (hc : secondsIn c ≠ none) : Plain d := by
  have hletter := secondsIn_ne_none.mp hc
  have hletters : ∀ x ∈ ['s', 'm', 'h', 'd'], x.isDigit = false ∧ x ≠ ' ' := by simp
  obtain ⟨hdigit, hblank⟩ := hletters c hletter
  obtain ⟨hnegative, hfraction, hblanks, u, hunit⟩ := d.digits_of_text hs hds hdigit hblank
  exact ⟨hnegative, hfraction, hblanks, u, c, hletter, hunit⟩

/-- The service reads a duration as the library does exactly when it is plain or happens to be the
    900 seconds that everything else is taken for. -/
theorem parse_eq_floor_iff (d : Duration) :
    parseDurationToSeconds d.text = ⌊d.milliseconds / 1000⌋ ↔ ReadAlike d := by
  by_cases hplain : Plain d
  · obtain ⟨c, k, htext, hk, hms⟩ := hplain.reading
    have hne : d.whole ≠ [] := by
      have hdigit := d.some_digit
      rwa [hplain.2.1, Option.getD_none] at hdigit
    have hds : ∀ x ∈ d.whole, x.isDigit = true := fun x hx =>
      d.digits x (List.mem_append_left _ hx)
    refine iff_of_true ?_ (Or.inl hplain)
    rw [parse_of_match htext hne hds hk, hms, mul_div_assoc, div_self (by norm_num), mul_one,
      Int.floor_intCast]
  · have hother : parseDurationToSeconds d.text = 900 := by
      refine parse_of_no_match fun ds c hs _ hds => ?_
      by_contra hc
      exact hplain (plain_of_match hs hds hc)
    unfold ReadAlike
    rw [hother, or_iff_right hplain, eq_comm, Int.floor_eq_iff, le_div_iff₀ (by norm_num),
      div_lt_iff₀ (by norm_num)]
    norm_num

/-! ## What is reported and stored -/

section Report

variable {svc : Service}

/-- An access token is reported to live as long as the service reads. -/
theorem signed_lifetime (env : Env) (payload : UnsignedPayload) :
    (signAccessToken svc env payload).exp - (signAccessToken svc env payload).iat =
      svc.lifetime svc.jwtExpiry := by
  unfold signAccessToken sign
  exact add_sub_cancel_left _ _

theorem login_report {env : Env} {user : User} {ip device : Option String} {db : IdentityDb}
    {res : TokenResponse} (h : (AuthService.login svc env user ip device db).2 = .ok res) :
    res.expiresIn = parseDurationToSeconds svc.jwtExpiry ∧
      res.accessToken.exp - res.accessToken.iat = svc.lifetime svc.jwtExpiry := by
  unfold AuthService.login AuthService.issueTokens at h
  dsimp only at h
  split at h
  next hissue =>
    split at hissue
    next =>
      obtain ⟨-, hres⟩ := Prod.mk.inj hissue
      rw [← Except.ok.inj h, ← Except.ok.inj hres]
      exact ⟨rfl, signed_lifetime env _⟩
    next => cases (Prod.mk.inj hissue).2
  next => cases h

theorem refresh_report {env : Env} {value : String} {db : IdentityDb} {res : AccessTokenResponse}
    (h : refreshAccessToken svc env value db = .ok res) :
    res.expiresIn = parseDurationToSeconds svc.jwtExpiry ∧
      res.accessToken.exp - res.accessToken.iat = svc.lifetime svc.jwtExpiry := by
  unfold refreshAccessToken at h
  dsimp only at h
  split_ifs at h
  split at h
  next => cases h
  next =>
    split_ifs at h
    split at h
    next => cases h
    next =>
      split_ifs at h
      rw [← Except.ok.inj h]
      exact ⟨rfl, signed_lifetime env _⟩

theorem switchTenant_report {env : Env} {u t : String} {db : IdentityDb}
    {res : AccessTokenResponse} (h : AuthService.switchTenant svc env u t db = .ok res) :
    res.expiresIn = parseDurationToSeconds svc.jwtExpiry ∧
      res.accessToken.exp - res.accessToken.iat = svc.lifetime svc.jwtExpiry := by
  unfold AuthService.switchTenant at h
  split at h
  next => cases h
  next =>
    dsimp only at h
    split_ifs at h
    rw [← Except.ok.inj h]
    exact ⟨rfl, signed_lifetime env _⟩

/-- The row of the refresh token that a login issues. -/
theorem login_row {env : Env} {user : User} {ip device : Option String} {db : IdentityDb}
    {res : TokenResponse} (h : (AuthService.login svc env user ip device db).2 = .ok res) :
    ∃ rt, (AuthService.login svc env user ip device db).1.refreshTokens =
        db.refreshTokens ++ [rt] ∧
      rt.tokenHash = svc.sha256 res.refreshToken ∧
      rt.expiresAt = env.now + 1000 * parseDurationToSeconds svc.refreshExpiry := by
  obtain ⟨res', hres, hissues⟩ | ⟨⟨e, he⟩, -⟩ := login_issues svc env user ip device db
  · obtain rfl := Except.ok.inj (h.symm.trans hres)
    obtain ⟨rt, hrow, hhash, -, hends, -⟩ := hissues.row
    refine ⟨rt, hrow, hhash.trans (congrArg _ hissues.value.symm), hends.trans ?_⟩
    rw [refreshExpiresAt, mul_comm]
  · rw [h] at he
    cases he

/-- There is always a login that succeeds. -/
theorem exists_login (svc : Service) : ∃ env user db res,
    (AuthService.login svc env user none none db).2 = .ok res :=
  ⟨Sample.clock 0, Sample.user "ann" false, IdentityDb.seeded Sample.seed, _, rfl⟩

/-- Every answer is right or every answer is wrong. -/
theorem lifetimesAgree_eq : LifetimesAgree svc ↔
    parseDurationToSeconds svc.jwtExpiry = svc.lifetime svc.jwtExpiry ∧
      parseDurationToSeconds svc.refreshExpiry = svc.lifetime svc.refreshExpiry := by
  constructor
  · intro h
    obtain ⟨env, user, db, res, hlogin⟩ := exists_login svc
    obtain ⟨hexpires, hlives⟩ := login_report hlogin
    obtain ⟨rt, hrow, -, hends⟩ := login_row hlogin
    obtain ⟨rt', hrow', -, hends'⟩ := h.expiresAt env user none none db res hlogin
    obtain rfl : rt = rt' := by simpa using (List.append_inj' (hrow.symm.trans hrow') rfl).2
    refine ⟨?_, ?_⟩
    · rw [← hexpires, ← hlives]
      exact h.login env user none none db res hlogin
    · rw [hends] at hends'
      omega
  · intro h
    obtain ⟨haccess, hrefresh⟩ := h
    refine ⟨fun _ _ _ _ _ _ hok => ?_, fun _ _ _ _ hok => ?_, fun _ _ _ _ _ hok => ?_,
      fun _ _ _ _ _ _ hok => ?_⟩
    · obtain ⟨hexpires, hlives⟩ := login_report hok
      rw [hexpires, hlives, haccess]
    · obtain ⟨hexpires, hlives⟩ := refresh_report hok
      rw [hexpires, hlives, haccess]
    · obtain ⟨hexpires, hlives⟩ := switchTenant_report hok
      rw [hexpires, hlives, haccess]
    · rw [← hrefresh]
      exact login_row hok

end Report

/-! ## Every configuration -/

/-- "15m". -/
def fifteenMinutes : Duration :=
  { negative := false, whole := ['1', '5'], fraction := none, blanks := 0
    unit := some (.minute, "m"), digits := List.all_eq_true.mp rfl, some_digit := by decide
    named := by decide }

/-- "7d". -/
def sevenDays : Duration :=
  { negative := false, whole := ['7'], fraction := none, blanks := 0
    unit := some (.day, "d"), digits := List.all_eq_true.mp rfl, some_digit := by decide
    named := by decide }

/-- "1w". -/
def oneWeek : Duration :=
  { negative := false, whole := ['1'], fraction := none, blanks := 0
    unit := some (.week, "w"), digits := List.all_eq_true.mp rfl, some_digit := by decide
    named := by decide }

/-- A service with these expiry strings, and the library's lifetimes for them. -/
def configured (access refresh : Duration) : Service :=
  { Sample.svc with
    jwtExpiry := access.text
    refreshExpiry := refresh.text
    lifetime := fun s =>
      if s = access.text then ⌊access.milliseconds / 1000⌋ else ⌊refresh.milliseconds / 1000⌋ }

theorem configured_reads (access refresh : Duration) :
    Reads (configured access refresh) access := if_pos rfl

theorem configured_reads' {access refresh : Duration} (h : refresh.text ≠ access.text) :
    Reads (configured access refresh) refresh := if_neg h

/-- Whatever the two expiry strings are. -/
theorem lifetimesAgree_iff {svc : Service} {access refresh : Duration}
    (haccess : svc.jwtExpiry = access.text) (hrefresh : svc.refreshExpiry = refresh.text)
    (hreads : Reads svc access) (hreads' : Reads svc refresh) :
    LifetimesAgree svc ↔ ReadAlike access ∧ ReadAlike refresh := by
  unfold Reads at hreads hreads'
  rw [lifetimesAgree_eq, haccess, hrefresh, hreads, hreads', parse_eq_floor_iff,
    parse_eq_floor_iff]

theorem lifetimesAgree_sample : LifetimesAgree (configured fifteenMinutes sevenDays) ↔
    ReadAlike fifteenMinutes ∧ ReadAlike sevenDays :=
  lifetimesAgree_iff rfl rfl (configured_reads _ _) (configured_reads' (by decide +kernel))

/-- The token lives for a week, the client is told 900 seconds. -/
theorem week_reported_as_minutes : ¬ LifetimesAgree (configured oneWeek sevenDays) := by
  intro h
  obtain ⟨haccess, -⟩ := lifetimesAgree_eq.mp h
  have hreported : parseDurationToSeconds oneWeek.text = 900 := by decide +kernel
  have hlives : (configured oneWeek sevenDays).lifetime oneWeek.text = 604800 := by
    decide +kernel
  exact absurd (hreported.symm.trans (haccess.trans hlives)) (by decide)

end SaasChassis.Identity
