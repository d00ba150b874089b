/-
  The cache of the SDK's feature flags while calls of `isEnabled` overlap.

  A call is a thread that stops at each `await`: `fetch`, then `response.json()`. It carries what
  its clock readings and the server's answer will be, so that a pool of calls and a schedule are
  any calls, times and answers in any order; `alone_isEnabled` says that a call without others
  is `isEnabled`.

  The invariant is `Sound`: every entry comes from a call that has been answered by the server,
  under the key of its tenant and code and with the time at which it was received. `cache_sound`
  reads the properties of the cache off it; with gating off no call gets as far as the cache.
-/
import SaasChassis.Sdk.FeatureFlags
import SaasChassis.Lib.Interleaving
import SaasChassis.Lib.Postgres

namespace SaasChassis.Sdk

open SaasChassis.Lib
open SaasChassis.Tenants (HttpResponse)

/-! ## Calls -/

inductive Answer where
  | gatingOff
  | cached (value : Json)
  | fetched (value : Json)
  | failed

/-- What the caller gets. -/
def Answer.value : Answer → Json
  | .gatingOff => .bool true
  | .cached value | .fetched value => value
  | .failed => .bool false

inductive Stage where
  | called
  /-- `fetch` is awaited. -/
  | fetching
  /-- `response.json()` is awaited. -/
  | reading
  | answered (answer : Answer)

structure FlagCall where
  tenantId : String
  featureCode : String
  /-- `Date.now()` when the cache is looked up. -/
  calledAt : ℤ
  /-- The status of the response; none if `fetch` throws. -/
  status : Option ℕ
  /-- None if `response.json()` throws. -/
  body : Option Json
  /-- `Date.now()` when the body is there. -/
  receivedAt : ℤ
  stage : Stage

namespace FlagCall

def key (c : FlagCall) : String := FeatureFlagService.cacheKey c.tenantId c.featureCode

def answer (c : FlagCall) (a : Answer) : FlagCall := { c with stage := .answered a }

/-- What is answered before anything is awaited. -/
def lookUp (sdk : FeatureFlagService) (c : FlagCall) : Option Answer :=
  let url := (sdk.options.bind (·.tenantManagerUrl)).getD ""
  let gating := (sdk.options.bind (·.enableFeatureGating)).getD false
  if url = "" || !gating then some .gatingOff
  else (sdk.cached c.calledAt c.key).map .cached

/-- From one `await` to the next. -/
def next (sdk : FeatureFlagService) (c : FlagCall) : FeatureFlagService × FlagCall :=
  match c.stage with
  | .called =>
    match c.lookUp sdk with
    | some a => (sdk, c.answer a)
    | none => (sdk, { c with stage := .fetching })
  | .fetching =>
    match c.status with
    | none => (sdk, c.answer .failed)
    | some status =>
      if HttpResponse.ok { status, body := .null } then (sdk, { c with stage := .reading })
      else (sdk, c.answer .failed)
  | .reading =>
    match c.body with
    | none => (sdk, c.answer .failed)
    | some body =>
      let enabled := decodeFlag body
      let entry := { value := enabled, expiresAt := c.receivedAt + cacheTtlMs }
      ({ sdk with cache := setCacheEntry c.key entry sdk.cache }, c.answer (.fetched enabled))
  | .answered _ => (sdk, c)

/-- The server's answer as a whole: none if either `await` throws. -/
def outcome (c : FlagCall) : Option HttpResponse :=
  match c.status, c.body with
  | some status, some body => some { status, body }
  | _, _ => none

end FlagCall

/-! ## A call without others -/

section Alone

theorem next_lookUp_some {sdk : FeatureFlagService} {c : FlagCall} {a : Answer}
    (hc : c.stage = .called) (h : c.lookUp sdk = some a) : c.next sdk = (sdk, c.answer a) := by
  simp only [FlagCall.next, hc, h]

theorem next_lookUp_none {sdk : FeatureFlagService} {c : FlagCall} (hc : c.stage = .called)
    (h : c.lookUp sdk = none) : c.next sdk = (sdk, { c with stage := .fetching }) := by
  simp only [FlagCall.next, hc, h]

theorem alone_answered (n : ℕ) (sdk : FeatureFlagService) (c : FlagCall) (a : Answer) :
    Pool.alone FlagCall.next n sdk (c.answer a) = (sdk, c.answer a) := by
  induction n with
  | zero => rfl
  | succ n ih => exact ih

theorem alone_of_answers {sdk sdk' : FeatureFlagService} {c c' : FlagCall} {a : Answer} (n : ℕ)
    (h : c.next sdk = (sdk', c'.answer a)) :
    Pool.alone FlagCall.next (n + 1) sdk c = (sdk', c'.answer a) := by
  show Pool.alone FlagCall.next n (c.next sdk).1 (c.next sdk).2 = _
  rw [h]
  exact alone_answered n sdk' c' a

theorem alone_of_awaits {sdk : FeatureFlagService} {c c' : FlagCall} (n : ℕ)
    (h : c.next sdk = (sdk, c')) :
    Pool.alone FlagCall.next (n + 1) sdk c = Pool.alone FlagCall.next n sdk c' := by
  show Pool.alone FlagCall.next n (c.next sdk).1 (c.next sdk).2 = _
  rw [h]

/-- What the server's answer makes of the value returned and of the cache. -/
def settled (sdk : FeatureFlagService) (c : FlagCall) : Json × FeatureFlagService :=
  match c.outcome with
  | none => (.bool false, sdk)
  | some response =>
    if response.ok then
      let enabled := decodeFlag response.body
      let entry := { value := enabled, expiresAt := c.receivedAt + cacheTtlMs }
      (enabled, { sdk with cache := setCacheEntry c.key entry sdk.cache })
    else (.bool false, sdk)

theorem alone_fetching (sdk : FeatureFlagService) {c : FlagCall} (hc : c.stage = .fetching) :
    ∃ a, (Pool.alone FlagCall.next 2 sdk c).2.stage = .answered a ∧
      settled sdk c = (a.value, (Pool.alone FlagCall.next 2 sdk c).1) := by
  cases hstatus : c.status with
  | none =>
    have hnext : c.next sdk = (sdk, c.answer .failed) := by simp only [FlagCall.next, hc, hstatus]
    rw [alone_of_answers 1 hnext]
    exact ⟨.failed, rfl, by simp only [settled, FlagCall.outcome, hstatus]; rfl⟩
  | some status =>
    cases hok : HttpResponse.ok { status, body := .null } with
    | false =>
      have hnext : c.next sdk = (sdk, c.answer .failed) := by
        simp [FlagCall.next, hc, hstatus, hok]
      rw [alone_of_answers 1 hnext]
      refine ⟨.failed, rfl, ?_⟩
      cases hbody : c.body with
      | none => simp only [settled, FlagCall.outcome, hstatus, hbody]; rfl
      | some body =>
        have hok' : HttpResponse.ok { status, body } = false := hok
        simp [settled, FlagCall.outcome, hstatus, hbody, hok', Answer.value]
    | true =>
      have hnext : c.next sdk = (sdk, { c with stage := .reading }) := by
        simp [FlagCall.next, hc, hstatus, hok]
      rw [alone_of_awaits 1 hnext]
      cases hbody : c.body with
      | none =>
        refine ⟨.failed, ?_, ?_⟩
        · simp [Pool.alone, FlagCall.next, FlagCall.answer]
        · simp [Pool.alone, FlagCall.next, settled, FlagCall.outcome, hstatus, hbody, Answer.value]
      | some body =>
        have hok' : HttpResponse.ok { status, body } = true := hok
        refine ⟨.fetched (decodeFlag body), ?_, ?_⟩
        · simp [Pool.alone, FlagCall.next, FlagCall.answer]
        · simp [Pool.alone, FlagCall.next, settled, FlagCall.outcome, hstatus, hbody, hok',
            Answer.value, FlagCall.key]

/-- Three steps are enough, and without other calls they are `isEnabled`. -/
theorem alone_isEnabled (sdk : FeatureFlagService) {c : FlagCall} (hc : c.stage = .called) :
    ∃ a, (Pool.alone FlagCall.next 3 sdk c).2.stage = .answered a ∧
      sdk.isEnabled (fun _ _ server => (c.outcome, server)) c.calledAt c.receivedAt c.tenantId
        c.featureCode () = (a.value, (Pool.alone FlagCall.next 3 sdk c).1, ()) := by
  unfold FeatureFlagService.isEnabled
  cases hlook : c.lookUp sdk with
  | some a =>
    rw [alone_of_answers 2 (next_lookUp_some hc hlook)]
    refine ⟨a, rfl, ?_⟩
    unfold FlagCall.lookUp FlagCall.key at hlook
    dsimp only at hlook ⊢
    split at hlook
    next hoff =>
      obtain rfl := Option.some.inj hlook
      rw [if_pos hoff]
      rfl
    next hoff =>
      obtain ⟨value, hcached, rfl⟩ := Option.map_eq_some_iff.mp hlook
      rw [if_neg hoff, hcached]
      rfl
  | none =>
    rw [alone_of_awaits 2 (next_lookUp_none hc hlook)]
    obtain ⟨a, ha, hsettled⟩ := alone_fetching sdk (c := { c with stage := .fetching }) rfl
    refine ⟨a, ha, ?_⟩
    unfold FlagCall.lookUp FlagCall.key at hlook
    dsimp only at hlook ⊢
    split at hlook
    next => cases hlook
    next hoff =>
      rw [if_neg hoff, Option.map_eq_none_iff.mp hlook,
        show a.value = (settled sdk { c with stage := .fetching }).1 from
          (congrArg Prod.fst hsettled).symm,
        show (Pool.alone FlagCall.next 2 sdk { c with stage := .fetching }).1 =
          (settled sdk { c with stage := .fetching }).2 from (congrArg Prod.snd hsettled).symm]
      unfold settled
      rw [show FlagCall.outcome { c with stage := .fetching } = c.outcome from rfl]
      cases c.outcome with
      | none => rfl
      | some response =>
        dsimp only
        split <;> rfl

end Alone

/-! ## Statement -/

/-- The server answers the call's own request, with this value. -/
def FlagCall.Returned (c : FlagCall) (value : Json) : Prop :=
  ∃ status body, c.status = some status ∧ HttpResponse.ok { status, body } ∧
    c.body = some body ∧ decodeFlag body = value

/-- The step that the call is about to take answers it. -/
def FlagCall.Gives (sdk : FeatureFlagService) (c : FlagCall) (a : Answer) : Prop :=
  (∀ b, c.stage ≠ .answered b) ∧ (c.next sdk).2.stage = .answered a

/-- `u` has been answered by the server, with this value, for the tenant and the code of `c`. -/
structure FlagCall.FetchedFor (u c : FlagCall) (value : Json) : Prop where
  tenantId : u.tenantId = c.tenantId
  featureCode : u.featureCode = c.featureCode
  stage : u.stage = .answered (.fetched value)
  returned : u.Returned value

structure CacheSound (p : Pool FeatureFlagService FlagCall) : Prop where
  bounded : p.shared.cache.length ≤ 1000
  /-- An answer that is no failure is a value of the server. -/
  answers : ∀ c ∈ p.threads, ∀ a, c.Gives p.shared a → a ≠ .failed →
    (a = .fetched a.value ∧ c.Returned a.value) ∨ ∃ u ∈ p.threads, u.FetchedFor c a.value
  fresh : ∀ c ∈ p.threads, ∀ value, c.Gives p.shared (.cached value) →
    ∃ u ∈ p.threads, u.FetchedFor c value ∧ c.calledAt < u.receivedAt + 60000
  failed : ∀ c ∈ p.threads, c.Gives p.shared .failed → (c.next p.shared).1 = p.shared
  /-- Nor does any other step of a call that no value of the server answers touch the cache. -/
  unanswered : ∀ c ∈ p.threads, (∀ value, ¬ c.Returned value) → (c.next p.shared).1 = p.shared

/-! ## Steps -/

/-- All that a step can do. -/
inductive CallStep (sdk : FeatureFlagService) (c : FlagCall) :
    FeatureFlagService → FlagCall → Prop where
  | lookUp (a : Answer) (hstage : c.stage = .called) (ha : c.lookUp sdk = some a) :
      CallStep sdk c sdk (c.answer a)
  | fetch (hstage : c.stage = .called) (hnone : c.lookUp sdk = none) :
      CallStep sdk c sdk { c with stage := .fetching }
  | respond (status : ℕ) (hstage : c.stage = .fetching) (hstatus : c.status = some status)
      (hok : HttpResponse.ok { status, body := .null }) :
      CallStep sdk c sdk { c with stage := .reading }
  | fail (hstage : c.stage = .fetching ∨ c.stage = .reading) : CallStep sdk c sdk (c.answer .failed)
  | receive (body : Json) (hstage : c.stage = .reading) (hbody : c.body = some body) :
      CallStep sdk c
        { sdk with
          cache := setCacheEntry c.key
            { value := decodeFlag body, expiresAt := c.receivedAt + cacheTtlMs } sdk.cache }
        (c.answer (.fetched (decodeFlag body)))
  | stay (a : Answer) (hstage : c.stage = .answered a) : CallStep sdk c sdk c

theorem next_callStep (sdk : FeatureFlagService) (c : FlagCall) :
    CallStep sdk c (c.next sdk).1 (c.next sdk).2 := by
  unfold FlagCall.next
  cases hstage : c.stage with
  | called =>
    cases hlook : c.lookUp sdk with
    | some a => exact .lookUp a hstage hlook
    | none => exact .fetch hstage hlook
  | fetching =>
    cases hstatus : c.status with
    | none => exact .fail (Or.inl hstage)
    | some status =>
      dsimp only
      split
      next hok =>
        have hstep := @CallStep.respond sdk c status hstage hstatus hok
        rwa [hstatus] at hstep
      next => exact .fail (Or.inl hstage)
  | reading =>
    cases hbody : c.body with
    | none => exact .fail (Or.inr hstage)
    | some body => exact .receive body hstage hbody
  | answered a => exact .stay a hstage

/-! ## The cache -/

theorem mem_mapSet {key : String} {value : CachedFlag} {cache : List (String × CachedFlag)}
    {entry : String × CachedFlag} (h : entry ∈ mapSet key value cache) :
    entry = (key, value) ∨ entry ∈ cache := by
  unfold mapSet at h
  split at h
  next =>
    obtain ⟨old, hold, rfl⟩ := List.mem_map.mp h
    split
    · exact Or.inl rfl
    · exact Or.inr hold
  next => exact (List.mem_append.mp h).symm.imp_left List.mem_singleton.mp

theorem length_mapSet (key : String) (value : CachedFlag) (cache : List (String × CachedFlag)) :
    (mapSet key value cache).length ≤ cache.length + 1 := by
  unfold mapSet
  split
  · rw [List.length_map]
    exact Nat.le_succ _
  · rw [List.length_append, List.length_singleton]

theorem mem_setCacheEntry {key : String} {value : CachedFlag}
    {cache : List (String × CachedFlag)} {entry : String × CachedFlag}
    (h : entry ∈ setCacheEntry key value cache) : entry = (key, value) ∨ entry ∈ cache := by
  refine (mem_mapSet h).imp_right fun hmem => ?_
  split at hmem
  · exact List.mem_of_mem_tail hmem
  · exact hmem

theorem length_setCacheEntry (key : String) (value : CachedFlag)
    {cache : List (String × CachedFlag)} (h : cache.length ≤ maxCacheSize) :
    (setCacheEntry key value cache).length ≤ maxCacheSize := by
  refine Nat.le_trans (length_mapSet key value _) ?_
  split
  next hfull =>
    have hpos : 0 < cache.length := Nat.lt_of_lt_of_le (by decide) hfull
    rw [List.length_tail]
    omega
  next hroom => omega

/-- Tenant ids hold no colon, so a key tells the tenant and the code. -/
theorem cacheKey_inj {tenantId tenantId' featureCode featureCode' : String}
    (h : ':' ∉ tenantId.toList) (h' : ':' ∉ tenantId'.toList)
    (he : FeatureFlagService.cacheKey tenantId featureCode =
      FeatureFlagService.cacheKey tenantId' featureCode') :
    tenantId = tenantId' ∧ featureCode = featureCode' := by
  have hsplit := splitFirst_append h featureCode
  have hsplit' := splitFirst_append h' featureCode'
  have hparts : [tenantId, featureCode] = [tenantId', featureCode'] :=
    hsplit.symm.trans ((congrArg (splitFirst ':') he).trans hsplit')
  simpa using hparts

/-! ## The invariant -/

/-- An entry comes from a call that the server has answered. -/
def Entered (p : Pool FeatureFlagService FlagCall) (entry : String × CachedFlag) : Prop :=
  ∃ u ∈ p.threads, u.key = entry.1 ∧ u.stage = .answered (.fetched entry.2.value) ∧
    u.Returned entry.2.value ∧ entry.2.expiresAt = u.receivedAt + cacheTtlMs

def FlagCall.Accepted (c : FlagCall) : Prop :=
  ∃ status, c.status = some status ∧ HttpResponse.ok { status, body := .null }

structure Sound (p : Pool FeatureFlagService FlagCall) : Prop where
  bounded : p.shared.cache.length ≤ maxCacheSize
  entries : ∀ entry ∈ p.shared.cache, Entered p entry
  reading : ∀ c ∈ p.threads, c.stage = .reading → c.Accepted
  noColon : ∀ c ∈ p.threads, ':' ∉ c.tenantId.toList

/-- A call that has its answer stays as it is. -/
theorem answered_mem_step {p : Pool FeatureFlagService FlagCall} {u : FlagCall} {a : Answer}
    (hu : u ∈ p.threads) (ha : u.stage = .answered a) (k : ℕ) :
    u ∈ (p.step FlagCall.next k).threads := by
  cases hk : p.threads[k]? with
  | none =>
    rw [Pool.step_none hk]
    exact hu
  | some t =>
    by_cases htu : u = t
    · subst htu
      have hnext : u.next p.shared = (p.shared, u) := by simp only [FlagCall.next, ha]
      rw [Pool.step_some hk, hnext]
      exact List.mem_set (List.getElem?_eq_some_iff.mp hk).1 u
    · exact Pool.mem_step_of_ne hk hu htu

theorem Entered.step {p : Pool FeatureFlagService FlagCall} {entry : String × CachedFlag}
    (h : Entered p entry) (k : ℕ) : Entered (p.step FlagCall.next k) entry := by
  obtain ⟨u, hu, hkey, hstage, hrest⟩ := h
  exact ⟨u, answered_mem_step hu hstage k, hkey, hstage, hrest⟩

/-- What a call that starts to read or goes on as it was still is. -/
theorem CallStep.keeps {sdk sdk' : FeatureFlagService} {c c' : FlagCall}
    (h : CallStep sdk c sdk' c') (hreading : c.stage = .reading → c.Accepted) :
    c'.tenantId = c.tenantId ∧ (c'.stage = .reading → c'.Accepted) := by
  cases h with
  | lookUp | fetch | fail | receive => exact ⟨rfl, nofun⟩
  | respond status hstage hstatus hok => exact ⟨rfl, fun _ => ⟨status, hstatus, hok⟩⟩
  | stay => exact ⟨rfl, hreading⟩

theorem Sound.step {p : Pool FeatureFlagService FlagCall} (h : Sound p) (k : ℕ) :
    Sound (p.step FlagCall.next k) := by
  cases hk : p.threads[k]? with
  | none =>
    rw [Pool.step_none hk]
    exact h
  | some t =>
    have ht : t ∈ p.threads := List.mem_of_getElem? hk
    have hold : ∀ entry ∈ p.shared.cache, Entered (p.step FlagCall.next k) entry :=
      fun entry hentry => (h.entries entry hentry).step k
    have hself : (t.next p.shared).2 ∈ (p.step FlagCall.next k).threads := by
      rw [Pool.step_some hk]
      exact List.mem_set (List.getElem?_eq_some_iff.mp hk).1 _
    have hshared : (p.step FlagCall.next k).shared = (t.next p.shared).1 := by
      rw [Pool.step_some hk]
    have hthreads : ∀ c ∈ (p.step FlagCall.next k).threads,
        c ∈ p.threads ∨ c = (t.next p.shared).2 := by
      rw [Pool.step_some hk]
      exact fun c hc => List.mem_or_eq_of_mem_set hc
    have hstep := next_callStep p.shared t
    obtain ⟨htenant, hreading⟩ := hstep.keeps (h.reading t ht)
    refine ⟨?_, ?_, fun c hc => ?_, fun c hc => ?_⟩
    · rw [hshared]
      generalize t.next p.shared = out at hstep
      obtain ⟨sdk', c'⟩ := out
      cases hstep with
      | lookUp | fetch | respond | fail | stay => exact h.bounded
      | receive body hstage hbody => exact length_setCacheEntry _ _ h.bounded
    · rw [hshared]
      generalize t.next p.shared = out at hstep hself
      obtain ⟨sdk', c'⟩ := out
      cases hstep with
      | lookUp | fetch | respond | fail | stay => exact hold
      | receive body hstage hbody =>
        intro entry hentry
        obtain rfl | hentry := mem_setCacheEntry hentry
        · obtain ⟨status, hstatus, hok⟩ := h.reading t ht hstage
          exact ⟨_, hself, rfl, rfl, ⟨status, body, hstatus, hok, hbody, rfl⟩, rfl⟩
        · exact hold entry hentry
    · obtain hc | rfl := hthreads c hc
      · exact h.reading c hc
      · exact hreading
    · obtain hc | rfl := hthreads c hc
      · exact h.noColon c hc
      · exact htenant ▸ h.noColon t ht

/-- Only a value of the server gets into the cache. -/
theorem Sound.unanswered {p : Pool FeatureFlagService FlagCall} (h : Sound p) {c : FlagCall}
    (hc : c ∈ p.threads) (hnone : ∀ value, ¬ c.Returned value) :
    (c.next p.shared).1 = p.shared := by
  have hstep := next_callStep p.shared c
  generalize c.next p.shared = out at hstep
  obtain ⟨sdk', c'⟩ := out
  cases hstep with
  | lookUp | fetch | respond | fail | stay => rfl
  | receive body hstage hbody =>
    obtain ⟨status, hstatus, hok⟩ := h.reading c hc hstage
    exact absurd ⟨status, body, hstatus, hok, hbody, rfl⟩ (hnone _)

theorem reachable_sound {p : Pool FeatureFlagService FlagCall} (h : Sound p) (schedule : List ℕ) :
    Sound (run (Pool.step FlagCall.next) p schedule) :=
  run_invariant (fun _ k hs => hs.step k) h schedule

/-! ## Answers -/

section Answers

variable {sdk sdk' : FeatureFlagService} {c c' : FlagCall} {a : Answer}

theorem lookUp_of_gates (h : Gates sdk) (c : FlagCall) :
    c.lookUp sdk = (sdk.cached c.calledAt c.key).map .cached := by
  obtain ⟨options, url, hoptions, hurl, hne, hgating⟩ := h
  unfold FlagCall.lookUp
  simp [hoptions, hurl, hgating, hne]

theorem lookUp_of_not_gates (h : ¬ Gates sdk) (c : FlagCall) : c.lookUp sdk = some .gatingOff := by
  unfold FlagCall.lookUp
  refine if_pos ?_
  by_contra hon
  simp only [Bool.or_eq_true, decide_eq_true_eq, Bool.not_eq_true', not_or,
    Bool.not_eq_false] at hon
  obtain ⟨hurl, hgating⟩ := hon
  obtain ⟨gates, hgates, htrue⟩ : ∃ gates, sdk.options.bind (·.enableFeatureGating) = some gates ∧
      gates = true := by
    cases hg : sdk.options.bind (·.enableFeatureGating) with
    | none =>
      rw [hg] at hgating
      cases hgating
    | some gates => exact ⟨gates, rfl, by rwa [hg] at hgating⟩
  obtain ⟨options, hoptions, henabled⟩ := Option.bind_eq_some_iff.mp hgates
  cases hu : options.tenantManagerUrl with
  | none => exact hurl (by rw [hoptions, Option.bind_some, hu]; rfl)
  | some url =>
    refine h ⟨options, url, hoptions, hu, fun hempty => hurl ?_, henabled.trans (htrue ▸ rfl)⟩
    rw [hoptions, Option.bind_some, hu, hempty]
    rfl

theorem cached_some {now : ℤ} {key : String} {value : Json}
    (h : sdk.cached now key = some value) :
    ∃ entry ∈ sdk.cache, entry.1 = key ∧ now < entry.2.expiresAt ∧ entry.2.value = value := by
  obtain ⟨entry, hfound, hvalue⟩ := Option.map_eq_some_iff.mp h
  obtain ⟨hfind, hnow⟩ := Option.filter_eq_some_iff.mp hfound
  exact ⟨entry, List.mem_of_find?_eq_some hfind, by simpa using List.find?_some hfind,
    by simpa using hnow, hvalue⟩

theorem gives_cases (h : c.Gives sdk a) :
    (c.stage = .called ∧ c.lookUp sdk = some a) ∨ (a = .failed ∧ (c.next sdk).1 = sdk) ∨
      ∃ body, c.stage = .reading ∧ c.body = some body ∧ a = .fetched (decodeFlag body) := by
  obtain ⟨hopen, hanswer⟩ := h
  have hstep := next_callStep sdk c
  generalize c.next sdk = out at hstep hanswer
  obtain ⟨sdk', c'⟩ := out
  cases hstep with
  | lookUp b hstage hb =>
    exact Or.inl ⟨hstage, hb.trans (congrArg some (Stage.answered.inj hanswer))⟩
  | fetch => cases hanswer
  | respond => cases hanswer
  | fail => exact Or.inr (Or.inl ⟨(Stage.answered.inj hanswer).symm, rfl⟩)
  | receive body hstage hbody =>
    exact Or.inr (Or.inr ⟨body, hstage, hbody, (Stage.answered.inj hanswer).symm⟩)
  | stay b hstage => exact absurd hstage (hopen b)

end Answers

theorem Sound.cacheSound {p : Pool FeatureFlagService FlagCall} (h : Sound p)
    (hgates : Gates p.shared) : CacheSound p := by
  have hcached : ∀ c ∈ p.threads, ∀ a, c.lookUp p.shared = some a → ∃ value, a = .cached value ∧
      ∃ u ∈ p.threads, u.FetchedFor c value ∧ c.calledAt < u.receivedAt + 60000 := by
    intro c hc a ha
    rw [lookUp_of_gates hgates] at ha
    obtain ⟨value, hvalue, rfl⟩ := Option.map_eq_some_iff.mp ha
    obtain ⟨entry, hentry, hkey, hnow, rfl⟩ := cached_some hvalue
    obtain ⟨u, hu, hukey, hstage, hreturned, hexpires⟩ := h.entries entry hentry
    obtain ⟨htenant, hcode⟩ :=
      cacheKey_inj (h.noColon u hu) (h.noColon c hc) (hukey.trans hkey)
    refine ⟨_, rfl, u, hu, ⟨htenant, hcode, hstage, hreturned⟩, ?_⟩
    rw [hexpires] at hnow
    exact hnow
  constructor
  · exact h.bounded
  · intro c hc a hgives hok
    obtain ⟨_, hlook⟩ | ⟨hfailed, _⟩ | ⟨body, hstage, hbody, rfl⟩ := gives_cases hgives
    · obtain ⟨value, rfl, u, hu, hfetched, _⟩ := hcached c hc a hlook
      exact Or.inr ⟨u, hu, hfetched⟩
    · exact absurd hfailed hok
    · obtain ⟨status, hstatus, haccepted⟩ := h.reading c hc hstage
      exact Or.inl ⟨rfl, status, body, hstatus, haccepted, hbody, rfl⟩
  · intro c hc value hgives
    obtain ⟨_, hlook⟩ | ⟨hfailed, _⟩ | ⟨body, _, _, hfetched⟩ := gives_cases hgives
    · obtain ⟨value', he, hu⟩ := hcached c hc _ hlook
      obtain rfl := Answer.cached.inj he
      exact hu
    · cases hfailed
    · cases hfetched
  · intro c hc hgives
    obtain ⟨_, hlook⟩ | ⟨_, hsame⟩ | ⟨_, _, _, hfetched⟩ := gives_cases hgives
    · obtain ⟨value, he, _⟩ := hcached c hc _ hlook
      cases he
    · exact hsame
    · cases hfetched
  · exact fun c hc => h.unanswered hc

/-! ## Gating off -/

/-- No call has come past the first check. -/
structure Unasked (p : Pool FeatureFlagService FlagCall) : Prop where
  off : ¬ Gates p.shared
  cache : p.shared.cache = []
  stages : ∀ c ∈ p.threads, c.stage = .called ∨ c.stage = .answered .gatingOff

theorem Unasked.next {p : Pool FeatureFlagService FlagCall} (h : Unasked p) {c : FlagCall}
    (hc : c ∈ p.threads) :
    (c.next p.shared).1 = p.shared ∧ (c.next p.shared).2.stage = .answered .gatingOff := by
  obtain hstage | hstage := h.stages c hc
  · rw [next_lookUp_some hstage (lookUp_of_not_gates h.off c)]
    exact ⟨rfl, rfl⟩
  · have hnext : c.next p.shared = (p.shared, c) := by simp only [FlagCall.next, hstage]
    rw [hnext]
    exact ⟨rfl, hstage⟩

theorem Unasked.step {p : Pool FeatureFlagService FlagCall} (h : Unasked p) (k : ℕ) :
    Unasked (p.step FlagCall.next k) := by
  cases hk : p.threads[k]? with
  | none =>
    rw [Pool.step_none hk]
    exact h
  | some t =>
    obtain ⟨hshared, hstage⟩ := h.next (List.mem_of_getElem? hk)
    rw [Pool.step_some hk, hshared]
    refine ⟨h.off, h.cache, fun c hc => ?_⟩
    obtain hc | rfl := List.mem_or_eq_of_mem_set hc
    · exact h.stages c hc
    · exact Or.inr hstage

/-! ## The cache of a service -/

/-- A step leaves the options alone. -/
theorem step_options (p : Pool FeatureFlagService FlagCall) (k : ℕ) :
    (p.step FlagCall.next k).shared.options = p.shared.options := by
  cases hk : p.threads[k]? with
  | none => rw [Pool.step_none hk]
  | some t =>
    rw [Pool.step_some hk]
    have hstep := next_callStep p.shared t
    generalize t.next p.shared = out at hstep
    obtain ⟨sdk', c'⟩ := out
    cases hstep <;> rfl

theorem gates_congr {sdk sdk' : FeatureFlagService} (h : sdk'.options = sdk.options) :
    Gates sdk' ↔ Gates sdk := by
  unfold Gates
  rw [h]

/-- Whatever calls for UUIDs overlap, at whatever times and with whatever answers: with gating on
    the cache is bounded and its answers are fresh, and with gating off every answer is true and
    nothing is cached. -/
theorem cache_sound (options : Option ChassisOptions) {calls : List FlagCall}
    (hnew : ∀ c ∈ calls, c.stage = .called)
    (huuid : ∀ c ∈ calls, (Postgres.uuidIn c.tenantId).isSome) (schedule : List ℕ) :
    let p := run (Pool.step FlagCall.next) ⟨{ options, cache := [] }, calls⟩ schedule
    (Gates { options, cache := [] } → CacheSound p) ∧
    (¬ Gates { options, cache := [] } → p.shared.cache = [] ∧
      ∀ c ∈ p.threads, ∀ a, c.Gives p.shared a → a.value = .bool true) := by
  intro p
  have hoptions : p.shared.options = options :=
    run_invariant (I := fun q : Pool FeatureFlagService FlagCall => q.shared.options = options)
      (fun q k hq => (step_options q k).trans hq) rfl schedule
  have hstart : Sound ⟨{ options, cache := [] }, calls⟩ :=
    { bounded := Nat.zero_le _
      entries := nofun
      reading := fun c hc hreading => nomatch (hnew c hc).symm.trans hreading
      noColon := fun c hc =>
        Postgres.notMem_of_uuidIn (huuid c hc) (by decide) (by decide) (by decide) (by decide) }
  constructor
  · intro hgates
    exact (reachable_sound hstart schedule).cacheSound ((gates_congr hoptions).mpr hgates)
  · intro hoff
    have hunasked : Unasked p := run_invariant (fun _ k h => h.step k)
      ⟨hoff, rfl, fun c hc => Or.inl (hnew c hc)⟩ schedule
    refine ⟨hunasked.cache, fun c hc a hgives => ?_⟩
    have hgiven := (hunasked.next hc).2.symm.trans hgives.2
    rw [← Stage.answered.inj hgiven]
    rfl

namespace Sample

/-- A call that the server does not answer. -/
def lonely : FlagCall :=
  { tenantId := tenant, featureCode := "module.payroll", calledAt := 0, status := none,
    body := none, receivedAt := 0, stage := .called }

def answered : FlagCall :=
  { lonely with
    status := some 200
    body := some (.obj [("data", .obj [("isEnabled", .bool true)])]) }

end Sample

theorem cache_sound_sample :
    CacheSound (run (Pool.step FlagCall.next)
      ⟨{ options := Sample.sdk.options, cache := [] }, [Sample.answered, Sample.lonely]⟩
      [0, 0, 0]) := by
  have hnew : ∀ c ∈ [Sample.answered, Sample.lonely], c.stage = .called := by
    simp [Sample.answered, Sample.lonely]
  have huuid : ∀ c ∈ [Sample.answered, Sample.lonely], (Postgres.uuidIn c.tenantId).isSome := by
    have htenant : (Postgres.uuidIn Sample.tenant).isSome := by decide +kernel
    simpa [Sample.answered, Sample.lonely] using htenant
  exact (cache_sound Sample.sdk.options hnew huuid [0, 0, 0]).1 Sample.gates

/-- Without options the answer is true, though the server has said nothing. -/
theorem open_unasked :
    (Postgres.uuidIn Sample.lonely.tenantId).isSome ∧
    ¬ CacheSound (run (Pool.step FlagCall.next)
      ⟨{ options := none, cache := [] }, [Sample.lonely]⟩ []) := by
  refine ⟨by decide +kernel, fun h => ?_⟩
  have hgives : Sample.lonely.Gives { options := none, cache := [] } .gatingOff := ⟨nofun, rfl⟩
  obtain ⟨hfetched, _⟩ | ⟨u, hu, hfetched⟩ :=
    h.answers Sample.lonely (List.mem_singleton_self _) .gatingOff hgives nofun
  · cases hfetched
  · obtain rfl := List.mem_singleton.mp hu
    cases hfetched.stage

end SaasChassis.Sdk
