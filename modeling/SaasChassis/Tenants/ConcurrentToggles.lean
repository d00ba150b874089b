/-
  Toggles and questions about one feature of one tenant that run at the same time.

  `isFeatureEnabled` fills the cache with what it read before, and `toggleFeature` deletes the key
  after its save: a question that has read before the save and fills after the deletion leaves the
  old setting in the cache (`answered_stale`), for every question up to its expiry.

  `coherent_iff`: outside the time between a toggle's save and its deletion, what is cached is what
  is stored, throughout, exactly when every fill writes what is stored or comes between a toggle's
  save and its deletion. `answers_stored` follows: then what is asked after all toggles is answered
  with what is stored.
-/
import SaasChassis.Lib.Interleaving
import SaasChassis.Tenants.FeatureCache

namespace SaasChassis.Tenants

open SaasChassis.Lib Faulty

/-! ## The two methods, step by step -/

/-- Where a call is: each step is one answer of Redis or of the database. -/
inductive FeatureThread where
  /-- Redis serves its `GET` and its `SETEX` at these times. -/
  | asks (getAt setAt : ℤ)
  | missed (setAt : ℤ)
  | noOverride (setAt : ℤ)
  | fills (setAt : ℤ) (enabled : Bool)
  | answered (enabled : Bool)
  | toggles (env : Env) (enabled : Bool) (userId : String)
  | known (env : Env) (enabled : Bool) (userId : String)
  | found (env : Env) (enabled : Bool) (userId : String) (row : Option TenantFeature)
  | saved (env : Env) (row : TenantFeature)
  | toggled (row : TenantFeature)
  | failed (e : TenantError)
  deriving DecidableEq

namespace FeatureThread

def next (tenantId featureCode : String) (db : TenantDb) :
    FeatureThread → TenantDb × FeatureThread
  | .asks getAt setAt =>
    match redisGet getAt (cacheKey tenantId featureCode) db.redis with
    | some cached => (db, .answered (cached == "1"))
    | none => (db, .missed setAt)
  | .missed setAt =>
    match tenantFeature tenantId featureCode db.tenantFeatures with
    | some override => (db, .fills setAt override.isEnabled)
    | none => (db, .noOverride setAt)
  | .noOverride setAt =>
    (db, .fills setAt (((definitionByCode featureCode db.featureDefinitions).map
      (·.defaultEnabled)).getD false))
  | .fills setAt enabled =>
    (db.withRedis (redisSetex setAt (cacheKey tenantId featureCode) cacheTtlSeconds
      (flag enabled)), .answered enabled)
  | .toggles env enabled userId =>
    match definitionByCode featureCode db.featureDefinitions with
    | none => (db, .failed (.notFound s!"Feature '{featureCode}' is not a known feature code"))
    | some _ => (db, .known env enabled userId)
  | .known env enabled userId =>
    (db, .found env enabled userId (tenantFeature tenantId featureCode db.tenantFeatures))
  | .found env enabled userId (some row) =>
    let saved := { row with isEnabled := enabled, enabledBy := some userId }
    (db.withTenantFeatures (saveTenantFeatureRow saved), .saved env saved)
  | .found env enabled userId none =>
    let saved : TenantFeature :=
      { tenantId, featureCode, isEnabled := enabled, enabledBy := some userId }
    match insertTenantFeature saved db with
    | .ok db' => (db', .saved env saved)
    | .error e => (db, .failed e)
  | .saved env row =>
    -- publishing waits for nothing
    (((publish env "tenant.feature-toggled" (.tenantFeatureToggled tenantId featureCode
        row.isEnabled env.now)) noFaults 0
      (db.withRedis (redisDel [cacheKey tenantId featureCode]))).2.2, .toggled row)
  | done => (db, done)

/-- A toggle that has not completed. -/
def toggling : FeatureThread → Bool
  | .toggles _ _ _ | .known _ _ _ | .found _ _ _ _ | .saved _ _ => true
  | _ => false

/-- A toggle that has saved its row and not yet deleted the key. -/
def awaitsDeletion : FeatureThread → Bool
  | .saved _ _ => true
  | _ => false

/-- What a question is about to write to the cache. -/
def filling : FeatureThread → Option Bool
  | .fills _ enabled => some enabled
  | _ => none

/-- Steps of a question that are left. -/
def stepsLeft : FeatureThread → ℕ
  | .asks _ _ => 4
  | .missed _ => 3
  | .noOverride _ => 2
  | .fills _ _ => 1
  | _ => 0

end FeatureThread

variable {tenantId featureCode : String}

/-- Without interruption the steps are the method. -/
theorem isFeatureEnabled_alone (env : Env) (db : TenantDb) :
    ∃ enabled, (isFeatureEnabled env tenantId featureCode noFaults 0 db).1 = .ok enabled ∧
      Pool.alone (FeatureThread.next tenantId featureCode) 4 db (.asks env.now env.now) =
        ((isFeatureEnabled env tenantId featureCode noFaults 0 db).2.2, .answered enabled) := by
  unfold isFeatureEnabled
  simp only [query_bind_noFaults, Pool.alone, FeatureThread.next]
  cases redisGet env.now (cacheKey tenantId featureCode) db.redis with
  | some cached => exact ⟨_, rfl, rfl⟩
  | none =>
    simp only [query_bind_noFaults]
    cases tenantFeature tenantId featureCode db.tenantFeatures with
    | some override => exact ⟨_, rfl, rfl⟩
    | none => exact ⟨_, rfl, rfl⟩

theorem toggleFeature_alone (env : Env) (enabled : Bool) (userId : String) (db : TenantDb) :
    Pool.alone (FeatureThread.next tenantId featureCode) 4 db (.toggles env enabled userId) =
      ((toggleFeature env tenantId featureCode enabled userId noFaults 0 db).2.2,
        match (toggleFeature env tenantId featureCode enabled userId noFaults 0 db).1 with
        | .ok row => .toggled row
        | .error e => .failed e) := by
  unfold toggleFeature
  simp only [query_bind_noFaults, Pool.alone, FeatureThread.next]
  cases definitionByCode featureCode db.featureDefinitions with
  | none => rfl
  | some definition =>
    cases hfound : tenantFeature tenantId featureCode db.tenantFeatures with
    | some row =>
      have hrun : upsertTenantFeature tenantId featureCode enabled userId noFaults 1 db =
          (.ok { row with isEnabled := enabled, enabledBy := some userId }, 3,
            db.withTenantFeatures (saveTenantFeatureRow
              { row with isEnabled := enabled, enabledBy := some userId })) := by
        unfold upsertTenantFeature
        rw [query_bind_noFaults, hfound]
        rfl
      dsimp only
      rw [bind_ok _ hrun, write_bind_noFaults, publish, effect_bind_noFaults]
      rfl
    | none =>
      let row : TenantFeature :=
        { tenantId, featureCode, isEnabled := enabled, enabledBy := some userId }
      have hrun : upsertTenantFeature tenantId featureCode enabled userId noFaults 1 db =
          (execute (insertTenantFeature row) >>= fun _ => pure row) noFaults 2 db := by
        unfold upsertTenantFeature
        rw [query_bind_noFaults, hfound]
      dsimp only
      cases hins : insertTenantFeature row db with
      | error e =>
        rw [execute_bind_refused hins] at hrun
        rw [bind_error _ hrun]
      | ok u =>
        rw [execute_bind_noFaults hins] at hrun
        rw [bind_ok _ hrun, write_bind_noFaults, publish, effect_bind_noFaults]
        rfl

abbrev FeaturePool := Pool TenantDb FeatureThread

def Pending (p : FeaturePool) : Prop := ∃ c ∈ p.threads, c.awaitsDeletion

/-- What is cached is what the tables say. -/
def CachedRight (tenantId featureCode : String) (db : TenantDb) : Prop :=
  ∀ now cached, cachedOf now tenantId featureCode db = some cached →
    (cached == "1") = settingOf tenantId featureCode db

def Coherent (tenantId featureCode : String) (p : FeaturePool) : Prop :=
  Pending p ∨ CachedRight tenantId featureCode p.shared

/-- All toggles have completed. -/
def Quiet (p : FeaturePool) : Prop := ∀ c ∈ p.threads, c.toggling = false

/-- A question that is about to fill the cache holds what is stored now, or a deletion is still to
    come. -/
def FillsRight (tenantId featureCode : String) (p : FeaturePool) (k : ℕ) : Prop :=
  ∀ c ∈ p.threads[k]?, ∀ enabled ∈ c.filling,
    enabled = settingOf tenantId featureCode p.shared ∨ Pending p

instance (p : FeaturePool) : Decidable (Pending p) :=
  inferInstanceAs (Decidable (∃ c ∈ p.threads, c.awaitsDeletion))

instance (p : FeaturePool) : Decidable (Quiet p) :=
  inferInstanceAs (Decidable (∀ c ∈ p.threads, c.toggling = false))

instance (p : FeaturePool) (k : ℕ) : Decidable (FillsRight tenantId featureCode p k) :=
  inferInstanceAs (Decidable (∀ c ∈ p.threads[k]?, ∀ enabled ∈ c.filling,
    enabled = settingOf tenantId featureCode p.shared ∨ Pending p))

/-! ## One step -/

/-- What a step does: nothing to the rows, the definitions and the cache, or one of the three
    writes. -/
inductive FeatureStep (tenantId featureCode : String) (db : TenantDb) :
    FeatureThread → TenantDb → FeatureThread → Prop
  | read {c c' : FeatureThread} (unsaved : c.awaitsDeletion = false)
      (unfilled : c.filling = none) : FeatureStep tenantId featureCode db c db c'
  | filled (setAt : ℤ) (enabled : Bool) :
      FeatureStep tenantId featureCode db (.fills setAt enabled)
        (db.withRedis (redisSetex setAt (cacheKey tenantId featureCode) cacheTtlSeconds
          (flag enabled))) (.answered enabled)
  | saved (env : Env) (enabled : Bool) (userId : String) (found : Option TenantFeature)
      {u : TenantDb} (row : TenantFeature) :
      FeatureStep tenantId featureCode db (.found env enabled userId found) u (.saved env row)
  | deleted (env : Env) (row : TenantFeature) {u : TenantDb}
      (rows : u.tenantFeatures = db.tenantFeatures)
      (definitions : u.featureDefinitions = db.featureDefinitions)
      (redis : u.redis = redisDel [cacheKey tenantId featureCode] db.redis) :
      FeatureStep tenantId featureCode db (.saved env row) u (.toggled row)

theorem FeatureThread.next_step (db : TenantDb) (c : FeatureThread) :
    FeatureStep tenantId featureCode db c (c.next tenantId featureCode db).1
      (c.next tenantId featureCode db).2 := by
  cases c with
  | asks getAt setAt =>
    simp only [next]
    split
    · exact .read rfl rfl
    · exact .read rfl rfl
  | missed setAt =>
    simp only [next]
    split
    · exact .read rfl rfl
    · exact .read rfl rfl
  | noOverride setAt => exact .read rfl rfl
  | fills setAt enabled => exact .filled setAt enabled
  | answered enabled => exact .read rfl rfl
  | toggles env enabled userId =>
    simp only [next]
    split
    · exact .read rfl rfl
    · exact .read rfl rfl
  | known env enabled userId => exact .read rfl rfl
  | found env enabled userId row =>
    cases row with
    | some row => exact .saved env enabled userId (some row) _
    | none =>
      simp only [next]
      split
      · exact .saved env enabled userId none _
      · exact .read rfl rfl
  | saved env row =>
    have hpublish : ∀ (body : MessageBody) (u : TenantDb), ∃ messages,
        (publish env "tenant.feature-toggled" body noFaults 0 u).2.2 = { u with messages } := by
      intro body u
      obtain ⟨messages, h⟩ := publish_then env "tenant.feature-toggled" body 0 u (pure ())
      exact ⟨messages, congrArg (·.2.2) h⟩
    obtain ⟨messages, hpublished⟩ := hpublish (.tenantFeatureToggled tenantId featureCode
      row.isEnabled env.now) (db.withRedis (redisDel [cacheKey tenantId featureCode]))
    simp only [next, hpublished]
    exact .deleted env row rfl rfl rfl
  | toggled row => exact .read rfl rfl
  | failed e => exact .read rfl rfl

theorem cachedOf_filled (now setAt : ℤ) (enabled : Bool) (db : TenantDb) {cached : String}
    (h : cachedOf now tenantId featureCode (db.withRedis (redisSetex setAt
      (cacheKey tenantId featureCode) cacheTtlSeconds (flag enabled))) = some cached) :
    cached = flag enabled := by
  obtain ⟨-, hcached⟩ | ⟨hne, -⟩ := redisGet_setex _ _ _ _ _ _ _ h
  · exact hcached
  · exact absurd rfl hne

theorem cachedOf_filled_at (setAt : ℤ) (enabled : Bool) (db : TenantDb) :
    cachedOf setAt tenantId featureCode (db.withRedis (redisSetex setAt
      (cacheKey tenantId featureCode) cacheTtlSeconds (flag enabled))) = some (flag enabled) := by
  have hlive : setAt < setAt + cacheTtlSeconds * 1000 := by
    unfold cacheTtlSeconds
    omega
  simp [cachedOf, redisGet, redisSetex, TenantDb.withRedis, hlive]

section Step

variable {p : FeaturePool} {k : ℕ} {c c' : FeatureThread}

/-- A toggle stays pending through another's step. -/
theorem Pending.step (h : Pending p) (hk : p.threads[k]? = some c)
    (hc : c.awaitsDeletion = false) :
    Pending (p.step (FeatureThread.next tenantId featureCode) k) := by
  obtain ⟨c', hmem, hawaits⟩ := h
  refine ⟨c', Pool.mem_step_of_ne hk hmem ?_, hawaits⟩
  rintro rfl
  rw [hc] at hawaits
  cases hawaits

theorem Pending.of_set {db : TenantDb} (h : Pending ⟨db, p.threads.set k c'⟩)
    (hc' : c'.awaitsDeletion = false) : Pending p := by
  obtain ⟨c, hmem, hawaits⟩ := h
  rcases List.mem_or_eq_of_mem_set hmem with hmem | rfl
  · exact ⟨c, hmem, hawaits⟩
  · rw [hc'] at hawaits
    cases hawaits

theorem fillsRight_of_not_filling (hk : p.threads[k]? = some c) (hc : c.filling = none) :
    FillsRight tenantId featureCode p k := by
  intro d hd enabled he
  obtain rfl : c = d := Option.some.inj (hk.symm.trans hd)
  rw [hc] at he
  cases he

/-- A step keeps the cache coherent if and only if it fills no cache wrongly. -/
theorem coherent_step_iff (hp : Coherent tenantId featureCode p) (k : ℕ) :
    FillsRight tenantId featureCode p k ↔
      Coherent tenantId featureCode (p.step (FeatureThread.next tenantId featureCode) k) := by
  cases hk : p.threads[k]? with
  | none =>
    rw [Pool.step_none hk]
    exact iff_of_true (fun c hc => nomatch hk.symm.trans hc) hp
  | some c =>
    have hkeep := fun (hc : c.awaitsDeletion = false) (h : Pending p) =>
      @Pending.step tenantId featureCode p k c h hk hc
    have hstep := @FeatureThread.next_step tenantId featureCode p.shared c
    have hset : k < p.threads.length := (List.getElem?_eq_some_iff.mp hk).1
    rw [Pool.step_some hk] at hkeep ⊢
    generalize FeatureThread.next tenantId featureCode p.shared c = after at hstep hkeep ⊢
    obtain ⟨u, c'⟩ := after
    cases hstep with
    | read unsaved unfilled =>
      refine iff_of_true (fillsRight_of_not_filling hk unfilled) ?_
      exact hp.imp (hkeep unsaved) id
    | filled setAt enabled =>
      constructor
      · intro h
        refine (h _ hk enabled rfl).symm.imp (hkeep rfl) fun he now cached hcached => ?_
        rw [cachedOf_filled _ _ _ _ hcached, flag_eq, he]
        rfl
      · intro h d hd enabled' he
        cases hk.symm.trans hd
        cases he
        refine h.symm.imp (fun hright => ?_) fun hpending => hpending.of_set rfl
        have hnow := hright setAt (flag enabled) (cachedOf_filled_at _ _ _)
        rwa [flag_eq] at hnow
    | saved env enabled userId found row =>
      refine iff_of_true (fillsRight_of_not_filling hk rfl) (Or.inl ?_)
      exact ⟨.saved env row, List.mem_set hset _, rfl⟩
    | deleted env row rows definitions redis =>
      refine iff_of_true (fillsRight_of_not_filling hk rfl) (Or.inr fun now cached hcached => ?_)
      rw [cachedOf, redis, redisGet_del, if_pos (List.mem_singleton_self _)] at hcached
      cases hcached

end Step

/-! ## Runs -/

/-- In any schedule: outside the time between a toggle's save and its deletion the cache is right,
    throughout, if and only if every fill writes what is stored or comes in that time. -/
theorem coherent_iff {p : FeaturePool} (hp : Coherent tenantId featureCode p)
    (schedule : List ℕ) :
    StepsSatisfy (Pool.step (FeatureThread.next tenantId featureCode))
        (FillsRight tenantId featureCode) p schedule ↔
      ∀ n, Coherent tenantId featureCode
        (run (Pool.step (FeatureThread.next tenantId featureCode)) p (schedule.take n)) :=
  stepsSatisfy_iff (I := fun _ => True) (L := Coherent tenantId featureCode) (fun _ _ _ => trivial)
    (fun _ k _ hp => coherent_step_iff hp k) trivial hp schedule

theorem FeatureThread.next_quiet {c : FeatureThread} (hc : c.toggling = false) (db : TenantDb) :
    (c.next tenantId featureCode db).2.toggling = false ∧
      (c.next tenantId featureCode db).1.tenantFeatures = db.tenantFeatures ∧
      (c.next tenantId featureCode db).1.featureDefinitions = db.featureDefinitions := by
  cases c with
  | asks getAt setAt =>
    simp only [next]
    split
    · exact ⟨rfl, rfl, rfl⟩
    · exact ⟨rfl, rfl, rfl⟩
  | missed setAt =>
    simp only [next]
    split
    · exact ⟨rfl, rfl, rfl⟩
    · exact ⟨rfl, rfl, rfl⟩
  | noOverride setAt => exact ⟨rfl, rfl, rfl⟩
  | fills setAt enabled => exact ⟨rfl, rfl, rfl⟩
  | answered enabled => exact ⟨rfl, rfl, rfl⟩
  | toggled row => exact ⟨rfl, rfl, rfl⟩
  | failed e => exact ⟨rfl, rfl, rfl⟩
  | toggles env enabled userId => exact nomatch hc
  | known env enabled userId => exact nomatch hc
  | found env enabled userId row => exact nomatch hc
  | saved env row => exact nomatch hc

/-- A question that has read nothing but what is stored now. -/
def FeatureThread.OnTrack (tenantId featureCode : String) (db : TenantDb) : FeatureThread → Prop
  | .asks _ _ | .missed _ => True
  | .noOverride _ => tenantFeature tenantId featureCode db.tenantFeatures = none
  | .fills _ enabled | .answered enabled => enabled = settingOf tenantId featureCode db
  | _ => False

namespace FeatureThread.OnTrack

variable {db : TenantDb} {c : FeatureThread}

theorem next (h : c.OnTrack tenantId featureCode db)
    (hright : CachedRight tenantId featureCode db) :
    (c.next tenantId featureCode db).2.OnTrack tenantId featureCode db := by
  cases c with
  | asks getAt setAt =>
    simp only [FeatureThread.next]
    split
    next cached hcached => exact hright getAt cached hcached
    next => exact trivial
  | missed setAt =>
    simp only [FeatureThread.next]
    split
    next override hrow =>
      show override.isEnabled = settingOf tenantId featureCode db
      rw [settingOf, hrow]
      rfl
    next hnone => exact hnone
  | noOverride setAt =>
    show _ = settingOf tenantId featureCode db
    rw [settingOf, show tenantFeature tenantId featureCode db.tenantFeatures = none from h]
    rfl
  | fills setAt enabled => exact h
  | answered enabled => exact h
  | toggles env enabled userId => exact h.elim
  | known env enabled userId => exact h.elim
  | found env enabled userId row => exact h.elim
  | saved env row => exact h.elim
  | toggled row => exact h.elim
  | failed e => exact h.elim

theorem congr {u : TenantDb} (h : c.OnTrack tenantId featureCode db)
    (rows : u.tenantFeatures = db.tenantFeatures)
    (definitions : u.featureDefinitions = db.featureDefinitions) :
    c.OnTrack tenantId featureCode u := by
  have hsetting : settingOf tenantId featureCode u = settingOf tenantId featureCode db :=
    settingOf_congr (by rw [rows]) definitions
  cases c with
  | noOverride setAt => exact (congrArg _ rows).trans h
  | fills setAt enabled => exact Eq.trans h hsetting.symm
  | answered enabled => exact Eq.trans h hsetting.symm
  | _ => exact h

end FeatureThread.OnTrack

/-- After the toggles: thread `k` is on track. -/
structure Settled (tenantId featureCode : String) (k : ℕ) (p : FeaturePool) : Prop where
  quiet : Quiet p
  cached : CachedRight tenantId featureCode p.shared
  thread : ∃ c, p.threads[k]? = some c ∧ c.OnTrack tenantId featureCode p.shared

theorem Quiet.cachedRight {p : FeaturePool} (hq : Quiet p)
    (hp : Coherent tenantId featureCode p) : CachedRight tenantId featureCode p.shared := by
  refine hp.resolve_left ?_
  rintro ⟨c, hmem, hawaits⟩
  cases c with
  | saved env row => exact nomatch hq _ hmem
  | _ => cases hawaits

theorem Settled.step {k : ℕ} {p : FeaturePool} (h : Settled tenantId featureCode k p) {j : ℕ}
    (hj : FillsRight tenantId featureCode p j) :
    Settled tenantId featureCode k (p.step (FeatureThread.next tenantId featureCode) j) := by
  obtain ⟨c, hk, htrack⟩ := h.thread
  have hk' := @Pool.step_getElem? _ _ (FeatureThread.next tenantId featureCode) p j k c hk
  have hcoherent := (coherent_step_iff (Or.inr h.cached) j).mp hj
  cases hthread : p.threads[j]? with
  | none =>
    rw [Pool.step_none hthread]
    exact h
  | some d =>
    obtain ⟨hquiet, rows, definitions⟩ := @FeatureThread.next_quiet tenantId featureCode d
      (h.quiet d (List.mem_of_getElem? hthread)) p.shared
    have hdone : Quiet (p.step (FeatureThread.next tenantId featureCode) j) := by
      rw [Pool.step_some hthread]
      intro e he
      rcases List.mem_or_eq_of_mem_set he with he | rfl
      · exact h.quiet e he
      · exact hquiet
    refine ⟨hdone, hdone.cachedRight hcoherent, _, hk', ?_⟩
    rw [Pool.step_some hthread]
    refine FeatureThread.OnTrack.congr ?_ rows definitions
    split
    · exact htrack.next h.cached
    · exact htrack

theorem FeatureThread.stepsLeft_next (db : TenantDb) (c : FeatureThread) :
    (c.next tenantId featureCode db).2.stepsLeft ≤ c.stepsLeft - 1 := by
  cases c with
  | asks getAt setAt =>
    simp only [next]
    split
    · exact Nat.zero_le _
    · exact Nat.le_refl _
  | missed setAt =>
    simp only [next]
    split
    · exact Nat.le_succ _
    · exact Nat.le_refl _
  | toggles env enabled userId =>
    simp only [next]
    split <;> exact Nat.le_refl _
  | found env enabled userId row =>
    cases row with
    | some row => exact Nat.le_refl _
    | none =>
      simp only [next]
      split <;> exact Nat.le_refl _
  | _ => exact Nat.le_refl _

/-- In every run from a right cache, of any number of calls, whose fills all write what is stored or
    come between a toggle's save and its deletion: a question that starts when all toggles have
    completed is answered with what is stored, after four steps of its own at the latest. -/
theorem answers_stored {p : FeaturePool} (hcached : CachedRight tenantId featureCode p.shared)
    {before after : List ℕ}
    (hfills : StepsSatisfy (Pool.step (FeatureThread.next tenantId featureCode))
      (FillsRight tenantId featureCode) p (before ++ after))
    (hquiet : Quiet (run (Pool.step (FeatureThread.next tenantId featureCode)) p before))
    {k : ℕ} {getAt setAt : ℤ}
    (hasks : (run (Pool.step (FeatureThread.next tenantId featureCode)) p before).threads[k]? =
      some (.asks getAt setAt)) :
    let q := run (Pool.step (FeatureThread.next tenantId featureCode)) p (before ++ after)
    (∀ enabled, q.threads[k]? = some (.answered enabled) →
      enabled = settingOf tenantId featureCode q.shared) ∧
    (4 ≤ after.count k →
      q.threads[k]? = some (.answered (settingOf tenantId featureCode q.shared))) := by
  intro q
  obtain ⟨hbefore, hafter⟩ := stepsSatisfy_append.mp hfills
  have hcoherent : Coherent tenantId featureCode
      (run (Pool.step (FeatureThread.next tenantId featureCode)) p before) := by
    have h := (coherent_iff (Or.inr hcached) before).mp hbefore before.length
    rwa [List.take_length] at h
  have hq : q = run _ (run _ p before) after := run_append _ p before after
  have hsettled : Settled tenantId featureCode k q := by
    rw [hq]
    exact run_invariant_of (fun _ _ h hj => h.step hj)
      ⟨hquiet, hquiet.cachedRight hcoherent, _, hasks, trivial⟩ hafter
  obtain ⟨c, hk, htrack⟩ := hsettled.thread
  obtain ⟨c', hk', hleft⟩ := Pool.run_measure
    (@FeatureThread.stepsLeft_next tenantId featureCode) hasks after
  rw [← hq] at hk'
  obtain rfl : c = c' := Option.some.inj (hk.symm.trans hk')
  constructor
  · intro enabled h
    obtain rfl := Option.some.inj (hk.symm.trans h)
    exact htrack
  · intro hsteps
    have hnone : c.stepsLeft = 0 := by
      have hfour : (FeatureThread.asks getAt setAt).stepsLeft = 4 := rfl
      omega
    rw [hk]
    cases c with
    | answered enabled => exact congrArg (fun e => some (FeatureThread.answered e)) htrack
    | asks getAt setAt => cases hnone
    | missed setAt => cases hnone
    | noOverride setAt => cases hnone
    | fills setAt enabled => cases hnone
    | _ => exact htrack.elim

namespace Sample

/-- The tenant has no row of the election feature, which is off by default. -/
def opened : TenantDb := cacheSeed.next strings (.call creating)

def oneToggle : FeaturePool :=
  ⟨opened, [.toggles env true "u1", .asks 2000 2000]⟩

/-- A question comes before the toggle. -/
def twoQuestions : FeaturePool :=
  ⟨opened, [.asks 1000 1000, .toggles env true "u1", .asks 2000 2000]⟩

theorem opened_right : CachedRight "t1" "module.election" opened := by
  have hnone : opened.redis = [] := by decide +kernel
  intro now cached hcached
  rw [cachedOf, hnone] at hcached
  cases hcached

end Sample

theorem answers_stored_sample :
    let q := run (Pool.step (FeatureThread.next "t1" "module.election")) Sample.oneToggle
      ([0, 0, 0, 0] ++ [1, 1, 1, 1])
    q.threads[1]? = some (.answered (settingOf "t1" "module.election" q.shared)) :=
  (@answers_stored "t1" "module.election" Sample.oneToggle Sample.opened_right [0, 0, 0, 0]
    [1, 1, 1, 1] (by decide +kernel) (by decide +kernel) 1 2000 2000 (by decide +kernel)).2
    (by decide)

/-- The first question reads before the toggle's save and fills the cache after its deletion. The
    toggle has completed when the second question starts, and it is answered with the old
    setting. -/
theorem answered_stale :
    let after := run (Pool.step (FeatureThread.next "t1" "module.election")) Sample.twoQuestions
    CachedRight "t1" "module.election" Sample.twoQuestions.shared ∧
      Quiet (after [0, 0, 0, 1, 1, 1, 1]) ∧
      (after [0, 0, 0, 1, 1, 1, 1]).threads[2]? = some (.asks 2000 2000) ∧
      (after [0, 0, 0, 1, 1, 1, 1, 0, 2]).threads[2]? = some (.answered false) ∧
      settingOf "t1" "module.election" (after [0, 0, 0, 1, 1, 1, 1, 0, 2]).shared = true :=
  ⟨Sample.opened_right, by decide +kernel, by decide +kernel, by decide +kernel,
    by decide +kernel⟩

end SaasChassis.Tenants
