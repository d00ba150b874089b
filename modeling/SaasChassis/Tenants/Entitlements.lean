/-
  What a tenant is entitled to, as functions of the state, and what the features service does
  to it when no call fails.

  `settingOf` is what the tables say of a feature, `answerOf` lays the cache over it;
  `isFeatureEnabled_answer` connects them to the code. `replaceTenantFeatures_eq`: the tenant's
  rows become those of the codes up to the first that is unknown or there twice (`insertable`),
  and the method throws if that are not all. `upsertTenantFeature_eq`: one row is set.
  `invalidate_eq`: no key of the tenant is left.
-/
import SaasChassis.Tenants.FeaturesService

namespace SaasChassis.Tenants

open SaasChassis.Lib Faulty

/-! ## Reads -/

def defaultOf (featureCode : String) (definitions : List FeatureDefinition) : Bool :=
  ((definitionByCode featureCode definitions).map (·.defaultEnabled)).getD false

def settingOf (tenantId featureCode : String) (db : TenantDb) : Bool :=
  ((tenantFeature tenantId featureCode db.tenantFeatures).map (·.isEnabled)).getD
    (defaultOf featureCode db.featureDefinitions)

def cachedOf (now : ℤ) (tenantId featureCode : String) (db : TenantDb) : Option String :=
  redisGet now (cacheKey tenantId featureCode) db.redis

def answerOf (now : ℤ) (tenantId featureCode : String) (db : TenantDb) : Bool :=
  ((cachedOf now tenantId featureCode db).map (· == "1")).getD (settingOf tenantId featureCode db)

/-- The codes of the tenant's rows that are on. -/
def enabledCodes (tenantId : String) (db : TenantDb) : List String :=
  (db.tenantFeatures.filter fun row => row.tenantId = tenantId && row.isEnabled).map (·.featureCode)

theorem isFeatureEnabled_answer (env : Env) (tenantId featureCode : String) (db : TenantDb) :
    (isFeatureEnabled env tenantId featureCode noFaults 0 db).1 =
      .ok (answerOf env.now tenantId featureCode db) := by
  unfold isFeatureEnabled answerOf cachedOf settingOf defaultOf
  rw [query_bind_noFaults]
  cases redisGet env.now (cacheKey tenantId featureCode) db.redis with
  | some cached => rfl
  | none =>
    simp only [query_bind_noFaults]
    cases tenantFeature tenantId featureCode db.tenantFeatures with
    | some override => rfl
    | none => rfl

/-! ## One row for a tenant and a feature -/

def rowKey (row : TenantFeature) : String × String := (row.tenantId, row.featureCode)

def UniqueRows (rows : List TenantFeature) : Prop := (rows.map rowKey).Nodup

theorem tenantFeature_eq_some {tenantId code : String} {rows : List TenantFeature}
    {row : TenantFeature} (h : tenantFeature tenantId code rows = some row) :
    row ∈ rows ∧ row.tenantId = tenantId ∧ row.featureCode = code := by
  have hp := List.find?_some h
  simp only [Bool.and_eq_true, decide_eq_true_eq] at hp
  exact ⟨List.mem_of_find?_eq_some h, hp⟩

theorem tenantFeature_of_mem {rows : List TenantFeature} (hu : UniqueRows rows)
    {row : TenantFeature} (h : row ∈ rows) :
    tenantFeature row.tenantId row.featureCode rows = some row := by
  cases hf : tenantFeature row.tenantId row.featureCode rows with
  | none => exact absurd (List.find?_eq_none.mp hf row h) (by simp)
  | some row' =>
    obtain ⟨hmem, htenant, hcode⟩ := tenantFeature_eq_some hf
    rw [nodup_keys_inj hu hmem h (Prod.ext htenant hcode)]

theorem notMem_keys_of_none {tenantId code : String} {rows : List TenantFeature}
    (h : tenantFeature tenantId code rows = none) : (tenantId, code) ∉ rows.map rowKey := by
  intro hmem
  obtain ⟨row, hrow, hkey⟩ := List.mem_map.mp hmem
  have hno := List.find?_eq_none.mp h row hrow
  rw [rowKey, Prod.mk.injEq] at hkey
  simp [hkey.1, hkey.2] at hno

/-- With one row for each code, the first and the last are the same. -/
theorem lastRow_eq {rows : List TenantFeature} (hu : UniqueRows rows) (tenantId code : String) :
    (rows.filter (·.tenantId = tenantId)).reverse.find? (·.featureCode = code) =
      tenantFeature tenantId code rows := by
  cases hf : (rows.filter (·.tenantId = tenantId)).reverse.find? (·.featureCode = code) with
  | some row =>
    have hmem := List.mem_filter.mp (List.mem_reverse.mp (List.mem_of_find?_eq_some hf))
    obtain rfl : row.tenantId = tenantId := of_decide_eq_true hmem.2
    obtain rfl : row.featureCode = code := by simpa using List.find?_some hf
    exact (tenantFeature_of_mem hu hmem.1).symm
  | none =>
    refine (List.find?_eq_none.mpr fun row hrow => ?_).symm
    have hno := List.find?_eq_none.mp hf row
    simp only [List.mem_reverse, List.mem_filter, decide_eq_true_eq] at hno
    simpa using fun htenant hcode => hno ⟨hrow, htenant⟩ hcode

/-! ## Setting one row -/

/-- `rows'` is `rows` with `saved` for the row of the feature. -/
structure SetRow (tenantId featureCode : String) (saved : TenantFeature)
    (rows rows' : List TenantFeature) : Prop where
  own : tenantFeature tenantId featureCode rows' = some saved
  others : ∀ t f, ¬(t = tenantId ∧ f = featureCode) →
    tenantFeature t f rows' = tenantFeature t f rows
  unique : UniqueRows rows → UniqueRows rows'

theorem setRow_saved {tenantId featureCode : String} {rows : List TenantFeature}
    {row saved : TenantFeature} (found : tenantFeature tenantId featureCode rows = some row)
    (hkey : rowKey saved = (tenantId, featureCode)) :
    SetRow tenantId featureCode saved rows (saveTenantFeatureRow saved rows) := by
  obtain ⟨htenant, hcode⟩ := Prod.mk.inj hkey
  have hfind : ∀ t f, tenantFeature t f (saveTenantFeatureRow saved rows) =
      (tenantFeature t f rows).map fun r => if rowKey r = rowKey saved then saved else r := by
    intro t f
    refine find?_updateKey fun r _ hr => ?_
    obtain ⟨hr1, hr2⟩ := Prod.mk.inj hr
    rw [hr1, hr2]
  refine ⟨?_, fun t f hne => ?_, fun hu => ?_⟩
  · obtain ⟨-, h1, h2⟩ := tenantFeature_eq_some found
    have hrow : rowKey row = rowKey saved := (congrArg₂ Prod.mk h1 h2).trans hkey.symm
    rw [hfind, found, Option.map_some, if_pos hrow]
  · rw [hfind]
    cases hf : tenantFeature t f rows with
    | none => rfl
    | some r =>
      obtain ⟨-, h1, h2⟩ := tenantFeature_eq_some hf
      have hother : rowKey r ≠ rowKey saved := by
        rw [hkey]
        exact fun he => hne ⟨h1.symm.trans (Prod.mk.inj he).1, h2.symm.trans (Prod.mk.inj he).2⟩
      rw [Option.map_some, if_neg hother]
  · have hkeys : (saveTenantFeatureRow saved rows).map rowKey = rows.map rowKey :=
      map_key_updateKey (fun r hr => rfl) rows
    unfold UniqueRows
    rwa [hkeys]

theorem setRow_inserted {db u : TenantDb} {row : TenantFeature}
    (h : insertTenantFeature row db = .ok u) :
    u = db.withTenantFeatures (· ++ [row]) ∧ (tenantById row.tenantId db.tenants).isSome ∧
      SetRow row.tenantId row.featureCode row db.tenantFeatures u.tenantFeatures := by
  unfold insertTenantFeature at h
  split at h
  · cases h
  next hnew =>
    split at h
    next hkeys =>
      cases h
      have hnone : tenantFeature row.tenantId row.featureCode db.tenantFeatures = none := by
        simpa using hnew
      refine ⟨rfl, (Bool.and_eq_true _ _ ▸ hkeys).1, ?_, fun t f hne => ?_, fun hu => ?_⟩
      · show List.find? _ (_ ++ _) = _
        rw [List.find?_append, show List.find? _ db.tenantFeatures = none from hnone]
        simp
      · show List.find? _ (_ ++ _) = _
        have hno : ¬(row.tenantId = t ∧ row.featureCode = f) := fun h => hne ⟨h.1.symm, h.2.symm⟩
        rw [List.find?_append]
        simp [hno, tenantFeature]
      · show ((db.tenantFeatures ++ [row]).map rowKey).Nodup
        rw [List.map_append, List.map_singleton, ← List.concat_eq_append, List.nodup_concat]
        exact ⟨notMem_keys_of_none hnone, hu⟩
    next => cases h

theorem upsertTenantFeature_eq (tenantId featureCode : String) (enabled : Bool) (userId : String)
    (n : ℕ) (db : TenantDb) :
    (∃ e k, upsertTenantFeature tenantId featureCode enabled userId noFaults n db =
      (.error e, k, db)) ∨
    ∃ saved k rows, upsertTenantFeature tenantId featureCode enabled userId noFaults n db =
        (.ok saved, k, db.withTenantFeatures fun _ => rows) ∧
      saved.isEnabled = enabled ∧ SetRow tenantId featureCode saved db.tenantFeatures rows ∧
      ((tenantFeature tenantId featureCode db.tenantFeatures).isSome ∨
        (tenantById tenantId db.tenants).isSome) := by
  unfold upsertTenantFeature
  rw [query_bind_noFaults]
  cases hfound : tenantFeature tenantId featureCode db.tenantFeatures with
  | some row =>
    obtain ⟨-, htenant, hcode⟩ := tenantFeature_eq_some hfound
    refine Or.inr ⟨_, n + 2, _, rfl, rfl, ?_, Or.inl rfl⟩
    exact setRow_saved hfound (Prod.ext htenant hcode)
  | none =>
    let saved : TenantFeature :=
      { tenantId, featureCode, isEnabled := enabled, enabledBy := some userId }
    cases hins : insertTenantFeature saved db with
    | error e => exact Or.inl ⟨e, n + 2, execute_bind_refused hins _⟩
    | ok u =>
      obtain ⟨rfl, howner, hset⟩ := setRow_inserted hins
      exact Or.inr ⟨saved, n + 2, _, execute_bind_noFaults hins _, rfl, hset, Or.inr howner⟩

/-! ## Replacing the rows -/

def enabledRow (tenantId userId featureCode : String) : TenantFeature :=
  { tenantId, featureCode, isEnabled := true, enabledBy := some userId }

/-- The codes up to the first that is not defined or there already. -/
def insertable (definitions : List FeatureDefinition) : List String → List String → List String
  | _, [] => []
  | before, code :: codes =>
    if code ∈ before ∨ definitionByCode code definitions = none then []
    else code :: insertable definitions (code :: before) codes

section Replace

variable {tenantId userId : String}

theorem tenantFeature_append (code code' : String) (rows : List TenantFeature) :
    (tenantFeature tenantId code (rows ++ [enabledRow tenantId userId code'])).isSome ↔
      (tenantFeature tenantId code rows).isSome ∨ code = code' := by
  unfold tenantFeature
  rw [List.find?_append, Option.isSome_or, Bool.or_eq_true]
  refine or_congr_right ?_
  rw [List.find?_singleton]
  by_cases hc : code = code'
  · simp [enabledRow, hc]
  · simp [enabledRow, hc, Ne.symm hc]

def TenantDb.addRows (db : TenantDb) (rows : List TenantFeature) : TenantDb :=
  db.withTenantFeatures (· ++ rows)

theorem addRows_nil (db : TenantDb) : db.addRows [] = db :=
  congrArg (fun rows => { db with tenantFeatures := rows }) (List.append_nil db.tenantFeatures)

theorem addRows_addRows (db : TenantDb) (rows rows' : List TenantFeature) :
    (db.addRows rows).addRows rows' = db.addRows (rows ++ rows') :=
  congrArg (fun rows => { db with tenantFeatures := rows })
    (List.append_assoc db.tenantFeatures rows rows')

/-- `before` are the codes that the tenant has rows of. -/
theorem saveTenantFeatures_eq {db : TenantDb} (ht : (tenantById tenantId db.tenants).isSome)
    {before : List String}
    (h : ∀ c, (tenantFeature tenantId c db.tenantFeatures).isSome ↔ c ∈ before)
    (codes : List String) (n : ℕ) :
    ∃ r k, saveTenantFeatures tenantId userId codes noFaults n db =
        (r, k, db.addRows
          ((insertable db.featureDefinitions before codes).map (enabledRow tenantId userId))) ∧
      (r = .ok () ↔ insertable db.featureDefinitions before codes = codes) := by
  induction codes generalizing db before n with
  | nil =>
    refine ⟨.ok (), n, ?_, by simp [insertable]⟩
    rw [insertable, List.map_nil, addRows_nil]
    rfl
  | cons code codes ih =>
    unfold insertable saveTenantFeatures
    split
    next hstop =>
      obtain ⟨e, he⟩ : ∃ e,
          insertTenantFeature (enabledRow tenantId userId code) db = .error e := by
        unfold insertTenantFeature
        obtain hmem | hnone := hstop
        · exact ⟨_, if_pos ((h code).mpr hmem)⟩
        · split
          · exact ⟨_, rfl⟩
          · exact ⟨_, if_neg (by simp [enabledRow, hnone])⟩
      refine ⟨.error e, n + 1, ?_, by simp⟩
      rw [List.map_nil, addRows_nil]
      exact execute_bind_refused he _
    next hgo =>
      obtain ⟨hnew, hdefined⟩ := not_or.mp hgo
      have hinsert : insertTenantFeature (enabledRow tenantId userId code) db =
          .ok (db.addRows [enabledRow tenantId userId code]) := by
        refine (if_neg fun hs => hnew ((h code).mp hs)).trans (if_pos ?_)
        exact Bool.and_eq_true_iff.mpr ⟨ht, Option.isSome_iff_ne_none.mpr hdefined⟩
      have hbefore : ∀ c, (tenantFeature tenantId c
          (db.tenantFeatures ++ [enabledRow tenantId userId code])).isSome ↔
            c ∈ code :: before := by
        intro c
        rw [tenantFeature_append, h c, List.mem_cons, or_comm]
      obtain ⟨r, k, hrun, hr⟩ :=
        @ih (db.addRows [enabledRow tenantId userId code]) ht (code :: before) hbefore (n + 1)
      refine ⟨r, k, ?_, hr.trans (List.cons_inj_right code).symm⟩
      rw [List.map_cons, ← List.singleton_append, ← addRows_addRows]
      exact (execute_bind_noFaults hinsert _).trans hrun

/-- The tenant's rows are those that could be inserted. -/
def replaceRows (tenantId userId : String) (codes : List String) (db : TenantDb) : TenantDb :=
  db.withTenantFeatures fun rows => rows.filter (·.tenantId ≠ tenantId) ++
    (insertable db.featureDefinitions [] codes).map (enabledRow tenantId userId)

theorem tenantFeature_deleted (code : String) (rows : List TenantFeature) :
    tenantFeature tenantId code (rows.filter (·.tenantId ≠ tenantId)) = none := by
  refine List.find?_eq_none.mpr fun row hrow => ?_
  simp [of_decide_eq_true (List.mem_filter.mp hrow).2]

/-- The codes of a list that is synced, in the order in which they are inserted. -/
def inserted (codes : Option (List String)) (db : TenantDb) : List String :=
  insertable db.featureDefinitions [] (codes.getD [])

theorem replaceTenantFeatures_eq {db : TenantDb} (ht : (tenantById tenantId db.tenants).isSome)
    (codes : Option (List String)) (n : ℕ) :
    ∃ r k, replaceTenantFeatures tenantId codes userId noFaults n db =
        (r, k, replaceRows tenantId userId (codes.getD []) db) ∧
      (r = .ok () ↔ codes = some (inserted codes db)) := by
  cases codes with
  | none =>
    refine ⟨.error (.failed "featureCodes is not iterable"), n + 1, ?_, by simp⟩
    have hrows : replaceRows tenantId userId [] db =
        db.withTenantFeatures (·.filter (·.tenantId ≠ tenantId)) := by
      simp [replaceRows, insertable]
    exact hrows ▸ rfl
  | some codes =>
    have hnone : ∀ c, (tenantFeature tenantId c
        (db.tenantFeatures.filter (·.tenantId ≠ tenantId))).isSome ↔ c ∈ ([] : List String) := by
      intro c
      rw [tenantFeature_deleted]
      simp
    obtain ⟨r, k, hrun, hr⟩ := @saveTenantFeatures_eq _ _
      (db.withTenantFeatures (·.filter (·.tenantId ≠ tenantId))) ht [] hnone codes (n + 1)
    exact ⟨r, k, hrun, hr.trans (eq_comm.trans (Option.some_inj).symm)⟩

theorem enabledCodes_replaceRows (codes : List String) (db : TenantDb) :
    enabledCodes tenantId (replaceRows tenantId userId codes db) =
      insertable db.featureDefinitions [] codes := by
  have hothers : (db.tenantFeatures.filter (·.tenantId ≠ tenantId)).filter
      (fun row => row.tenantId = tenantId && row.isEnabled) = [] := by
    refine List.filter_eq_nil_iff.mpr fun row hrow => ?_
    simp [of_decide_eq_true (List.mem_filter.mp hrow).2]
  have hown : ∀ cs : List String, (cs.map (enabledRow tenantId userId)).filter
      (fun row => row.tenantId = tenantId && row.isEnabled) =
        cs.map (enabledRow tenantId userId) := by
    intro cs
    refine List.filter_eq_self.mpr fun row hrow => ?_
    obtain ⟨c, _, rfl⟩ := List.mem_map.mp hrow
    simp [enabledRow]
  show List.map _ (List.filter _ (_ ++ _)) = _
  rw [List.filter_append, hothers, hown, List.nil_append, List.map_map]
  exact List.map_id _

theorem settingOf_replaceRows (codes : List String) (db : TenantDb) (code : String) :
    settingOf tenantId code (replaceRows tenantId userId codes db) =
      (decide (code ∈ insertable db.featureDefinitions [] codes) ||
        defaultOf code db.featureDefinitions) := by
  have hrow : tenantFeature tenantId code (replaceRows tenantId userId codes db).tenantFeatures =
      ((insertable db.featureDefinitions [] codes).map (enabledRow tenantId userId)).find?
        fun row => row.tenantId = tenantId && row.featureCode = code := by
    have hdeleted := @tenantFeature_deleted tenantId code db.tenantFeatures
    unfold tenantFeature at hdeleted ⊢
    exact List.find?_append.trans (by rw [hdeleted, Option.none_or])
  unfold settingOf
  rw [hrow]
  generalize insertable db.featureDefinitions [] codes = synced
  cases hf : (synced.map (enabledRow tenantId userId)).find?
      fun row => row.tenantId = tenantId && row.featureCode = code with
  | some row =>
    obtain ⟨c, hc, rfl⟩ := List.mem_map.mp (List.mem_of_find?_eq_some hf)
    have hcode := List.find?_some hf
    obtain rfl : c = code := of_decide_eq_true (Bool.and_eq_true_iff.mp hcode).2
    rw [decide_eq_true hc]
    rfl
  | none =>
    have hnot : code ∉ synced := by
      intro hmem
      exact List.find?_eq_none.mp hf _ (List.mem_map_of_mem hmem) (by simp [enabledRow])
    simp [hnot, replaceRows, TenantDb.withTenantFeatures]

theorem insertable_nodup (definitions : List FeatureDefinition) (codes : List String) :
    ∀ before, (insertable definitions before codes).Nodup ∧
      ∀ c ∈ insertable definitions before codes, c ∉ before := by
  induction codes with
  | nil => exact fun before => ⟨List.nodup_nil, fun c hc => absurd hc List.not_mem_nil⟩
  | cons code codes ih =>
    intro before
    unfold insertable
    split
    · exact ⟨List.nodup_nil, fun c hc => absurd hc List.not_mem_nil⟩
    next hgo =>
      obtain ⟨hnd, hnew⟩ := ih (code :: before)
      refine ⟨List.nodup_cons.mpr ⟨fun h => hnew code h List.mem_cons_self, hnd⟩, fun c hc => ?_⟩
      rcases List.mem_cons.mp hc with rfl | hc
      · exact fun h => hgo (Or.inl h)
      · exact fun h => hnew c hc (List.mem_cons_of_mem _ h)

/-- The rows of other tenants stay. -/
theorem tenantFeature_replaceRows_other {t : String} (ht : t ≠ tenantId) (f : String)
    (codes : List String) (db : TenantDb) :
    tenantFeature t f (replaceRows tenantId userId codes db).tenantFeatures =
      tenantFeature t f db.tenantFeatures := by
  show List.find? _ (_ ++ _) = _
  have hnone : ((insertable db.featureDefinitions [] codes).map
      (enabledRow tenantId userId)).find? (fun row => row.tenantId = t && row.featureCode = f) =
        none := by
    refine List.find?_eq_none.mpr fun row hrow => ?_
    obtain ⟨c, -, rfl⟩ := List.mem_map.mp hrow
    simp [enabledRow, Ne.symm ht]
  rw [List.find?_append, hnone, Option.or_none, List.find?_filter]
  unfold tenantFeature
  congr 1
  funext row
  by_cases h : row.tenantId = t <;> simp [h, ht]

theorem uniqueRows_replaceRows {db : TenantDb} (hu : UniqueRows db.tenantFeatures)
    (codes : List String) :
    UniqueRows (replaceRows tenantId userId codes db).tenantFeatures := by
  show (List.map rowKey (_ ++ _)).Nodup
  rw [List.map_append, List.nodup_append]
  refine ⟨hu.sublist (List.filter_sublist.map _), ?_, ?_⟩
  · rw [List.map_map]
    refine (insertable_nodup db.featureDefinitions codes []).1.map fun c c' h => ?_
    exact (Prod.mk.inj h).2
  · rintro k hk k' hk' rfl
    obtain ⟨row, hrow, rfl⟩ := List.mem_map.mp hk
    obtain ⟨row', hrow', hsame⟩ := List.mem_map.mp hk'
    obtain ⟨c, -, rfl⟩ := List.mem_map.mp hrow'
    have hother : row.tenantId ≠ tenantId := of_decide_eq_true (List.mem_filter.mp hrow).2
    exact hother (Prod.mk.inj hsame).1.symm

end Replace

/-! ## Invalidating the cache -/

theorem invalidate_eq (tenantId : String) (db : TenantDb) (n : ℕ) :
    ∃ k, invalidateTenantFeatureCache tenantId noFaults n db =
      (.ok (), k, db.withRedis (redisDel (redisScan (cacheKeys tenantId) db.redis))) := by
  unfold invalidateTenantFeatureCache
  rw [query_bind_noFaults]
  split
  next h =>
    refine ⟨n + 1, ?_⟩
    rw [List.isEmpty_iff.mp h]
    have hsame : db.withRedis (redisDel []) = db := by
      unfold TenantDb.withRedis redisDel
      simp
    rw [hsame]
    rfl
  next => exact ⟨n + 2, rfl⟩

theorem cachedOf_invalidated (now : ℤ) (tenantId featureCode : String) (db : TenantDb) :
    cachedOf now tenantId featureCode
      (db.withRedis (redisDel (redisScan (cacheKeys tenantId) db.redis))) = none := by
  unfold cachedOf redisGet
  rw [Option.map_eq_none_iff]
  refine List.find?_eq_none.mpr fun e he hkey => ?_
  obtain ⟨hmem, hkept⟩ := List.mem_filter.mp he
  have hkey' : e.key = cacheKey tenantId featureCode := by
    simpa using (Bool.and_eq_true_iff.mp hkey).1
  have hscan : e.key ∈ redisScan (cacheKeys tenantId) db.redis := by
    refine List.mem_filter.mpr ⟨List.mem_map_of_mem hmem, ?_⟩
    rw [hkey', cacheKey]
    simp
  simp [hscan] at hkept

end SaasChassis.Tenants
