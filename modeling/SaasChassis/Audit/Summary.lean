/-
  The statistics of the audit log (`GetSummary`) while entries are being stored.

  The four statements of `GetSummary` run in one transaction, but each has a snapshot of its own, and
  the consumer goes on inserting. `summary_consistent`: the counts by action are those of the second
  snapshot, so they add up to the total and the rows that came in between; each of them is what
  `ListEntries` reports for that action there; and no count of a later summary is lower.
-/
import SaasChassis.Audit.Pages
import SaasChassis.Lib.KeyedRows

namespace SaasChassis.Audit

open SaasChassis.Lib SaasChassis.Lib.Postgres

/-! ## GetSummary -/

structure AuditSummary where
  totalEntries : ℕ
  byAction : List (String × ℕ)
  byService : List (String × ℕ)
  last24Hours : ℕ

/-- `SELECT key, COUNT(*) ... GROUP BY key`, collected in a map. -/
def countBy (key : StoredEntry → String) (rows : List StoredEntry) : List (String × ℕ) :=
  (groupBy key rows).map fun g => (g.1, g.2.length)

/-- What the statements see, in their order. -/
structure Snapshots where
  total : List StoredEntry
  action : List StoredEntry
  service : List StoredEntry
  recent : List StoredEntry

/-- 24 hours in microseconds. -/
def day : ℤ := 86400000000

/-- The repository's `GetSummary`, in a transaction that began at `now`. -/
def summarize (lib : QueryLibraries) (now : ℤ) (snap : Snapshots) :
    Except QueryError AuditSummary :=
  let tc : TenantContext := ⟨"", true⟩
  if !lib.setLocal tc.tenantID then .error .setTenantID
  else if !lib.setLocal "true" then .error .setPlatformAdmin
  else .ok
    { totalEntries := (visibleRows tc snap.total).length
      byAction := countBy (·.entry.action.label) (visibleRows tc snap.action)
      byService := countBy (·.entry.serviceName.getD "")
        ((visibleRows tc snap.service).filter (·.entry.serviceName.isSome))
      last24Hours := ((visibleRows tc snap.recent).filter fun row => now - day < row.createdAt).length }

inductive SummaryResponse where
  | summary (data : AuditSummary)
  | refused (status : ℕ) (error : String)

def getSummary (lib : QueryLibraries) (now : ℤ) (snap : Snapshots) (req : ListRequest) :
    SummaryResponse :=
  match extractCaller req with
  | none => .refused 401 "unauthorized"
  | some caller =>
    if !caller.isPlatformAdmin then .refused 403 "forbidden"
    else
      match summarize lib now snap with
      | .error _ => .refused 500 "internal error"
      | .ok summary => .summary summary

/-! ## Counts by key -/

theorem countBy_keys (key : StoredEntry → String) (rows : List StoredEntry) :
    ((countBy key rows).map (·.1)).Nodup := by
  rw [countBy, groupBy, List.map_map, List.map_map]
  exact (List.map_id _).symm ▸ nodup_eraseDups (rows.map key)

/-- The count of a key, 0 where the map does not have it. -/
def countOf (k : String) (counts : List (String × ℕ)) : ℕ := (counts.lookup k).getD 0

theorem countOf_countBy (key : StoredEntry → String) (rows : List StoredEntry) (k : String) :
    countOf k (countBy key rows) = (rows.filter (key · = k)).length := by
  rw [countOf, countBy, lookup_groupBy key List.length]
  split
  · rfl
  · next hnone =>
    rw [List.filter_eq_nil_iff.mpr fun row hrow hk => ?_]
    · rfl
    · exact hnone (List.mem_map.mpr ⟨row, hrow, of_decide_eq_true hk⟩)

theorem sum_countBy (key : StoredEntry → String) (rows : List StoredEntry) :
    ((countBy key rows).map (·.2)).sum = rows.length := by
  have hsum := sum_groupBy key (fun _ : StoredEntry => 1) rows
  simp only [List.map_const', List.sum_replicate_nat, mul_one] at hsum
  rw [countBy, List.map_map]
  exact hsum

theorem countOf_mono {key : StoredEntry → String} {rows later : List StoredEntry}
    (h : rows <+: later) (k : String) :
    countOf k (countBy key rows) ≤ countOf k (countBy key later) := by
  rw [countOf_countBy, countOf_countBy]
  exact (h.sublist.filter _).length_le

/-! ## Summaries of a growing log -/

/-- Entries may come in between the statements, and none goes away. -/
structure Snapshots.Growing (snap : Snapshots) : Prop where
  action : snap.total <+: snap.action
  service : snap.action <+: snap.service
  recent : snap.service <+: snap.recent

/-- The request of a platform admin for the entries of one action. -/
def ListRequest.ofAction (a : AuditAction) : ListRequest :=
  { getHeader := fun key => if key = "X-Is-Platform-Admin" then "true" else ""
    query := fun key => if key = "action" then a.label else "" }

theorem visibleRows_admin (id : String) (rows : List StoredEntry) :
    visibleRows ⟨id, true⟩ rows = rows :=
  List.filter_eq_self.mpr fun row _ => by simp

theorem summarize_ok {lib : QueryLibraries} {now : ℤ} {snap : Snapshots} {summary : AuditSummary}
    (h : summarize lib now snap = .ok summary) :
    summary =
      { totalEntries := snap.total.length
        byAction := countBy (·.entry.action.label) snap.action
        byService := countBy (·.entry.serviceName.getD "")
          (snap.service.filter (·.entry.serviceName.isSome))
        last24Hours := (snap.recent.filter fun row => now - day < row.createdAt).length } := by
  unfold summarize at h
  dsimp only at h
  split at h
  next => cases h
  next =>
    split at h
    next => cases h
    next =>
      rw [visibleRows_admin, visibleRows_admin, visibleRows_admin, visibleRows_admin] at h
      exact (Except.ok.inj h).symm

/-- The entries of one action are what its condition selects. -/
theorem matching_ofAction (lib : QueryLibraries) (a : AuditAction) (rows : List StoredEntry) :
    matching (ListRequest.ofAction a).context (filterOf lib (.ofAction a)) rows =
      rows.filter (·.entry.action.label = a.label) := by
  refine List.filter_congr fun row _ => ?_
  rw [Bool.eq_iff_iff, decide_eq_true_eq, decide_eq_true_eq]
  have hne : a.label ≠ "" := by
    cases a
    all_goals decide
  constructor
  · intro h
    exact ((h .action (by decide)).resolve_left hne).symm
  · intro h c _
    cases c with
    | tenantId => exact Or.inl rfl
    | userId => exact Or.inl rfl
    | action => exact Or.inr h.symm
    | resourceType => exact Or.inl rfl
    | createdFrom => exact fun t ht => absurd ht (Option.not_mem_none t)
    | createdTo => exact fun t ht => absurd ht (Option.not_mem_none t)

/-- What a summary tells of the log, entries coming in while it is made. -/
structure SummaryConsistent (lib : QueryLibraries) (snap : Snapshots) (summary : AuditSummary) :
    Prop where
  keys : (summary.byAction.map (·.1)).Nodup ∧ (summary.byService.map (·.1)).Nodup
  /-- The counts by action exceed the total by what came in between. -/
  by_action : (summary.byAction.map (·.2)).sum =
    summary.totalEntries + (snap.action.length - snap.total.length)
  /-- The counts by service leave out the entries without one. -/
  by_service : (summary.byService.map (·.2)).sum +
    (snap.service.filter (·.entry.serviceName.isNone)).length = snap.service.length
  bounded : summary.totalEntries ≤ (summary.byAction.map (·.2)).sum ∧
    summary.last24Hours ≤ snap.recent.length
  /-- Each action is counted as `ListEntries` counts it. -/
  listed : ∀ a scan data total page size,
    listEntries lib scan snap.action (.ofAction a) = .listed data total page size →
      countOf a.label summary.byAction = total

/-- A later summary counts no less, whatever is counted. -/
structure NoLess (summary later : AuditSummary) : Prop where
  total : summary.totalEntries ≤ later.totalEntries
  by_action : ∀ k, countOf k summary.byAction ≤ countOf k later.byAction
  by_service : ∀ k, countOf k summary.byService ≤ countOf k later.byService

theorem consistent_of_summarize {lib : QueryLibraries} {now : ℤ} {snap : Snapshots}
    (hgrow : snap.Growing) {summary : AuditSummary} (h : summarize lib now snap = .ok summary) :
    SummaryConsistent lib snap summary := by
  obtain rfl := summarize_ok h
  have hle : snap.total.length ≤ snap.action.length := hgrow.action.length_le
  refine ⟨⟨countBy_keys _ _, countBy_keys _ _⟩, ?_, ?_, ⟨?_, List.length_filter_le _ _⟩, ?_⟩
  · rw [sum_countBy]
    dsimp only
    omega
  · rw [sum_countBy]
    have hnone : ∀ row : StoredEntry, row.entry.serviceName.isNone =
        !row.entry.serviceName.isSome := fun row => by simp
    simp only [hnone]
    exact (List.length_eq_length_filter_add _).symm
  · rw [sum_countBy]
    exact hle
  · intro a scan data total page size hlist
    obtain ⟨-, -, -, rfl, -, -⟩ := listEntries_listed_iff.mp hlist
    rw [countOf_countBy, matching_ofAction]

theorem noLess_of_summarize {lib lib' : QueryLibraries} {now now' : ℤ} {snap later : Snapshots}
    (hgrow : snap.Growing) (hgrow' : later.Growing) (hlater : snap.recent <+: later.total)
    {summary summary' : AuditSummary} (h : summarize lib now snap = .ok summary)
    (h' : summarize lib' now' later = .ok summary') : NoLess summary summary' := by
  obtain rfl := summarize_ok h
  obtain rfl := summarize_ok h'
  have hservice : snap.service <+: later.total := hgrow.recent.trans hlater
  have haction : snap.action <+: later.total := hgrow.service.trans hservice
  refine ⟨(hgrow.action.trans haction).length_le,
    countOf_mono (haction.trans hgrow'.action), fun k => ?_⟩
  have hlast := hservice.trans (hgrow'.action.trans hgrow'.service)
  exact countOf_mono (hlast.filter _) k

theorem summarize_of_getSummary {lib : QueryLibraries} {now : ℤ} {snap : Snapshots}
    {req : ListRequest} {summary : AuditSummary}
    (h : getSummary lib now snap req = .summary summary) :
    req.context.isPlatformAdmin = true ∧ summarize lib now snap = .ok summary := by
  unfold getSummary at h
  cases hcaller : extractCaller req with
  | none =>
    rw [hcaller] at h
    cases h
  | some caller =>
    rw [hcaller] at h
    dsimp only at h
    split at h
    next => cases h
    next hadmin =>
      cases hs : summarize lib now snap with
      | error e =>
        rw [hs] at h
        cases h
      | ok s =>
        rw [hs] at h
        cases h
        refine ⟨?_, rfl⟩
        rw [← context_of_extractCaller hcaller]
        simpa using hadmin

/-- Only a platform admin is given a summary; what two of them tell of the log and of each other,
    entries being stored all the while. -/
theorem summary_consistent (lib : QueryLibraries) {now now' : ℤ} {snap later : Snapshots}
    (hgrow : snap.Growing) (hgrow' : later.Growing) (hlater : snap.recent <+: later.total)
    {req req' : ListRequest} {summary summary' : AuditSummary}
    (h : getSummary lib now snap req = .summary summary)
    (h' : getSummary lib now' later req' = .summary summary') :
    req.context.isPlatformAdmin = true ∧ SummaryConsistent lib snap summary ∧
      SummaryConsistent lib later summary' ∧ NoLess summary summary' := by
  obtain ⟨hadmin, hs⟩ := summarize_of_getSummary h
  obtain ⟨-, hs'⟩ := summarize_of_getSummary h'
  exact ⟨hadmin, consistent_of_summarize hgrow hs, consistent_of_summarize hgrow' hs',
    noLess_of_summarize hgrow hgrow' hlater hs hs'⟩

namespace Sample

/-- The second entry comes in after the first statement. -/
def snapshots : Snapshots := ⟨log.rows.take 1, log.rows, log.rows, log.rows⟩

def later : Snapshots := ⟨log.rows, log.rows, log.rows, log.rows⟩

def snapshotSummary : AuditSummary := ⟨1, [("login", 2)], [], 2⟩

def laterSummary : AuditSummary := ⟨2, [("login", 2)], [], 2⟩

end Sample

open Sample in
theorem summary_consistent_sample :
    listRequest.context.isPlatformAdmin = true ∧
      SummaryConsistent queryLibraries snapshots snapshotSummary ∧
      SummaryConsistent queryLibraries later laterSummary ∧ NoLess snapshotSummary laterSummary :=
  have hgrow : snapshots.Growing :=
    ⟨List.take_prefix 1 _, List.prefix_refl _, List.prefix_refl _⟩
  have hgrow' : later.Growing := ⟨List.prefix_refl _, List.prefix_refl _, List.prefix_refl _⟩
  have h : getSummary queryLibraries 1 snapshots listRequest = .summary snapshotSummary := by rfl
  have h' : getSummary queryLibraries 2 later listRequest = .summary laterSummary := by rfl
  summary_consistent queryLibraries hgrow hgrow' (List.prefix_refl _) h h'

end SaasChassis.Audit
