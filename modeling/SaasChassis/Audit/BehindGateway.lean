/-
  The audit log as clients reach it: through the gateway, while the consumer goes on storing.

  A client's request gets to a handler with the identity headers that the gateway wrote
  (`arrive_identity`), and a handler learns of the log what row-level security shows to the tenant
  of those headers (`respond_congr`). `private_log_online`: however the requests of clients and the
  commits of the consumer are interleaved, the requests with a tenant's tokens are answered as if
  its own entries were all there is.
-/
import SaasChassis.Audit.Summary
import SaasChassis.Audit.Trail
import SaasChassis.Gateway.Backends
import SaasChassis.Lib.Noninterference

namespace SaasChassis.Audit

open SaasChassis.Lib SaasChassis.Lib.Postgres SaasChassis.Gateway

/-! ## Handlers -/

inductive ApiCall where
  | listEntries (query : String → String) (scan : Scan)
  | getEntry (id : String)
  /-- A transaction that begins at `now`; its statements see what has been stored by then. -/
  | getSummary (now : ℤ) (seen : List StoredEntry → Snapshots)

inductive ApiAnswer where
  | entries (response : ListResponse)
  | entry (response : EntryResponse)
  | summary (response : SummaryResponse)

/-- The handler of the call. -/
def respond (lib : QueryLibraries) (getHeader : String → String) (rows : List StoredEntry) :
    ApiCall → ApiAnswer
  | .listEntries query scan => .entries (listEntries lib scan rows ⟨getHeader, query⟩)
  | .getEntry id => .entry (getEntry lib rows ⟨getHeader, fun _ => ""⟩ id)
  | .getSummary now seen =>
    .summary (getSummary lib now (seen rows) ⟨getHeader, fun _ => ""⟩)

/-- The entries of a tenant. -/
def tenantRows (u : Uuid) (rows : List StoredEntry) : List StoredEntry :=
  rows.filter fun row => row.entry.tenantId = u

section Handlers

variable {lib : QueryLibraries} {rows rows' : List StoredEntry}

theorem queryEntries_congr {tc : TenantContext} (h : visibleRows tc rows' = visibleRows tc rows)
    (scan : Scan) (f : QueryFilter) :
    queryEntries lib scan rows' tc f = queryEntries lib scan rows tc f := by
  unfold queryEntries
  rw [h]

theorem findByID_congr {tc : TenantContext} (h : visibleRows tc rows' = visibleRows tc rows)
    (id : String) : findByID lib rows' tc id = findByID lib rows tc id := by
  unfold findByID
  rw [h]

theorem extractCaller_context {req : ListRequest} {caller : CallerCtx}
    (h : extractCaller req = some caller)
    (hadmin : req.getHeader "X-Is-Platform-Admin" ≠ "true") :
    caller.tenantID = req.getHeader "X-Tenant-ID" ∧ caller.isPlatformAdmin = false := by
  have hcontext := context_of_extractCaller h
  rw [ListRequest.context, decide_eq_false hadmin] at hcontext
  exact TenantContext.mk.inj hcontext

/-- Whoever is no platform admin learns of the log what its tenant may see. -/
theorem respond_congr {getHeader : String → String}
    (hadmin : getHeader "X-Is-Platform-Admin" ≠ "true")
    (h : visibleRows ⟨getHeader "X-Tenant-ID", false⟩ rows' =
      visibleRows ⟨getHeader "X-Tenant-ID", false⟩ rows) (call : ApiCall) :
    respond lib getHeader rows' call = respond lib getHeader rows call := by
  cases call with
  | listEntries query scan =>
    refine congrArg ApiAnswer.entries ?_
    unfold listEntries
    cases hc : extractCaller ⟨getHeader, query⟩ with
    | none => rfl
    | some caller =>
      obtain ⟨htenant, hflag⟩ := extractCaller_context hc hadmin
      dsimp only
      rw [htenant, hflag, queryEntries_congr h]
  | getEntry id =>
    refine congrArg ApiAnswer.entry ?_
    unfold getEntry
    cases hc : extractCaller ⟨getHeader, fun _ => ""⟩ with
    | none => rfl
    | some caller =>
      obtain ⟨htenant, hflag⟩ := extractCaller_context hc hadmin
      dsimp only
      rw [htenant, hflag, findByID_congr h]
  | getSummary now seen =>
    refine congrArg ApiAnswer.summary ?_
    unfold getSummary
    cases hc : extractCaller ⟨getHeader, fun _ => ""⟩ with
    | none => rfl
    | some caller =>
      obtain ⟨-, hflag⟩ := extractCaller_context hc hadmin
      dsimp only
      rw [hflag]
      rfl

/-- Of its own entries a tenant sees all, and without a tenant there is nothing to see. -/
theorem visibleRows_tenantRows {tenantID : String} {u : Uuid}
    (h : tenantID = "" ∨ uuidIn tenantID = some u) (rows : List StoredEntry) :
    visibleRows ⟨tenantID, false⟩ (tenantRows u rows) = visibleRows ⟨tenantID, false⟩ rows := by
  unfold visibleRows tenantRows
  rw [List.filter_filter]
  refine List.filter_congr fun row _ => ?_
  rcases h with rfl | hu
  · simp [currentTenantID]
  · unfold currentTenantID
    by_cases hempty : tenantID = ""
    · simp [hempty]
    · rw [if_neg hempty, hu]
      by_cases hrow : row.entry.tenantId = u
      · simp [hrow]
      · simp [hrow, Ne.symm hrow]

end Handlers

/-! ## Clients -/

/-- How gateway and audit service are deployed, and the libraries of the latter. -/
structure Site where
  cfg : Gateway.Config
  lookup : List Route → String → String → Option Route
  lib : QueryLibraries

/-- The audit service is at the end of authenticated routes only. -/
def Site.Guarded (site : Site) : Prop :=
  Gateway.Guarded site.lookup site.cfg site.cfg.auditServiceURL

/-- A request as the gateway receives it. `call` is what the audit service makes of its path and
    query. -/
structure ClientRequest where
  gateway : Gateway.Env
  http : Gateway.Request
  call : ApiCall

/-- A row that the consumer commits, or a request. -/
inductive LogEvent where
  | stored (row : StoredEntry)
  | client (k : ClientRequest)

/-- The headers with which a request gets to the audit service. -/
def arrive (site : Site) (k : ClientRequest) : Option Header :=
  match serveHTTP k.gateway site.lookup site.cfg k.http with
  | .responded _ => none
  | .forwarded target out => if target = site.cfg.auditServiceURL then some out.header else none

/-- The log after an event, and the audit service's answer to a request that gets there. -/
def online (site : Site) (rows : List StoredEntry) :
    LogEvent → List StoredEntry × Option ApiAnswer
  | .stored row => (rows ++ [row], none)
  | .client k => (rows, (arrive site k).map fun h => respond site.lib h.get rows k.call)

/-- The tenant of a request's token. -/
def tokenTenant (site : Site) (k : ClientRequest) : Option Uuid :=
  (verifiedClaims k.gateway.jwt site.cfg.jwtSecret k.http.header).bind fun claims =>
    uuidIn claims.tenantID

/-- An entry of the tenant, or a request with its token. -/
def concerns (site : Site) (u : Uuid) : LogEvent → Bool
  | .stored row => row.entry.tenantId = u
  | .client k => tokenTenant site k = some u

/-- Requests come from clients that are neither another service nor a platform admin. -/
def FromTenants (site : Site) : LogEvent → Prop
  | .stored _ => True
  | .client k => Outside site.cfg k.http.header ∧
    ∀ claims ∈ verifiedClaims k.gateway.jwt site.cfg.jwtSecret k.http.header,
      claims.isPlatformAdmin = false

instance (site : Site) (e : LogEvent) : Decidable (FromTenants site e) :=
  match e with
  | .stored _ => isTrue trivial
  | .client _ => @instDecidableAnd _ _ _ (Option.decidableForallMem _)

theorem arrive_identity {site : Site} {k : ClientRequest} (hgd : site.Guarded)
    (hout : Outside site.cfg k.http.header) {h : Header} (ha : arrive site k = some h) :
    ∃ claims, verifiedClaims k.gateway.jwt site.cfg.jwtSecret k.http.header = some claims ∧
      (h.get "X-Tenant-ID" = "" ∨ h.get "X-Tenant-ID" = claims.tenantID) ∧
      (h.get "X-Is-Platform-Admin" = "true" → claims.isPlatformAdmin = true) := by
  unfold arrive at ha
  split at ha
  next => cases ha
  next target out hserve =>
    split at ha
    next htarget =>
      subst htarget
      obtain rfl := Option.some.inj ha
      exact forwarded_get hgd hout hserve
    next => cases ha

theorem online_unwinds {site : Site} (hgd : site.Guarded) (u : Uuid) :
    Unwinds (online site) (concerns site u) (tenantRows u) (fun _ => True)
      (fun _ e => FromTenants site e) where
  keeps _ _ _ _ := trivial
  others rows e _ _ hmine := by
    cases e with
    | stored row =>
      have hother : ¬ row.entry.tenantId = u := of_decide_eq_false hmine
      show tenantRows u (rows ++ [row]) = tenantRows u rows
      simp [tenantRows, hother]
    | client k => rfl
  own rows e _ hc hmine := by
    cases e with
    | stored row =>
      have hrow : row.entry.tenantId = u := of_decide_eq_true hmine
      show (tenantRows u rows ++ [row], none) = (tenantRows u (rows ++ [row]), none)
      simp [tenantRows, hrow]
    | client k =>
      obtain ⟨hout, hadmin⟩ := hc
      refine Prod.ext rfl ?_
      show (arrive site k).map _ = (arrive site k).map _
      cases ha : arrive site k with
      | none => rfl
      | some h =>
        obtain ⟨claims, hclaims, htenant, hflag⟩ := arrive_identity hgd hout ha
        have hu : uuidIn claims.tenantID = some u := by
          have htoken : tokenTenant site k = some u := of_decide_eq_true hmine
          rwa [tokenTenant, hclaims] at htoken
        have hnoflag : h.get "X-Is-Platform-Admin" ≠ "true" := by
          intro htrue
          have hnot := hadmin claims hclaims
          rw [hflag htrue] at hnot
          cases hnot
        refine congrArg some (respond_congr hnoflag (visibleRows_tenantRows ?_ rows) k.call)
        exact htenant.imp_right fun he => by rw [he, hu]

/-- However the consumer's commits and the requests that clients send through the gateway are
    interleaved, the requests with a tenant's tokens are answered as if the log had been the
    tenant's own from the start. -/
theorem private_log_online (site : Site) (hgd : site.Guarded) (u : Uuid)
    (rows : List StoredEntry) (events : List LogEvent) (hc : ∀ e ∈ events, FromTenants site e) :
    tenantRows u (run (afterInput (online site)) rows events) =
        run (afterInput (online site)) (tenantRows u rows) (events.filter (concerns site u)) ∧
      (answerLog (online site) rows events).filter (fun a => concerns site u a.1) =
        answerLog (online site) (tenantRows u rows) (events.filter (concerns site u)) :=
  ⟨(online_unwinds hgd u).run trivial (stepsSatisfy_of_forall hc),
    (online_unwinds hgd u).answerLog trivial (stepsSatisfy_of_forall hc)⟩

namespace Sample

def site : Site :=
  { cfg := Gateway.Sample.cfg, lookup := Gateway.Sample.lookup, lib := queryLibraries }

theorem site_guarded : site.Guarded :=
  ⟨fun _ _ _ _ h => List.mem_of_find?_eq_some h, by decide, by decide, by decide⟩

/-- A client with a token of the tenant, sending these headers besides. -/
def client (u : Uuid) (headers : Header → Header) (path : String) (call : ApiCall) : LogEvent :=
  .client
    { gateway := Gateway.Sample.env (.obj [("sub", .str "u1"), ("tenant_id", .str u.format)])
      http := Gateway.Sample.request "GET" path (headers Gateway.Sample.bearer)
      call := call }

/-- The only entries of two tenants. -/
def one : StoredEntry := entry (Fin.last 15)
def two : StoredEntry := entry (Fin.last 15).rev

/-- The second tenant claims to be the first one and a platform admin, asks for the first one's
    entry and for all there are; then the first one asks for all. -/
def events : List LogEvent :=
  let claiming := fun h : Header =>
    (h.set "X-Tenant-ID" one.id.format).set "X-Is-Platform-Admin" "true"
  [.stored one,
    client two.entry.tenantId claiming "/api/v1/audit/entries/1" (.getEntry one.id.format),
    .stored two,
    client two.entry.tenantId claiming "/api/v1/audit/entries"
      (.listEntries (fun _ => "") ⟨id, fun _ => .rfl⟩),
    client one.entry.tenantId id "/api/v1/audit/entries"
      (.listEntries (fun _ => "") ⟨id, fun _ => .rfl⟩)]

end Sample

theorem private_log_online_sample :
    tenantRows Sample.one.entry.tenantId
        (run (afterInput (online Sample.site)) [] Sample.events) =
      run (afterInput (online Sample.site)) []
        (Sample.events.filter (concerns Sample.site Sample.one.entry.tenantId)) ∧
      (answerLog (online Sample.site) [] Sample.events).filter
          (fun a => concerns Sample.site Sample.one.entry.tenantId a.1) =
        answerLog (online Sample.site) []
          (Sample.events.filter (concerns Sample.site Sample.one.entry.tenantId)) :=
  private_log_online Sample.site Sample.site_guarded Sample.one.entry.tenantId [] Sample.events
    (by decide +kernel)

end SaasChassis.Audit
