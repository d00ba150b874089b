/-
  The ledger as clients reach it: through the gateway.

  A `ClientRequest` is what a client sends the gateway. `arrive` puts the two services together: the
  gateway answers itself, sends the request elsewhere, or on to the ledger, which refuses it or
  performs its action in a session. `arrive_session`: without the service token and without a
  platform admin's token that session is the one of the token's tenant, whatever headers the client
  sent.

  `private_ledger_online`: however the requests of the tenants are interleaved, each tenant's part
  of the tables and the answers to its requests are those of a ledger of its own.
  `client_headers_ignored`: the identity headers that clients send make no difference to any of it.

  Both are about any tokens that the gateway verifies. The tokens that the identity service signs
  name the tenant by another member than the gateway reads; `identity_tokens_refused` is what comes
  of that here: with them nobody gets past TenantContextMiddleware.
-/
import SaasChassis.Gateway.Backends
import SaasChassis.Gateway.TokenHeaders
import SaasChassis.Ledger.Api
import SaasChassis.Ledger.PrivateLedgers
import Mathlib.Data.List.Forall2

namespace SaasChassis.Ledger

open SaasChassis.Lib SaasChassis.Lib.Postgres SaasChassis.Rls SaasChassis.Gateway

/-! ## Actions in sessions -/

section Actions

variable {t : Guid}

/-- No platform admin acts, and an own command writes no id of another tenant's row. -/
def ActsOwn (t : Guid) (db : LedgerDb) (i : SessionAction) : Prop :=
  i.session.isPlatformAdmin = false ∧
    ∀ cmd, i.action = .command cmd → i.session = .tenant t → WritesOwn t db (i.env, cmd)

theorem performAs_command {db : LedgerDb} {i : SessionAction} {cmd : LedgerCommand}
    (h : i.action = .command cmd) :
    performAs db i = ((stepAs db ⟨i.session, i.env, cmd⟩).1,
      .ofReply (stepAs db ⟨i.session, i.env, cmd⟩).2) := by
  rw [performAs, h]

theorem performAs_query {db : LedgerDb} {i : SessionAction} {tenantId : Guid} {q : ApiQuery}
    (h : i.action = .query tenantId q) :
    performAs db i = (db, q.answer i.env.utcNow tenantId (db.visible i.session)) := by
  rw [performAs, h]

theorem performAs_unwinds (t : Guid) :
    Unwinds performAs (fun i => decide (i.session = .tenant t)) (view t) (Shared t)
      (ActsOwn t) where
  keeps db i h hc := by
    cases ha : i.action with
    | command cmd =>
      rw [performAs_command ha]
      exact (unwinds t).keeps db ⟨i.session, i.env, cmd⟩ h ⟨hc.1, hc.2 cmd ha⟩
    | query tenantId q => rwa [performAs_query ha]
  others db i h hc hi := by
    cases ha : i.action with
    | command cmd =>
      rw [performAs_command ha]
      exact (unwinds t).others db ⟨i.session, i.env, cmd⟩ h ⟨hc.1, hc.2 cmd ha⟩ hi
    | query tenantId q => rw [performAs_query ha]
  own db i h hc hi := by
    cases ha : i.action with
    | command cmd =>
      rw [performAs_command ha, performAs_command ha,
        (unwinds t).own db ⟨i.session, i.env, cmd⟩ h ⟨hc.1, hc.2 cmd ha⟩ hi]
    | query tenantId q =>
      -- the tenant reads its own part, and of that part all
      have hread : (view t db).visible i.session = db.visible i.session := by
        rw [of_decide_eq_true hi]
        exact view_view (lines_owned h.reachable) t
      rw [performAs_query ha, performAs_query ha, hread]

end Actions

/-! ## From the client to the session -/

/-- How gateway and ledger are deployed, and .NET's `Guid.TryParse`. -/
structure Site where
  cfg : Gateway.Config
  lookup : List Route → String → String → Option Route
  tryParse : String → Option Guid

/-- The ledger service is at the end of authenticated routes only. -/
def Site.Guarded (site : Site) : Prop :=
  Gateway.Guarded site.lookup site.cfg site.cfg.ledgerServiceURL

/-- A request as the gateway receives it, with what the two services ask of the world while they
    serve it. `call` is what the ledger makes of its method, path, query and body. -/
structure ClientRequest where
  gateway : Gateway.Env
  http : Gateway.Request
  env : Env
  call : ApiCall

/-- The answer of the ledger without its tables, `none` where the ledger does not get the request;
    or the action it performs. -/
def arrive (site : Site) (k : ClientRequest) : Option ApiAnswer ⊕ SessionAction :=
  match serveHTTP k.gateway site.lookup site.cfg k.http with
  | .responded _ => .inl none
  | .forwarded target out =>
    if target = site.cfg.ledgerServiceURL then
      match receive site.tryParse out.header k.call with
      | .inl answer => .inl (some answer)
      | .inr (s, action) => .inr ⟨s, k.env, action⟩
    else .inl none

/-- The ledger's tables after a client's request, and its answer if the request gets there. -/
def online (site : Site) : LedgerDb → ClientRequest → LedgerDb × Option ApiAnswer :=
  behind (arrive site) some performAs

section Arrive

variable {site : Site} {k : ClientRequest}

theorem arrive_forwarded {out : Gateway.Request}
    (h : serveHTTP k.gateway site.lookup site.cfg k.http =
      .forwarded site.cfg.ledgerServiceURL out) :
    arrive site k = (receive site.tryParse out.header k.call).elim (fun a => .inl (some a))
      fun p => .inr ⟨p.1, k.env, p.2⟩ := by
  rw [arrive, h]
  dsimp only
  rw [if_pos rfl]
  cases receive site.tryParse out.header k.call <;> rfl

theorem arrive_elsewhere
    (h : ¬ ∃ out, serveHTTP k.gateway site.lookup site.cfg k.http =
      .forwarded site.cfg.ledgerServiceURL out) : arrive site k = .inl none := by
  unfold arrive
  split
  next => rfl
  next target out hs =>
    refine if_neg fun htarget => h ⟨out, ?_⟩
    rw [hs, htarget]

theorem firstOrDefault_of {h : Header} {key k : String} (hk : canonicalHeaderKey key = k) :
    firstOrDefault h key = (h k).head? := by
  rw [firstOrDefault, hk]

/-- The session in which a request without a platform admin's headers gets to its endpoint. -/
theorem receive_session {tryParse : String → Option Guid} {h : Header} {call : ApiCall}
    {s : Session Guid} {action : ApiAction} (hr : receive tryParse h call = .inr (s, action))
    (hadmin : firstOrDefault h "X-Is-Platform-Admin" ≠ some "true") :
    ∃ tenantId, firstOrDefault h "X-Tenant-ID" = some tenantId ∧
      s = sessionOf (Settings.request tenantId false).session := by
  have hcontext : ∀ context, tenantContext h = some context →
      firstOrDefault h "X-Tenant-ID" = some context.tenantId ∧ context.isPlatformAdmin = false := by
    intro context hc
    unfold tenantContext at hc
    simp only [hadmin, decide_false, Bool.not_false, Bool.and_true, decide_eq_true_eq] at hc
    split at hc
    next => cases hc
    next hne =>
      obtain rfl := Option.some.inj hc
      cases htenant : firstOrDefault h "X-Tenant-ID" with
      | none =>
        rw [htenant] at hne
        exact absurd rfl hne
      | some tenantId => exact ⟨rfl, rfl⟩
  unfold receive at hr
  split at hr
  next => cases hr
  next =>
    split at hr
    next => cases hr
    next context hc =>
      obtain ⟨htenant, hflag⟩ := hcontext context hc
      split at hr
      next => cases hr
      next action' _ =>
        split at hr
        next => cases hr
        next s' hset =>
          obtain ⟨rfl, -⟩ := Prod.mk.inj (Sum.inr.inj hr)
          refine ⟨context.tenantId, htenant, ?_⟩
          unfold setTenantContext at hset
          split at hset
          next =>
            rw [hflag] at hset
            exact (Except.ok.inj hset).symm
          next => cases hset

/-- Of the headers, the ledger reads these three. -/
theorem receive_congr {tryParse : String → Option Guid} {h h' : Header}
    (htenant : firstOrDefault h' "X-Tenant-ID" = firstOrDefault h "X-Tenant-ID")
    (huser : firstOrDefault h' "X-User-ID" = firstOrDefault h "X-User-ID")
    (hadmin : firstOrDefault h' "X-Is-Platform-Admin" = firstOrDefault h "X-Is-Platform-Admin")
    (call : ApiCall) : receive tryParse h' call = receive tryParse h call := by
  have hcontext : tenantContext h' = tenantContext h := by
    rw [tenantContext, tenantContext, htenant, huser, hadmin]
  have htenantId : getTenantId tryParse h' = getTenantId tryParse h := by
    rw [getTenantId, getGuid, getGuid, htenant]
  have huserId : getUserId tryParse h' = getUserId tryParse h := by
    rw [getUserId, getGuid, getGuid, huser]
  have haction : call.action tryParse h' = call.action tryParse h := by
    cases call <;> simp only [ApiCall.action, htenantId, huserId]
  cases call <;> simp only [receive, hcontext, haction]

theorem sessionOf_request (tenantId : String) :
    sessionOf (Settings.request tenantId false).session =
      ⟨(uuidIn tenantId).map ofUuid, false⟩ := by
  cases h : uuidIn tenantId with
  | none => rw [session_of_malformed h, sessionOf]
  | some u => rw [session_of_request h, sessionOf]

variable (hgd : site.Guarded) (hout : Outside site.cfg k.http.header)
include hgd hout

/-- What the ledger reads of the token: a header is the token's or, where Connection lists it,
    missing. -/
theorem forwarded_identity {out : Gateway.Request}
    (h : serveHTTP k.gateway site.lookup site.cfg k.http =
      .forwarded site.cfg.ledgerServiceURL out) :
    ∃ claims, verifiedClaims k.gateway.jwt site.cfg.jwtSecret k.http.header = some claims ∧
      (∀ tenantId ∈ firstOrDefault out.header "X-Tenant-ID", tenantId = claims.tenantID) ∧
      (firstOrDefault out.header "X-Is-Platform-Admin" = some "true" →
        claims.isPlatformAdmin = true) := by
  obtain ⟨claims, hclaims, hheaders⟩ := forwarded_verified hgd hout h
  obtain ⟨-, htenant, -, -, -, hflag, -⟩ := injectIdentity_get claims k.http.header
  obtain ⟨-, htenantKey, -, -, -, hflagKey, -⟩ := canonical_identity
  refine ⟨claims, hclaims, ?_, ?_⟩
  · intro tenantId hfirst
    rw [firstOrDefault_of htenantKey, hheaders _ (by decide)] at hfirst
    split at hfirst
    next => cases hfirst
    next =>
      rw [Header.get, htenantKey, List.headD_eq_head?_getD, Option.mem_def.mp hfirst] at htenant
      exact htenant
  · intro hfirst
    rw [firstOrDefault_of hflagKey, hheaders _ (by decide)] at hfirst
    split at hfirst
    next => cases hfirst
    next =>
      rw [Header.get, hflagKey, List.headD_eq_head?_getD, hfirst] at hflag
      cases hadmin : claims.isPlatformAdmin with
      | true => rfl
      | false =>
        rw [hadmin] at hflag
        exact absurd hflag (by decide)

/-- A client's request acts in the session of its token's tenant. -/
theorem arrive_session {i : SessionAction} (h : arrive site k = .inr i) :
    ∃ claims, verifiedClaims k.gateway.jwt site.cfg.jwtSecret k.http.header = some claims ∧
      (claims.isPlatformAdmin = false →
        i.session = ⟨(uuidIn claims.tenantID).map ofUuid, false⟩) := by
  obtain ⟨out, hserve⟩ : ∃ out, serveHTTP k.gateway site.lookup site.cfg k.http =
      .forwarded site.cfg.ledgerServiceURL out := by
    by_contra hn
    rw [arrive_elsewhere hn] at h
    cases h
  obtain ⟨claims, hclaims, htenant, hflag⟩ := forwarded_identity hgd hout hserve
  refine ⟨claims, hclaims, fun hadmin => ?_⟩
  rw [arrive_forwarded hserve] at h
  cases hr : receive site.tryParse out.header k.call with
  | inl a =>
    rw [hr] at h
    cases h
  | inr p =>
    rw [hr] at h
    obtain ⟨s, action⟩ := p
    obtain rfl := Sum.inr.inj h
    have hnoflag : firstOrDefault out.header "X-Is-Platform-Admin" ≠ some "true" := by
      intro htrue
      rw [hflag htrue] at hadmin
      cases hadmin
    obtain ⟨tenantId, hfirst, hs⟩ := receive_session hr hnoflag
    rw [hs, sessionOf_request, htenant tenantId hfirst]

/-- Whatever identity headers the client sends, its request arrives as the same. -/
theorem arrive_twin {h : Header} (hagree : AgreeOff identitySet k.http.header h) :
    arrive site { k with http := { k.http with header := h } } = arrive site k := by
  have hout' : Outside site.cfg h := by
    have hcanonical : canonicalHeaderKey "X-Service-Token" = "X-Service-Token" := by
      decide +kernel
    rwa [Outside, ← get_congr hcanonical (hagree _ (by unfold identitySet; decide))]
  have htwin := (@forwarded_iff k.gateway site.lookup site.cfg { k.http with header := h } _ hgd
    hout').trans ((reaches_twin hagree).trans (forwarded_iff hgd hout).symm)
  by_cases hserve : ∃ out, serveHTTP k.gateway site.lookup site.cfg k.http =
      .forwarded site.cfg.ledgerServiceURL out
  · obtain ⟨out', hserve'⟩ := htwin.mpr hserve
    obtain ⟨out, hserve⟩ := hserve
    obtain ⟨claims, hclaims, hheaders⟩ := forwarded_verified hgd hout hserve
    obtain ⟨claims', hclaims', hheaders'⟩ := forwarded_verified hgd hout' hserve'
    obtain rfl : claims' = claims := by
      rw [verifiedClaims_twin hagree, hclaims] at hclaims'
      exact (Option.some.inj hclaims').symm
    have hsame : ∀ key ∈ identityKeys, key ∈ writtenKeys claims' →
        out'.header key = out.header key := by
      intro key hkey hwritten
      rw [hheaders' key hkey, hheaders key hkey, removedKeys_twin hagree,
        injectIdentity_written hwritten h k.http.header]
    have hfirst : ∀ key key' : String, canonicalHeaderKey key = key' → key' ∈ identityKeys →
        key' ∈ writtenKeys claims' →
        firstOrDefault out'.header key = firstOrDefault out.header key := by
      intro key key' hkey hid hwritten
      rw [firstOrDefault_of hkey, firstOrDefault_of hkey, hsame key' hid hwritten]
    rw [arrive_forwarded hserve, arrive_forwarded hserve']
    rw [receive_congr (hfirst _ _ canonical_identity.2.1 (by decide) (by simp [writtenKeys]))
      (hfirst _ _ canonical_identity.1 (by decide) (by simp [writtenKeys]))
      (hfirst _ _ canonical_identity.2.2.2.2.2.1 (by decide) (by simp [writtenKeys]))]
  · rw [arrive_elsewhere hserve, arrive_elsewhere]
    exact fun hserve' => hserve (htwin.mp hserve')

end Arrive

/-! ## Tenants behind the gateway -/

/-- The tenant of a request's token. -/
def tokenTenant (site : Site) (k : ClientRequest) : Option Uuid :=
  (verifiedClaims k.gateway.jwt site.cfg.jwtSecret k.http.header).bind fun claims =>
    uuidIn claims.tenantID

/-- A request with a token of the tenant. -/
def isFrom (site : Site) (u : Uuid) (k : ClientRequest) : Bool :=
  decide (tokenTenant site k = some u)

/-- The request gets to an endpoint with a command of the tenant only if the command writes no id of
    another tenant's row. -/
def CommandsOwn (site : Site) (t : Guid) (db : LedgerDb) (k : ClientRequest) : Prop :=
  match arrive site k with
  | .inr ⟨s, env, .command cmd⟩ => s = .tenant t → WritesOwn t db (env, cmd)
  | _ => True

instance (site : Site) (t : Guid) (db : LedgerDb) (k : ClientRequest) :
    Decidable (CommandsOwn site t db k) := by
  unfold CommandsOwn
  split <;> infer_instance

/-- A request of a client that is neither another service nor a platform admin. -/
def FromTenants (site : Site) (t : Guid) (db : LedgerDb) (k : ClientRequest) : Prop :=
  Outside site.cfg k.http.header ∧
    (∀ claims ∈ verifiedClaims k.gateway.jwt site.cfg.jwtSecret k.http.header,
      claims.isPlatformAdmin = false) ∧
    CommandsOwn site t db k

instance (site : Site) (t : Guid) (db : LedgerDb) (k : ClientRequest) :
    Decidable (FromTenants site t db k) :=
  @instDecidableAnd _ _ _ (@instDecidableAnd _ _ (Option.decidableForallMem _) _)

theorem commandsOwn_command {site : Site} {t : Guid} {db : LedgerDb} {k : ClientRequest}
    {i : SessionAction} {cmd : LedgerCommand} (h : CommandsOwn site t db k)
    (hk : arrive site k = .inr i) (ha : i.action = .command cmd) (hs : i.session = .tenant t) :
    WritesOwn t db (i.env, cmd) := by
  obtain ⟨s, env, action⟩ := i
  dsimp only at ha
  subst ha
  unfold CommandsOwn at h
  rw [hk] at h
  exact h hs

theorem online_unwinds {site : Site} (hgd : site.Guarded) (u : Uuid) :
    Unwinds (online site) (isFrom site u) (view (ofUuid u)) (Shared (ofUuid u))
      (FromTenants site (ofUuid u)) := by
  refine (performAs_unwinds (ofUuid u)).behind some fun db k i hk hf => ?_
  obtain ⟨hout, hadmin, hown⟩ := hk
  obtain ⟨claims, hclaims, hsession⟩ := arrive_session hgd hout hf
  have hs := hsession (hadmin claims hclaims)
  constructor
  · -- ids of tenants are not confused on the way to the ledger
    have hiff : i.session = .tenant (ofUuid u) ↔ tokenTenant site k = some u := by
      rw [hs, tokenTenant, hclaims, Option.bind_some]
      constructor
      · intro he
        obtain ⟨v, hv, hvu⟩ := Option.map_eq_some_iff.mp (Session.mk.inj he).1
        rw [hv, ofUuid_injective hvu]
      · intro he
        rw [he]
        rfl
    exact decide_eq_decide.mpr hiff
  · refine ⟨?_, fun cmd ha => commandsOwn_command hown hf ha⟩
    rw [hs]

/-- However the requests that clients send through the gateway are interleaved, a tenant's part of
    the ledger's tables is the ledger that the requests with its own tokens alone would have made,
    and they got the answers they would have got. -/
theorem private_ledger_online (site : Site) (hgd : site.Guarded) (templates : List AccountTemplate)
    (u : Uuid) (ks : List ClientRequest)
    (hc : StepsSatisfy (afterInput (online site)) (FromTenants site (ofUuid u))
      (LedgerDb.seeded templates) ks) :
    view (ofUuid u) (run (afterInput (online site)) (LedgerDb.seeded templates) ks) =
        run (afterInput (online site)) (LedgerDb.seeded templates) (ks.filter (isFrom site u)) ∧
      (answerLog (online site) (LedgerDb.seeded templates) ks).filter
          (fun a => isFrom site u a.1) =
        answerLog (online site) (LedgerDb.seeded templates) (ks.filter (isFrom site u)) := by
  have h0 : Shared (ofUuid u) (LedgerDb.seeded templates) :=
    ⟨⟨templates, [], rfl⟩, seeded_schema templates⟩
  exact ⟨(online_unwinds hgd u).run h0 hc, (online_unwinds hgd u).answerLog h0 hc⟩

namespace Sample

/-- The gateway's sample deployment, with PostgreSQL's reading of ids on both sides. -/
def site : Site :=
  { cfg := Gateway.Sample.cfg
    lookup := Gateway.Sample.lookup
    tryParse := fun text => (uuidIn text).map ofUuid }

def uuid (n : ℕ) : Uuid :=
  ⟨List.replicate 31 ⟨0, Nat.succ_pos 15⟩ ++ [⟨n % 16, Nat.mod_lt n (Nat.succ_pos 15)⟩], rfl⟩

/-- A client with a token of tenant `n`, sending these headers besides. -/
def client (n : ℕ) (headers : Header → Header) (date : DateOnly) (id : Guid) (call : ApiCall) :
    ClientRequest :=
  { gateway := Gateway.Sample.env (.obj [("sub", .str (uuid 15).format),
      ("tenant_id", .str (uuid n).format)])
    http := Gateway.Sample.request "POST" "/api/v1/ledger/entries"
      (headers Gateway.Sample.bearer)
    env := on date id
    call := call }

/-- Tenant 2 claims to be tenant 1 and a platform admin. -/
def claiming (h : Header) : Header :=
  (h.set "X-Tenant-ID" (uuid 1).format).set "X-Is-Platform-Admin" "true"

def clients : List ClientRequest :=
  [client 1 id 1 101 (.createAccount "1001" "Cash" .asset none none),
   client 2 claiming 1 201 (.createAccount "1001" "Cash" .asset none none),
   client 1 id 1 102 (.createAccount "4001" "Sales" .revenue none none),
   client 1 id 10 301 (.createEntry 10 "sale" none none none
     [⟨101, 100, 0, none⟩, ⟨102, 0, 100, none⟩]),
   client 2 claiming 10 900 (.postEntry 301),
   client 1 id 11 901 (.postEntry 301),
   client 2 claiming 12 902 (.trialBalance none)]

theorem site_guarded : site.Guarded :=
  ⟨fun _ _ _ _ h => List.mem_of_find?_eq_some h, by decide, by decide, by decide⟩

end Sample

theorem private_ledger_online_sample :
    view (ofUuid (Sample.uuid 1))
        (run (afterInput (online Sample.site)) (LedgerDb.seeded []) Sample.clients) =
      run (afterInput (online Sample.site)) (LedgerDb.seeded [])
        (Sample.clients.filter (isFrom Sample.site (Sample.uuid 1))) ∧
      (answerLog (online Sample.site) (LedgerDb.seeded []) Sample.clients).filter
          (fun a => isFrom Sample.site (Sample.uuid 1) a.1) =
        answerLog (online Sample.site) (LedgerDb.seeded [])
          (Sample.clients.filter (isFrom Sample.site (Sample.uuid 1))) :=
  private_ledger_online Sample.site Sample.site_guarded [] (Sample.uuid 1) Sample.clients
    (by decide +kernel)

/-- The same request with identity headers of the client's choice. -/
def Disguised (k k' : ClientRequest) : Prop :=
  ∃ h, AgreeOff identitySet k.http.header h ∧ k' = { k with http := { k.http with header := h } }

/-- The identity headers that clients send to the gateway change neither ledger nor answers. -/
theorem client_headers_ignored (site : Site) (hgd : site.Guarded) (db : LedgerDb)
    (ks ks' : List ClientRequest) (hks : List.Forall₂ Disguised ks ks')
    (hout : ∀ k ∈ ks, Outside site.cfg k.http.header) :
    run (afterInput (online site)) db ks' = run (afterInput (online site)) db ks ∧
      (answerLog (online site) db ks').map Prod.snd =
        (answerLog (online site) db ks).map Prod.snd := by
  refine run_behind_congr ?_ db
  refine ((List.forall₂_and_left ks ks').mpr ⟨hout, hks⟩).imp ?_
  rintro k k' ⟨hk, h, hagree, rfl⟩
  exact arrive_twin hgd hk hagree

theorem client_headers_ignored_sample :
    run (afterInput (online Sample.site)) (LedgerDb.seeded [])
        [Sample.client 2 Sample.claiming 1 201 (.createAccount "1001" "Cash" .asset none none)] =
      run (afterInput (online Sample.site)) (LedgerDb.seeded [])
        [Sample.client 2 id 1 201 (.createAccount "1001" "Cash" .asset none none)] ∧
      (answerLog (online Sample.site) (LedgerDb.seeded [])
        [Sample.client 2 Sample.claiming 1 201 (.createAccount "1001" "Cash" .asset none none)]).map
          Prod.snd =
        (answerLog (online Sample.site) (LedgerDb.seeded [])
          [Sample.client 2 id 1 201 (.createAccount "1001" "Cash" .asset none none)]).map
          Prod.snd := by
  have hagree : AgreeOff identitySet Gateway.Sample.bearer
      (Sample.claiming Gateway.Sample.bearer) := by
    have hcanonical := canonical_identity
    intro k hk
    rw [Sample.claiming, Header.set_other _ ?_, Header.set_other _ ?_]
    · rw [hcanonical.2.1]
      rintro rfl
      exact hk (by unfold identitySet; decide)
    · rw [hcanonical.2.2.2.2.2.1]
      rintro rfl
      exact hk (by unfold identitySet; decide)
  refine client_headers_ignored Sample.site Sample.site_guarded _ _ _ (.cons ⟨_, hagree, rfl⟩ .nil)
    fun k hk => ?_
  obtain rfl := List.mem_singleton.mp hk
  decide +kernel

/-! ## The identity service's tokens -/

/-- Every token the gateway finds valid has a payload of the identity service. -/
def IdentitySigned (site : Site) (k : ClientRequest) : Prop :=
  ∀ token json, k.gateway.jwt.verify site.cfg.jwtSecret token = some json →
    ∃ p : Identity.JwtPayload, json = p.toJson

theorem verifiedClaims_signedPayload {site : Site} {k : ClientRequest} (h : IdentitySigned site k)
    {claims : Claims}
    (hc : verifiedClaims k.gateway.jwt site.cfg.jwtSecret k.http.header = some claims) :
    ∃ p, claims = claimsOf p := by
  unfold verifiedClaims at hc
  split at hc
  next scheme token _ =>
    split at hc
    next =>
      obtain ⟨json, hv, hd⟩ := Option.bind_eq_some_iff.mp hc
      obtain ⟨p, rfl⟩ := h token json hv
      rw [decode_toJson] at hd
      exact ⟨p, (Option.some.inj hd).symm⟩
    next => cases hc
  next => cases hc

theorem receive_unauthorized (tryParse : String → Option Guid) {h : Header} (call : ApiCall)
    (htenant : ∀ tenantId ∈ firstOrDefault h "X-Tenant-ID", tenantId = "")
    (hadmin : firstOrDefault h "X-Is-Platform-Admin" ≠ some "true") :
    receive tryParse h call = .inl .healthy ∨ receive tryParse h call = .inl .unauthorized := by
  have hnone : tenantContext h = none := by
    have hempty : (firstOrDefault h "X-Tenant-ID").getD "" = "" := by
      cases hf : firstOrDefault h "X-Tenant-ID" with
      | none => rfl
      | some tenantId => exact htenant tenantId hf
    simp only [tenantContext, hempty, hadmin, decide_true, decide_false, Bool.not_false,
      Bool.and_true, if_true]
  unfold receive
  split
  next => exact Or.inl rfl
  next =>
    rw [hnone]
    exact Or.inr rfl

/-- With the tokens of the identity service the ledger does nothing for its clients: it stays as it
    is, and but for the health check answers 401. -/
theorem identity_tokens_refused (site : Site) (hgd : site.Guarded) (db : LedgerDb)
    (ks : List ClientRequest) (hout : ∀ k ∈ ks, Outside site.cfg k.http.header)
    (hsigned : ∀ k ∈ ks, IdentitySigned site k) :
    run (afterInput (online site)) db ks = db ∧
      ∀ a ∈ answerLog (online site) db ks,
        a.2 = none ∨ a.2 = some .healthy ∨ a.2 = some .unauthorized := by
  have hfront : ∀ k ∈ ks, ∃ a, arrive site k = .inl a ∧
      (a = none ∨ a = some .healthy ∨ a = some .unauthorized) := by
    intro k hk
    by_cases hserve : ∃ out, serveHTTP k.gateway site.lookup site.cfg k.http =
        .forwarded site.cfg.ledgerServiceURL out
    · obtain ⟨out, hserve⟩ := hserve
      obtain ⟨claims, hclaims, htenant, hflag⟩ := forwarded_identity hgd (hout k hk) hserve
      obtain ⟨p, rfl⟩ := verifiedClaims_signedPayload (hsigned k hk) hclaims
      rcases receive_unauthorized site.tryParse k.call htenant
        (fun htrue => nomatch hflag htrue) with hr | hr
      · exact ⟨some .healthy, by rw [arrive_forwarded hserve, hr]; rfl, Or.inr (Or.inl rfl)⟩
      · exact ⟨some .unauthorized, by rw [arrive_forwarded hserve, hr]; rfl, Or.inr (Or.inr rfl)⟩
    · exact ⟨none, arrive_elsewhere hserve, Or.inl rfl⟩
  have hkeep : ∀ s k, s = db → k ∈ ks → (online site s k).1 = db := by
    rintro s k rfl hk
    obtain ⟨a, ha, -⟩ := hfront k hk
    rw [online, behind_inl ha]
  constructor
  · exact run_invariant_mem (I := (· = db)) (fun s hs k hk => hkeep s k hs hk) rfl
  · intro a ha
    refine answerLog_forall (I := (· = db)) (C := (· ∈ ks))
      (P := fun _ o => o = none ∨ o = some .healthy ∨ o = some .unauthorized) hkeep ?_ rfl
      (fun _ hk => hk) ha
    intro s k _ hk
    obtain ⟨o, ho, hcases⟩ := hfront k hk
    rw [online, behind_inl ho]
    exact hcases

/-- The owner of a tenant asks for its accounts. -/
def Sample.ownerRequest : ClientRequest :=
  { gateway := Gateway.Sample.env Gateway.Sample.owner.toJson
    http := Gateway.Sample.request "GET" "/api/v1/ledger/accounts" Gateway.Sample.bearer
    env := Sample.on 1 900
    call := .getAccounts }

theorem identity_tokens_refused_sample :
    run (afterInput (online Sample.site)) (LedgerDb.seeded []) [Sample.ownerRequest] =
        LedgerDb.seeded [] ∧
      ∀ a ∈ answerLog (online Sample.site) (LedgerDb.seeded []) [Sample.ownerRequest],
        a.2 = none ∨ a.2 = some .healthy ∨ a.2 = some .unauthorized := by
  refine identity_tokens_refused Sample.site Sample.site_guarded _ _ (fun k hk => ?_)
    fun k hk token json hv => ?_
  · obtain rfl := List.mem_singleton.mp hk
    decide +kernel
  · obtain rfl := List.mem_singleton.mp hk
    refine ⟨Gateway.Sample.owner, ?_⟩
    change (if token = "header.payload.signature" then some Gateway.Sample.owner.toJson else none) =
      some json at hv
    split at hv
    next => exact (Option.some.inj hv).symm
    next => cases hv

end SaasChassis.Ledger
