/-
  What the gateway sends on to a service that only its authenticated routes lead to.

  The route table also has an internal group, for callers with the service token. A request without
  that token reaches such a service only with a verified bearer token (`forwarded_verified`), and
  then each identity header that `injectIdentity` writes has the token's value, unless the client
  had it deleted by listing it in Connection. `reaches_twin`: what identity headers the client
  itself sent makes no difference to whether the request gets there.
-/
import SaasChassis.Gateway.IdentityHeaders

namespace SaasChassis.Gateway

open SaasChassis.Lib

/-- gin's route tree returns one of the routes it was given. -/
def FindsRoutes (lookup : List Route → String → String → Option Route) : Prop :=
  ∀ routes method path r, lookup routes method path = some r → r ∈ routes

/-- The caller does not have the token of the internal routes. -/
def Outside (cfg : Config) (h : Header) : Prop := h.get "X-Service-Token" ≠ cfg.internalServiceToken

instance (cfg : Config) (h : Header) : Decidable (Outside cfg h) :=
  inferInstanceAs (Decidable (¬ _))

section Routes

variable {cfg : Config} {r : Route} {target : String}

/-- Routes without a token lead to the identity service, to the billing engine or nowhere. -/
theorem group_of_target (hr : r ∈ setupRoutes cfg) (hh : r.handler = .proxyTo target)
    (hidentity : target ≠ cfg.identityServiceURL) (hbilling : target ≠ cfg.billingEngineURL) :
    r.group = .authed ∨ r.group = .internal := by
  simp only [setupRoutes, List.cons_append, List.nil_append, List.mem_cons, List.mem_append,
    List.mem_map, List.not_mem_nil, or_false] at hr
  rcases hr with rfl | rfl | rfl | rfl | rfl | rfl | rfl | rfl | rfl | rfl | rfl |
    ⟨p, -, rfl⟩ | rfl | rfl | rfl | rfl | rfl | rfl | rfl
  all_goals first | exact Or.inl rfl | exact Or.inr rfl | skip
  · exact absurd (RouteHandler.proxyTo.inj hh).symm hidentity
  · exact absurd (RouteHandler.proxyTo.inj hh).symm hidentity
  · exact absurd (RouteHandler.proxyTo.inj hh).symm hidentity
  · exact absurd (RouteHandler.proxyTo.inj hh).symm hbilling
  · cases hh

end Routes

section Serve

variable {env : Env} {cfg : Config} {r : Route} {req out : Request} {target : String}

theorem handler_of_forwarded (h : r.serve env cfg req = .forwarded target out) :
    r.handler = .proxyTo target := by
  unfold Route.serve at h
  split at h
  next c _ =>
    cases hh : r.handler with
    | health =>
      rw [hh] at h
      cases h
    | proxyTo targetBase =>
      rw [hh] at h
      change Gateway.proxyTo targetBase c = _ at h
      unfold Gateway.proxyTo at h
      split at h
      next => rw [(Answer.forwarded.inj h).1]
      next => cases h
  next => cases h

/-- Without the service token the internal routes are closed. -/
theorem serve_internal (hg : r.group = .internal) (htoken : cfg.internalServiceToken ≠ "")
    (hout : Outside cfg req.header) : ∃ resp, r.serve env cfg req = .responded resp := by
  unfold Route.serve
  split
  next c hm =>
    obtain ⟨c₁, hglobal, hgroup⟩ := middlewares_eq_ok_iff.mp hm
    obtain ⟨id, hreq⟩ := globalMiddlewares_request hglobal
    have hcanonical : canonicalHeaderKey "X-Service-Token" = "X-Service-Token" := by
      decide +kernel
    have hheader : c₁.request.header.get "X-Service-Token" = req.header.get "X-Service-Token" := by
      rw [hreq]
      exact get_congr hcanonical (set_requestID (k := "X-Service-Token") (by decide) id)
    rw [hg] at hgroup
    have hwrong : req.header.get "X-Service-Token" ≠ cfg.internalServiceToken := hout
    simp only [RouteGroup.middlewares, internalAuthMiddleware, if_neg htoken, hheader,
      if_pos hwrong, Context.abort_eq] at hgroup
    cases hgroup
  next resp _ => exact ⟨resp, rfl⟩

theorem not_refused_of_forwarded (hg : r.group ≠ .internal)
    (h : r.serve env cfg req = .forwarded target out) : ¬ Refused env cfg r req := by
  intro hrefused
  have hnone := serve_refused hg hrefused ""
  rw [h] at hnone
  cases hnone

/-- The identity headers an authenticated route forwards. -/
theorem serve_authed (hg : r.group = .authed) (h : r.serve env cfg req = .forwarded target out) :
    ∃ claims, verifiedClaims env.jwt cfg.jwtSecret req.header = some claims ∧
      ∀ k ∈ identityKeys, out.header k =
        if k ∈ removedKeys req.header then [] else injectIdentity claims req.header k := by
  have hne : r.group ≠ .internal := by simp [hg]
  have hseen : ∀ k, (r.serve env cfg req).seen k = some (out.header k) := by
    intro k
    rw [h]
    rfl
  have hallowed := not_refused_of_forwarded hne h
  obtain ⟨claims, hc, -⟩ : Admitted env cfg req.header := by
    by_contra hn
    exact hallowed (Or.inr (Or.inl ⟨hg, hn⟩))
  refine ⟨claims, hc, fun k hk => ?_⟩
  have hvalue := serve_seen hne hallowed hk
  rw [hseen, Route.identified, if_pos hg, hc] at hvalue
  exact Option.some.inj hvalue

end Serve

/-! ## Guarded services -/

/-- A service that no open route leads to, in a gateway that checks the service token. -/
structure Guarded (lookup : List Route → String → String → Option Route) (cfg : Config)
    (target : String) : Prop where
  finds_routes : FindsRoutes lookup
  identity_apart : target ≠ cfg.identityServiceURL
  billing_apart : target ≠ cfg.billingEngineURL
  service_token : cfg.internalServiceToken ≠ ""

section Guarded

variable {env : Env} {lookup : List Route → String → String → Option Route} {cfg : Config}
  {req out : Request} {target : String}

/-- An authenticated route leads the request to the service, and nothing speaks against it. -/
def Reaches (env : Env) (lookup : List Route → String → String → Option Route) (cfg : Config)
    (req : Request) (target : String) : Prop :=
  ∃ r, lookup (setupRoutes cfg) req.method req.path = some r ∧ r.handler = .proxyTo target ∧
    r.group = .authed ∧ ¬ Refused env cfg r req

/-- A request gets to the service as its twin with other identity headers does. -/
theorem reaches_twin {h : Header} (hagree : AgreeOff identitySet req.header h) :
    Reaches env lookup cfg { req with header := h } target ↔ Reaches env lookup cfg req target := by
  unfold Reaches
  simp only [refused_twin hagree]

variable (hgd : Guarded lookup cfg target) (hout : Outside cfg req.header)
include hgd hout

theorem route_of_forwarded (h : serveHTTP env lookup cfg req = .forwarded target out) :
    ∃ r, lookup (setupRoutes cfg) req.method req.path = some r ∧ r.group = .authed ∧
      r.serve env cfg req = .forwarded target out := by
  unfold serveHTTP at h
  split at h
  next r hr =>
    rcases group_of_target (hgd.finds_routes _ _ _ _ hr) (handler_of_forwarded h)
      hgd.identity_apart hgd.billing_apart with hg | hg
    · exact ⟨r, hr, hg, h⟩
    · obtain ⟨resp, hresp⟩ := serve_internal hg hgd.service_token hout
      rw [hresp] at h
      cases h
  next =>
    split at h
    next => cases h
    next => cases h

theorem forwarded_iff :
    (∃ out, serveHTTP env lookup cfg req = .forwarded target out) ↔
      Reaches env lookup cfg req target := by
  constructor
  · rintro ⟨out, h⟩
    obtain ⟨r, hr, hg, hserve⟩ := route_of_forwarded hgd hout h
    exact ⟨r, hr, handler_of_forwarded hserve, hg,
      not_refused_of_forwarded (by simp [hg]) hserve⟩
  · rintro ⟨r, hr, hh, hg, hallowed⟩
    have hkey : "X-Tenant-Id" ∈ identityKeys := by decide
    have hseen := serve_seen (by simp [hg]) hallowed hkey
    have hserve : serveHTTP env lookup cfg req = r.serve env cfg req := by
      unfold serveHTTP
      simp only [hr]
    rw [hserve]
    cases hans : r.serve env cfg req with
    | responded resp =>
      rw [hans] at hseen
      cases hseen
    | forwarded target' out =>
      have htarget := (handler_of_forwarded hans).symm.trans hh
      rw [RouteHandler.proxyTo.inj htarget]
      exact ⟨out, rfl⟩

/-- What a request without the service token brings to a guarded service. -/
theorem forwarded_verified (h : serveHTTP env lookup cfg req = .forwarded target out) :
    ∃ claims, verifiedClaims env.jwt cfg.jwtSecret req.header = some claims ∧
      ∀ k ∈ identityKeys, out.header k =
        if k ∈ removedKeys req.header then [] else injectIdentity claims req.header k := by
  obtain ⟨r, -, hg, hserve⟩ := route_of_forwarded hgd hout h
  exact serve_authed hg hserve

/-- Tenant and platform admin, as the service reads them with `GetHeader`. -/
theorem forwarded_get (h : serveHTTP env lookup cfg req = .forwarded target out) :
    ∃ claims, verifiedClaims env.jwt cfg.jwtSecret req.header = some claims ∧
      (out.header.get "X-Tenant-ID" = "" ∨ out.header.get "X-Tenant-ID" = claims.tenantID) ∧
      (out.header.get "X-Is-Platform-Admin" = "true" → claims.isPlatformAdmin = true) := by
  obtain ⟨claims, hclaims, hheaders⟩ := forwarded_verified hgd hout h
  obtain ⟨-, htenant, -, -, -, hflag, -⟩ := injectIdentity_get claims req.header
  obtain ⟨-, htenantKey, -, -, -, hflagKey, -⟩ := canonical_identity
  rw [Header.get, htenantKey] at htenant
  rw [Header.get, hflagKey] at hflag
  refine ⟨claims, hclaims, ?_, ?_⟩
  · rw [Header.get, htenantKey, hheaders _ (by decide)]
    split
    next => exact Or.inl rfl
    next => exact Or.inr htenant
  · rw [Header.get, hflagKey, hheaders _ (by decide)]
    split
    next => exact fun h => absurd h (by decide)
    next =>
      rw [hflag]
      cases claims.isPlatformAdmin with
      | true => exact fun _ => rfl
      | false => exact fun h => absurd h (by decide)

end Guarded

end SaasChassis.Gateway
