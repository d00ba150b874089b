/-
  The gateway's route table and what it does with a request to one of its routes.

  `setupRoutes` lists the routes with their group; a group decides the middlewares. `serve` runs
  them and the route's handler: the gateway answers itself or forwards the request.
  gin's matching of method and path, and its checks at registration, are gin's: `serveHTTP`
  takes the lookup as a parameter, everything else is about a request and the route it reached.
-/
import SaasChassis.Gateway.Middleware

namespace SaasChassis.Gateway

open SaasChassis.Lib

/-! ## Configuration -/

structure Config where
  jwtSecret : String
  internalServiceToken : String
  identityServiceURL : String
  tenantManagerURL : String
  billingEngineURL : String
  auditServiceURL : String
  ledgerServiceURL : String
  /-- Comma-separated "prefix=url" pairs. -/
  productRoutes : String
  /-- `CORS_ORIGINS`, read by the CORS middleware itself. -/
  corsOrigins : String

structure ProductRoute where
  pathPrefix : String
  targetURL : String
  deriving DecidableEq, Repr

/-- Entries without an equals sign are dropped. -/
def Config.parseProductRoutes (cfg : Config) : List ProductRoute :=
  if cfg.productRoutes = "" then []
  else (splitAt ',' cfg.productRoutes).filterMap fun entry =>
    match splitFirst '=' (trimSpace entry) with
    | [pathPrefix, targetURL] => some { pathPrefix := pathPrefix, targetURL := targetURL }
    | _ => none

/-! ## Routes -/

inductive RouteGroup where
  | publicApi | authed | internal | webhooks | root
  deriving DecidableEq, Repr

inductive RouteHandler where
  | proxyTo (targetBase : String)
  | health
  deriving DecidableEq, Repr

structure Route where
  group : RouteGroup
  /-- `none` for a route of any method. -/
  method : Option String
  path : String
  handler : RouteHandler
  deriving DecidableEq, Repr

def setupRoutes (cfg : Config) : List Route :=
  let post := fun group path target =>
    ({ group := group, method := some "POST", path := path, handler := .proxyTo target } : Route)
  let any := fun group path target =>
    ({ group := group, method := none, path := path, handler := .proxyTo target } : Route)
  [post .publicApi "/api/v1/auth/register" cfg.identityServiceURL,
   post .publicApi "/api/v1/auth/login" cfg.identityServiceURL,
   post .publicApi "/api/v1/auth/refresh" cfg.identityServiceURL,
   any .authed "/api/v1/auth/*path" cfg.identityServiceURL,
   any .authed "/api/v1/users/*path" cfg.identityServiceURL,
   any .authed "/api/v1/impersonate" cfg.identityServiceURL,
   any .authed "/api/v1/tenants/*path" cfg.tenantManagerURL,
   any .authed "/api/v1/features/*path" cfg.tenantManagerURL,
   any .authed "/api/v1/billing/*path" cfg.billingEngineURL,
   any .authed "/api/v1/ledger/*path" cfg.ledgerServiceURL,
   any .authed "/api/v1/audit/*path" cfg.auditServiceURL] ++
  cfg.parseProductRoutes.map (fun r =>
    any .authed ("/api/v1/" ++ r.pathPrefix ++ "/*path") r.targetURL) ++
  [any .internal "/internal/identity/*path" cfg.identityServiceURL,
   any .internal "/internal/tenants/*path" cfg.tenantManagerURL,
   any .internal "/internal/billing/*path" cfg.billingEngineURL,
   any .internal "/internal/ledger/*path" cfg.ledgerServiceURL,
   any .internal "/internal/audit/*path" cfg.auditServiceURL,
   post .webhooks "/webhooks/stripe" cfg.billingEngineURL,
   { group := .root, method := some "GET", path := "/health", handler := .health }]

/-! ## Handlers -/

/-- What becomes of a request: the gateway's own response, or the request it sends on. The host
    it is sent to is the target's. -/
inductive Answer where
  | responded (r : Response)
  | forwarded (targetBase : String) (req : Request)

/-- The director leaves the headers alone. A refused Upgrade ends in the error handler. -/
def proxyTo (targetBase : String) (c : Context) : Answer :=
  match proxyHeader c.request with
  | some h => .forwarded targetBase { c.request with header := h }
  | none => .responded
      { status := 502
        header := c.responseHeader.set "Content-Type" "application/json"
        body := .obj [("error", .str "service unavailable"), ("code", .str "UPSTREAM_ERROR")] }

def serviceHealth : Probe → Bool × Json
  | .failed error => (false, .obj [("status", .str "unhealthy"), ("error", .str error)])
  | .answered statusCode latency =>
    if 500 ≤ statusCode then
      (false, .obj [("status", .str "unhealthy"), ("latency", .str latency),
        ("error", .str s!"status {statusCode}")])
    else (true, .obj [("status", .str "ok"), ("latency", .str latency)])

def healthHandler (env : Env) (cfg : Config) (c : Context) : Answer :=
  let backends :=
    [("audit-service", cfg.auditServiceURL), ("billing-engine", cfg.billingEngineURL),
     ("identity-service", cfg.identityServiceURL), ("ledger-service", cfg.ledgerServiceURL),
     ("tenant-manager", cfg.tenantManagerURL)]
  let services := backends.map fun b => (b.1, serviceHealth (env.probe (b.2 ++ "/health")))
  let allHealthy := services.all (·.2.1)
  .responded
    { status := if allHealthy then 200 else 503
      header := c.responseHeader
      body := .obj [("status", .str (if allHealthy then "ok" else "degraded")),
        ("version", .str "1.0.0"), ("services", .obj (services.map fun s => (s.1, s.2.2)))] }

def RouteHandler.handle (env : Env) (cfg : Config) : RouteHandler → Context → Answer
  | .proxyTo targetBase => Gateway.proxyTo targetBase
  | .health => healthHandler env cfg

/-! ## Serving a request -/

def newContext (req : Request) : Context :=
  { request := req, responseHeader := Header.empty, claims := none, tenantPlan := "",
    requestID := "" }

/-- The middlewares of every route. -/
def globalMiddlewares (env : Env) (cfg : Config) (c : Context) : Except Response Context :=
  requestIDMiddleware env c >>= corsMiddleware env cfg.corsOrigins

def RouteGroup.middlewares (env : Env) (cfg : Config) (c : Context) :
    RouteGroup → Except Response Context
  | .authed => authMiddleware env.jwt cfg.jwtSecret c >>= rateLimitMiddleware env
  | .internal => internalAuthMiddleware cfg.internalServiceToken c
  | .publicApi | .webhooks | .root => .ok c

def Route.middlewares (env : Env) (cfg : Config) (r : Route) (req : Request) :
    Except Response Context :=
  globalMiddlewares env cfg (newContext req) >>= fun c => r.group.middlewares env cfg c

/-- A request to a route. -/
def Route.serve (env : Env) (cfg : Config) (r : Route) (req : Request) : Answer :=
  match r.middlewares env cfg req with
  | .ok c => r.handler.handle env cfg c
  | .error resp => .responded resp

/-- A request to the gateway; `lookup` is gin's route tree. -/
def serveHTTP (env : Env) (lookup : List Route → String → String → Option Route) (cfg : Config)
    (req : Request) : Answer :=
  match lookup (setupRoutes cfg) req.method req.path with
  | some r => r.serve env cfg req
  | none =>
    match globalMiddlewares env cfg (newContext req) with
    | .ok c => .responded
        { status := 404, header := c.responseHeader, body := .str "404 page not found" }
    | .error resp => .responded resp

end SaasChassis.Gateway
