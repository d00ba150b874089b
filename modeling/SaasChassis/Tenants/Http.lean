/-
  The tenant manager's GET routes, for a caller without an access token.

  Guards run before pipes, and pipes before the handler. All routes but two are behind
  `JwtAuthGuard`, so their handlers do not run here. `getRoute_plain`: the path of a tenant's
  feature, without `/check`, has no GET route.
-/
import SaasChassis.Tenants.FeaturesService
import SaasChassis.Lib.Json

namespace SaasChassis.Tenants

open SaasChassis.Lib Faulty

structure HttpResponse where
  status : ℕ
  body : Json

/-- `response.ok` of the fetch API. -/
def HttpResponse.ok (r : HttpResponse) : Bool := 200 ≤ r.status && r.status ≤ 299

/-- The segments of the path, decoded, and the headers. -/
structure GetRequest where
  path : List String
  headers : List (String × String)

/-! ## Routes -/

inductive Handler where
  | health
  | behindJwtAuthGuard
  | checkFeature
  deriving DecidableEq

def getRoutes : List (String × Handler) :=
  [("health", .health),
   ("api/v1/features", .behindJwtAuthGuard),
   ("api/v1/tenants/:id/features", .behindJwtAuthGuard),
   ("api/v1/tenants/:id/features/:code/check", .checkFeature),
   ("api/v1/tenants", .behindJwtAuthGuard),
   ("api/v1/tenants/:id", .behindJwtAuthGuard),
   ("api/v1/plans", .behindJwtAuthGuard),
   ("api/v1/plans/:id", .behindJwtAuthGuard)]

/-- Express compares the words of a route without regard to case. -/
def sameWord (s t : String) : Bool := s.toList.map Char.toLower == t.toList.map Char.toLower

/-- The parameters of a path that a route matches. -/
def matchPath : List String → List String → Option (List String)
  | [], [] => some []
  | word :: words, segment :: segments =>
    if hasPrefix word ":" then
      if segment = "" then none else (matchPath words segments).map (segment :: ·)
    else if sameWord word segment then matchPath words segments
    else none
  | _, _ => none

def getRoute (path : List String) : Option (Handler × List String) :=
  getRoutes.findSome? fun route =>
    (matchPath (splitAt '/' route.1) path).map fun params => (route.2, params)

/-! ## Responses -/

def httpException (status : ℕ) (error message : String) : HttpResponse :=
  { status
    body := .obj [("message", .str message), ("error", .str error), ("statusCode", .num status)] }

/-- What a handler's unhandled error becomes. -/
def internalServerError : HttpResponse :=
  { status := 500
    body := .obj [("statusCode", .num 500), ("message", .str "Internal server error")] }

/-- `ApiResponseDto.ok`; a member that is undefined is not written. -/
def apiResponseOk (data : Json) : Json := .obj [("success", .bool true), ("data", data)]

structure HealthStatus where
  database : Bool
  redis : Bool
  timestamp : String
  uptime : ℚ

def HealthStatus.toJson (h : HealthStatus) : Json :=
  let check (up : Bool) : Json := .str (if up then "ok" else "error")
  .obj [("status", .str (if h.database && h.redis then "ok" else "degraded")),
    ("service", .str "tenant-manager"), ("timestamp", .str h.timestamp), ("uptime", .num h.uptime),
    ("checks", .obj [("database", check h.database), ("redis", check h.redis)])]

structure HttpConfig where
  /-- `app.internalServiceToken`. -/
  internalServiceToken : Option String
  /-- The test of `ParseUUIDPipe`. -/
  isUuid : String → Bool

/-- `InternalServiceGuard`, with the message it throws. -/
def internalServiceGuard (expected token : Option String) : Except String Unit :=
  match token.filter (· ≠ ""), expected.filter (· ≠ "") with
  | some token, some expected =>
    if token ≠ expected then .error "Invalid X-Service-Token" else .ok ()
  | _, _ => .error "Missing X-Service-Token header"

def header (name : String) (headers : List (String × String)) : Option String :=
  (headers.find? fun h => sameWord name h.1).map (·.2)

/-- `FeaturesController.checkFeature`, with its guard and its pipe. -/
def checkFeature (config : HttpConfig) (env : Env) (headers : List (String × String))
    (id code : String) : Method HttpResponse :=
  match internalServiceGuard config.internalServiceToken (header "X-Service-Token" headers) with
  | .error message => return httpException 401 "Unauthorized" message
  | .ok () =>
    if config.isUuid id then
      tryCatch (do
        let enabled ← isFeatureEnabled env id code
        return { status := 200, body := apiResponseOk (.obj [("enabled", .bool enabled)]) })
        fun _ => return internalServerError
    else return httpException 400 "Bad Request" "Validation failed (uuid is expected)"

def respond (config : HttpConfig) (env : Env) (health : HealthStatus) (req : GetRequest) :
    Method HttpResponse :=
  match getRoute req.path with
  | some (.health, _) => return { status := 200, body := health.toJson }
  | some (.behindJwtAuthGuard, _) =>
    return httpException 401 "Unauthorized" "Invalid or missing access token"
  | some (.checkFeature, [id, code]) => checkFeature config env req.headers id code
  | _ => return httpException 404 "Not Found" ("Cannot GET /" ++ joinAt '/' req.path)

theorem matchPath_length {words segments params : List String}
    (h : matchPath words segments = some params) : words.length = segments.length := by
  induction words generalizing segments params with
  | nil =>
    cases segments with
    | nil => rfl
    | cons segment segments => cases h
  | cons word words ih =>
    cases segments with
    | nil => cases h
    | cons segment segments =>
      unfold matchPath at h
      refine congrArg (· + 1) ?_
      split at h
      · split at h
        · cases h
        · obtain ⟨rest, hrest, -⟩ := Option.map_eq_some_iff.mp h
          exact ih hrest
      · split at h
        · exact ih h
        · cases h

/-- The path without `/check` has no GET route. -/
theorem getRoute_plain (tenantId featureCode : String) :
    getRoute ["api", "v1", "tenants", tenantId, "features", featureCode] = none := by
  have hlengths : ∀ route ∈ getRoutes, (splitAt '/' route.1).length ≠ 6 := by decide +kernel
  refine List.findSome?_eq_none_iff.mpr fun route hroute => Option.map_eq_none_iff.mpr ?_
  cases hmatch : matchPath (splitAt '/' route.1)
      ["api", "v1", "tenants", tenantId, "features", featureCode] with
  | none => rfl
  | some params => exact absurd (matchPath_length hmatch) (hlengths route hroute)

end SaasChassis.Tenants
