/-
  The gateway's other middlewares: request ids, CORS, the service token, rate limits.

  What they ask of the world is in `Env`: a fresh id, the clock, Redis, gin-contrib/cors, gin's
  route lookup and the answers of health probes. Each middleware has one lemma on the context
  it hands on; none but `requestIDMiddleware` and `authMiddleware` touches the request.

  RecoveryMiddleware acts on panics alone and MeteringMiddleware counts after the response; neither
  stands between a request and its backend, and they are left out.
-/
import SaasChassis.Gateway.Auth

namespace SaasChassis.Gateway

open SaasChassis.Lib

structure CorsConfig where
  allowOrigins : List String
  allowMethods : List String
  allowHeaders : List String
  exposeHeaders : List String
  allowCredentials : Bool

inductive Probe where
  | failed (error : String)
  | answered (statusCode : ℕ) (latency : String)

structure Env where
  jwt : JwtLibrary
  /-- `uuid.New()`. -/
  uuid : String
  /-- `time.Now().Unix()`. -/
  now : ℤ
  /-- The count after `INCR key`; `none` when Redis does not answer. -/
  incr : String → Option ℤ
  /-- gin-contrib/cors, which decides by method, Origin and host: the status of a refusal or of a
      preflight answer, or the headers to add to the response. -/
  cors : CorsConfig → (method origin host : String) → Except ℕ (List (String × String))
  /-- GET on a health endpoint. -/
  probe : String → Probe

/-! ## RequestIDMiddleware -/

def requestIDMiddleware (env : Env) (c : Context) : Except Response Context :=
  let provided := c.request.header.get "X-Request-ID"
  let requestID := if provided = "" then env.uuid else provided
  let c := c.setRequestHeader "X-Request-ID" requestID
  let c := c.setResponseHeader "X-Request-ID" requestID
  .ok { c with requestID := requestID }

theorem requestIDMiddleware_ok (env : Env) (c : Context) :
    ∃ c', requestIDMiddleware env c = .ok c' ∧
      (∃ id, c'.request = { c.request with header := c.request.header.set "X-Request-ID" id }) :=
  ⟨_, rfl, _, rfl⟩

/-! ## CORSMiddleware -/

def corsConfig (originsEnv : String) : CorsConfig :=
  let allowOrigins :=
    if originsEnv = "" then ["*"]
    else ((splitAt ',' originsEnv).map trimSpace).filter (· ≠ "")
  { allowOrigins := allowOrigins
    allowMethods := ["GET", "POST", "PUT", "PATCH", "DELETE", "OPTIONS"]
    allowHeaders := ["Authorization", "Content-Type", "X-Request-ID", "X-Tenant-ID"]
    exposeHeaders := ["X-Request-ID", "X-RateLimit-Limit", "X-RateLimit-Remaining"]
    -- credentials must be off when any origin may call
    allowCredentials := !allowOrigins.contains "*" }

def corsAnswer (env : Env) (originsEnv : String) (req : Request) :
    Except ℕ (List (String × String)) :=
  env.cors (corsConfig originsEnv) req.method (req.header.get "Origin") req.host

def corsMiddleware (env : Env) (originsEnv : String) (c : Context) : Except Response Context :=
  match corsAnswer env originsEnv c.request with
  | .error status => c.abort status .null
  | .ok rows => .ok (rows.foldl (fun c row => c.setResponseHeader row.1 row.2) c)

theorem foldl_setResponseHeader_request (rows : List (String × String)) (c : Context) :
    (rows.foldl (fun c row => c.setResponseHeader row.1 row.2) c).request = c.request := by
  induction rows generalizing c with
  | nil => rfl
  | cons row rows ih => exact ih (c.setResponseHeader row.1 row.2)

theorem corsMiddleware_request {env : Env} {originsEnv : String} {c c' : Context}
    (h : corsMiddleware env originsEnv c = .ok c') : c'.request = c.request := by
  unfold corsMiddleware at h
  split at h
  · cases h
  · obtain rfl := Except.ok.inj h
    exact foldl_setResponseHeader_request _ c

/-! ## InternalAuthMiddleware -/

def internalAuthMiddleware (token : String) (c : Context) : Except Response Context :=
  if token = "" then .ok c
  else if c.request.header.get "X-Service-Token" ≠ token then
    c.abort 401 (errorBody "invalid service token")
  else .ok c

/-! ## RateLimitMiddleware -/

structure TierLimits where
  requestsPerMinute : ℤ
  requestsPerHour : ℤ
  burstSize : ℤ
  deriving DecidableEq, Repr

/-- `PlanLimits[plan]`: an unknown plan gives the zero limits. -/
def planLimits : String → TierLimits
  | "free" => { requestsPerMinute := 30, requestsPerHour := 500, burstSize := 10 }
  | "starter" => { requestsPerMinute := 100, requestsPerHour := 3000, burstSize := 30 }
  | "pro" => { requestsPerMinute := 500, requestsPerHour := 15000, burstSize := 100 }
  | "enterprise" => { requestsPerMinute := 2000, requestsPerHour := 100000, burstSize := 500 }
  | _ => { requestsPerMinute := 0, requestsPerHour := 0, burstSize := 0 }

def limitsFor (plan : String) : TierLimits :=
  let limits := planLimits plan
  if limits.requestsPerMinute = 0 then planLimits "free" else limits

def minuteKey (tenantID : String) (now : ℤ) : String := s!"ratelimit:{tenantID}:{now / 60}"
def hourKey (tenantID : String) (now : ℤ) : String := s!"ratelimit:{tenantID}:hour:{now / 3600}"
def burstKey (tenantID : String) (now : ℤ) : String := s!"ratelimit:{tenantID}:burst:{now}"

/-- A counter above its limit; a Redis error never is. -/
def exceeds (count : Option ℤ) (limit : ℤ) : Bool :=
  match count with
  | some n => limit < n
  | none => false

@[simp] theorem exceeds_some (n limit : ℤ) : exceeds (some n) limit = decide (limit < n) := rfl

@[simp] theorem exceeds_none (limit : ℤ) : exceeds none limit = false := rfl

@[simp] theorem Context.abort_eq {α : Type} (c : Context) (status : ℕ) (body : Json) :
    (c.abort status body : Except Response α) =
      .error { status := status, header := c.responseHeader, body := body } := rfl

def rateLimitMiddleware (env : Env) (c : Context) : Except Response Context :=
  let tenantID := c.request.header.get "X-Tenant-ID"
  let limits := limitsFor c.tenantPlan
  match env.incr (minuteKey tenantID env.now) with
  | none => .ok c
  | some count =>
    let c := c.setResponseHeader "X-RateLimit-Limit" (toString limits.requestsPerMinute)
    let c := c.setResponseHeader "X-RateLimit-Remaining"
      (toString (max 0 (limits.requestsPerMinute - count)))
    if limits.requestsPerMinute < count then
      (c.setResponseHeader "Retry-After" "60").abort 429
        (.obj [("error", .str "rate limit exceeded"), ("retryAfter", .num 60)])
    else if exceeds (env.incr (hourKey tenantID env.now)) limits.requestsPerHour then
      (c.setResponseHeader "Retry-After" "3600").abort 429
        (errorBody "hourly rate limit exceeded")
    else if exceeds (env.incr (burstKey tenantID env.now)) limits.burstSize then
      (c.setResponseHeader "Retry-After" "1").abort 429
        (errorBody "burst rate limit exceeded")
    else .ok c

/-- The request of this tenant is one too many in its minute, hour or second. The last two
    are only looked at when Redis counted the first. -/
def overLimit (env : Env) (tenantID plan : String) : Bool :=
  let limits := limitsFor plan
  exceeds (env.incr (minuteKey tenantID env.now)) limits.requestsPerMinute ||
    (env.incr (minuteKey tenantID env.now)).isSome &&
      (exceeds (env.incr (hourKey tenantID env.now)) limits.requestsPerHour ||
        exceeds (env.incr (burstKey tenantID env.now)) limits.burstSize)

theorem rateLimitMiddleware_request {env : Env} {c c' : Context}
    (h : rateLimitMiddleware env c = .ok c') : c'.request = c.request := by
  unfold rateLimitMiddleware at h
  dsimp only [Context.abort_eq] at h
  split at h
  · rw [← Except.ok.inj h]
  · split_ifs at h
    rw [← Except.ok.inj h]
    rfl

/-- A request passes exactly within the limits. -/
theorem rateLimitMiddleware_ok_iff (env : Env) (c : Context) :
    (∃ c', rateLimitMiddleware env c = .ok c') ↔
      overLimit env (c.request.header.get "X-Tenant-ID") c.tenantPlan = false := by
  unfold rateLimitMiddleware overLimit
  dsimp only
  split
  next hm => simp [hm]
  next count hm =>
    simp only [hm, exceeds_some, Option.isSome_some, Bool.true_and, Context.abort_eq]
    split_ifs with hminute hhour hburst
    · simp [hminute]
    · simp [hhour]
    · simp [hburst]
    · simp [hminute, hhour, hburst]

end SaasChassis.Gateway
