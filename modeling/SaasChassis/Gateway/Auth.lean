/-
  The gateway's AuthMiddleware: from a bearer token to the identity headers.

  A middleware is a function on gin's `Context` that either hands it on or aborts with a
  `Response`. The JWT library is a parameter, `JwtLibrary`: signature and registered claims
  (expiry, not-before) are its business, the decoding into `Claims` is the code's.

  `authMiddleware_ok` says what an accepted request looks like afterwards, in terms of
  `verifiedClaims`; the lemmas after it read single headers off `injectIdentity`.
-/
import SaasChassis.Gateway.Http
import SaasChassis.Lib.Json

namespace SaasChassis.Gateway

open SaasChassis.Lib

/-! ## Claims -/

/-- The claims of the gateway's own tags; those of `jwt.RegisteredClaims` stay with the
    library, and its `sub` is shadowed by `UserID`. -/
structure Claims where
  userID : String
  tenantID : String
  tenantSlug : String
  roles : List String
  permissions : List String
  isPlatformAdmin : Bool
  isImpersonating : Bool
  realUserID : String
  plan : String
  deriving DecidableEq, Repr

inductive ClaimsField where
  | userID | tenantID | tenantSlug | roles | permissions | isPlatformAdmin | isImpersonating
  | realUserID | plan
  deriving DecidableEq, Repr

namespace Claims

def zero : Claims :=
  { userID := "", tenantID := "", tenantSlug := "", roles := [], permissions := [],
    isPlatformAdmin := false, isImpersonating := false, realUserID := "", plan := "" }

def fields : List ClaimsField :=
  [.userID, .tenantID, .tenantSlug, .roles, .permissions, .isPlatformAdmin, .isImpersonating,
   .realUserID, .plan]

def tag : ClaimsField → String
  | .userID => "sub"
  | .tenantID => "tenant_id"
  | .tenantSlug => "tenant_slug"
  | .roles => "roles"
  | .permissions => "permissions"
  | .isPlatformAdmin => "is_platform_admin"
  | .isImpersonating => "is_impersonating"
  | .realUserID => "real_user_id"
  | .plan => "plan"

def field : String → Option ClaimsField := Json.matchField tag fields

def assign (f : ClaimsField) (j : Json) (c : Claims) : Option Claims :=
  match f with
  | .userID => (j.decodeString c.userID).map fun s => { c with userID := s }
  | .tenantID => (j.decodeString c.tenantID).map fun s => { c with tenantID := s }
  | .tenantSlug => (j.decodeString c.tenantSlug).map fun s => { c with tenantSlug := s }
  | .roles => j.decodeStrings.map fun xs => { c with roles := xs }
  | .permissions => j.decodeStrings.map fun xs => { c with permissions := xs }
  | .isPlatformAdmin =>
    (j.decodeBool c.isPlatformAdmin).map fun b => { c with isPlatformAdmin := b }
  | .isImpersonating =>
    (j.decodeBool c.isImpersonating).map fun b => { c with isImpersonating := b }
  | .realUserID => (j.decodeString c.realUserID).map fun s => { c with realUserID := s }
  | .plan => (j.decodeString c.plan).map fun s => { c with plan := s }

def decode : Json → Option Claims := Json.decodeStruct field assign zero

/-- Every field is found under its own tag. -/
theorem field_tag : ∀ f ∈ fields, field (tag f) = some f := by decide +kernel

end Claims

/-! ## Contexts -/

structure Response where
  status : ℕ
  header : Header
  body : Json

/-- gin's context; `claims`, `tenantPlan` and `requestID` are the keys set with `c.Set`. -/
structure Context where
  request : Request
  /-- The response headers set so far. -/
  responseHeader : Header
  claims : Option Claims
  tenantPlan : String
  requestID : String

namespace Context

def setRequestHeader (c : Context) (key value : String) : Context :=
  { c with request := { c.request with header := c.request.header.set key value } }

def setResponseHeader (c : Context) (key value : String) : Context :=
  { c with responseHeader := c.responseHeader.set key value }

def abort {α : Type} (c : Context) (status : ℕ) (body : Json) : Except Response α :=
  .error { status := status, header := c.responseHeader, body := body }

end Context

def errorBody (message : String) : Json := .obj [("error", .str message)]

/-! ## AuthMiddleware -/

/-- Tokens, as the libraries of both services make and check them under a shared secret. -/
structure JwtLibrary where
  /-- `jwtService.sign`. -/
  sign : String → Json → String
  /-- The claims of a token `jwt.ParseWithClaims` finds valid. -/
  verify : String → String → Option Json

def boolHeader (b : Bool) : String := if b then "true" else "false"

/-- Inject identity headers for downstream services. -/
def injectIdentity (claims : Claims) (h : Header) : Header :=
  let h := h.set "X-User-ID" claims.userID
  let h := h.set "X-Tenant-ID" claims.tenantID
  let h := h.set "X-Tenant-Slug" claims.tenantSlug
  let h := h.set "X-Roles" (joinAt ',' claims.roles)
  let h := h.set "X-Permissions" (joinAt ',' claims.permissions)
  let h := h.set "X-Is-Platform-Admin" (boolHeader claims.isPlatformAdmin)
  let h := if claims.isImpersonating then h.set "X-Real-User-ID" claims.realUserID else h
  h.set "X-Is-Impersonating" (boolHeader claims.isImpersonating)

/-- The canonical keys of the headers that tell a backend who is calling. -/
def identityKeys : List String :=
  ["X-User-Id", "X-Tenant-Id", "X-Tenant-Slug", "X-Roles", "X-Permissions",
   "X-Is-Platform-Admin", "X-Is-Impersonating", "X-Real-User-Id"]

/-- Those `injectIdentity` sets: the real user's only for an impersonation. -/
def writtenKeys (claims : Claims) : List String :=
  ["X-User-Id", "X-Tenant-Id", "X-Tenant-Slug", "X-Roles", "X-Permissions",
   "X-Is-Platform-Admin", "X-Is-Impersonating"] ++
  if claims.isImpersonating then ["X-Real-User-Id"] else []

theorem canonical_identity :
    canonicalHeaderKey "X-User-ID" = "X-User-Id" ∧
    canonicalHeaderKey "X-Tenant-ID" = "X-Tenant-Id" ∧
    canonicalHeaderKey "X-Tenant-Slug" = "X-Tenant-Slug" ∧
    canonicalHeaderKey "X-Roles" = "X-Roles" ∧
    canonicalHeaderKey "X-Permissions" = "X-Permissions" ∧
    canonicalHeaderKey "X-Is-Platform-Admin" = "X-Is-Platform-Admin" ∧
    canonicalHeaderKey "X-Is-Impersonating" = "X-Is-Impersonating" ∧
    canonicalHeaderKey "X-Real-User-ID" = "X-Real-User-Id" := by
  decide +kernel

theorem injectIdentity_unwritten {claims : Claims} {k : String} (hk : k ∉ writtenKeys claims)
    (h : Header) : injectIdentity claims h k = h k := by
  unfold injectIdentity
  unfold writtenKeys at hk
  cases hi : claims.isImpersonating <;>
    simp_all [Header.set, canonical_identity]

/-- What is written does not depend on what was received. -/
theorem injectIdentity_written {claims : Claims} {k : String} (hk : k ∈ writtenKeys claims)
    (h h' : Header) : injectIdentity claims h k = injectIdentity claims h' k := by
  unfold injectIdentity
  unfold writtenKeys at hk
  cases hi : claims.isImpersonating
  · simp [hi] at hk
    rcases hk with rfl | rfl | rfl | rfl | rfl | rfl | rfl <;>
      simp [Header.set, canonical_identity]
  · simp [hi] at hk
    rcases hk with rfl | rfl | rfl | rfl | rfl | rfl | rfl | rfl <;>
      simp [Header.set, canonical_identity]

theorem injectIdentity_get (claims : Claims) (h : Header) :
    (injectIdentity claims h).get "X-User-ID" = claims.userID ∧
    (injectIdentity claims h).get "X-Tenant-ID" = claims.tenantID ∧
    (injectIdentity claims h).get "X-Tenant-Slug" = claims.tenantSlug ∧
    (injectIdentity claims h).get "X-Roles" = joinAt ',' claims.roles ∧
    (injectIdentity claims h).get "X-Permissions" = joinAt ',' claims.permissions ∧
    (injectIdentity claims h).get "X-Is-Platform-Admin" = boolHeader claims.isPlatformAdmin ∧
    (injectIdentity claims h).get "X-Is-Impersonating" = boolHeader claims.isImpersonating := by
  unfold injectIdentity
  cases claims.isImpersonating <;> simp [Header.get, Header.set, canonical_identity]

/-- The context handed on for a request with these claims. -/
def Context.authenticated (c : Context) (claims : Claims) : Context :=
  { c with
    request := { c.request with header := injectIdentity claims c.request.header }
    claims := some claims
    tenantPlan := claims.plan }

def authMiddleware (lib : JwtLibrary) (jwtSecret : String) (c : Context) :
    Except Response Context :=
  let authHeader := c.request.header.get "Authorization"
  if authHeader = "" then c.abort 401 (errorBody "missing authorization header")
  else
    match splitFirst ' ' authHeader with
    | [scheme, tokenString] =>
      if equalFold scheme "Bearer" then
        match (lib.verify jwtSecret tokenString).bind Claims.decode with
        | some claims => .ok (c.authenticated claims)
        | none => c.abort 401 (errorBody "invalid or expired token")
      else c.abort 401 (errorBody "invalid authorization header format")
    | _ => c.abort 401 (errorBody "invalid authorization header format")

/-- The claims of the valid bearer token a request carries. -/
def verifiedClaims (lib : JwtLibrary) (jwtSecret : String) (h : Header) : Option Claims :=
  match splitFirst ' ' (h.get "Authorization") with
  | [scheme, tokenString] =>
    if equalFold scheme "Bearer" then (lib.verify jwtSecret tokenString).bind Claims.decode
    else none
  | _ => none

theorem verifiedClaims_of_missing {lib : JwtLibrary} {jwtSecret : String} {h : Header}
    (hm : h.get "Authorization" = "") : verifiedClaims lib jwtSecret h = none := by
  have hs : splitFirst ' ' "" = [""] := by decide +kernel
  rw [verifiedClaims, hm, hs]

/-- A request passes exactly when it carries valid claims, and then with their headers. -/
theorem authMiddleware_ok {lib : JwtLibrary} {jwtSecret : String} {c c' : Context} :
    authMiddleware lib jwtSecret c = .ok c' ↔
      ∃ claims, verifiedClaims lib jwtSecret c.request.header = some claims ∧
        c' = c.authenticated claims := by
  unfold authMiddleware
  dsimp only
  split
  next hm =>
    rw [verifiedClaims_of_missing hm]
    simp [Context.abort]
  next hm =>
    unfold verifiedClaims
    split
    next scheme tokenString hs =>
      split
      next hf =>
        split
        next claims hc =>
          rw [hc]
          constructor
          · intro h
            exact ⟨claims, rfl, (Except.ok.inj h).symm⟩
          · intro ⟨claims', he, hc'⟩
            obtain rfl := Option.some.inj he
            rw [hc']
        next hc => simp [hc, Context.abort]
      next hf => simp [Context.abort]
    next => simp [Context.abort]

end SaasChassis.Gateway
