/-
  From the identity service's tokens to the gateway's headers.

  The identity service signs its payload under its own member names, the gateway decodes it
  into `Claims` under the tags of that record. `decode_toJson` computes what is left: only the
  subject, the roles and the permissions have the same name on both sides, so the tenant and
  the three other facts come out as zero values. `token_headers_iff` turns that into the exact
  payloads whose headers say what the token says.
-/
import SaasChassis.Gateway.Auth
import SaasChassis.Identity.JwtPayload

namespace SaasChassis.Gateway

open SaasChassis.Lib SaasChassis.Identity

/-! ## Decoding -/

theorem field_shared :
    Claims.field "sub" = some .userID ∧ Claims.field "roles" = some .roles ∧
    Claims.field "permissions" = some .permissions := by
  decide +kernel

/-- No tag of `Claims` equals one of these names, in any case. -/
theorem field_unknown : ∀ key ∈ ["email", "displayName", "isPlatformAdmin", "tenantId",
    "tenantSlug", "isImpersonating", "realUserId", "iat", "exp"], Claims.field key = none := by
  decide +kernel

/-- What the gateway reads out of a payload. -/
def claimsOf (p : JwtPayload) : Claims :=
  { Claims.zero with userID := p.sub, roles := p.roles, permissions := p.permissions }

theorem decode_toJson (p : JwtPayload) : Claims.decode p.toJson = some (claimsOf p) := by
  obtain ⟨hsub, hroles, hperms⟩ := field_shared
  have hno := field_unknown
  simp only [List.forall_mem_cons, List.not_mem_nil, false_implies, implies_true, and_true] at hno
  unfold Claims.decode JwtPayload.toJson
  cases p.realUserId <;>
    simp [Json.decodeStruct, Json.decodeMembers, hsub, hroles, hperms, hno, Claims.assign,
      Json.decodeString, claimsOf, Claims.zero]

/-! ## Headers -/

/-- The headers say what the token says; lists are read as the backends read them. -/
structure HeadersAgree (h : Header) (p : JwtPayload) : Prop where
  userID : h.get "X-User-ID" = p.sub
  tenantID : h.get "X-Tenant-ID" = p.tenantId.getD ""
  isPlatformAdmin : h.get "X-Is-Platform-Admin" = boolHeader p.isPlatformAdmin
  isImpersonating : h.get "X-Is-Impersonating" = boolHeader p.isImpersonating
  realUserID : p.isImpersonating → p.realUserId = some (h.get "X-Real-User-ID")
  roles : (∀ r ∈ p.roles, ',' ∉ r.toList) → splitAt ',' (h.get "X-Roles") = p.roles
  permissions : (∀ q ∈ p.permissions, ',' ∉ q.toList) →
    splitAt ',' (h.get "X-Permissions") = p.permissions

/-- A request with the signed payload as its bearer token passes, with headers that agree. -/
def TokenRoundTrip (lib : JwtLibrary) (secret : String) (p : JwtPayload) (c : Context) : Prop :=
  ∃ c', authMiddleware lib secret c = .ok c' ∧ HeadersAgree c'.request.header p

/-- A signed token in its lifetime, as the library's users rely on it. -/
def Verifies (lib : JwtLibrary) (secret : String) (payload : Json) : Prop :=
  lib.verify secret (lib.sign secret payload) = some payload

def Bears (c : Context) (token : String) : Prop :=
  c.request.header.get "Authorization" = "Bearer " ++ token

theorem verifiedClaims_bears {lib : JwtLibrary} {secret token : String} {p : JwtPayload}
    {c : Context} (hv : lib.verify secret token = some p.toJson) (hb : Bears c token) :
    verifiedClaims lib secret c.request.header = some (claimsOf p) := by
  have hsplit : splitFirst ' ' ("Bearer " ++ token) = ["Bearer", token] :=
    @splitFirst_append ' ' "Bearer" (by decide +kernel) _
  have hfold : equalFold "Bearer" "Bearer" = true := by decide +kernel
  rw [verifiedClaims, hb, hsplit]
  simp only [hfold, if_true]
  rw [hv, Option.bind_some, decode_toJson]

theorem verifiedClaims_signed {lib : JwtLibrary} {secret : String} {p : JwtPayload} {c : Context}
    (hv : Verifies lib secret p.toJson) (hb : Bears c (lib.sign secret p.toJson)) :
    verifiedClaims lib secret c.request.header = some (claimsOf p) :=
  verifiedClaims_bears hv hb

/-- A comma-joined list comes back when it is not empty. -/
theorem split_join_iff (xs : List String) :
    ((∀ x ∈ xs, ',' ∉ x.toList) → splitAt ',' (joinAt ',' xs) = xs) ↔ xs ≠ [] := by
  constructor
  · intro h he
    subst he
    exact splitAt_ne_nil _ _ (h (by simp))
  · intro hne hc
    exact splitAt_joinAt hne hc

theorem boolHeader_false_iff {b : Bool} : boolHeader false = boolHeader b ↔ b = false := by
  cases b <;> decide +kernel

theorem headersAgree_iff (h : Header) (p : JwtPayload) :
    HeadersAgree (injectIdentity (claimsOf p) h) p ↔
    p.tenantId.getD "" = "" ∧ p.isPlatformAdmin = false ∧ p.isImpersonating = false ∧
      p.roles ≠ [] ∧ p.permissions ≠ [] := by
  obtain ⟨huser, htenant, -, hroles, hperms, hadmin, himp⟩ := injectIdentity_get (claimsOf p) h
  constructor
  · intro a
    have ht : p.tenantId.getD "" = "" := a.tenantID.symm.trans htenant
    have ha : boolHeader false = boolHeader p.isPlatformAdmin :=
      hadmin.symm.trans a.isPlatformAdmin
    have hi : boolHeader false = boolHeader p.isImpersonating :=
      himp.symm.trans a.isImpersonating
    have hr := a.roles
    rw [hroles] at hr
    have hq := a.permissions
    rw [hperms] at hq
    exact ⟨ht, boolHeader_false_iff.mp ha, boolHeader_false_iff.mp hi,
      (split_join_iff p.roles).mp hr, (split_join_iff p.permissions).mp hq⟩
  · intro ⟨ht, ha, hi, hr, hq⟩
    refine ⟨huser, ?_, ?_, ?_, ?_, ?_, ?_⟩
    · rw [htenant, ht]
      rfl
    · rw [hadmin, ha]
      rfl
    · rw [himp, hi]
      rfl
    · intro he
      rw [hi] at he
      cases he
    · rw [hroles]
      exact (split_join_iff p.roles).mpr hr
    · rw [hperms]
      exact (split_join_iff p.permissions).mpr hq

/-! ## The round trip -/

/-- The headers agree with the token exactly for a payload without a tenant (null or empty)
    and without either flag, whose roles and permissions are not empty. -/
theorem token_headers_iff {lib : JwtLibrary} {secret : String} {p : JwtPayload} {c : Context}
    (hv : Verifies lib secret p.toJson) (hb : Bears c (lib.sign secret p.toJson)) :
    TokenRoundTrip lib secret p c ↔
      p.tenantId.getD "" = "" ∧ p.isPlatformAdmin = false ∧ p.isImpersonating = false ∧
        p.roles ≠ [] ∧ p.permissions ≠ [] := by
  rw [← headersAgree_iff c.request.header p]
  constructor
  · intro ⟨c', hc, ha⟩
    obtain ⟨claims, hclaims, rfl⟩ := authMiddleware_ok.mp hc
    rw [verifiedClaims_signed hv hb] at hclaims
    obtain rfl := Option.some.inj hclaims
    exact ha
  · intro ha
    exact ⟨c.authenticated (claimsOf p),
      authMiddleware_ok.mpr ⟨claimsOf p, verifiedClaims_signed hv hb, rfl⟩, ha⟩

namespace Sample

/-- A library that knows one token. -/
def jwt (payload : Json) : JwtLibrary :=
  { sign := fun _ _ => "header.payload.signature"
    verify := fun _ token => if token = "header.payload.signature" then some payload else none }

def bearing (token : String) : Context :=
  { request := { method := "GET", host := "api", path := "/api/v1/users/me", clientIP := none,
                 header := Header.empty.set "Authorization" ("Bearer " ++ token) }
    responseHeader := Header.empty
    claims := none
    tenantPlan := ""
    requestID := "" }

theorem bearing_bears (token : String) : Bears (bearing token) token := by
  have hk : canonicalHeaderKey "Authorization" = "Authorization" := by decide +kernel
  have hvalue := Header.set_same Header.empty hk ("Bearer " ++ token)
  unfold Bears Header.get
  rw [hk]
  show (Header.empty.set "Authorization" ("Bearer " ++ token) "Authorization").headD "" = _
  rw [hvalue]
  rfl

/-- An owner of a tenant. -/
def owner : JwtPayload :=
  { sub := "u1", email := "owner@example.com", displayName := "Owner",
    isPlatformAdmin := false, tenantId := some "t1", tenantSlug := none, roles := ["owner"],
    permissions := ["users:read"], isImpersonating := false, realUserId := none,
    iat := 0, exp := 900 }

end Sample

theorem token_headers_iff_sample :
    TokenRoundTrip (Sample.jwt { Sample.owner with tenantId := none }.toJson) "secret"
      { Sample.owner with tenantId := none } (Sample.bearing "header.payload.signature") :=
  (token_headers_iff (by rfl) (Sample.bearing_bears _)).mpr (by decide)

/-- The tenant of an owner's token never reaches the backends. -/
theorem tenant_lost : ¬ TokenRoundTrip (Sample.jwt Sample.owner.toJson) "secret" Sample.owner
    (Sample.bearing "header.payload.signature") := by
  intro ⟨c', hc, ha⟩
  have hv : Verifies (Sample.jwt Sample.owner.toJson) "secret" Sample.owner.toJson := by rfl
  have hclaims := verifiedClaims_signed hv (Sample.bearing_bears "header.payload.signature")
  obtain ⟨claims, hc', rfl⟩ := authMiddleware_ok.mp hc
  obtain rfl := Option.some.inj (hc'.symm.trans hclaims)
  have ht := (headersAgree_iff _ Sample.owner).mp ha |>.1
  revert ht
  decide

end SaasChassis.Gateway
