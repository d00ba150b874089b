/-
  The SDK's PermissionsGuard and RolesGuard against those of the identity service.

  The SDK's guards read the headers that the gateway's AuthMiddleware writes: lists of names are
  joined there with commas and split at commas here (`strays` is what comes out of that besides
  the names). The identity service's guards read the claims themselves. A requirement is `Lost`
  when only the claims meet it and `Gained` when only the headers do, and both are said of the
  names alone (`lost_iff`, `gained_iff`). `guards_agree_iff` puts the two guards together.

  The headers are read as they were written; what carries them to a backend is left out.
-/
import SaasChassis.Gateway.TokenHeaders
import SaasChassis.Identity.Requests

namespace SaasChassis.Sdk

open SaasChassis.Lib

/-! ## Decorators -/

/-- What is written on a handler, or on its controller. -/
structure Decorators where
  /-- `@RequirePermission(resource, action)`. -/
  requirePermission : Option (String × String)
  /-- `@Roles(...roles)`. -/
  roles : Option (List String)

structure Target where
  handler : Decorators
  controller : Decorators

/-- `reflector.getAllAndOverride`: the first that is there. -/
def getAllAndOverride {α : Type} (key : Decorators → Option α) (target : Target) : Option α :=
  (key target.handler).orElse fun _ => key target.controller

/-! ## The guards of the SDK -/

structure ForbiddenException where
  code : String
  message : String
  deriving DecidableEq

/-- `request.headers[name]` in Node: values of one name are joined. -/
def headerValue (headers : Gateway.Header) (name : String) : Option String :=
  match headers (Gateway.canonicalHeaderKey name) with
  | [] => none
  | values => some (", ".intercalate values)

def isPlatformAdmin (headers : Gateway.Header) : Bool :=
  headerValue headers "x-is-platform-admin" = some "true"

/-- `header?.split(',') || []`. -/
def headerNames (headers : Gateway.Header) (name : String) : List String :=
  ((headerValue headers name).map (splitAt ',')).getD []

/-- The metadata is a string, and an empty one is none. -/
def PermissionsGuard.canActivate (target : Target) (headers : Gateway.Header) :
    Except ForbiddenException Bool :=
  match getAllAndOverride (·.requirePermission) target with
  | none => .ok true
  | some (resource, action) =>
    let requiredPermission := s!"{resource}:{action}"
    if requiredPermission = "" then .ok true
    else if isPlatformAdmin headers then .ok true
    else if (headerNames headers "x-permissions").contains requiredPermission then .ok true
    else .error
      { code := "INSUFFICIENT_PERMISSIONS"
        message := s!"Required permission: {requiredPermission}" }

def RolesGuard.canActivate (target : Target) (headers : Gateway.Header) : Bool :=
  match getAllAndOverride (·.roles) target with
  | none => true
  | some requiredRoles =>
    if isPlatformAdmin headers then true
    else requiredRoles.any (headerNames headers "x-roles").contains

end SaasChassis.Sdk

namespace SaasChassis.Identity

open SaasChassis.Sdk (Target getAllAndOverride)

/-! ## The guards of the identity service -/

/-- The metadata is an array, here of one permission. -/
def PermissionsGuard.canActivate (target : Target) (user : Option JwtPayload) :
    Except HttpException Bool :=
  match getAllAndOverride (·.requirePermission) target with
  | none => .ok true
  | some (resource, action) =>
    let requiredPermissions := [s!"{resource}:{action}"]
    match user with
    | none => .error (.forbidden "No authenticated user found")
    | some user =>
      if user.isPlatformAdmin then .ok true
      else if requiredPermissions.all user.permissions.contains then .ok true
      else .error (.forbidden
        ("Missing required permissions: " ++ ", ".intercalate requiredPermissions))

def RolesGuard.canActivate (target : Target) (user : Option JwtPayload) :
    Except HttpException Bool :=
  match getAllAndOverride (·.roles) target with
  | none => .ok true
  | some requiredRoles =>
    if requiredRoles.length = 0 then .ok true
    else
      match user with
      | none => .error (.forbidden "No authenticated user found")
      | some user =>
        if user.isPlatformAdmin then .ok true
        else if requiredRoles.any user.roles.contains then .ok true
        else .error (.forbidden
          ("Requires one of these roles: " ++ ", ".intercalate requiredRoles))

/-- What the service's own endpoints ask for is what its guards decide. -/
theorem permissionsGuard_eq {target : Target} {resource action : String}
    (h : getAllAndOverride (·.requirePermission) target = some (resource, action))
    (token : JwtPayload) :
    PermissionsGuard.canActivate target (some token) =
      (requirePermission token s!"{resource}:{action}").map fun _ => true := by
  unfold PermissionsGuard.canActivate requirePermission
  simp only [h, List.all_cons, List.all_nil, Bool.and_true]
  cases token.isPlatformAdmin
  · by_cases hp : token.permissions.contains s!"{resource}:{action}"
    · simp only [hp, Bool.false_or, if_true]
      rfl
    · simp only [hp, Bool.false_or]
      rfl
  · rfl

theorem rolesGuard_eq {target : Target} {roles : List String}
    (h : getAllAndOverride (·.roles) target = some roles) (hne : roles ≠ [])
    (token : JwtPayload) :
    RolesGuard.canActivate target (some token) =
      (requireRoles token roles).map fun _ => true := by
  unfold RolesGuard.canActivate requireRoles
  simp only [h, List.length_eq_zero_iff, hne, if_false]
  cases token.isPlatformAdmin
  · by_cases hr : roles.any token.roles.contains
    · simp only [hr, Bool.false_or, if_true]
      rfl
    · simp only [hr, Bool.false_or]
      rfl
  · rfl

end SaasChassis.Identity

namespace SaasChassis.Sdk

open SaasChassis.Lib
open SaasChassis.Gateway (Claims Header)
open SaasChassis.Identity (JwtPayload)

/-! ## Statement -/

/-- The user that the identity service's strategy puts on the request has these claims. -/
structure SameClaims (claims : Claims) (user : JwtPayload) : Prop where
  roles : claims.roles = user.roles
  permissions : claims.permissions = user.permissions
  isPlatformAdmin : claims.isPlatformAdmin = user.isPlatformAdmin

def PermissionsAgree (target : Target) (headers : Header) (user : JwtPayload) : Prop :=
  PermissionsGuard.canActivate target headers = .ok true ↔
    Identity.PermissionsGuard.canActivate target (some user) = .ok true

def RolesAgree (target : Target) (headers : Header) (user : JwtPayload) : Prop :=
  RolesGuard.canActivate target headers = true ↔
    Identity.RolesGuard.canActivate target (some user) = .ok true

/-- A request that both guards let through. -/
def RequestsAgree (target : Target) (headers : Header) (user : JwtPayload) : Prop :=
  (PermissionsGuard.canActivate target headers = .ok true ∧
    RolesGuard.canActivate target headers = true) ↔
  (Identity.PermissionsGuard.canActivate target (some user) = .ok true ∧
    Identity.RolesGuard.canActivate target (some user) = .ok true)

/-- An empty list is required, or a name that is held, but of those held each has a comma, and
    none comes out of the split. -/
def Lost (required : Option (List String)) (held : List String) : Prop :=
  match required with
  | none => False
  | some names => names = [] ∨ ((∃ name ∈ names, name ∈ held) ∧
      ∀ name ∈ names, (name ∈ held → ',' ∈ name.toList) ∧ name ∉ strays ',' held)

/-- None is held, but one comes out of the split. -/
def Gained (required : Option (List String)) (held : List String) : Prop :=
  match required with
  | none => False
  | some names => (∃ name ∈ names, name ∈ strays ',' held) ∧ ∀ name ∈ names, name ∉ held

/-- One is required, and none is held or comes out of the split. -/
def Refused (required : Option (List String)) (held : List String) : Prop :=
  match required with
  | none => False
  | some names => names ≠ [] ∧ ∀ name ∈ names, name ∉ held ∧ name ∉ strays ',' held

instance : ∀ required held, Decidable (Lost required held)
  | none, _ => inferInstanceAs (Decidable False)
  | some _, _ => inferInstanceAs (Decidable (_ ∨ _))

instance : ∀ required held, Decidable (Gained required held)
  | none, _ => inferInstanceAs (Decidable False)
  | some _, _ => inferInstanceAs (Decidable (_ ∧ _))

def requiredPermissions (target : Target) : Option (List String) :=
  (getAllAndOverride (·.requirePermission) target).map fun p => [s!"{p.1}:{p.2}"]

def requiredRoles (target : Target) : Option (List String) := getAllAndOverride (·.roles) target

/-! ## What the headers say -/

section Headers

variable (claims : Claims) (h : Header)

theorem headerValue_injectIdentity :
    headerValue (Gateway.injectIdentity claims h) "x-roles" = some (joinAt ',' claims.roles) ∧
    headerValue (Gateway.injectIdentity claims h) "x-permissions" =
      some (joinAt ',' claims.permissions) ∧
    headerValue (Gateway.injectIdentity claims h) "x-is-platform-admin" =
      some (Gateway.boolHeader claims.isPlatformAdmin) := by
  have hcanonical : Gateway.canonicalHeaderKey "x-roles" = "X-Roles" ∧
      Gateway.canonicalHeaderKey "x-permissions" = "X-Permissions" ∧
      Gateway.canonicalHeaderKey "x-is-platform-admin" = "X-Is-Platform-Admin" := by
    decide +kernel
  unfold headerValue Gateway.injectIdentity
  cases claims.isImpersonating <;>
    simp [hcanonical, Header.set, Gateway.canonical_identity]

theorem isPlatformAdmin_injectIdentity :
    isPlatformAdmin (Gateway.injectIdentity claims h) = claims.isPlatformAdmin := by
  rw [isPlatformAdmin, (headerValue_injectIdentity claims h).2.2]
  cases claims.isPlatformAdmin <;> decide +kernel

theorem mem_roles_iff {name : String} :
    name ∈ headerNames (Gateway.injectIdentity claims h) "x-roles" ↔
      (name ∈ claims.roles ∧ ',' ∉ name.toList) ∨ name ∈ strays ',' claims.roles := by
  rw [headerNames, (headerValue_injectIdentity claims h).1]
  exact mem_splitAt_joinAt

theorem mem_permissions_iff {name : String} :
    name ∈ headerNames (Gateway.injectIdentity claims h) "x-permissions" ↔
      (name ∈ claims.permissions ∧ ',' ∉ name.toList) ∨ name ∈ strays ',' claims.permissions := by
  rw [headerNames, (headerValue_injectIdentity claims h).2.1]
  exact mem_splitAt_joinAt

end Headers

/-! ## Requirements -/

/-- The names in the headers meet it. -/
def MetByHeaders (required : Option (List String)) (held : List String) : Prop :=
  ∀ names, required = some names →
    ∃ name ∈ names, (name ∈ held ∧ ',' ∉ name.toList) ∨ name ∈ strays ',' held

/-- The names of the claims meet it. -/
def MetByClaims (required : Option (List String)) (held : List String) : Prop :=
  ∀ names, required = some names → names = [] ∨ ∃ name ∈ names, name ∈ held

section Requirements

variable {required : Option (List String)} {held : List String}

theorem lost_iff :
    Lost required held ↔ MetByClaims required held ∧ ¬ MetByHeaders required held := by
  cases required with
  | none => simp [Lost, MetByHeaders]
  | some names =>
    simp only [Lost, MetByClaims, MetByHeaders, Option.some.injEq, forall_eq']
    constructor
    · rintro (rfl | ⟨hheld, hnone⟩)
      · exact ⟨Or.inl rfl, fun ⟨_, hmem, _⟩ => nomatch hmem⟩
      · refine ⟨Or.inr hheld, fun ⟨name, hname, hmet⟩ => ?_⟩
        obtain ⟨hcomma, hstray⟩ := hnone name hname
        obtain ⟨hin, hplain⟩ | hin := hmet
        · exact hplain (hcomma hin)
        · exact hstray hin
    · intro ⟨hmet, hnot⟩
      refine hmet.imp_right fun hheld => ⟨hheld, fun name hname => ⟨fun hin => ?_, fun hin => ?_⟩⟩
      · by_contra hplain
        exact hnot ⟨name, hname, Or.inl ⟨hin, hplain⟩⟩
      · exact hnot ⟨name, hname, Or.inr hin⟩

theorem gained_iff :
    Gained required held ↔ MetByHeaders required held ∧ ¬ MetByClaims required held := by
  cases required with
  | none => simp [Gained, MetByClaims]
  | some names =>
    simp only [Gained, MetByClaims, MetByHeaders, Option.some.injEq, forall_eq']
    constructor
    · intro ⟨⟨name, hname, hstray⟩, hnone⟩
      refine ⟨⟨name, hname, Or.inr hstray⟩, ?_⟩
      rintro (rfl | ⟨other, hother, hheld⟩)
      · cases hname
      · exact hnone other hother hheld
    · intro ⟨⟨name, hname, hmet⟩, hnot⟩
      have hnone : ∀ other ∈ names, other ∉ held :=
        fun other hother hin => hnot (Or.inr ⟨other, hother, hin⟩)
      exact ⟨⟨name, hname, hmet.resolve_left fun hin => hnone name hname hin.1⟩, hnone⟩

theorem refused_iff :
    Refused required held ↔ ¬ MetByHeaders required held ∧ ¬ MetByClaims required held := by
  cases required with
  | none => simp [Refused, MetByClaims]
  | some names =>
    simp only [Refused, MetByClaims, MetByHeaders, Option.some.injEq, forall_eq']
    constructor
    · intro ⟨hne, hnone⟩
      refine ⟨fun ⟨name, hname, hmet⟩ => ?_, ?_⟩
      · exact hmet.elim (fun hin => (hnone name hname).1 hin.1) (hnone name hname).2
      · rintro (rfl | ⟨name, hname, hin⟩)
        · exact hne rfl
        · exact (hnone name hname).1 hin
    · intro ⟨hheaders, hclaims⟩
      refine ⟨fun hnil => hclaims (Or.inl hnil), fun name hname => ⟨fun hin => ?_, fun hin => ?_⟩⟩
      · exact hclaims (Or.inr ⟨name, hname, hin⟩)
      · exact hheaders ⟨name, hname, Or.inr hin⟩

end Requirements

/-! ## The four guards -/

section Decisions

variable {target : Target} {claims : Claims} {user : JwtPayload} (h : Header)

theorem permissionsGuard_iff :
    PermissionsGuard.canActivate target (Gateway.injectIdentity claims h) = .ok true ↔
      claims.isPlatformAdmin ∨ MetByHeaders (requiredPermissions target) claims.permissions := by
  unfold PermissionsGuard.canActivate requiredPermissions MetByHeaders
  cases getAllAndOverride (·.requirePermission) target with
  | none => simp
  | some p =>
    have hne : s!"{p.1}:{p.2}" ≠ "" := by
      intro he
      have hcolon : ':' ∈ (p.1 ++ ":" ++ p.2).toList := by simp
      rw [show p.1 ++ ":" ++ p.2 = "" from he] at hcolon
      cases hcolon
    rw [isPlatformAdmin_injectIdentity]
    simp only [hne, if_false, Option.map_some, Option.some.injEq, forall_eq', List.mem_singleton,
      exists_eq_left, ← mem_permissions_iff claims h]
    cases claims.isPlatformAdmin <;> simp

theorem rolesGuard_iff :
    RolesGuard.canActivate target (Gateway.injectIdentity claims h) = true ↔
      claims.isPlatformAdmin ∨ MetByHeaders (requiredRoles target) claims.roles := by
  unfold RolesGuard.canActivate requiredRoles MetByHeaders
  cases getAllAndOverride (·.roles) target with
  | none => simp
  | some roles =>
    rw [isPlatformAdmin_injectIdentity]
    simp only [Option.some.injEq, forall_eq', ← mem_roles_iff claims h]
    cases claims.isPlatformAdmin <;> simp

theorem identityPermissionsGuard_iff (same : SameClaims claims user) :
    Identity.PermissionsGuard.canActivate target (some user) = .ok true ↔
      claims.isPlatformAdmin ∨ MetByClaims (requiredPermissions target) claims.permissions := by
  rw [same.isPlatformAdmin, same.permissions]
  unfold Identity.PermissionsGuard.canActivate requiredPermissions MetByClaims
  cases getAllAndOverride (·.requirePermission) target with
  | none => simp
  | some p =>
    simp only [Option.map_some, Option.some.injEq, forall_eq', List.mem_singleton,
      exists_eq_left, List.cons_ne_nil, false_or, List.all_cons, List.all_nil, Bool.and_true]
    cases user.isPlatformAdmin <;> simp

theorem identityRolesGuard_iff (same : SameClaims claims user) :
    Identity.RolesGuard.canActivate target (some user) = .ok true ↔
      claims.isPlatformAdmin ∨ MetByClaims (requiredRoles target) claims.roles := by
  rw [same.isPlatformAdmin, same.roles]
  unfold Identity.RolesGuard.canActivate requiredRoles MetByClaims
  cases getAllAndOverride (·.roles) target with
  | none => simp
  | some roles =>
    simp only [Option.some.injEq, forall_eq', List.length_eq_zero_iff]
    by_cases hnil : roles = []
    · simp [hnil]
    · simp only [hnil, if_false, false_or]
      cases user.isPlatformAdmin <;> simp

end Decisions

/-! ## Agreement -/

/-- Each guard agrees with its counterpart exactly for an admin and for a requirement that is
    neither lost nor gained on the way, and requests are decided alike, besides, when one of the
    requirements is refused on both sides or each side refuses another one. -/
theorem guards_agree_iff {lib : Gateway.JwtLibrary} {secret : String} {c c' : Gateway.Context}
    {claims : Claims} {user : JwtPayload}
    (hc : Gateway.authMiddleware lib secret c = .ok c')
    (hverified : Gateway.verifiedClaims lib secret c.request.header = some claims)
    (same : SameClaims claims user) (target : Target) :
    (PermissionsAgree target c'.request.header user ↔
      claims.isPlatformAdmin ∨ (¬ Lost (requiredPermissions target) claims.permissions ∧
        ¬ Gained (requiredPermissions target) claims.permissions)) ∧
    (RolesAgree target c'.request.header user ↔
      claims.isPlatformAdmin ∨ (¬ Lost (requiredRoles target) claims.roles ∧
        ¬ Gained (requiredRoles target) claims.roles)) ∧
    (RequestsAgree target c'.request.header user ↔
      claims.isPlatformAdmin ∨
      Refused (requiredPermissions target) claims.permissions ∨
      Refused (requiredRoles target) claims.roles ∨
      (Lost (requiredPermissions target) claims.permissions ∧
        Gained (requiredRoles target) claims.roles) ∨
      (Gained (requiredPermissions target) claims.permissions ∧
        Lost (requiredRoles target) claims.roles) ∨
      (¬ Lost (requiredPermissions target) claims.permissions ∧
        ¬ Gained (requiredPermissions target) claims.permissions ∧
        ¬ Lost (requiredRoles target) claims.roles ∧
        ¬ Gained (requiredRoles target) claims.roles)) := by
  obtain ⟨claims', hclaims, rfl⟩ := Gateway.authMiddleware_ok.mp hc
  obtain rfl : claims' = claims := Option.some.inj (hclaims.symm.trans hverified)
  unfold PermissionsAgree RolesAgree RequestsAgree
  -- the context handed on has the headers of the claims
  rw [show (c.authenticated claims').request.header =
      Gateway.injectIdentity claims' c.request.header from rfl,
    permissionsGuard_iff, rolesGuard_iff, identityPermissionsGuard_iff same,
    identityRolesGuard_iff same]
  simp only [lost_iff, gained_iff, refused_iff]
  refine ⟨?_, ?_, ?_⟩ <;> grind

namespace Sample

def holder (roles : List String) : JwtPayload :=
  { Gateway.Sample.owner with roles := roles }

def request : Gateway.Context := Gateway.Sample.bearing "header.payload.signature"

def target (roles : List String) : Target :=
  { handler := { requirePermission := some ("users", "read"), roles := some roles }
    controller := { requirePermission := none, roles := none } }

def headers (roles : List String) : Header :=
  Gateway.injectIdentity (Gateway.claimsOf (holder roles)) request.request.header

theorem verified (roles : List String) :
    Gateway.verifiedClaims (Gateway.Sample.jwt (holder roles).toJson) "secret"
      request.request.header = some (Gateway.claimsOf (holder roles)) :=
  Gateway.verifiedClaims_bears (by rfl) (Gateway.Sample.bearing_bears _)

theorem same (roles : List String) :
    SameClaims (Gateway.claimsOf (holder roles)) (holder roles) := ⟨rfl, rfl, rfl⟩

end Sample

theorem guards_agree_iff_sample :
    RequestsAgree (Sample.target ["auditor", "owner"]) (Sample.headers ["owner"])
      (Sample.holder ["owner"]) :=
  (guards_agree_iff (Gateway.authMiddleware_ok.mpr ⟨_, Sample.verified ["owner"], rfl⟩)
    (Sample.verified ["owner"]) (Sample.same ["owner"])
    (Sample.target ["auditor", "owner"])).2.2.mpr
      (Or.inr (Or.inr (Or.inr (Or.inr (Or.inr (by decide +kernel))))))

/-- A handler with an empty list of roles is open on one side and closed on the other, and a role
    named "auditor,owner" makes its holder an owner to the SDK. -/
theorem roles_read_differently :
    ¬ RolesAgree (Sample.target []) (Sample.headers ["owner"]) (Sample.holder ["owner"]) ∧
    ¬ RequestsAgree (Sample.target []) (Sample.headers ["owner"]) (Sample.holder ["owner"]) ∧
    ¬ RolesAgree (Sample.target ["owner"]) (Sample.headers ["auditor,owner"])
      (Sample.holder ["auditor,owner"]) ∧
    ¬ RequestsAgree (Sample.target ["owner"]) (Sample.headers ["auditor,owner"])
      (Sample.holder ["auditor,owner"]) := by
  unfold RolesAgree RequestsAgree
  decide +kernel

end SaasChassis.Sdk
