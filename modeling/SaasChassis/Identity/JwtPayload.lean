/-
  The claims of the identity service's access tokens, and their JSON form.
-/
import SaasChassis.Lib.Json

namespace SaasChassis.Identity

open SaasChassis.Lib

/-- `Omit<JwtPayload, 'iat' | 'exp'>`: what a service asks to be signed. -/
structure UnsignedPayload where
  sub : String
  email : String
  displayName : String
  isPlatformAdmin : Bool
  tenantId : Option String
  tenantSlug : Option String
  roles : List String
  permissions : List String
  isImpersonating : Bool
  realUserId : Option String
  deriving DecidableEq, Repr

/-- With the times, in seconds, that `jwtService.sign` adds. -/
structure JwtPayload extends UnsignedPayload where
  iat : ℤ
  exp : ℤ
  deriving DecidableEq, Repr

def jsonOrNull : Option String → Json
  | some s => .str s
  | none => .null

/-- An undefined `realUserId` has no member; a null tenant has one. -/
def JwtPayload.toJson (p : JwtPayload) : Json :=
  .obj <|
    [("sub", .str p.sub),
     ("email", .str p.email),
     ("displayName", .str p.displayName),
     ("isPlatformAdmin", .bool p.isPlatformAdmin),
     ("tenantId", jsonOrNull p.tenantId),
     ("tenantSlug", jsonOrNull p.tenantSlug),
     ("roles", .ofStrings p.roles),
     ("permissions", .ofStrings p.permissions),
     ("isImpersonating", .bool p.isImpersonating)] ++
    (match p.realUserId with
      | some id => [("realUserId", .str id)]
      | none => []) ++
    [("iat", .num p.iat), ("exp", .num p.exp)]

end SaasChassis.Identity
