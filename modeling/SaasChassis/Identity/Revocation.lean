/-
  Does ending an impersonation end its token?

  endImpersonation writes the hash of the token to Redis (`isRevoked`), but only the refresh
  endpoint reads those keys, and it looks hashes of refresh tokens up. The two parties that
  accept access tokens, the gateway's AuthMiddleware and JwtStrategy, go by signature, expiry
  and, in JwtStrategy, an active row of the subject. `gateway_accepts` and `validate_ok_iff` say
  so for any state; hence no endImpersonation revokes anything
  (`endImpersonation_never_revokes`).
-/
import SaasChassis.Gateway.TokenHeaders
import SaasChassis.Identity.Attribution

namespace SaasChassis.Identity

open SaasChassis.Lib SaasChassis.Gateway

/-! ## Statement -/

/-- What the gateway's library does with the service's tokens: `lib now` reads the claims back
    at every time `now`, in milliseconds, before the token expires. -/
def ValidUntilExpiry (lib : ℤ → JwtLibrary) (jwtSecret : String) (svc : Service)
    (token : JwtPayload) : Prop :=
  ∀ now, now / 1000 < token.exp →
    (lib now).verify jwtSecret (svc.encode token) = some token.toJson

/-- Neither the gateway nor JwtStrategy authenticates a request with the token. -/
def Refused (lib : ℤ → JwtLibrary) (jwtSecret : String) (svc : Service) (env : Env)
    (token : JwtPayload) (db : IdentityDb) : Prop :=
  (∀ c c', Bears c (svc.encode token) → authMiddleware (lib env.now) jwtSecret c ≠ .ok c') ∧
  validate env token db ≠ .ok ()

/-- Whatever is done next, every request with the token is refused, from `now` on and for as
    long as the token would live. -/
def RevokedFrom (lib : ℤ → JwtLibrary) (jwtSecret : String) (svc : Service) (now : ℤ)
    (token : JwtPayload) (sys : System) : Prop :=
  ∀ inputs env, now ≤ env.now → env.now / 1000 < token.exp →
    Refused lib jwtSecret svc env token (run (System.step svc) sys inputs).db

/-- The step is an endImpersonation request with the token, and it succeeds. -/
inductive Ends (svc : Service) (sys : System) : SystemInput → Env → JwtPayload → Prop
  | holder {env : Env} {token : JwtPayload} {res : Option JwtPayload} (mem : token ∈ sys.held)
      (ok : (handle svc env token .endImpersonation sys.db).2 = .ok res) :
      Ends svc sys (.holder env token .endImpersonation) env token
  | other {env : Env} {token : JwtPayload} {res : Option JwtPayload} (mem : token ∈ sys.issued)
      (ok : (handle svc env token .endImpersonation sys.db).2 = .ok res) :
      Ends svc sys (.other env token .endImpersonation) env token

/-! ## Who still accepts the token -/

/-- The gateway asks nobody but its library. -/
theorem gateway_accepts {lib : ℤ → JwtLibrary} {jwtSecret : String} {svc : Service}
    {token : JwtPayload} (hv : ValidUntilExpiry lib jwtSecret svc token) {now : ℤ}
    (hnow : now / 1000 < token.exp) {c : Context} (hb : Bears c (svc.encode token)) :
    authMiddleware (lib now) jwtSecret c = .ok (c.authenticated (claimsOf token)) :=
  authMiddleware_ok.mpr ⟨claimsOf token, verifiedClaims_bears (hv now hnow) hb, rfl⟩

/-- The subject was active when the request came, and nothing about users changes. -/
theorem Ends.validate {svc : Service} {sys : System} {i : SystemInput} {env : Env}
    {token : JwtPayload} (h : Ends svc sys i env token) :
    env.now / 1000 < token.exp ∧ validate env token (sys.step svc i).db = .ok () := by
  have hkeep : ∀ {res}, (handle svc env token .endImpersonation sys.db).2 = .ok res →
      env.now / 1000 < token.exp ∧
        Identity.validate env token (handle svc env token .endImpersonation sys.db).1 = .ok () := by
    intro res hok
    obtain ⟨hexp, hactive⟩ := validate_ok_iff.mp (handle_ok hok).1
    refine ⟨hexp, validate_ok_iff.mpr ⟨hexp, ?_⟩⟩
    unfold HasActive
    rw [handle_endImpersonation_users]
    exact hactive
  cases h with
  | holder mem ok =>
    simp only [System.step, if_pos mem]
    exact hkeep ok
  | other mem ok =>
    simp only [System.step, if_pos mem]
    exact hkeep ok

/-! ## The law -/

/-- No successful endImpersonation revokes its token: at the moment it returns, both parties
    still take the token. -/
theorem endImpersonation_never_revokes {lib : ℤ → JwtLibrary} {jwtSecret : String}
    {svc : Service} {sys : System} {i : SystemInput} {env : Env} {token : JwtPayload}
    (hv : ValidUntilExpiry lib jwtSecret svc token) (h : Ends svc sys i env token) :
    (∀ now c, now / 1000 < token.exp → Bears c (svc.encode token) →
      ∃ c', authMiddleware (lib now) jwtSecret c = .ok c') ∧
    ¬ RevokedFrom lib jwtSecret svc env.now token (sys.step svc i) := by
  obtain ⟨hexp, hstrategy⟩ := h.validate
  constructor
  · intro now c hnow hb
    exact ⟨_, gateway_accepts hv hnow hb⟩
  · intro hrev
    exact (hrev [] env (Int.le_refl _) hexp).2 hstrategy

namespace Sample

/-- The gateway's library, as far as `annToken` goes. -/
def library (now : ℤ) : JwtLibrary :=
  { sign := fun _ _ => svc.encode annToken
    verify := fun _ token =>
      if token = svc.encode annToken ∧ now / 1000 < annToken.exp then some annToken.toJson
      else none }

theorem library_valid : ValidUntilExpiry library "secret" svc annToken :=
  fun _ hnow => if_pos ⟨rfl, hnow⟩

/-- `root` stops playing `ann`. -/
def ending : SystemInput := .other (clock 4) annToken .endImpersonation

theorem ending_ends : Ends svc impersonated ending (clock 4) annToken := by
  have hok : ((handle svc (clock 4) annToken .endImpersonation impersonated.db).2).toBool =
      true := by decide +kernel
  cases hres : (handle svc (clock 4) annToken .endImpersonation impersonated.db).2 with
  | ok res => exact .other annToken_issued hres
  | error e =>
    rw [hres] at hok
    cases hok

end Sample

theorem endImpersonation_never_revokes_sample :
    ¬ RevokedFrom Sample.library "secret" Sample.svc (Sample.clock 4).now Sample.annToken
      (Sample.impersonated.step Sample.svc Sample.ending) :=
  (endImpersonation_never_revokes Sample.library_valid Sample.ending_ends).2

/-- A second after the end the hash is in Redis, and the token still opens both doors. -/
theorem revoked_token_accepted :
    Function.Injective Sample.svc.sha256 ∧
    ReachableSystem Sample.svc Sample.impersonated ∧
    Ends Sample.svc Sample.impersonated Sample.ending (Sample.clock 4) Sample.annToken ∧
    isRevoked (Sample.clock 5) (Sample.svc.sha256 (Sample.svc.encode Sample.annToken))
      (Sample.impersonated.step Sample.svc Sample.ending).db = true ∧
    (∃ c', authMiddleware (Sample.library (Sample.clock 5).now) "secret"
      (Gateway.Sample.bearing (Sample.svc.encode Sample.annToken)) = .ok c') ∧
    ¬ RevokedFrom Sample.library "secret" Sample.svc (Sample.clock 4).now Sample.annToken
      (Sample.impersonated.step Sample.svc Sample.ending) := by
  have hbearing := Gateway.Sample.bearing_bears (Sample.svc.encode Sample.annToken)
  refine ⟨fun s t h => ?_, ⟨Sample.seed, _, rfl⟩, Sample.ending_ends, by decide +kernel,
    ⟨_, gateway_accepts Sample.library_valid (by decide +kernel) hbearing⟩, ?_⟩
  · have hl := congrArg String.toList h
    simp only [Sample.svc, String.toList_append] at hl
    exact String.toList_inj.mp (List.append_cancel_left hl)
  · intro hrev
    refine (hrev [] (Sample.clock 5) (by decide) (by decide +kernel)).2 ?_
    decide +kernel

end SaasChassis.Identity
