/-
  HTTP headers and the reverse proxy of Go's standard library, as the API gateway uses them.

  A `Header` is Go's `http.Header`: a map from canonical header keys to the values received, with
  no values for an absent key. `get`, `set` and `del` canonicalize the key they are given.
  `proxyHeader` is the header a `ReverseProxy` sends on after its director ran:
  `proxyHeader_of_plain` says that it changes nothing but the hop-by-hop headers (those the
  request's Connection header lists included) and a few fixed keys.

  Bodies, URLs and trailers are left out: no modelled function reads them.
-/
import SaasChassis.Lib.Text
import Mathlib.Logic.Function.Basic

namespace SaasChassis.Gateway

open SaasChassis.Lib

/-! ## Headers -/

abbrev Header := String → List String

/-- The bytes a header key may hold (RFC 7230 tokens). -/
def isTokenChar (c : Char) : Bool := c.isAlphanum || "!#$%&'*+-.^_`|~".toList.contains c

def canonicalChars : Bool → List Char → List Char
  | _, [] => []
  | upper, c :: cs => (if upper then c.toUpper else c.toLower) :: canonicalChars (c = '-') cs

/-- `http.CanonicalHeaderKey`: a key with an invalid byte is left as it is. -/
def canonicalHeaderKey (s : String) : String :=
  if s.toList.all isTokenChar then String.ofList (canonicalChars true s.toList) else s

namespace Header

def empty : Header := fun _ => []

/-- The first value, or the empty string. -/
def get (h : Header) (key : String) : String := (h (canonicalHeaderKey key)).headD ""

def set (h : Header) (key value : String) : Header :=
  Function.update h (canonicalHeaderKey key) [value]

theorem set_same (h : Header) {key k : String} (hk : canonicalHeaderKey key = k)
    (value : String) : h.set key value k = [value] := by
  rw [set, hk, Function.update_self]

theorem set_other (h : Header) {key k : String} (hk : canonicalHeaderKey key ≠ k)
    (value : String) : h.set key value k = h k :=
  Function.update_of_ne hk.symm _ _

end Header

structure Request where
  method : String
  host : String
  path : String
  /-- The host part of `RemoteAddr`, when it splits into host and port. -/
  clientIP : Option String
  header : Header

/-! ## httputil.ReverseProxy -/

def hopHeaders : List String :=
  ["Connection", "Proxy-Connection", "Keep-Alive", "Proxy-Authenticate", "Proxy-Authorization",
   "Te", "Trailer", "Transfer-Encoding", "Upgrade"]

/-- The options of the Connection header. -/
def connectionOptions (h : Header) : List String :=
  ((h "Connection").flatMap (splitAt ',')).map trimString |>.filter (· ≠ "")

/-- The keys the proxy deletes: those Connection lists and the hop-by-hop headers. -/
def removedKeys (h : Header) : List String :=
  (connectionOptions h).map canonicalHeaderKey ++ hopHeaders

def removeHopByHopHeaders (h : Header) : Header := fun k => if k ∈ removedKeys h then [] else h k

/-- `httpguts.HeaderValuesContainsToken`. -/
def containsToken (values : List String) (token : String) : Bool :=
  (values.flatMap (splitAt ',')).any fun v => equalFold (trimString v) token

def upgradeType (h : Header) : String :=
  if containsToken (h "Connection") "Upgrade" then h.get "Upgrade" else ""

/-- `ascii.IsPrint`. -/
def isPrint (s : String) : Bool := s.toList.all fun c => ' ' ≤ c && c ≤ '~'

/-- `Te: trailers` is sent on, every other transfer coding is dropped. -/
def keepTrailers (received h : Header) : Header :=
  if containsToken (received "Te") "trailers" then h.set "Te" "trailers" else h

def setUpgrade (upType : String) (h : Header) : Header :=
  if upType ≠ "" then (h.set "Connection" "Upgrade").set "Upgrade" upType else h

def addForwardedFor (clientIP : Option String) (h : Header) : Header :=
  match clientIP with
  | some ip =>
    let prior := h "X-Forwarded-For"
    h.set "X-Forwarded-For" (if prior = [] then ip else ", ".intercalate prior ++ ", " ++ ip)
  | none => h

/-- An absent User-Agent is sent as an empty one, so that the transport adds none. -/
def keepUserAgent (h : Header) : Header :=
  if h "User-Agent" = [] then h.set "User-Agent" "" else h

/-- The header sent on for a request; `none` when the proxy refuses its Upgrade. -/
def proxyHeader (req : Request) : Option Header :=
  let upType := upgradeType req.header
  if isPrint upType then
    some (keepUserAgent (addForwardedFor req.clientIP (setUpgrade upType
      (keepTrailers req.header (removeHopByHopHeaders req.header)))))
  else none

/-- The keys the proxy may write. -/
def proxyKeys : List String := ["Te", "Connection", "Upgrade", "X-Forwarded-For", "User-Agent"]

theorem canonical_proxyKeys : ∀ k ∈ proxyKeys, canonicalHeaderKey k = k := by decide +kernel

section Plain

variable {k : String} (hk : k ∉ proxyKeys)
include hk

theorem set_proxyKey {key : String} (hkey : key ∈ proxyKeys) (h : Header) (value : String) :
    h.set key value k = h k := by
  refine Header.set_other h ?_ value
  rw [canonical_proxyKeys key hkey]
  intro he
  exact hk (he ▸ hkey)

theorem keepTrailers_plain (received h : Header) : keepTrailers received h k = h k := by
  unfold keepTrailers
  split
  · exact set_proxyKey hk (by simp [proxyKeys]) h _
  · rfl

theorem setUpgrade_plain (upType : String) (h : Header) : setUpgrade upType h k = h k := by
  unfold setUpgrade
  split
  · rw [set_proxyKey hk (by simp [proxyKeys]), set_proxyKey hk (by simp [proxyKeys])]
  · rfl

theorem addForwardedFor_plain (clientIP : Option String) (h : Header) :
    addForwardedFor clientIP h k = h k := by
  unfold addForwardedFor
  cases clientIP with
  | some ip => exact set_proxyKey hk (by simp [proxyKeys]) h _
  | none => rfl

theorem keepUserAgent_plain (h : Header) : keepUserAgent h k = h k := by
  unfold keepUserAgent
  split
  · exact set_proxyKey hk (by simp [proxyKeys]) h _
  · rfl

/-- Any other key is sent on as received, unless the proxy deletes it. -/
theorem proxyHeader_of_plain {req : Request} {h : Header} (hp : proxyHeader req = some h) :
    h k = if k ∈ removedKeys req.header then [] else req.header k := by
  unfold proxyHeader at hp
  dsimp only at hp
  split at hp
  · obtain rfl := Option.some.inj hp
    rw [keepUserAgent_plain hk, addForwardedFor_plain hk, setUpgrade_plain hk,
      keepTrailers_plain hk]
    rfl
  · cases hp

end Plain

end SaasChassis.Gateway
