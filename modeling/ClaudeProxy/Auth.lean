/-
Module: ClaudeProxy.Auth
Layer: Model
Purpose: The clients of the proxy (`src/auth.rs`): how a request shows its key, and what a client's
  requests have to get through, which is a limiter of requests in a minute and a number of permits.
Trusted boundary: human-reviewed model
Main exports: HeaderMap, extractKey, ClientIdentity, AuthRegistry.new, AuthRegistry.authenticate,
  ClientIdentity.allowsRoute, ClientLimits, ClientIdentity.checkRate, ClientLimits.acquirePermit,
  ClientIdentity.acquire
-/
import ClaudeProxy.Config
import ClaudeProxy.Provider.Circuit

namespace ClaudeProxy

open Library

/-! ### Keys -/

/-- The first value of a header, by the header's name in lower case, if it is readable as text. -/
abbrev HeaderMap := String → Option String

/-- `Sha256::digest`. -/
abbrev Digest := List UInt8

def extractKey (headers : HeaderMap) : Option String :=
  match headers "x-api-key" with
  | some value => some value
  | none => (headers "authorization").bind (stripPrefix "Bearer ")

/-- What of a client does not change. -/
structure ClientIdentity where
  id : String
  keyHash : Digest
  allowedRoutes : List String
  requestsPerMinute : Nat
  /-- The permits that its semaphore starts with. -/
  concurrency : Nat
deriving DecidableEq, Repr, Inhabited

/-- A client is known by its place. -/
abbrev AuthRegistry := List ClientIdentity

section Keys

variable (environment : Environment) (hashKey : String → Digest)

def ClientIdentity.new (config : ClientConfig) : Except ProxyError ClientIdentity := do
  let key ← config.key.resolve environment
  rejectIf (key.utf8ByteSize < 24)
    (.new .internal s!"client {config.id} key must be at least 24 bytes")
  pure
    { id := config.id
      keyHash := hashKey key
      allowedRoutes := config.allowedRoutes
      requestsPerMinute := config.requestsPerMinute
      concurrency := config.concurrentRequests }

def AuthRegistry.new (configs : List ClientConfig) : Except ProxyError AuthRegistry :=
  configs.mapM (ClientIdentity.new environment hashKey)

/-- The place of the client that a request comes from. -/
def AuthRegistry.authenticate (registry : AuthRegistry) (headers : HeaderMap) :
    Except ProxyError Nat := do
  let key ← orReject (extractKey headers) (.new .authentication "missing API key")
  orReject (registry.findIdx? fun client => client.keyHash == hashKey key)
    (.new .authentication "invalid API key")

end Keys

def ClientIdentity.allowsRoute (identity : ClientIdentity) (route : String) : Bool :=
  identity.allowedRoutes.isEmpty || identity.allowedRoutes.any (· == route)

/-! ### Limits -/

/-- What of a client changes: the limiter's queue, from its front to its back, and the permits that
are left. -/
structure ClientLimits where
  limiter : List Instant := []
  permits : Nat
deriving DecidableEq, Repr, Inhabited

/-- The sixty seconds in which requests are counted. -/
def rateWindow : Nat := 60 * nanosecondsPerSecond

def rateExceeded : ProxyError :=
  { ProxyError.new .rateLimit "client request rate exceeded" with retryAfterSeconds := some 1 }

def concurrencyExceeded : ProxyError := .new .rateLimit "client concurrency exceeded"

/-- The loop that pops entries off the front: those at or before `now - 60s`. -/
def ClientLimits.evict (now : Instant) (limits : ClientLimits) : ClientLimits :=
  { limits with limiter := limits.limiter.dropWhile fun timestamp => timestamp + rateWindow ≤ now }

/-- The critical section of `acquire`, for a request that read the clock before it. -/
def ClientIdentity.checkRate (identity : ClientIdentity) (now : Instant) (limits : ClientLimits) :
    Except ProxyError Unit × ClientLimits :=
  let limits := limits.evict now
  if identity.requestsPerMinute ≤ limits.limiter.length then (.error rateExceeded, limits)
  else (.ok (), { limits with limiter := limits.limiter ++ [now] })

theorem ClientIdentity.checkRate_full {identity : ClientIdentity} {now : Instant}
    {limits : ClientLimits}
    (full : identity.requestsPerMinute ≤ (limits.evict now).limiter.length) :
    identity.checkRate now limits = (.error rateExceeded, limits.evict now) := if_pos full

theorem ClientIdentity.checkRate_room {identity : ClientIdentity} {now : Instant}
    {limits : ClientLimits}
    (room : (limits.evict now).limiter.length < identity.requestsPerMinute) :
    identity.checkRate now limits =
      (.ok (), { limits.evict now with limiter := (limits.evict now).limiter ++ [now] }) :=
  if_neg (Nat.not_le_of_lt room)

/-- `try_acquire_owned` on the client's semaphore. -/
def ClientLimits.acquirePermit (limits : ClientLimits) : Except ProxyError Unit × ClientLimits :=
  if limits.permits = 0 then (.error concurrencyExceeded, limits)
  else (.ok (), { limits with permits := limits.permits - 1 })

/-- A permit is dropped. -/
def ClientLimits.releasePermit (limits : ClientLimits) : ClientLimits :=
  { limits with permits := limits.permits + 1 }

/-- `acquire`, with nothing in between its steps. -/
def ClientIdentity.acquire (identity : ClientIdentity) (now : Instant) (limits : ClientLimits) :
    Except ProxyError Unit × ClientLimits :=
  match identity.checkRate now limits with
  | (.error error, limits) => (.error error, limits)
  | (.ok _, limits) => limits.acquirePermit

end ClaudeProxy
