import Ccbd.Gateway.Jwt
import Ccbd.Lib.Run

/-!
# The credential gateway

Workers send their requests to the gateway over a channel of their own. The gateway checks
that the token of a request names the channel's worker, replaces it by the real access token
and forwards the request. The access token is shared by all calls and refreshed under a lock.

A call of `forward_messages` runs on a thread of its own: every access to shared state is one
step of one call, and the calls interleave freely. `TokenStage` is where a call is in
`valid_access_token`; the guard of the lock is dropped last, `TokenStage.unlock`. A call to the
upstream is one step and its return another, and the upstream returns anything.

Times are nanoseconds: the wall clock, which may be set back, decides whether a token is
still valid; the monotonic clock decides how old a cached failure is.
-/

namespace Ccbd.Gateway

open Lib

/-! ## Data -/

structure TokenSet where
  accessToken : String
  refreshToken : String
  expiresAt : Int
deriving Repr, DecidableEq

def failureCacheTtl : Nat := 30 * 1000000000

def tokenExpirySafetyWindow : Int := 5 * 60 * 1000000000

/-- `now` is the wall clock. -/
def TokenSet.isValidForForwarding (token : TokenSet) (now : Int) : Bool :=
  now ≤ token.expiresAt && tokenExpirySafetyWindow < token.expiresAt - now

structure GatewayRequest where
  workerId : String
  method : String
  path : String
  headers : List (String × String)
  body : List UInt8
deriving Repr, DecidableEq

structure GatewayResponse where
  status : Nat
  headers : List (String × String)
  body : List UInt8
deriving Repr, DecidableEq

structure GatewayError where
  status : Nat
  errorCode : String
  body : String
deriving Repr, DecidableEq

inductive UpstreamError where
  | invalidGrant (body : String)
  | http (status : Nat) (body : String)
deriving Repr, DecidableEq

inductive CredentialEvent where
  | refreshFailed (errorCode upstreamError : String)
deriving Repr, DecidableEq

structure CachedRefreshFailure where
  error : GatewayError
  failedAt : Nat
deriving Repr, DecidableEq

def invalidGrantErrorCode : String := "AH_CLAUDE_GATEWAY_REFRESH_INVALID_GRANT"
def refreshFailedErrorCode : String := "AH_CLAUDE_GATEWAY_REFRESH_FAILED"
def workerIdMismatchErrorCode : String := "AH_CLAUDE_GATEWAY_WORKER_ID_MISMATCH"
def authInvalidErrorCode : String := "AH_CLAUDE_GATEWAY_AUTH_INVALID"

def mapRefreshError : UpstreamError → GatewayError
  | .invalidGrant body => { status := 401, errorCode := invalidGrantErrorCode, body }
  | .http status body => { status, errorCode := refreshFailedErrorCode, body }

def mapUpstreamError : UpstreamError → GatewayError
  | .invalidGrant body => { status := 401, errorCode := invalidGrantErrorCode, body }
  | .http status body => { status, errorCode := "AH_CLAUDE_GATEWAY_UPSTREAM_HTTP", body }

def refreshEventName (error : GatewayError) : String :=
  if error.errorCode = invalidGrantErrorCode then "invalid_grant" else error.errorCode

/-! ## The headers of a request -/

def eqIgnoreAsciiCase (a b : String) : Bool :=
  a.toList.map Char.toLower = b.toList.map Char.toLower

def isAuthorization (header : String × String) : Bool :=
  eqIgnoreAsciiCase header.1 "authorization"

/-- `value.strip_prefix("Bearer ")` -/
def stripBearer (value : String) : Option String :=
  if "Bearer ".toList.isPrefixOf value.toList then some (String.ofList (value.toList.drop 7))
  else none

def bearerToken (request : GatewayRequest) : Option String :=
  (request.headers.find? isAuthorization).bind fun header => stripBearer header.2

def contains (text pattern : String) : Bool := text.toList.tails.any pattern.toList.isPrefixOf

def rewriteAuthorization (request : GatewayRequest) (accessToken fakeToken : String) :
    GatewayRequest :=
  { request with
    headers := request.headers.filter (fun header =>
        !isAuthorization header && !contains header.2 fakeToken) ++
      [("authorization", "Bearer " ++ accessToken)] }

section

variable (parseJson : List UInt8 → Except String Json)

def validateWorkerIdentity (request : GatewayRequest) : Except GatewayError String := do
  let token ← (bearerToken request).elim
    (.error { status := 401, errorCode := authInvalidErrorCode, body := "missing bearer token" })
    .ok
  let jwtWorkerId ← (fakeJwtWorkerId parseJson token).mapError fun err =>
    { status := 401, errorCode := authInvalidErrorCode, body := err }
  if jwtWorkerId ≠ request.workerId then
    .error {
      status := 403
      errorCode := workerIdMismatchErrorCode
      body := "worker identity mismatch: channel=" ++ request.workerId ++ " token=" ++ jwtWorkerId }
  else .ok token

end

/-! ## A call in `valid_access_token` -/

/-- What the calls share. The lock is held by the call with the given number. -/
structure GatewayCore where
  token : TokenSet
  refreshLock : Option Nat := none
  refreshFailure : Option CachedRefreshFailure := none
  events : List CredentialEvent := []
deriving Repr, DecidableEq

structure Clock where
  now : Int
  instant : Nat
deriving Repr, DecidableEq

def GatewayCore.cachedFailureInsideRefreshLock (core : GatewayCore) (instant : Nat) :
    Option GatewayError :=
  core.refreshFailure.bind fun failure =>
    if instant - failure.failedAt < failureCacheTtl then some failure.error else none

inductive TokenStage where
  | readToken
  | lockRefresh
  | recheckToken
  | checkFailure
  | readRefreshToken
  | callRefresh (refreshToken : String)
  | refreshing (refreshToken : String)
  | storeToken (refreshed : TokenSet)
  | clearFailure (accessToken : String)
  | cacheFailure (error : GatewayError)
  | recordFailure (error : GatewayError)
  | unlock (result : Except GatewayError String)
  | returned (result : Except GatewayError String)
deriving Repr, DecidableEq

namespace TokenStage

/-- One step of call `i`. It waits at the lock while another call holds it, and for the
upstream to return. -/
def step (clock : Clock) (i : Nat) (core : GatewayCore) : TokenStage → GatewayCore × TokenStage
  | readToken =>
    (core, if core.token.isValidForForwarding clock.now then returned (.ok core.token.accessToken)
      else lockRefresh)
  | lockRefresh =>
    if core.refreshLock = none then ({ core with refreshLock := some i }, recheckToken)
    else (core, lockRefresh)
  | recheckToken =>
    (core, if core.token.isValidForForwarding clock.now then unlock (.ok core.token.accessToken)
      else checkFailure)
  | checkFailure =>
    (core, match core.cachedFailureInsideRefreshLock clock.instant with
      | some cached => unlock (.error cached)
      | none => readRefreshToken)
  | readRefreshToken => (core, callRefresh core.token.refreshToken)
  | callRefresh refreshToken => (core, refreshing refreshToken)
  | refreshing refreshToken => (core, refreshing refreshToken)
  | storeToken refreshed =>
    ({ core with token := refreshed }, clearFailure refreshed.accessToken)
  | clearFailure accessToken => ({ core with refreshFailure := none }, unlock (.ok accessToken))
  | cacheFailure error =>
    ({ core with refreshFailure := some { error, failedAt := clock.instant } }, recordFailure error)
  | recordFailure error =>
    ({ core with
        events := core.events ++ [.refreshFailed error.errorCode (refreshEventName error)] },
      unlock (.error error))
  | unlock result => ({ core with refreshLock := none }, returned result)
  | returned result => (core, returned result)

/-- The upstream returns from the refresh. -/
def refreshReturns (result : Except UpstreamError TokenSet) : TokenStage → TokenStage
  | refreshing _ =>
    match result with
    | .ok refreshed => storeToken refreshed
    | .error (.invalidGrant body) => cacheFailure (mapRefreshError (.invalidGrant body))
    | .error (.http status body) => recordFailure (mapRefreshError (.http status body))
  | stage => stage

/-- Between taking the lock and dropping its guard. -/
def holdsLock : TokenStage → Bool
  | readToken | lockRefresh | returned _ => false
  | _ => true

end TokenStage

/-! ## Calls of `forward_messages` -/

/-- What a connection delivers of a request; the channel adds whose it is. -/
structure IncomingRequest where
  method : String
  path : String
  headers : List (String × String)
  body : List UInt8
deriving Repr, DecidableEq

inductive CallStage where
  | validate
  | gettingToken (fakeToken : String) (stage : TokenStage)
  | forwarding (request : GatewayRequest)
  | finished (result : Except GatewayError GatewayResponse)
deriving Repr, DecidableEq

structure ForwardCall where
  channel : String
  incoming : IncomingRequest
  stage : CallStage
deriving Repr, DecidableEq

inductive UpstreamCall where
  | refresh (refreshToken : String)
  | messages (request : GatewayRequest)
deriving Repr, DecidableEq

namespace ForwardCall

/-- The request as `read_http_request` hands it on for the worker of the channel. -/
def request (call : ForwardCall) : GatewayRequest where
  workerId := call.channel
  method := call.incoming.method
  path := call.incoming.path
  headers := call.incoming.headers
  body := call.incoming.body

def step (parseJson : List UInt8 → Except String Json) (clock : Clock) (i : Nat)
    (core : GatewayCore) (call : ForwardCall) : GatewayCore × ForwardCall :=
  match call.stage with
  | .validate =>
    match validateWorkerIdentity parseJson call.request with
    | .ok fakeToken => (core, { call with stage := .gettingToken fakeToken .readToken })
    | .error err => (core, { call with stage := .finished (.error err) })
  | .gettingToken fakeToken (.returned (.ok accessToken)) =>
    (core, { call with
      stage := .forwarding (rewriteAuthorization call.request accessToken fakeToken) })
  | .gettingToken _ (.returned (.error err)) =>
    (core, { call with stage := .finished (.error err) })
  | .gettingToken fakeToken stage =>
    let moved := stage.step clock i core
    (moved.1, { call with stage := .gettingToken fakeToken moved.2 })
  | .forwarding _ | .finished _ => (core, call)

/-- The call to the upstream that the next step makes, if it makes one. -/
def upstreamCall? (call : ForwardCall) : Option UpstreamCall :=
  match call.stage with
  | .gettingToken _ (.callRefresh refreshToken) => some (.refresh refreshToken)
  | .gettingToken fakeToken (.returned (.ok accessToken)) =>
    some (.messages (rewriteAuthorization call.request accessToken fakeToken))
  | _ => none

def refreshReturns (result : Except UpstreamError TokenSet) (call : ForwardCall) : ForwardCall :=
  match call.stage with
  | .gettingToken fakeToken stage =>
    { call with stage := .gettingToken fakeToken (stage.refreshReturns result) }
  | _ => call

def messagesReturns (result : Except UpstreamError GatewayResponse) (call : ForwardCall) :
    ForwardCall :=
  match call.stage with
  | .forwarding _ => { call with stage := .finished (result.mapError mapUpstreamError) }
  | _ => call

end ForwardCall

/-! ## The gateway and its clients -/

/-- The channels are the registered listeners, the connections those accepted on one whose
request is not read yet. -/
structure GatewayWorld where
  core : GatewayCore
  channels : List String := []
  connections : List String := []
  calls : List ForwardCall := []
  clock : Clock
deriving Repr, DecidableEq

inductive GatewayAct where
  | register (workerId : String)
  | deregister (workerId : String)
  | accept (channel : String)
  | receive (connection : Nat) (incoming : IncomingRequest)
  | close (connection : Nat)
  | step (i : Nat)
  | refreshReturns (i : Nat) (result : Except UpstreamError TokenSet)
  | messagesReturns (i : Nat) (result : Except UpstreamError GatewayResponse)
  | elapse (nanoseconds : Nat)
  | setClock (now : Int)
deriving Repr, DecidableEq

namespace GatewayWorld

/-- `GatewayCore::new` with the seed credentials. -/
def new (seed : TokenSet) (clock : Clock) : GatewayWorld where
  core := { token := seed }
  clock := clock

variable (parseJson : List UInt8 → Except String Json)

/-- What call `i` does to the shared state and to itself. -/
def moved (w : GatewayWorld) (i : Nat) (move : ForwardCall → GatewayCore × ForwardCall) :
    GatewayWorld :=
  match w.calls[i]? with
  | none => w
  | some call => { w with core := (move call).1, calls := w.calls.set i (move call).2 }

def next (w : GatewayWorld) : GatewayAct → GatewayWorld
  | .register workerId => { w with channels := w.channels.insert workerId }
  | .deregister workerId => { w with channels := w.channels.filter (· ≠ workerId) }
  | .accept channel =>
    if channel ∈ w.channels then { w with connections := w.connections ++ [channel] } else w
  | .receive connection incoming =>
    match w.connections[connection]? with
    | none => w
    | some channel =>
      { w with
        connections := w.connections.eraseIdx connection
        calls := w.calls ++ [{ channel, incoming, stage := .validate }] }
  | .close connection => { w with connections := w.connections.eraseIdx connection }
  | .step i => w.moved i (·.step parseJson w.clock i w.core)
  | .refreshReturns i result => w.moved i fun call => (w.core, call.refreshReturns result)
  | .messagesReturns i result => w.moved i fun call => (w.core, call.messagesReturns result)
  | .elapse nanoseconds =>
    { w with clock := { w.clock with instant := w.clock.instant + nanoseconds } }
  | .setClock now => { w with clock := { w.clock with now } }

/-- The call to the upstream that an action makes. -/
def upstreamCall? (w : GatewayWorld) : GatewayAct → Option UpstreamCall
  | .step i => w.calls[i]?.bind (·.upstreamCall?)
  | _ => none

/-- The runs of the gateway, with the clients, the upstream and the clocks free. -/
def Step (w : GatewayWorld) (act : GatewayAct) (w' : GatewayWorld) : Prop :=
  w' = w.next parseJson act

end GatewayWorld

end Ccbd.Gateway
