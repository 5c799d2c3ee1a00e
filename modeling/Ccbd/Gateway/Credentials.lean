import Ccbd.Gateway.Refresh
import Ccbd.Lib.Path

/-!
# Refresh tokens are used once

The server that answers a refresh invalidates the token it was asked with, so a token that was
exchanged must not be sent again. The gateway's upstream writes the new credentials to the seed
file before it returns them. If the write fails they are lost: the call fails, the shared token
stays the old one, and the next call sends the token the server has invalidated.

What a run sends is right as long as every write-back after a successful exchange succeeds or
is skipped on purpose.
-/

namespace Ccbd.Gateway

open Lib

/-! ## `ProductionUpstream::refresh` -/

/-- What the HTTP client returns: an error status with its body, no answer, or a success whose
body may be unreadable. -/
inductive RefreshResponse where
  | status (status : Nat) (body : String)
  | failed (err : String)
  | success (body : Except String String)

/-- The path of the seed file, with its parent directory. -/
structure SeedPath where
  path : String
  parent : Option String

/-- What the file system answers during one write-back. -/
structure SeedIo where
  canonical : Option String
  linkTarget : Option String
  pid : Nat
  writeTemp : Except String Unit
  setMode : Except String Unit
  rename : Except String Unit

def validateCredentialPathNotWslWindowsMount (path : String) : Except String Unit :=
  if path = "/mnt/c" ∨ "/mnt/c/".toList.isPrefixOf path.toList = true then
    .error "credential path resolves under /mnt/c"
  else .ok ()

def symlinkTargetIsWslWindowsMount (seed : SeedPath) (io : SeedIo) : Bool :=
  match io.linkTarget with
  | none => false
  | some target =>
    let resolved :=
      if Path.isAbsolute target then target else Path.join (seed.parent.getD ".") target
    !(validateCredentialPathNotWslWindowsMount resolved).toBool

/-- The credentials of the file with the new tokens in them, if there is an object or `null`
to put them into. -/
def storeTokens (value : Json) (token : TokenSet) : Option Json :=
  let set (target : Json) : Option Json := do
    let target ← target.setField? "accessToken" (.str token.accessToken)
    let target ← target.setField? "refreshToken" (.str token.refreshToken)
    target.setField? "expiresAt" (.num (token.expiresAt.toNat / 1000000))
  match value.get? "claudeAiOauth" with
  | some (.obj fields) => (set (.obj fields)).bind (value.setField? "claudeAiOauth")
  | _ => set value

section

variable (parseJson : List UInt8 → Except String Json) (render : Json → Except String String)
  (seed : SeedPath)

def parseText (text : String) : Except String Json := parseJson (Utf8.encode text.toList)

/-- An error with what it is about in front. -/
def about {α : Type} (context : String) (result : Except String α) : Except (Abort String) α :=
  result.mapError fun err => .error (context ++ err)

/-- Writes the tokens to the seed file, unless it lies on a Windows mount. Returns the new
content if it was written. Setting a field of a value without fields is a panic. -/
def writeSeedCredentialsGuarded (io : SeedIo) (content : Except String String)
    (token : TokenSet) : Except (Abort String) (Option String) :=
  if io.canonical = none ∧ symlinkTargetIsWslWindowsMount seed io = true then .ok none
  else if (validateCredentialPathNotWslWindowsMount (io.canonical.getD seed.path)).toBool = false then
    .ok none
  else do
    let text ← about "read existing Claude seed credentials before writeback: " content
    let value ← about "parse existing Claude seed credentials before writeback: "
      (parseText parseJson text)
    let value ← (storeTokens value token).elim (.error .panic) .ok
    let parent ← seed.parent.elim
      (.error (.error ("credential path has no parent: " ++ seed.path))) .ok
    let tmp := Path.join parent ("." ++ ((Path.fileName seed.path).map String.ofList).getD
      "credentials.json" ++ ".tmp." ++ toString io.pid)
    let serialized ← about "serialize Claude seed credentials: " (render value)
    about ("write temporary Claude seed credentials " ++ tmp ++ ": ") io.writeTemp
    about "chmod temporary Claude seed credentials: " io.setMode
    about "rename refreshed Claude seed credentials into place: " io.rename
    .ok (some serialized)

def responseBodyIsInvalidGrant (body : String) : Bool :=
  match parseText parseJson body with
  | .ok value => value.strField? "error" = some "invalid_grant"
  | .error _ => false

def badGateway (body : String) : UpstreamError := .http 502 body

/-- The field of a refresh response. -/
def responseField {α : Type} (read : Json → Option α) (json : Json) (key : String) :
    Except UpstreamError α :=
  ((json.get? key).bind read).elim (.error (badGateway ("refresh response missing " ++ key))) .ok

/-- An answer that carries new tokens. -/
structure RefreshAnswer where
  json : Json
  accessToken : String
  refreshToken : String

/-- A `SystemTime` counts its seconds in 64 bits with a sign. -/
def RefreshAnswer.tokenSet? (answer : RefreshAnswer) (now : Int) (expiresIn : Nat) :
    Option TokenSet :=
  if now / 1000000000 + expiresIn ≤ 9223372036854775807 then
    some
      { accessToken := answer.accessToken
        refreshToken := answer.refreshToken
        expiresAt := now + expiresIn * 1000000000 }
  else none

theorem RefreshAnswer.refreshToken_tokenSet? (answer : RefreshAnswer)
    (counted : answer.tokenSet? now expiresIn = some token) :
    token.refreshToken = answer.refreshToken := by
  unfold tokenSet? at counted
  split_ifs at counted
  cases counted
  rfl

/-- The new tokens in the answer to a refresh. -/
def answeredTokens : RefreshResponse → Except UpstreamError RefreshAnswer
  | .status status body =>
    if status = 400 ∧ responseBodyIsInvalidGrant parseJson body = true then
      .error (.invalidGrant body)
    else .error (.http status body)
  | .failed err => .error (badGateway ("refresh request failed: " ++ err))
  | .success body => do
    let body ← body.mapError fun err => badGateway ("read refresh response failed: " ++ err)
    let json ← (parseText parseJson body).mapError fun err =>
      badGateway ("parse refresh response failed: " ++ err)
    let text (v : Json) : Option String := v.asStr?.filter (· ≠ "")
    let accessToken ← responseField text json "access_token"
    let refreshToken ← responseField text json "refresh_token"
    .ok { json, accessToken, refreshToken }

/-- The seconds that the new access token lives. -/
def RefreshAnswer.expiresIn (answer : RefreshAnswer) : Except UpstreamError Nat :=
  responseField Json.asU64? answer.json "expires_in"

/-- `ProductionUpstream::refresh`: the tokens are returned only if they were written. `now` is
the wall clock; a time of expiry that does not fit is a panic. -/
def productionRefresh (now : Int) (response : RefreshResponse) (io : SeedIo)
    (content : Except String String) :
    Except (Abort UpstreamError) (TokenSet × Option String) := do
  let answer ← (answeredTokens parseJson response).mapError .error
  let expiresIn ← answer.expiresIn.mapError .error
  let token ← (answer.tokenSet? now expiresIn).elim (.error .panic) .ok
  let written ← (writeSeedCredentialsGuarded parseJson render seed io content token).mapError
    (·.map fun err => badGateway ("write refreshed credentials failed: " ++ err))
  .ok (token, written)

/-- What the caller of a refresh gets, unless the refresh panics. -/
def returned? : Except (Abort UpstreamError) (TokenSet × Option String) →
    Option (Except UpstreamError TokenSet)
  | .ok (token, _) => some (.ok token)
  | .error (.error err) => some (.error err)
  | .error .panic => none

end

/-! ## Which refresh token the gateway holds -/

namespace TokenStage

/-- The refresh token a call is sending is the shared one; the one it is storing is unspent. -/
def Unspent (spent : List String) (current : String) : TokenStage → Prop
  | callRefresh refreshToken | refreshing refreshToken => refreshToken = current
  | storeToken refreshed => refreshed.refreshToken ∉ spent
  | _ => True

theorem unspent_of_free {stage : TokenStage}
    (free : stage.holdsLock = false) : stage.Unspent spent current := by
  cases stage with
  | readToken | lockRefresh | returned => trivial
  | _ => cases free

variable {clock : Clock} {i : Nat} {act : GatewayAct} {spent : List String}

/-- The shared token changes only where a call stores the one it has. -/
theorem Moves.token (h : Moves clock i core act stage core' stage') :
    core'.token = core.token ∧ (∀ refreshed, stage ≠ storeToken refreshed) ∨
      ∃ refreshed, stage = storeToken refreshed ∧ core'.token = refreshed ∧
        stage' = clearFailure refreshed.accessToken := by
  cases h with
  | refreshReturns refreshToken result => exact .inl ⟨rfl, by simp⟩
  | step busy =>
    cases stage with
    | storeToken refreshed => exact .inr ⟨refreshed, rfl, rfl, rfl⟩
    | lockRefresh =>
      left
      simp only [TokenStage.step]
      split <;> simp
    | _ => exact .inl ⟨rfl, by simp⟩

theorem Moves.unspent (h : Moves clock i core act stage core' stage')
    (unspent : stage.Unspent spent core.token.refreshToken)
    (fails : ∀ refreshed, act ≠ .refreshReturns i (.ok refreshed)) :
    stage'.Unspent spent core.token.refreshToken := by
  cases h with
  | refreshReturns refreshToken result =>
    cases result with
    | ok refreshed => exact absurd rfl (fails refreshed)
    | error err => cases err <;> trivial
  | step busy =>
    cases stage with
    | readToken | lockRefresh | recheckToken | checkFailure =>
      simp only [TokenStage.step]
      split <;> trivial
    | readRefreshToken => rfl
    | callRefresh refreshToken | refreshing refreshToken => exact unspent
    | _ => trivial

end TokenStage

namespace GatewayWorld

variable {parseJson : List UInt8 → Except String Json} {w w' : GatewayWorld} {act : GatewayAct}
  {spent : List String}

/-- The shared refresh token is unspent, unless a call has its successor in hand. -/
structure Unspent (spent : List String) (w : GatewayWorld) : Prop where
  locked : w.Locked
  stages : ∀ i stage, w.stageOf i = some stage → stage.Unspent spent w.core.token.refreshToken
  current : w.core.token.refreshToken ∉ spent ∨
    ∃ i refreshed, w.stageOf i = some (.storeToken refreshed)

theorem Unspent.step (h : Unspent spent w) (step : Step parseJson w act w')
    (fails : ∀ i refreshed refreshToken, act = .refreshReturns i (.ok refreshed) →
      w.stageOf i ≠ some (.refreshing refreshToken)) : Unspent spent w' := by
  have locked := h.locked.step step
  cases step.tokenEffect with
  | apart core later stages held steps returns =>
    refine ⟨locked, fun j stage inside => ?_, ?_⟩
    · rw [core]
      rcases stages j with same | other | other
      · exact h.stages j stage (by rw [← same, inside])
      · cases inside.symm.trans other
        trivial
      · cases inside.symm.trans other
    · rw [core]
      refine h.current.imp_right ?_
      rintro ⟨i, refreshed, inside⟩
      exact ⟨i, refreshed, by rw [held i (holdsLock_iff.mpr ⟨_, inside, rfl⟩), inside]⟩
  | inside i stage stage' core' was becomes others core clock moves =>
    rcases moves.token with ⟨same, other⟩ | ⟨refreshed, rfl, token, rfl⟩
    · refine ⟨locked, fun j stage₁ inside => ?_, ?_⟩
      · rw [core, same]
        by_cases e : j = i
        · subst e
          cases becomes.symm.trans inside
          refine moves.unspent (h.stages j stage was) ?_
          rintro refreshed rfl
          obtain ⟨_, _, refreshToken, rfl, _⟩ := moves.of_returns
          exact fails j refreshed refreshToken rfl was
        · exact h.stages j stage₁ (by rw [← others j e, inside])
      · rw [core, same]
        refine h.current.imp_right ?_
        rintro ⟨j, refreshed, inside⟩
        have e : j ≠ i := by
          rintro rfl
          exact other refreshed (Option.some.inj (was.symm.trans inside))
        exact ⟨j, refreshed, by rw [others j e, inside]⟩
    · -- the call stores the token it has; it alone is past the lock
      refine ⟨locked, fun j stage₁ inside => ?_, .inl ?_⟩
      · by_cases e : j = i
        · subst e
          cases becomes.symm.trans inside
          trivial
        · rw [others j e] at inside
          refine TokenStage.unspent_of_free ?_
          rw [← Bool.not_eq_true]
          exact fun holds => e (h.locked.unique inside was holds rfl)
      · rw [core, token]
        exact h.stages i _ was

theorem Unspent.succeeds
    (h : Unspent spent w) (waits : w.stageOf i = some (.refreshing refreshToken))
    (fresh : refreshed.refreshToken ∉ spent ++ [refreshToken])
    (step : Step parseJson w (.refreshReturns i (.ok refreshed)) w') :
    Unspent (spent ++ [refreshToken]) w' := by
  have locked := h.locked.step step
  cases step.tokenEffect with
  | apart core later stages held steps returns => exact absurd waits (returns i _ _ rfl)
  | inside j stage stage' core' was becomes others core clock moves =>
    obtain ⟨rfl, rfl, _, rfl, rfl⟩ := moves.of_returns
    refine ⟨locked, fun k stage₁ inside => ?_, .inr ⟨i, refreshed, becomes⟩⟩
    by_cases e : k = i
    · subst e
      cases becomes.symm.trans inside
      exact fresh
    · rw [others k e] at inside
      refine TokenStage.unspent_of_free ?_
      rw [← Bool.not_eq_true]
      exact fun holds => e (h.locked.unique inside waits holds rfl)

theorem Unspent.notMem (h : Unspent spent w)
    (inside : w.stageOf i = some (.callRefresh refreshToken)) : refreshToken ∉ spent := by
  cases h.stages i _ inside
  rcases h.current with unspent | ⟨j, refreshed, stores⟩
  · exact unspent
  · cases h.locked.unique inside stores rfl rfl
    cases inside.symm.trans stores

end GatewayWorld

/-! ## The gateway with its upstream -/

/-- The gateway and the seed file, which other processes change too. A panic of the upstream
poisons the lock: no call gets past it again. The call that panicked stays `refreshing` here,
with the lock. -/
structure ProductionWorld where
  gateway : GatewayWorld
  seedFile : Except String String
  poisoned : Bool

inductive ProductionAct where
  | gateway (act : GatewayAct)
  | exchange (i : Nat) (response : RefreshResponse) (io : SeedIo)
  | changeFile (content : Except String String)

namespace ProductionWorld

variable (parseJson : List UInt8 → Except String Json) (render : Json → Except String String)
  (seed : SeedPath)

def next (w : ProductionWorld) : ProductionAct → ProductionWorld
  | .gateway act => { w with gateway := w.gateway.next parseJson act }
  | .exchange i response io =>
    if w.poisoned then w
    else
      let result :=
        productionRefresh parseJson render seed w.gateway.clock.now response io w.seedFile
      match returned? result with
      | some returned =>
        { w with
          gateway := w.gateway.next parseJson (.refreshReturns i returned)
          seedFile := (result.toOption.bind Prod.snd).elim w.seedFile .ok }
      | none => { w with poisoned := true }
  | .changeFile content => { w with seedFile := content }

/-- The refresh returns through the upstream only. -/
def Step (w : ProductionWorld) (act : ProductionAct) (w' : ProductionWorld) : Prop :=
  (∀ i result, act ≠ .gateway (.refreshReturns i result)) ∧ w' = w.next parseJson render seed act

/-- The refresh token an action sends to the server. -/
def sends? (w : ProductionWorld) : ProductionAct → Option String
  | .gateway act =>
    match w.gateway.upstreamCall? act with
    | some (.refresh refreshToken) => some refreshToken
    | _ => none
  | _ => none

/-- The refresh token that an exchange spends, and the answer with its successor. -/
def spends? (w : ProductionWorld) : ProductionAct → Option (String × RefreshAnswer)
  | .exchange i response _ =>
    match w.poisoned, w.gateway.stageOf i, answeredTokens parseJson response with
    | false, some (.refreshing refreshToken), .ok answer => some (refreshToken, answer)
    | _, _, _ => none
  | _ => none

/-- The refresh tokens that a run has spent. -/
def spent (ts : List (Transition ProductionWorld ProductionAct)) : List String :=
  ts.filterMap fun t => (t.pre.spends? parseJson t.act).map Prod.fst

/-- The server invalidates a refresh token on its first exchange: it never returns one that
was spent. -/
def Rotates (ts : List (Transition ProductionWorld ProductionAct)) : Prop :=
  ∀ before t after, ts = before ++ t :: after → ∀ refreshToken answer,
    t.pre.spends? parseJson t.act = some (refreshToken, answer) →
    answer.refreshToken ∉ spent parseJson (before ++ [t])

/-- No request to the server carries a refresh token that was spent before. -/
def NeverReused (ts : List (Transition ProductionWorld ProductionAct)) : Prop :=
  ∀ before t after, ts = before ++ t :: after → ∀ refreshToken,
    t.pre.sends? t.act = some refreshToken → refreshToken ∉ spent parseJson before

/-- An answer with new tokens says how long they live, as a time that can be counted, and the
seed file takes them or is one that must not be written. -/
def WritesBack (w : ProductionWorld) (act : ProductionAct) : Prop :=
  ∀ i response io answer, act = .exchange i response io →
    answeredTokens parseJson response = .ok answer →
    ∃ expiresIn token, answer.expiresIn = .ok expiresIn ∧
      answer.tokenSet? w.gateway.clock.now expiresIn = some token ∧
      (writeSeedCredentialsGuarded parseJson render seed io w.seedFile token).toBool = true

/-- The shared refresh token is unspent, and none was sent that was not. -/
def Fresh (past : List (Transition ProductionWorld ProductionAct)) (w : ProductionWorld) : Prop :=
  Rotates parseJson past → w.gateway.Unspent (spent parseJson past) ∧ NeverReused parseJson past

variable {parseJson render seed} {w w' : ProductionWorld} {act : ProductionAct}
  {past : List (Transition ProductionWorld ProductionAct)}

theorem spent_concat (t : Transition ProductionWorld ProductionAct) :
    spent parseJson (past ++ [t]) =
      spent parseJson past ++ ((t.pre.spends? parseJson t.act).map Prod.fst).toList := by
  simp only [spent, List.filterMap_append, List.filterMap_cons]
  cases h : t.pre.spends? parseJson t.act <;> rfl

theorem spent_append :
    spent parseJson (past ++ later) = spent parseJson past ++ spent parseJson later :=
  List.filterMap_append

theorem spends?_eq_some :
    w.spends? parseJson act = some (refreshToken, answer) ↔
      ∃ i response io, act = .exchange i response io ∧ w.poisoned = false ∧
        w.gateway.stageOf i = some (.refreshing refreshToken) ∧
        answeredTokens parseJson response = .ok answer := by
  constructor
  · intro h
    cases act with
    | gateway | changeFile => cases h
    | exchange i response io =>
      simp only [spends?] at h
      split at h
      · rename_i sane waits answered
        cases h
        exact ⟨i, response, io, rfl, sane, waits, answered⟩
      · cases h
  · rintro ⟨i, response, io, rfl, sane, waits, answered⟩
    simp [spends?, sane, waits, answered]

theorem sends?_eq_some :
    w.sends? act = some refreshToken ↔
      ∃ i, act = .gateway (.step i) ∧ w.gateway.stageOf i = some (.callRefresh refreshToken) := by
  have calls : w.sends? act = some refreshToken ↔
      ∃ gatewayAct, act = .gateway gatewayAct ∧
        w.gateway.upstreamCall? gatewayAct = some (.refresh refreshToken) := by
    cases act with
    | exchange | changeFile => simp [sends?]
    | gateway act =>
      simp only [sends?]
      split <;> simp_all
  simp only [calls, GatewayWorld.upstreamCall?_eq_refresh, GatewayWorld.stageOf_eq_some]
  grind

theorem productionRefresh_ok :
    productionRefresh parseJson render seed now response io content = .ok (token, written) ↔
      ∃ answer, answeredTokens parseJson response = .ok answer ∧
        ∃ expiresIn, answer.expiresIn = .ok expiresIn ∧
          answer.tokenSet? now expiresIn = some token ∧
          writeSeedCredentialsGuarded parseJson render seed io content token = .ok written := by
  simp only [productionRefresh, bind_eq_ok, mapError_eq_ok, elim_eq_ok]
  grind

/-- A refresh that must keep its tokens returns those it has got. -/
theorem WritesBack.refresh_ok
    (keeps : WritesBack parseJson render seed w (.exchange i response io))
    (answered : answeredTokens parseJson response = .ok answer) :
    ∃ token written, productionRefresh parseJson render seed w.gateway.clock.now response io
      w.seedFile = .ok (token, written) ∧ token.refreshToken = answer.refreshToken := by
  obtain ⟨expiresIn, token, lives, counted, writes⟩ := keeps i response io answer rfl answered
  obtain ⟨written, writes⟩ := toBool_eq_true.mp writes
  exact ⟨token, written, productionRefresh_ok.mpr ⟨answer, answered, expiresIn, lives, counted,
    writes⟩, answer.refreshToken_tokenSet? counted⟩

theorem WritesBack.spends?_eq_none
    (keeps : WritesBack parseJson render seed w (.exchange i response io))
    (panics : returned? (productionRefresh parseJson render seed w.gateway.clock.now response io
      w.seedFile) = none) : w.spends? parseJson (.exchange i response io) = none := by
  rw [Option.eq_none_iff_forall_ne_some]
  rintro ⟨refreshToken, answer⟩ spends
  obtain ⟨_, _, _, e, -, -, answered⟩ := spends?_eq_some.mp spends
  cases e
  obtain ⟨token, written, done, -⟩ := keeps.refresh_ok answered
  rw [done] at panics
  cases panics

theorem Step.gateway (h : Step parseJson render seed w act w')
    (keeps : WritesBack parseJson render seed w act) :
    (w'.gateway = w.gateway ∧ w.spends? parseJson act = none) ∨
      (∃ gatewayAct, (∀ i result, gatewayAct ≠ .refreshReturns i result) ∧
        w.spends? parseJson act = none ∧
        GatewayWorld.Step parseJson w.gateway gatewayAct w'.gateway) ∨
      ∃ i response io returned, act = .exchange i response io ∧ w.poisoned = false ∧
        returned? (productionRefresh parseJson render seed w.gateway.clock.now response io
          w.seedFile) = some returned ∧
        GatewayWorld.Step parseJson w.gateway (.refreshReturns i returned) w'.gateway := by
  obtain ⟨apart, rfl⟩ := h
  cases act with
  | gateway act => exact .inr (.inl ⟨act, fun i result e => apart i result (e ▸ rfl), rfl, rfl⟩)
  | changeFile content => exact .inl ⟨rfl, rfl⟩
  | exchange i response io =>
    simp only [next]
    split_ifs with poisoned
    · exact .inl ⟨rfl, by simp [spends?, poisoned]⟩
    · cases result : returned? (productionRefresh parseJson render seed w.gateway.clock.now
        response io w.seedFile) with
      | none => exact .inl ⟨rfl, keeps.spends?_eq_none result⟩
      | some returned =>
        exact .inr (.inr ⟨i, response, io, returned, rfl, by simpa using poisoned, result, rfl⟩)

/-- An exchange whose tokens are kept has the successor of the spent token in hand; one that
returned no tokens spends nothing. -/
theorem Unspent.exchange {spent : List String} (h : w.gateway.Unspent spent)
    (keeps : WritesBack parseJson render seed w (.exchange i response io))
    (fresh : ∀ refreshToken answer,
      w.spends? parseJson (.exchange i response io) = some (refreshToken, answer) →
      answer.refreshToken ∉ spent ++ [refreshToken]) (sane : w.poisoned = false)
    (result : returned? (productionRefresh parseJson render seed w.gateway.clock.now response io
      w.seedFile) = some returned)
    (step : GatewayWorld.Step parseJson w.gateway (.refreshReturns i returned) gateway') :
    gateway'.Unspent (spent ++
      ((w.spends? parseJson (.exchange i response io)).map Prod.fst).toList) := by
  cases answered : answeredTokens parseJson response with
  | error err =>
    have none : w.spends? parseJson (.exchange i response io) = none := by
      simp [spends?, answered]
    have failed : productionRefresh parseJson render seed w.gateway.clock.now response io
        w.seedFile = .error (.error err) := by
      simp [productionRefresh, answered, Except.mapError, bind, Except.bind]
    rw [failed] at result
    cases result
    rw [none]
    simpa using h.step step (by simp)
  | ok answer =>
    obtain ⟨token, written, done, successor⟩ := keeps.refresh_ok answered
    rw [done] at result
    cases result
    by_cases waits : ∃ refreshToken, w.gateway.stageOf i = some (.refreshing refreshToken)
    · obtain ⟨refreshToken, waits⟩ := waits
      have spends := spends?_eq_some.mpr ⟨i, response, io, rfl, sane, waits, answered⟩
      rw [spends]
      exact h.succeeds waits (successor ▸ fresh refreshToken answer spends) step
    · have none : w.spends? parseJson (.exchange i response io) = none := by
        rw [Option.eq_none_iff_forall_ne_some]
        rintro ⟨refreshToken, answer⟩ spends
        obtain ⟨_, _, _, e, -, waiting, -⟩ := spends?_eq_some.mp spends
        cases e
        exact waits ⟨refreshToken, waiting⟩
      rw [none]
      refine (List.append_nil spent).symm ▸ h.step step ?_
      intro j refreshed refreshToken e waiting
      cases e
      exact waits ⟨refreshToken, waiting⟩

theorem Fresh.step (h : Fresh parseJson past w) (keeps : WritesBack parseJson render seed w act)
    (step : Step parseJson render seed w act w') : Fresh parseJson (past ++ [⟨w, act, w'⟩]) w' := by
  intro rotates
  rw [Rotates, Run.forall_split_concat] at rotates
  obtain ⟨earlier, rotates⟩ := rotates
  obtain ⟨unspent, neverReused⟩ := h earlier
  rw [NeverReused, Run.forall_split_concat]
  refine ⟨?_, neverReused, fun refreshToken sends => ?_⟩
  · rw [spent_concat]
    rcases step.gateway keeps with ⟨same, none⟩ | ⟨gatewayAct, apart, none, moves⟩ |
      ⟨i, response, io, returned, rfl, sane, result, moves⟩
    · rw [none, same]
      simpa using unspent
    · rw [none]
      simpa using unspent.step moves fun i refreshed _ e => absurd e (apart i _)
    · refine Unspent.exchange unspent keeps (fun refreshToken answer spends => ?_) sane result moves
      have := rotates refreshToken answer spends
      rw [spent_concat, spends] at this
      exact this
  · obtain ⟨i, rfl, inside⟩ := sends?_eq_some.mp sends
    exact unspent.notMem inside

theorem fresh_new (seedToken : TokenSet) (clock : Clock) (file : Except String String) :
    Fresh parseJson [] ⟨.new seedToken clock, file, false⟩ := by
  refine fun _ => ⟨⟨GatewayWorld.locked_new seedToken clock, ?_, .inl List.not_mem_nil⟩, ?_⟩
  · intro i stage inside
    cases inside
  · intro before t after e
    simp at e

/-- No refresh request carries a spent refresh token, in every run in which the tokens of each
successful exchange are kept. The server is assumed to rotate its tokens. -/
theorem refreshToken_neverReused {seedToken : TokenSet} {clock : Clock}
    {file : Except String String} {ts : List (Transition ProductionWorld ProductionAct)}
    {s : ProductionWorld}
    (run : Run (Step parseJson render seed) ⟨.new seedToken clock, file, false⟩ ts s)
    (rotates : Rotates parseJson ts)
    (keeps : ∀ t ∈ ts, WritesBack parseJson render seed t.pre t.act) : NeverReused parseJson ts :=
  (run.invariant_past
    (fun _ _ _ _ fresh keeps step => fresh.step keeps step) (fresh_new seedToken clock file)
    keeps rotates).2

/-! ## An exchange and a second caller -/

variable (render seed) in
theorem lift_run {g g' : GatewayWorld} {ts : List (Transition GatewayWorld GatewayAct)}
    (file : Except String String) (run : Run (GatewayWorld.Step parseJson) g ts g')
    (apart : ∀ t ∈ ts, ∀ i result, t.act ≠ .refreshReturns i result) :
    ∃ ps, Run (Step parseJson render seed) ⟨g, file, false⟩ ps ⟨g', file, false⟩ ∧
      ∀ p ∈ ps, ∃ act, p.act = .gateway act := by
  induction run with
  | nil g => exact ⟨[], .nil _, by simp⟩
  | @cons g middle g' act ts step rest ih =>
    rw [List.forall_mem_cons] at apart
    obtain ⟨ps, later, gateway⟩ := ih apart.2
    have first :
        Step parseJson render seed ⟨g, file, false⟩ (.gateway act) ⟨middle, file, false⟩ := by
      refine ⟨?_, by rw [step]; rfl⟩
      rintro i result ⟨⟩
      exact apart.1 i result rfl
    refine ⟨_, .cons first later, ?_⟩
    rw [List.forall_mem_cons]
    exact ⟨⟨act, rfl⟩, gateway⟩

theorem spent_eq_nil
    (gateway : ∀ p ∈ ps, ∃ act, p.act = .gateway act) : spent parseJson ps = [] := by
  rw [spent, List.filterMap_eq_nil_iff]
  intro p hp
  obtain ⟨act, e⟩ := gateway p hp
  rw [e]
  rfl

theorem rotates_of_forall (new : ∀ p ∈ ps, ∀ refreshToken answer,
      p.pre.spends? parseJson p.act = some (refreshToken, answer) →
      answer.refreshToken ∉ spent parseJson ps) : Rotates parseJson ps := by
  rintro before t after rfl refreshToken answer spends mem
  refine new t (by simp) refreshToken answer spends ?_
  rw [List.append_cons, spent_append]
  exact List.mem_append_left _ mem

section

variable {channel fakeToken refreshToken : String} {incoming : IncomingRequest}
  {response : RefreshResponse} {io : SeedIo} {file : Except String String} {answer : RefreshAnswer}
  {result : Except UpstreamError TokenSet} {acts : List GatewayAct}

variable
  (valid : validateWorkerIdentity parseJson (ForwardCall.request ⟨channel, incoming, .validate⟩) =
    .ok fakeToken)

include valid in
/-- Two callers are after a new token. The first one's exchange succeeds, and later the second
one asks as well. -/
theorem exists_secondExchange (answered : answeredTokens parseJson response = .ok answer)
    (rotated : answer.refreshToken ≠ "refresh-1")
    (returns : returned? (productionRefresh parseJson render seed 200000000000 response io file) =
      some result) (apart : ∀ act ∈ acts, ∀ i result, act ≠ .refreshReturns i result)
    (again : (acts.foldl (GatewayWorld.next parseJson)
      ((GatewayWorld.asking channel incoming parseJson).next parseJson
        (.refreshReturns 0 result))).stageOf 1 = some (.callRefresh refreshToken)) :
    ∃ before t mid t' s,
      Run (Step parseJson render seed) ⟨.new GatewayWorld.firstToken ⟨200000000000, 0⟩, file, false⟩
        (before ++ t :: (mid ++ [t'])) s ∧
      Rotates parseJson (before ++ t :: (mid ++ [t'])) ∧
      spent parseJson (before ++ t :: mid) = ["refresh-1"] ∧
      t'.pre.sends? t'.act = some refreshToken ∧
      (∀ p ∈ before ++ t :: (mid ++ [t']), (∃ act, p.act = .gateway act) ∨
        p.act = .exchange 0 response io ∧ p.pre.gateway.clock.now = 200000000000 ∧
          p.pre.seedFile = file) := by
  have asksOnly : ∀ act ∈ GatewayWorld.askActs channel incoming, ∀ i result,
      act ≠ .refreshReturns i result := by
    simp [GatewayWorld.askActs]
  obtain ⟨before, begun, earlier⟩ := lift_run render seed file GatewayWorld.asking_run
    fun t ht => asksOnly t.act (act_mem_of_trace ht)
  obtain ⟨waits, clock⟩ := GatewayWorld.asking_state valid
  generalize GatewayWorld.asking channel incoming parseJson = w at *
  obtain ⟨file', exchange⟩ : ∃ file', Step parseJson render seed ⟨w, file, false⟩
      (.exchange 0 response io) ⟨w.next parseJson (.refreshReturns 0 result), file', false⟩ := by
    refine ⟨(next parseJson render seed ⟨w, file, false⟩ (.exchange 0 response io)).seedFile,
      by simp, ?_⟩
    simp [next, clock, returns]
  obtain ⟨mid, between, later⟩ := lift_run render seed file'
    (Run.of_list (w.next parseJson (.refreshReturns 0 result)) acts)
    fun t ht => apart t.act (act_mem_of_trace ht)
  generalize acts.foldl _ _ = w' at *
  obtain ⟨last, asks⟩ :
      ∃ last, Step parseJson render seed ⟨w', file', false⟩ (.gateway (.step 1)) last :=
    ⟨_, by simp, rfl⟩
  have run := begun.append (.cons exchange (between.append (.cons asks (.nil _))))
  have spends := spends?_eq_some (w := ⟨w, file, false⟩).mpr
    ⟨0, response, io, rfl, rfl, waits, answered⟩
  have kinds : ∀ p ∈ before ++ ⟨⟨w, file, false⟩, .exchange 0 response io,
      ⟨w.next parseJson (.refreshReturns 0 result), file', false⟩⟩ ::
        (mid ++ [⟨⟨w', file', false⟩, .gateway (.step 1), last⟩]), (∃ act, p.act = .gateway act) ∨
        p.act = .exchange 0 response io ∧ p.pre.gateway.clock.now = 200000000000 ∧
          p.pre.seedFile = file := by
    refine List.forall_mem_append.mpr ⟨fun p hp => .inl (earlier p hp),
      List.forall_mem_cons.mpr ⟨.inr ⟨rfl, by rw [clock], rfl⟩,
        List.forall_mem_append.mpr ⟨fun p hp => .inl (later p hp), ?_⟩⟩⟩
    exact List.forall_mem_singleton.mpr (.inl ⟨_, rfl⟩)
  have once : spent parseJson (before ++ ⟨⟨w, file, false⟩, .exchange 0 response io,
      ⟨w.next parseJson (.refreshReturns 0 result), file', false⟩⟩ :: mid) = ["refresh-1"] := by
    rw [List.append_cons, spent_append, spent_concat, spent_eq_nil earlier, spent_eq_nil later,
      spends]
    rfl
  refine ⟨_, _, _, _, _, run, rotates_of_forall fun p hp spentToken answer' spends' => ?_, once,
    sends?_eq_some.mpr ⟨1, rfl, again⟩, kinds⟩
  rcases kinds p hp with ⟨act, e⟩ | ⟨e, -, -⟩
  · rw [e] at spends'
    cases spends'
  · obtain ⟨_, _, _, same, -, -, answered'⟩ := spends?_eq_some.mp spends'
    cases e.symm.trans same
    cases answered.symm.trans answered'
    rw [← List.cons_append, ← List.append_assoc, spent_concat, once]
    simpa [spends?] using rotated

/-- The first caller is refused and drops the lock; the second one takes it and asks. -/
def retryActs : List GatewayAct :=
  [.step 0, .step 0, .step 1, .step 1, .step 1, .step 1]

theorem retryActs_apart : ∀ act ∈ retryActs, ∀ i result, act ≠ .refreshReturns i result := by
  simp [retryActs]

include valid in
theorem stageOf_retry (status : Nat) (body : String) :
    (retryActs.foldl (GatewayWorld.next parseJson)
      ((GatewayWorld.asking channel incoming parseJson).next parseJson
        (.refreshReturns 0 (.error (.http status body))))).stageOf 1 =
          some (.callRefresh "refresh-1") := by
  simp [GatewayWorld.asking, GatewayWorld.askActs, retryActs, GatewayWorld.next,
    GatewayWorld.moved, GatewayWorld.new, ForwardCall.step, valid, TokenStage.step,
    GatewayWorld.stageOf, GatewayWorld.firstToken, TokenSet.isValidForForwarding,
    tokenExpirySafetyWindow, GatewayCore.cachedFailureInsideRefreshLock,
    ForwardCall.refreshReturns, TokenStage.refreshReturns]

/-- The first caller stores the new token; the second one comes back when it has expired. -/
def renewActs : List GatewayAct :=
  [.step 0, .step 0, .step 0, .setClock 4000000000000, .step 1, .step 1, .step 1, .step 1]

theorem renewActs_apart : ∀ act ∈ renewActs, ∀ i result, act ≠ .refreshReturns i result := by
  simp [renewActs]

include valid in
theorem stageOf_renew :
    (renewActs.foldl (GatewayWorld.next parseJson)
      ((GatewayWorld.asking channel incoming parseJson).next parseJson
        (.refreshReturns 0 (.ok ⟨"access-2", "refresh-2", 3800000000000⟩)))).stageOf 1 =
          some (.callRefresh "refresh-2") := by
  simp [GatewayWorld.asking, GatewayWorld.askActs, renewActs, GatewayWorld.next,
    GatewayWorld.moved, GatewayWorld.new, ForwardCall.step, valid, TokenStage.step,
    GatewayWorld.stageOf, GatewayWorld.firstToken, TokenSet.isValidForForwarding,
    tokenExpirySafetyWindow, GatewayCore.cachedFailureInsideRefreshLock,
    ForwardCall.refreshReturns, TokenStage.refreshReturns]

end

end ProductionWorld

/-! ### One server, one seed file -/

def answerText : String :=
  "\x7b\"access_token\":\"access-2\",\"refresh_token\":\"refresh-2\",\"expires_in\":3600\x7d"

def answerJson : Json :=
  .obj [("access_token", .str "access-2"), ("refresh_token", .str "refresh-2"),
    ("expires_in", .num 3600)]

/-- A JSON library that also knows the server's answer and an empty object. -/
def exchangeJson (bytes : List UInt8) : Except String Json :=
  if bytes = Utf8.encode answerText.toList then .ok answerJson
  else if bytes = Utf8.encode "\x7b\x7d".toList then .ok (.obj [])
  else workerJson "a1" bytes

theorem reads_exchangeJson : ReadsWorkerJwt exchangeJson "a1" := by
  have header : exchangeJson (Utf8.encode jwtHeader) = workerJson "a1" (Utf8.encode jwtHeader) := by
    rw [exchangeJson, if_neg (by decide +kernel), if_neg (by decide +kernel)]
  have payload : exchangeJson (Utf8.encode (jwtPayload "a1")) =
      workerJson "a1" (Utf8.encode (jwtPayload "a1")) := by
    rw [exchangeJson, if_neg (by decide +kernel), if_neg (by decide +kernel)]
  obtain ⟨h, p⟩ := reads_workerJson "a1"
  rw [← header] at h
  rw [← payload] at p
  exact ⟨h, p⟩

theorem validate_exchange :
    validateWorkerIdentity exchangeJson
        (ForwardCall.request ⟨"a1", ownRequest "a1", .validate⟩) = .ok (fakeWorkerJwt "a1") :=
  validateWorkerIdentity_own "authorization"
    (List.find?_cons_of_pos (isAuthorization_authorization _)) reads_exchangeJson (by decide)

theorem parseText_answer : parseText exchangeJson answerText = .ok answerJson := by
  rw [parseText, exchangeJson, if_pos rfl]

theorem answered_exchange :
    answeredTokens exchangeJson (.success (.ok answerText)) =
      .ok ⟨answerJson, "access-2", "refresh-2"⟩ := by
  simp only [answeredTokens, parseText_answer, Except.mapError, ok_bind]
  rfl

def seedPath : SeedPath := ⟨"/root/.claude/.credentials.json", some "/root/.claude"⟩

/-- A file system on which the write-back works. -/
def seedIo : SeedIo where
  canonical := some "/root/.claude/.credentials.json"
  linkTarget := none
  pid := 1
  writeTemp := .ok ()
  setMode := .ok ()
  rename := .ok ()

def renderSeed (_ : Json) : Except String String := .ok answerText

theorem seedPath_guarded : (validateCredentialPathNotWslWindowsMount
    (seedIo.canonical.getD seedPath.path)).toBool ≠ false := by
  decide +kernel

theorem writes_exchange (token : TokenSet) :
    writeSeedCredentialsGuarded exchangeJson renderSeed seedPath seedIo (.ok "\x7b\x7d") token =
      .ok (some answerText) := by
  have parsed : parseText exchangeJson "\x7b\x7d" = .ok (.obj []) := by
    rw [parseText, exchangeJson, if_neg (by decide +kernel), if_pos rfl]
  obtain ⟨value, stored⟩ : ∃ value, storeTokens (.obj []) token = some value := ⟨_, rfl⟩
  rw [writeSeedCredentialsGuarded, if_neg (by simp [seedIo]), if_neg seedPath_guarded]
  simp [about, parsed, stored, Except.mapError, ok_bind, seedPath, seedIo, renderSeed]

theorem returned_exchange :
    returned? (productionRefresh exchangeJson renderSeed seedPath 200000000000
        (.success (.ok answerText)) seedIo (.ok "\x7b\x7d")) =
      some (.ok ⟨"access-2", "refresh-2", 3800000000000⟩) := by
  rw [ProductionWorld.productionRefresh_ok.mpr
    ⟨_, answered_exchange, 3600, rfl, rfl, writes_exchange _⟩]
  rfl

theorem refused_exchange :
    returned? (productionRefresh exchangeJson renderSeed seedPath 200000000000
        (.success (.ok answerText)) seedIo (.error "No such file or directory (os error 2)")) =
      some (.error (badGateway ("write refreshed credentials failed: " ++
        ("read existing Claude seed credentials before writeback: " ++
          "No such file or directory (os error 2)")))) := by
  have unread (token : TokenSet) : writeSeedCredentialsGuarded exchangeJson renderSeed seedPath
      seedIo (.error "No such file or directory (os error 2)") token =
        .error (.error ("read existing Claude seed credentials before writeback: " ++
          "No such file or directory (os error 2)")) := by
    rw [writeSeedCredentialsGuarded, if_neg (by simp [seedIo]), if_neg seedPath_guarded]
    rfl
  have lives : RefreshAnswer.expiresIn ⟨answerJson, "access-2", "refresh-2"⟩ = .ok 3600 := rfl
  simp only [productionRefresh, answered_exchange, Except.mapError, ok_bind, lives, unread]
  rfl

namespace ProductionWorld

theorem refreshToken_neverReused_renewed :
    ∃ before t mid t' s, Run (Step exchangeJson renderSeed seedPath)
        ⟨.new GatewayWorld.firstToken ⟨200000000000, 0⟩, .ok "\x7b\x7d", false⟩
        (before ++ t :: (mid ++ [t'])) s ∧
      spent exchangeJson (before ++ t :: mid) = ["refresh-1"] ∧
      t'.pre.sends? t'.act = some "refresh-2" ∧
      NeverReused exchangeJson (before ++ t :: (mid ++ [t'])) := by
  obtain ⟨before, t, mid, t', s, run, rotates, once, sends, kinds⟩ :=
    exists_secondExchange validate_exchange answered_exchange (by decide) returned_exchange
      renewActs_apart (stageOf_renew validate_exchange)
  refine ⟨before, t, mid, t', s, run, once, sends, refreshToken_neverReused run rotates ?_⟩
  intro p hp
  rcases kinds p hp with gateway | ⟨e, now, file⟩
  · obtain ⟨act, e⟩ := gateway
    intro i response io answer exchange
    rw [e] at exchange
    cases exchange
  · intro i response io answer exchange answered
    cases e.symm.trans exchange
    cases answered_exchange.symm.trans answered
    exact ⟨3600, _, rfl, by rw [now]; rfl, by rw [file, writes_exchange]; rfl⟩

/-- The exchange succeeds and the seed file cannot be read; the second caller sends the spent
token. -/
theorem not_neverReused_unwritten :
    ∃ ts s, Run (Step exchangeJson renderSeed seedPath)
        ⟨.new GatewayWorld.firstToken ⟨200000000000, 0⟩,
          .error "No such file or directory (os error 2)", false⟩ ts s ∧
      Rotates exchangeJson ts ∧ ¬ NeverReused exchangeJson ts := by
  obtain ⟨before, t, mid, t', s, run, rotates, once, sends, -⟩ :=
    exists_secondExchange validate_exchange answered_exchange (by decide) refused_exchange
      retryActs_apart (stageOf_retry validate_exchange _ _)
  refine ⟨_, s, run, rotates, fun never => ?_⟩
  refine never (before ++ t :: mid) t' [] (by simp) "refresh-1" sends ?_
  rw [once]
  exact List.mem_singleton_self _

end ProductionWorld

end Ccbd.Gateway
