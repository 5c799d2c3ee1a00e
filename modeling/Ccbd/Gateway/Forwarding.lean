import Ccbd.Gateway.Interleaving

/-!
# Who reaches the upstream, and with which credential

A call reaches the upstream only past the check of its token, and it forwards the request with
one authorization header, the real one. The access token in it was the shared one at a moment
of the call: the call read it, when it was good for longer than the safety window, or stored it
after its own refresh. It need not be the shared one any more when the request is forwarded,
for no lock is held across that call.
-/

namespace Ccbd.Gateway

open Lib

variable {parseJson : List UInt8 → Except String Json}

/-! ## The check of a request -/

theorem validateWorkerIdentity_eq_ok :
    validateWorkerIdentity parseJson request = .ok fakeToken ↔
      bearerToken request = some fakeToken ∧
        IsFakeWorkerJwt parseJson fakeToken request.workerId := by
  simp only [validateWorkerIdentity, bind_eq_ok, elim_eq_ok, mapError_eq_ok, check_eq_ok,
    fakeJwtWorkerId_eq_ok, not_not, Except.ok.injEq]
  constructor
  · rintro ⟨token, bearer, jwtWorkerId, accepted, rfl, rfl⟩
    exact ⟨bearer, accepted⟩
  · rintro ⟨bearer, accepted⟩
    exact ⟨fakeToken, bearer, _, accepted, rfl, rfl⟩

theorem stripBearer_bearer (token : String) : stripBearer ("Bearer " ++ token) = some token := by
  have seven : "Bearer ".toList.length = 7 := by decide +kernel
  rw [stripBearer, String.toList_append, if_pos, List.drop_left' seven, String.ofList_toList]
  exact List.isPrefixOf_iff_prefix.mpr (List.prefix_append _ _)

theorem isAuthorization_authorization (value : String) :
    isAuthorization ("authorization", value) = true := decide_eq_true rfl

theorem validateWorkerIdentity_own (name : String) (first : request.headers.find? isAuthorization =
      some (name, "Bearer " ++ fakeWorkerJwt request.workerId))
    (reads : ReadsWorkerJwt parseJson request.workerId) (named : request.workerId ≠ "") :
    validateWorkerIdentity parseJson request = .ok (fakeWorkerJwt request.workerId) := by
  refine validateWorkerIdentity_eq_ok.mpr ⟨?_, isFakeWorkerJwt_fakeWorkerJwt reads named⟩
  rw [bearerToken, first, Option.bind_some, stripBearer_bearer]

/-- The forwarded request is the incoming one with the real credential in place of the
worker's. -/
structure Forwards (incoming : IncomingRequest) (accessToken : String)
    (forwarded : GatewayRequest) : Prop where
  method : forwarded.method = incoming.method
  path : forwarded.path = incoming.path
  body : forwarded.body = incoming.body
  credential : forwarded.headers.filter isAuthorization =
    [("authorization", "Bearer " ++ accessToken)]
  others : (forwarded.headers.filter (!isAuthorization ·)).Sublist incoming.headers

theorem forwards_rewriteAuthorization (call : ForwardCall) (accessToken fakeToken : String) :
    Forwards call.incoming accessToken
      (rewriteAuthorization call.request accessToken fakeToken) := by
  have real := isAuthorization_authorization ("Bearer " ++ accessToken)
  refine ⟨rfl, rfl, rfl, ?_, ?_⟩
  · rw [rewriteAuthorization, List.filter_append, List.filter_filter]
    have none : (call.request.headers.filter fun header => isAuthorization header &&
        (!isAuthorization header && !contains header.2 fakeToken)) = [] := by
      rw [List.filter_eq_nil_iff]
      grind
    rw [none]
    simp [real]
  · rw [rewriteAuthorization, List.filter_append, List.filter_filter]
    simp only [List.filter_cons, real, Bool.not_true, Bool.false_eq_true, if_false,
      List.filter_nil, List.append_nil]
    exact List.filter_sublist

/-! ## Where a call has its access token from -/

namespace TokenStage

/-- The call has come out of the checks with this access token. -/
def Carries (accessToken : String) : TokenStage → Prop
  | clearFailure a => a = accessToken
  | unlock (.ok a) => a = accessToken
  | returned (.ok a) => a = accessToken
  | _ => False

theorem Moves.carries
    (h : Moves clock i core act stage core' stage') (carries : stage'.Carries accessToken) :
    stage.Carries accessToken ∨ act = .step i ∧
      (core.token.accessToken = accessToken ∧ core.token.isValidForForwarding clock.now = true ∨
        core'.token.accessToken = accessToken ∧ stage = storeToken core'.token) := by
  cases h with
  | refreshReturns refreshToken result =>
    cases result with
    | ok refreshed => exact carries.elim
    | error err => cases err <;> exact carries.elim
  | step busy =>
    cases stage with
    | readToken | recheckToken =>
      simp only [TokenStage.step] at carries
      split at carries
      case isTrue valid => exact .inr ⟨rfl, .inl ⟨carries, valid⟩⟩
      case isFalse => exact carries.elim
    | lockRefresh | checkFailure =>
      simp only [TokenStage.step] at carries
      split at carries <;> exact carries.elim
    | storeToken refreshed => exact .inr ⟨rfl, .inr ⟨carries, rfl⟩⟩
    | clearFailure a => exact .inl carries
    | unlock result => exact .inl (by cases result <;> exact carries)
    | returned result => exact absurd rfl (busy result)
    | _ => exact carries.elim

end TokenStage

namespace GatewayWorld

/-- At the transition call `i` gets hold of the access token while it is the shared one: it
reads it while it is valid, or it stores it. -/
def Obtains (i : Nat) (accessToken : String) (t : Transition GatewayWorld GatewayAct) : Prop :=
  t.act = .step i ∧
    (t.pre.core.token.accessToken = accessToken ∧
        t.pre.core.token.isValidForForwarding t.pre.clock.now = true ∨
      t.post.core.token.accessToken = accessToken ∧
        ∃ call fakeToken, t.pre.calls[i]? = some call ∧
          call.stage = .gettingToken fakeToken (.storeToken t.post.core.token))

/-- A call in `valid_access_token` is past the check, and what it carries it has obtained. -/
def Entitled (parseJson : List UInt8 → Except String Json)
    (past : List (Transition GatewayWorld GatewayAct)) (w : GatewayWorld) : Prop :=
  ∀ i call fakeToken stage, w.calls[i]? = some call →
    call.stage = .gettingToken fakeToken stage →
      validateWorkerIdentity parseJson call.request = .ok fakeToken ∧
      ∀ accessToken, stage.Carries accessToken → ∃ t ∈ past, Obtains i accessToken t

theorem Entitled.later (h : Entitled parseJson past w) (held : w.calls[i]? = some call)
    (inside : call.stage = .gettingToken fakeToken stage) (t : Transition GatewayWorld GatewayAct) :
    validateWorkerIdentity parseJson call.request = .ok fakeToken ∧
      ∀ accessToken, stage.Carries accessToken → ∃ t' ∈ past ++ [t], Obtains i accessToken t' := by
  obtain ⟨valid, carries⟩ := h i call fakeToken stage held inside
  refine ⟨valid, fun accessToken carried => ?_⟩
  obtain ⟨t', ht', obtains⟩ := carries accessToken carried
  exact ⟨t', List.mem_append_left _ ht', obtains⟩

theorem Entitled.step (h : Entitled parseJson past w) (step : Step parseJson w act w') :
    Entitled parseJson (past ++ [⟨w, act, w'⟩]) w' := by
  intro j call' fakeToken' stage₁ held' inside'
  cases step.effect with
  | quiet _ calls _ _ => exact h.later (by rw [← calls, held']) inside' _
  | arrives call fresh _ calls _ _ =>
    rcases getElem?_arrived calls held' with held | rfl
    · exact h.later held inside' _
    · simp [fresh] at inside'
  | moves i call core' stage' _ held core calls _ move =>
    rcases getElem?_moved calls held' with ⟨-, held⟩ | ⟨rfl, rfl⟩
    · exact h.later held inside' _
    cases move with
    | leaves free out => exact absurd inside' (out _ _)
    | accepted entered valid =>
      cases inside'
      exact ⟨valid, fun accessToken carried => carried.elim⟩
    | inside inside moves =>
      cases inside'
      obtain ⟨valid, before⟩ := h.later held inside ⟨w, act, w'⟩
      refine ⟨valid, fun accessToken carried => ?_⟩
      rcases moves.carries carried with carried | ⟨rfl, read | ⟨stored, rfl⟩⟩
      · exact before accessToken carried
      · exact ⟨_, List.mem_append_right _ (List.mem_singleton_self _), rfl, .inl read⟩
      · refine ⟨_, List.mem_append_right _ (List.mem_singleton_self _), rfl, .inr ?_⟩
        simp only [core]
        exact ⟨stored, call, _, held, inside⟩

/-- Only the owner of a channel reaches the upstream, and only with a real credential. In
every run of the gateway, with any requests on any channels and any interleaving of calls and
refreshes, a call to the upstream is made by a call whose bearer token is a token of the
worker of its channel; and what it forwards is its own request with a single authorization
header, for an access token that was the shared one at a moment of the call. -/
theorem upstreamCall_owned {seed : TokenSet} {clock : Clock} {s : GatewayWorld}
    {before after : List (Transition GatewayWorld GatewayAct)}
    {t : Transition GatewayWorld GatewayAct} {c : UpstreamCall}
    (run : Run (Step parseJson) (new seed clock) (before ++ t :: after) s)
    (calls : t.pre.upstreamCall? t.act = some c) :
    ∃ i call fakeToken, t.act = .step i ∧ t.pre.calls[i]? = some call ∧
      bearerToken call.request = some fakeToken ∧
      IsFakeWorkerJwt parseJson fakeToken call.channel ∧
      ∀ forwarded, c = .messages forwarded →
        ∃ accessToken, Forwards call.incoming accessToken forwarded ∧
          ∃ m ∈ before, Obtains i accessToken m := by
  obtain ⟨toHere, -, -⟩ := run.split
  have entitled : Entitled parseJson before t.pre :=
    toHere.invariant_past (C := fun _ _ => True) (fun _ _ _ _ h _ step => h.step step)
      (by intro i call fakeToken stage held; simp [new] at held) (fun _ _ => trivial)
  cases c with
  | refresh refreshToken =>
    obtain ⟨i, act, call, fakeToken, held, inside⟩ := upstreamCall?_eq_refresh.mp calls
    obtain ⟨valid, -⟩ := entitled i call fakeToken _ held inside
    obtain ⟨bearer, owned⟩ := validateWorkerIdentity_eq_ok.mp valid
    exact ⟨i, call, fakeToken, act, held, bearer, owned, by simp⟩
  | messages forwarded =>
    obtain ⟨i, act, call, fakeToken, accessToken, held, inside, rfl⟩ :=
      upstreamCall?_eq_messages.mp calls
    obtain ⟨valid, carries⟩ := entitled i call fakeToken _ held inside
    obtain ⟨bearer, owned⟩ := validateWorkerIdentity_eq_ok.mp valid
    refine ⟨i, call, fakeToken, act, held, bearer, owned, ?_⟩
    rintro _ ⟨⟩
    exact ⟨accessToken, forwards_rewriteAuthorization call accessToken fakeToken,
      carries accessToken rfl⟩

/-! ### A call overtaken by a refresh -/

section

variable (channel : String) (incoming : IncomingRequest)

def firstToken : TokenSet := ⟨"access-1", "refresh-1", 400000000000⟩

def secondToken : TokenSet := ⟨"access-2", "refresh-2", 4000000000000⟩

/-- Two requests on a channel. The first call reads the token while it has 400 seconds left;
200 seconds later the second call finds it expired and stores a new one. -/
def overtakenActs : List GatewayAct :=
  [.register channel, .accept channel, .accept channel, .receive 0 incoming, .receive 0 incoming,
    .step 0, .step 0, .setClock 200000000000, .step 1, .step 1, .step 1, .step 1, .step 1, .step 1,
    .step 1, .refreshReturns 1 (.ok secondToken), .step 1]

def overtaken (parseJson : List UInt8 → Except String Json) : GatewayWorld :=
  (overtakenActs channel incoming).foldl (next parseJson) (new firstToken ⟨0, 0⟩)

variable {channel incoming}

theorem overtaken_state
    (valid : validateWorkerIdentity parseJson (ForwardCall.request ⟨channel, incoming, .validate⟩) =
      .ok fakeToken) :
    (overtaken channel incoming parseJson).core.token = secondToken ∧
      (overtaken channel incoming parseJson).calls[0]? = some ⟨channel, incoming,
        .gettingToken fakeToken (.returned (.ok "access-1"))⟩ := by
  simp [overtaken, overtakenActs, next, moved, new, ForwardCall.step, valid, TokenStage.step,
    firstToken, TokenSet.isValidForForwarding, tokenExpirySafetyWindow,
    GatewayCore.cachedFailureInsideRefreshLock, ForwardCall.refreshReturns,
    TokenStage.refreshReturns]

end

end GatewayWorld

/-- A JSON library that knows the two texts of one worker's token. -/
def workerJson (workerId : String) (bytes : List UInt8) : Except String Json :=
  if bytes = Utf8.encode jwtHeader then .ok (.obj [("alg", .str "none"), ("typ", .str "JWT")])
  else if bytes = Utf8.encode (jwtPayload workerId) then
    .ok (.obj [("exp", .num 32503680000), ("sub", .str "ah-worker-session"),
      ("worker_id", .str workerId)])
  else .error "expected value"

theorem reads_workerJson (workerId : String) : ReadsWorkerJwt (workerJson workerId) workerId := by
  have other : Utf8.encode (jwtPayload workerId) ≠ Utf8.encode jwtHeader := by
    intro same
    have third : (jwtPayload workerId)[2]? = jwtHeader[2]? := by
      rw [Utf8.encode_injective same]
    rw [jwtPayload, List.getElem?_append_left (by decide +kernel)] at third
    exact absurd third (by decide +kernel)
  exact ⟨⟨_, if_pos rfl, rfl, rfl⟩, ⟨_, (if_neg other).trans (if_pos rfl), rfl, rfl, rfl⟩⟩

/-- A request with the worker's own token. -/
def ownRequest (workerId : String) : IncomingRequest where
  method := "POST"
  path := "/v1/messages"
  headers := [("authorization", "Bearer " ++ fakeWorkerJwt workerId)]
  body := []

theorem validate_ownRequest (workerId : String) (named : workerId ≠ "") :
    validateWorkerIdentity (workerJson workerId)
        (ForwardCall.request ⟨workerId, ownRequest workerId, .validate⟩) =
      .ok (fakeWorkerJwt workerId) :=
  validateWorkerIdentity_own "authorization"
    (List.find?_cons_of_pos (isAuthorization_authorization _)) (reads_workerJson _) named

namespace GatewayWorld

/-- The request is forwarded with the access token that is the shared one at that moment. -/
def SendsCurrentToken (t : Transition GatewayWorld GatewayAct) : Prop :=
  ∀ forwarded, t.pre.upstreamCall? t.act = some (.messages forwarded) →
    forwarded.headers.filter isAuthorization =
      [("authorization", "Bearer " ++ t.pre.core.token.accessToken)]

/-- The run of `overtakenActs`, then the first call forwards its request. -/
theorem overtaken_run :
    Run (Step (workerJson "a1")) (new firstToken ⟨0, 0⟩)
      (trace (next (workerJson "a1")) (new firstToken ⟨0, 0⟩)
          (overtakenActs "a1" (ownRequest "a1")) ++
        [⟨overtaken "a1" (ownRequest "a1") (workerJson "a1"), .step 0,
          (overtaken "a1" (ownRequest "a1") (workerJson "a1")).next (workerJson "a1") (.step 0)⟩])
      ((overtaken "a1" (ownRequest "a1") (workerJson "a1")).next (workerJson "a1") (.step 0)) :=
  (Run.of_list _ _).append (.cons rfl (.nil _))

theorem overtaken_forwards :
    (overtaken "a1" (ownRequest "a1") (workerJson "a1")).upstreamCall? (.step 0) =
      some (.messages (rewriteAuthorization
        (ForwardCall.request ⟨"a1", ownRequest "a1",
          .gettingToken (fakeWorkerJwt "a1") (.returned (.ok "access-1"))⟩)
        "access-1" (fakeWorkerJwt "a1"))) := by
  have held := (overtaken_state (validate_ownRequest "a1" (by decide))).2
  rw [upstreamCall?, held]
  rfl

theorem upstreamCall_owned_overtaken :
    ∃ s before t forwarded,
      Run (Step (workerJson "a1")) (new firstToken ⟨0, 0⟩) (before ++ [t]) s ∧
      t.pre.upstreamCall? t.act = some (.messages forwarded) ∧
      ∃ i call fakeToken, t.act = .step i ∧ t.pre.calls[i]? = some call ∧
        bearerToken call.request = some fakeToken ∧
        IsFakeWorkerJwt (workerJson "a1") fakeToken call.channel ∧
        ∃ accessToken, Forwards call.incoming accessToken forwarded ∧
          ∃ m ∈ before, Obtains i accessToken m := by
  obtain ⟨i, call, fakeToken, act, held, bearer, owned, forwards⟩ :=
    upstreamCall_owned overtaken_run overtaken_forwards
  exact ⟨_, _, _, _, overtaken_run, overtaken_forwards, i, call, fakeToken, act, held, bearer,
    owned, forwards _ rfl⟩

/-- When the first call forwards its request, the second has stored a new token. -/
theorem not_sendsCurrentToken_overtaken :
    ∃ ts s, Run (Step (workerJson "a1")) (new firstToken ⟨0, 0⟩) ts s ∧
      ∃ t ∈ ts, ¬ SendsCurrentToken t := by
  refine ⟨_, _, overtaken_run, _, List.mem_append_right _ (List.mem_singleton_self _), ?_⟩
  intro current
  have sent := (forwards_rewriteAuthorization ⟨"a1", ownRequest "a1",
    .gettingToken (fakeWorkerJwt "a1") (.returned (.ok "access-1"))⟩ "access-1"
    (fakeWorkerJwt "a1")).credential
  have token := (overtaken_state (validate_ownRequest "a1" (by decide))).1
  have now := sent.symm.trans (current _ overtaken_forwards)
  simp only [token] at now
  exact absurd now (by decide)

end GatewayWorld

end Ccbd.Gateway
