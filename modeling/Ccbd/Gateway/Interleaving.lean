import Ccbd.Gateway.Core
import Ccbd.Lib.Mutex

/-!
# How the calls interleave

What one step of the gateway can do, and the discipline of the refresh lock: a call is between
taking and dropping the lock exactly when the lock names it.
-/

namespace Ccbd.Gateway

open Lib

/-- The call whose move an action is. -/
def GatewayAct.caller? : GatewayAct → Option Nat
  | .step i | .refreshReturns i _ | .messagesReturns i _ => some i
  | _ => none

variable {core' : GatewayCore} {forwarded : GatewayRequest} {j : Nat}
    {refreshToken : String} {stage stage' : TokenStage}

namespace TokenStage

/-- A move of call `i` inside `valid_access_token`, by its own step or by the upstream. -/
inductive Moves (clock : Clock) (i : Nat) (core : GatewayCore) :
    GatewayAct → TokenStage → GatewayCore → TokenStage → Prop
  | step {stage : TokenStage} (busy : ∀ result, stage ≠ returned result) :
    Moves clock i core (.step i) stage (stage.step clock i core).1 (stage.step clock i core).2
  | refreshReturns (refreshToken : String) (result : Except UpstreamError TokenSet) :
    Moves clock i core (.refreshReturns i result) (refreshing refreshToken) core
      ((refreshing refreshToken).refreshReturns result)

theorem Moves.of_returns (h : Moves clock i core (.refreshReturns j result) stage core' stage') :
    j = i ∧ core' = core ∧
      ∃ refreshToken, stage = refreshing refreshToken ∧ stage' = stage.refreshReturns result := by
  cases h
  exact ⟨rfl, rfl, _, rfl, rfl⟩

/-- A move keeps the lock and the caller's side of it, takes the free lock or drops it. -/
theorem Moves.lock (h : Moves clock i core act stage core' stage') :
    core'.refreshLock = core.refreshLock ∧ stage'.holdsLock = stage.holdsLock ∨
      core.refreshLock = none ∧ core'.refreshLock = some i ∧ stage'.holdsLock = true ∨
      stage.holdsLock = true ∧ core'.refreshLock = none ∧ stage'.holdsLock = false := by
  cases h with
  | refreshReturns refreshToken result =>
    refine .inl ⟨rfl, ?_⟩
    cases result with
    | ok refreshed => rfl
    | error err => cases err <;> rfl
  | step busy =>
    cases stage with
    | readToken | recheckToken | checkFailure =>
      simp only [TokenStage.step]
      split <;> simp [holdsLock]
    | lockRefresh =>
      simp only [TokenStage.step]
      split
      case isTrue free => exact .inr (.inl ⟨free, rfl, rfl⟩)
      case isFalse => exact .inl ⟨rfl, rfl⟩
    | unlock result => exact .inr (.inr ⟨rfl, rfl, rfl⟩)
    | _ => exact .inl ⟨rfl, rfl⟩

end TokenStage

namespace ForwardCall

/-- The stages of `valid_access_token` a call may be in, if it is there. -/
def At (call : ForwardCall) (S : TokenStage → Prop) : Prop :=
  ∀ fakeToken stage, call.stage = .gettingToken fakeToken stage → S stage

def holdsLock (call : ForwardCall) : Bool :=
  match call.stage with
  | .gettingToken _ stage => stage.holdsLock
  | _ => false

/-- What a move of call `i` does to the shared state and to its stage. -/
inductive Moves (parseJson : List UInt8 → Except String Json) (clock : Clock) (i : Nat)
    (core : GatewayCore) (call : ForwardCall) : GatewayAct → GatewayCore → CallStage → Prop
  | accepted {fakeToken : String} (entered : call.stage = .validate)
      (valid : validateWorkerIdentity parseJson call.request = .ok fakeToken) :
    Moves parseJson clock i core call (.step i) core (.gettingToken fakeToken .readToken)
  | inside {act : GatewayAct} {fakeToken : String} {stage stage' : TokenStage}
      {core' : GatewayCore} (inside : call.stage = .gettingToken fakeToken stage)
      (moves : stage.Moves clock i core act core' stage') :
    Moves parseJson clock i core call act core' (.gettingToken fakeToken stage')
  | leaves {act : GatewayAct} {stage' : CallStage} (free : call.holdsLock = false)
      (out : ∀ fakeToken stage, stage' ≠ .gettingToken fakeToken stage) :
    Moves parseJson clock i core call act core stage'

variable {i : Nat} {call : ForwardCall}

theorem Moves.lock {stage' : CallStage} (h : Moves parseJson clock i core call act core' stage') :
    core'.refreshLock = core.refreshLock ∧
        holdsLock { call with stage := stage' } = call.holdsLock ∨
      core.refreshLock = none ∧ core'.refreshLock = some i ∧
        holdsLock { call with stage := stage' } = true ∨
      call.holdsLock = true ∧ core'.refreshLock = none ∧
        holdsLock { call with stage := stage' } = false := by
  cases h with
  | accepted entered valid => simp [holdsLock, entered, TokenStage.holdsLock]
  | inside inside moves => simpa only [holdsLock, inside] using moves.lock
  | leaves free out =>
    refine .inl ⟨rfl, ?_⟩
    rw [free]
    cases stage' with
    | gettingToken fakeToken stage => exact absurd rfl (out fakeToken stage)
    | _ => rfl

theorem moves_step (call : ForwardCall) :
    call.step parseJson clock i core = (core, call) ∧ call.holdsLock = false ∨
    ∃ stage', (call.step parseJson clock i core).2 = { call with stage := stage' } ∧
      Moves parseJson clock i core call (.step i) (call.step parseJson clock i core).1 stage' := by
  obtain ⟨channel, incoming, stage⟩ := call
  cases stage with
  | validate =>
    right
    simp only [step]
    split
    case h_1 fakeToken valid => exact ⟨_, rfl, .accepted rfl valid⟩
    case h_2 => exact ⟨_, rfl, .leaves rfl (by simp)⟩
  | gettingToken fakeToken stage =>
    right
    cases stage with
    | returned result =>
      cases result with
      | ok accessToken | error err => exact ⟨_, rfl, .leaves rfl (by simp)⟩
    | _ => exact ⟨_, rfl, .inside rfl (.step (by simp))⟩
  | forwarding request | finished result => exact .inl ⟨rfl, rfl⟩

theorem moves_refreshReturns (call : ForwardCall) (result : Except UpstreamError TokenSet) :
    call.refreshReturns result = call ∧ call.At (∀ refreshToken, · ≠ .refreshing refreshToken) ∨
    ∃ stage', call.refreshReturns result = { call with stage := stage' } ∧
      Moves parseJson clock i core call (.refreshReturns i result) core stage' := by
  obtain ⟨channel, incoming, stage⟩ := call
  cases stage with
  | gettingToken fakeToken stage =>
    cases stage with
    | refreshing refreshToken =>
      exact .inr ⟨_, rfl, .inside rfl (.refreshReturns refreshToken result)⟩
    | _ =>
      refine .inl ⟨rfl, ?_⟩
      rintro _ _ ⟨⟩
      simp
  | _ =>
    refine .inl ⟨rfl, ?_⟩
    rintro _ _ ⟨⟩

theorem moves_messagesReturns (call : ForwardCall) (result : Except UpstreamError GatewayResponse) :
    call.messagesReturns result = call ∨
    ∃ stage', call.messagesReturns result = { call with stage := stage' } ∧
      Moves parseJson clock i core call (.messagesReturns i result) core stage' := by
  obtain ⟨channel, incoming, stage⟩ := call
  cases stage with
  | forwarding request => exact .inr ⟨_, rfl, .leaves rfl (by simp)⟩
  | _ => exact .inl rfl

theorem upstreamCall?_refresh :
    call.upstreamCall? = some (.refresh refreshToken) ↔
      ∃ fakeToken, call.stage = .gettingToken fakeToken (.callRefresh refreshToken) := by
  unfold upstreamCall?
  split
  case h_1 inside => simp [inside]
  case h_2 inside => simp [inside]
  case h_3 other _ =>
    simp only [reduceCtorEq, false_iff, not_exists]
    intro fakeToken inside
    exact other _ _ inside

theorem upstreamCall?_messages :
    call.upstreamCall? = some (.messages forwarded) ↔
      ∃ fakeToken accessToken,
        call.stage = .gettingToken fakeToken (.returned (.ok accessToken)) ∧
        forwarded = rewriteAuthorization call.request accessToken fakeToken := by
  unfold upstreamCall?
  split
  case h_1 inside => simp [inside]
  case h_2 inside => simp [inside, eq_comm]
  case h_3 _ other =>
    simp only [reduceCtorEq, false_iff, not_exists]
    rintro fakeToken accessToken ⟨inside, -⟩
    exact other _ _ inside

end ForwardCall

namespace GatewayWorld

variable {parseJson : List UInt8 → Except String Json} {w w' : GatewayWorld} {act : GatewayAct}

/-- Nothing happens to a call that an action names: it is done with its token, or the action
is a return it does not wait for. -/
def Idle (w : GatewayWorld) (act : GatewayAct) : Prop :=
  ∀ i call, act.caller? = some i → w.calls[i]? = some call →
    (act = .step i → call.holdsLock = false) ∧
    ∀ result, act = .refreshReturns i result → call.At (∀ refreshToken, · ≠ .refreshing refreshToken)

/-- A step changes nothing the calls see but the clocks, brings a new call, or moves one. -/
inductive Effect (parseJson : List UInt8 → Except String Json) (w : GatewayWorld)
    (act : GatewayAct) (w' : GatewayWorld) : Prop
  | quiet (core : w'.core = w.core) (calls : w'.calls = w.calls)
      (later : w.clock.instant ≤ w'.clock.instant) (idle : w.Idle act)
  | arrives (call : ForwardCall) (fresh : call.stage = .validate) (core : w'.core = w.core)
      (calls : w'.calls = w.calls ++ [call]) (clock : w'.clock = w.clock)
      (idle : act.caller? = none)
  | moves (i : Nat) (call : ForwardCall) (core' : GatewayCore) (stage' : CallStage)
      (own : act.caller? = some i) (held : w.calls[i]? = some call) (core : w'.core = core')
      (calls : w'.calls = w.calls.set i { call with stage := stage' }) (clock : w'.clock = w.clock)
      (move : call.Moves parseJson w.clock i w.core act core' stage')

theorem idle_of_noCaller (none : act.caller? = none) : w.Idle act := by
  intro i call own
  rw [none] at own
  cases own

theorem effect_moved (own : act.caller? = some i) (h : ∀ call, w.calls[i]? = some call →
      move call = (w.core, call) ∧ (act = .step i → call.holdsLock = false) ∧
        (∀ result, act = .refreshReturns i result →
          call.At (∀ refreshToken, · ≠ .refreshing refreshToken)) ∨
      ∃ stage', (move call).2 = { call with stage := stage' } ∧
        call.Moves parseJson w.clock i w.core act (move call).1 stage') :
    Effect parseJson w act (w.moved i move) := by
  unfold moved
  split
  case h_1 none =>
    refine .quiet rfl rfl (Nat.le_refl _) fun j call named held => ?_
    cases own.symm.trans named
    cases none.symm.trans held
  case h_2 call held =>
    rcases h call held with ⟨still, idle⟩ | ⟨stage', moved, moves⟩
    · refine .quiet ?_ ?_ (Nat.le_refl _) fun j call' named held' => ?_
      · simp [still]
      · simp only [still]
        obtain ⟨bound, rfl⟩ := List.getElem?_eq_some_iff.mp held
        exact List.set_getElem_self bound
      · cases own.symm.trans named
        cases held.symm.trans held'
        exact idle
    · exact .moves i call _ stage' own held rfl (by rw [← moved]) rfl moves

theorem Step.effect (h : Step parseJson w act w') : Effect parseJson w act w' := by
  subst h
  cases act with
  | receive connection incoming =>
    simp only [next]
    split
    case h_1 => exact .quiet rfl rfl (Nat.le_refl _) (idle_of_noCaller rfl)
    case h_2 channel _ => exact .arrives _ rfl rfl rfl rfl rfl
  | accept channel =>
    simp only [next]
    split <;> exact .quiet rfl rfl (Nat.le_refl _) (idle_of_noCaller rfl)
  | step i =>
    refine effect_moved rfl fun call _ => ?_
    rcases call.moves_step with ⟨still, free⟩ | moves
    · exact .inl ⟨still, fun _ => free, by simp⟩
    · exact .inr moves
  | refreshReturns i result =>
    refine effect_moved rfl fun call _ => ?_
    rcases call.moves_refreshReturns result with ⟨still, other⟩ | moves
    · exact .inl ⟨by rw [still], by simp, fun _ _ => other⟩
    · exact .inr moves
  | messagesReturns i result =>
    refine effect_moved rfl fun call _ => ?_
    rcases call.moves_messagesReturns result with still | moves
    · exact .inl ⟨by rw [still], by simp, by simp⟩
    · exact .inr moves
  | elapse nanoseconds =>
    exact .quiet rfl rfl (Nat.le_add_right _ _) (idle_of_noCaller rfl)
  | _ => exact .quiet rfl rfl (Nat.le_refl _) (idle_of_noCaller rfl)

theorem getElem?_arrived (calls : w'.calls = w.calls ++ [call])
    (held : w'.calls[j]? = some call') : w.calls[j]? = some call' ∨ call' = call := by
  rw [calls] at held
  by_cases before : j < w.calls.length
  · rw [List.getElem?_append_left before] at held
    exact .inl held
  · rw [List.getElem?_append_right (Nat.le_of_not_lt before)] at held
    exact .inr (List.mem_singleton.mp (List.mem_of_getElem? held))

theorem getElem?_moved (calls : w'.calls = w.calls.set i call) (held : w'.calls[j]? = some call') :
    j ≠ i ∧ w.calls[j]? = some call' ∨ j = i ∧ call' = call := by
  rw [calls] at held
  by_cases e : j = i
  · subst e
    have bound := (List.getElem?_eq_some_iff.mp held).1
    rw [List.length_set] at bound
    rw [List.getElem?_set_self bound] at held
    exact .inr ⟨rfl, (Option.some.inj held).symm⟩
  · rw [List.getElem?_set_ne (Ne.symm e)] at held
    exact .inl ⟨e, held⟩

theorem upstreamCall?_eq_some :
    w.upstreamCall? act = some c ↔
      ∃ i, act = .step i ∧ ∃ call, w.calls[i]? = some call ∧ call.upstreamCall? = some c := by
  cases act with
  | step i => simp [upstreamCall?, Option.bind_eq_some_iff]
  | _ => simp [upstreamCall?]

theorem upstreamCall?_eq_refresh :
    w.upstreamCall? act = some (.refresh refreshToken) ↔
      ∃ i, act = .step i ∧ ∃ call fakeToken, w.calls[i]? = some call ∧
        call.stage = .gettingToken fakeToken (.callRefresh refreshToken) := by
  simp [upstreamCall?_eq_some, ForwardCall.upstreamCall?_refresh]

theorem upstreamCall?_eq_messages :
    w.upstreamCall? act = some (.messages forwarded) ↔
      ∃ i, act = .step i ∧ ∃ call fakeToken accessToken, w.calls[i]? = some call ∧
        call.stage = .gettingToken fakeToken (.returned (.ok accessToken)) ∧
        forwarded = rewriteAuthorization call.request accessToken fakeToken := by
  simp [upstreamCall?_eq_some, ForwardCall.upstreamCall?_messages]

/-! ## The calls in `valid_access_token` -/

/-- Where call `i` is in `valid_access_token`, if it is there. -/
def stageOf (w : GatewayWorld) (i : Nat) : Option TokenStage :=
  w.calls[i]?.bind fun call =>
    match call.stage with
    | .gettingToken _ stage => some stage
    | _ => none

theorem stageOf_eq_some :
    w.stageOf i = some stage ↔
      ∃ call fakeToken, w.calls[i]? = some call ∧ call.stage = .gettingToken fakeToken stage := by
  unfold stageOf
  cases w.calls[i]? with
  | none => simp
  | some call => cases e : call.stage <;> simp [e]

theorem stageOf_arrived (fresh : call.stage = .validate)
    (calls : w'.calls = w.calls ++ [call]) (j : Nat) : w'.stageOf j = w.stageOf j := by
  unfold stageOf
  rw [calls]
  rcases Nat.lt_trichotomy j w.calls.length with before | rfl | after
  · rw [List.getElem?_append_left before]
  · simp [fresh]
  · rw [List.getElem?_eq_none (by rw [List.length_append, List.length_singleton]; omega),
      List.getElem?_eq_none (Nat.le_of_lt after)]

/-! ## The lock -/

def HoldsLock (w : GatewayWorld) (i : Nat) : Prop :=
  ∃ call, w.calls[i]? = some call ∧ call.holdsLock = true

def Locked (w : GatewayWorld) : Prop := Exclusive w.core.refreshLock w.HoldsLock

theorem holdsLock_iff :
    w.HoldsLock i ↔ ∃ stage, w.stageOf i = some stage ∧ stage.holdsLock = true := by
  unfold stageOf HoldsLock
  cases w.calls[i]? with
  | none => simp
  | some call => cases e : call.stage <;> simp [ForwardCall.holdsLock, e]

theorem holdsLock_moved (held : w.calls[i]? = some call)
    (calls : w'.calls = w.calls.set i call') : w'.HoldsLock i ↔ call'.holdsLock = true := by
  have bound := (List.getElem?_eq_some_iff.mp held).1
  simp [HoldsLock, calls, List.getElem?_set_self bound]

theorem locked_new (seed : TokenSet) (clock : Clock) : (new seed clock).Locked := by
  intro i
  simp [HoldsLock, new]

theorem Locked.step (h : w.Locked) (step : Step parseJson w act w') : w'.Locked := by
  cases step.effect with
  | quiet core calls _ _ =>
    unfold Locked
    rw [core]
    exact Exclusive.keep h fun j => by simp only [HoldsLock, calls]
  | arrives call fresh core calls _ _ =>
    unfold Locked
    rw [core]
    refine Exclusive.keep h fun j => ?_
    simp only [holdsLock_iff, stageOf_arrived fresh calls]
  | moves i call core' stage' _ held core calls _ move =>
    have others : ∀ j, j ≠ i → (w'.HoldsLock j ↔ w.HoldsLock j) :=
      fun j other => by simp only [HoldsLock, calls, List.getElem?_set_ne other.symm]
    have before : w.HoldsLock i ↔ call.holdsLock = true := by simp [HoldsLock, held]
    have after : w'.HoldsLock i ↔ _ := holdsLock_moved held calls
    unfold Locked
    rw [core]
    rcases move.lock with ⟨lock, side⟩ | ⟨free, lock, side⟩ | ⟨side, lock, out⟩
    · rw [lock]
      refine Exclusive.keep h fun j => ?_
      by_cases e : j = i
      · rw [e, after, before, side]
      · exact others j e
    · rw [lock]
      exact Exclusive.acquire h free (after.mpr side) others
    · rw [lock]
      exact Exclusive.release h (before.mpr side) (by simp [after, out]) others

/-- What a step does to the calls that are after the token: it moves one of them, or at most
lets one begin and one go that does not hold the lock. -/
inductive TokenEffect (w : GatewayWorld) (act : GatewayAct) (w' : GatewayWorld) : Prop
  | apart (core : w'.core = w.core) (later : w.clock.instant ≤ w'.clock.instant)
      (stages : ∀ j, w'.stageOf j = w.stageOf j ∨ w'.stageOf j = some .readToken ∨
        w'.stageOf j = none)
      (held : ∀ j, w.HoldsLock j → w'.stageOf j = w.stageOf j)
      (steps : ∀ i, act = .step i → ¬ w.HoldsLock i)
      (returns : ∀ i result refreshToken, act = .refreshReturns i result →
        w.stageOf i ≠ some (.refreshing refreshToken))
  | inside (i : Nat) (stage stage' : TokenStage) (core' : GatewayCore)
      (was : w.stageOf i = some stage) (becomes : w'.stageOf i = some stage')
      (others : ∀ j, j ≠ i → w'.stageOf j = w.stageOf j) (core : w'.core = core')
      (clock : w'.clock = w.clock)
      (moves : stage.Moves w.clock i w.core act core' stage')

theorem getElem?_set_moved (held : w.calls[i]? = some call)
    (calls : w'.calls = w.calls.set i call') : w'.calls[i]? = some call' := by
  rw [calls, List.getElem?_set_self (List.getElem?_eq_some_iff.mp held).1]

theorem Step.tokenEffect (h : Step parseJson w act w') : TokenEffect w act w' := by
  cases h.effect with
  | quiet core calls later idle =>
    have same : ∀ j, w'.stageOf j = w.stageOf j := by simp [stageOf, calls]
    refine .apart core later (fun j => .inl (same j)) (fun j _ => same j) ?_ ?_
    · rintro i rfl ⟨call, held, holds⟩
      rw [(idle i call rfl held).1 rfl] at holds
      cases holds
    · rintro i result refreshToken rfl refreshing
      obtain ⟨call, fakeToken, held, inside⟩ := stageOf_eq_some.mp refreshing
      exact (idle i call rfl held).2 result rfl _ _ inside refreshToken rfl
  | arrives call fresh core calls clock idle =>
    have same := stageOf_arrived fresh calls
    refine .apart core (by rw [clock]) (fun j => .inl (same j)) (fun j _ => same j) ?_ ?_
    · rintro i rfl
      cases idle
    · rintro i result refreshToken rfl
      cases idle
  | moves i call core' stage' own held core calls clock move =>
    have now := getElem?_set_moved held calls
    have others : ∀ j, j ≠ i → w'.stageOf j = w.stageOf j := fun j other =>
      by simp only [stageOf, calls, List.getElem?_set_ne other.symm]
    -- a caller that did not hold the lock before it came or went
    have apart : call.holdsLock = false → w'.core = w.core →
        (w'.stageOf i = some .readToken ∨ w'.stageOf i = none) → TokenEffect w act w' := by
      intro free core moved
      have free : ¬ w.HoldsLock i := by simp [HoldsLock, held, free]
      refine .apart core (by rw [clock]) (fun j => ?_) (fun j holds => ?_) ?_ ?_
      · by_cases e : j = i
        · rw [e]
          exact .inr moved
        · exact .inl (others j e)
      · exact others j fun e => free (e ▸ holds)
      · rintro j rfl
        cases own
        exact free
      · rintro j result refreshToken rfl refreshing
        cases own
        exact free (holdsLock_iff.mpr ⟨_, refreshing, rfl⟩)
    cases move with
    | accepted entered valid =>
      refine apart (by simp [ForwardCall.holdsLock, entered]) core (.inl ?_)
      exact stageOf_eq_some.mpr ⟨_, _, now, rfl⟩
    | leaves free out =>
      refine apart free core (.inr ?_)
      rw [Option.eq_none_iff_forall_ne_some]
      intro stage inside
      obtain ⟨call', fakeToken, held', inside⟩ := stageOf_eq_some.mp inside
      cases now.symm.trans held'
      exact out _ _ inside
    | inside inside moves =>
      exact .inside i _ _ core' (stageOf_eq_some.mpr ⟨call, _, held, inside⟩)
        (stageOf_eq_some.mpr ⟨_, _, now, rfl⟩) others core clock moves

theorem Locked.unique (h : w.Locked) (hi : w.stageOf i = some stage)
    (hj : w.stageOf j = some stage') (holds : stage.holdsLock = true)
    (holds' : stage'.holdsLock = true) : i = j :=
  Exclusive.unique h (holdsLock_iff.mpr ⟨_, hi, holds⟩) (holdsLock_iff.mpr ⟨_, hj, holds'⟩)

end GatewayWorld

end Ccbd.Gateway
