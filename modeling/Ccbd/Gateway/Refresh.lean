import Ccbd.Gateway.Forwarding

/-!
# One refresh at a time

Calls that find the token expired race for the refresh lock, and the winner looks at the token
again before it asks the upstream. It holds the lock until it has the answer, so no other call
asks meanwhile.
-/

namespace Ccbd.Gateway

open Lib TokenStage

namespace GatewayWorld

variable {parseJson : List UInt8 → Except String Json} {seed : TokenSet} {clock : Clock}
  {s : GatewayWorld} {ts : List (Transition GatewayWorld GatewayAct)}

/-- Call `i` waits for the answer of the refresh. -/
def Awaits (w : GatewayWorld) (i : Nat) : Prop :=
  ∃ refreshToken, w.stageOf i = some (.refreshing refreshToken)

theorem locked_run (run : Run (Step parseJson) (new seed clock) ts s) : s.Locked :=
  run.invariant (C := fun _ _ => True) (fun _ _ _ h _ step => h.step step)
    (locked_new seed clock) fun _ _ => trivial

/-- While a call waits for the answer to a refresh, no other call does, and none asks for one. -/
theorem awaits_excludes (run : Run (Step parseJson) (new seed clock) ts s) (awaits : s.Awaits i) :
    (∀ j, s.Awaits j → j = i) ∧
      ∀ act refreshToken, s.upstreamCall? act ≠ some (.refresh refreshToken) := by
  have locked := locked_run run
  obtain ⟨sent, waiting⟩ := awaits
  refine ⟨?_, fun act refreshToken asks => ?_⟩
  · rintro j ⟨sent', waiting'⟩
    exact locked.unique waiting' waiting rfl rfl
  · obtain ⟨j, -, call, fakeToken, held, inside⟩ := upstreamCall?_eq_refresh.mp asks
    have asking := stageOf_eq_some.mpr ⟨call, fakeToken, held, inside⟩
    cases locked.unique asking waiting rfl rfl
    cases asking.symm.trans waiting

/-! ### Two callers -/

section

variable (channel : String) (incoming : IncomingRequest)

/-- Two callers find the token expired; the first has the lock and asks for a new one. -/
def askActs : List GatewayAct :=
  [.register channel, .accept channel, .accept channel, .receive 0 incoming, .receive 0 incoming,
    .step 0, .step 1, .step 0, .step 1, .step 0, .step 1, .step 0, .step 0, .step 0, .step 0]

def asking (parseJson : List UInt8 → Except String Json) : GatewayWorld :=
  (askActs channel incoming).foldl (next parseJson) (new firstToken ⟨200000000000, 0⟩)

variable {channel incoming}

theorem asking_run : Run (Step parseJson) (new firstToken ⟨200000000000, 0⟩)
    (trace (next parseJson) (new firstToken ⟨200000000000, 0⟩) (askActs channel incoming))
    (asking channel incoming parseJson) := by
  exact Run.of_list _ _

theorem asking_state
    (valid : validateWorkerIdentity parseJson (ForwardCall.request ⟨channel, incoming, .validate⟩) =
      .ok fakeToken) :
    (asking channel incoming parseJson).stageOf 0 = some (.refreshing "refresh-1") ∧
      (asking channel incoming parseJson).clock = ⟨200000000000, 0⟩ := by
  simp [asking, askActs, next, moved, new, ForwardCall.step, valid, step, stageOf,
    firstToken, TokenSet.isValidForForwarding, tokenExpirySafetyWindow,
    GatewayCore.cachedFailureInsideRefreshLock]

end

theorem awaits_excludes_twoCallers :
    ∃ ts s, Run (Step (workerJson "a1")) (new firstToken ⟨200000000000, 0⟩) ts s ∧ s.Awaits 0 ∧
      ¬s.Awaits 1 := by
  obtain ⟨waiting, -⟩ := asking_state (validate_ownRequest "a1" (by decide))
  refine ⟨_, _, asking_run, ⟨_, waiting⟩, fun second => ?_⟩
  exact absurd ((awaits_excludes asking_run ⟨_, waiting⟩).1 1 second) Nat.one_ne_zero

end GatewayWorld

end Ccbd.Gateway
