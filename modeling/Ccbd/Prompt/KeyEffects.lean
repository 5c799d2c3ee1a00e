import Ccbd.Prompt.VettedKeys

/-!
# Keys that stay in the pane

A list of actions is validated while it is carried out, so what stands before an action that is
refused has been typed. The letter of the probe is deleted again, unless the first look at the
pane after it fails.
-/

namespace Ccbd.Prompt

open Lib

variable {σ : Type} {ctx : RunnerContext σ}

theorem ends_send {Q : Except CcbdError Unit → Runner σ → Prop} :
    Ends (send ctx origin key) r Q ↔
      let answer := match key with
        | .key value => ctx.sendKeyKeysym value r.world
        | .literal value => ctx.sendKeyLiteral value r.world
      Q answer.1 ⟨answer.2, r.sent ++ [⟨origin, key⟩]⟩ := by
  cases key <;> simp [send, ends_bind, ends_ask]

theorem ends_send_sent (ctx : RunnerContext σ) (origin : KeyOrigin) (key : ValidatedAction)
    (r : Runner σ) :
    Ends (send ctx origin key) r fun _ r' => r'.sent = r.sent ++ [⟨origin, key⟩] :=
  ends_send.mpr rfl

/-! ## Lists of actions -/

/-- Of a list with an action that is refused, nothing is typed. -/
def AllOrNothing (ctx : RunnerContext σ) (origin : KeyOrigin) (actions : List PromptAction)
    (r : Runner σ) : Prop :=
  (∃ action ∈ actions, action.validate.isOk = false) →
    Ends (executeActions ctx origin actions) r fun _ r' => r'.sent = r.sent

theorem preserves_typed (before : List SentKey) (origin : KeyOrigin) (actions : List PromptAction) :
    Preserves (fun r => before <+: r.sent) (executeActions ctx origin actions) := by
  refine (Preserves.forEach fun action _ r typed => ?_).bind fun _ => .pure ()
  cases action.validate with
  | error err => exact typed
  | ok key =>
    refine (ends_send_sent ctx origin key r).mono fun _ r' sent => ?_
    exact sent ▸ typed.trans (List.prefix_append ..)

theorem ends_executeActions_cons {Q : Except CcbdError Unit → Runner σ → Prop}
    (valid : action.validate = .ok key) :
    Ends (executeActions ctx origin (action :: rest)) r Q ↔
      Ends (send ctx origin key >>= fun _ => executeActions ctx origin rest) r Q := by
  simp only [executeActions, forEach, valid, bind_assoc, pure_bind]

theorem allOrNothing_iff (ctx : RunnerContext σ) (origin : KeyOrigin) (actions : List PromptAction)
    (r : Runner σ) :
    AllOrNothing ctx origin actions r ↔
      ((∃ action ∈ actions, action.validate.isOk = false) →
        actions.head?.any (!·.validate.isOk) = true) := by
  refine forall_congr' fun refused => ?_
  cases actions with
  | nil => simp at refused
  | cons action rest =>
    cases valid : action.validate with
    | error err =>
      refine iff_of_true ?_ (by simp [valid, Except.isOk, Except.toBool])
      rw [executeActions, ends_bind, forEach, ends_bind, valid]
      rfl
    | ok key =>
      refine iff_of_false (fun nothing => ?_) (by simp [valid, Except.isOk, Except.toBool])
      have typed : Ends (executeActions ctx origin (action :: rest)) r fun _ r' =>
          r.sent ++ [⟨origin, key⟩] <+: r'.sent := by
        rw [ends_executeActions_cons valid, ends_bind]
        refine (ends_send_sent ctx origin key r).mono fun result r₁ sent => ?_
        cases result with
        | error => exact sent ▸ List.prefix_refl _
        | ok => exact preserves_typed _ origin rest r₁ (sent ▸ List.prefix_refl _)
      refine ends_const.mp ((typed.and nothing).mono fun _ r' both => ?_)
      have longer := both.1.length_le
      simp only [both.2, List.length_append, List.length_singleton] at longer
      omega

/-- A pane that takes every key, and shows a screen for which `actions` are known. -/
def pane (captured : Except CcbdError String) (actions : List PromptAction) :
    RunnerContext Unit where
  provider := "codex"
  currentState := "IDLE"
  capturePane w := (captured, w)
  sendKeyLiteral _ w := (.ok (), w)
  sendKeyKeysym _ w := (.ok (), w)
  classifyCapture _ _ w := (.knownAction "llm-haiku-4.5:codex:" actions [], w)
  llmClassifier := none
  promptExperience := none
  texts := ⟨id, fun _ => [], fun _ => "", id, Char.isAlphanum⟩

/-- The chain types Enter, although the action after it is refused. -/
theorem not_allOrNothing :
    (¬∀ (ctx : RunnerContext Unit) origin actions r, AllOrNothing ctx origin actions r) ∧
      Ends (handlePromptChain (pane (.ok "") [.key "Enter", .key "F1"]) 1 1) ⟨(), []⟩ fun _ r =>
        r.sent = [⟨.known "llm-haiku-4.5:codex:", .key "Enter"⟩] := by
  refine ⟨fun all => ?_, rfl⟩
  have nothing : [SentKey.mk (.known "llm-haiku-4.5:codex:") (.key "Enter")] = [] :=
    all (pane (.ok "") []) (.known "llm-haiku-4.5:codex:") [.key "Enter", .key "F1"] ⟨(), []⟩
      ⟨.key "F1", by simp, rfl⟩
  cases nothing

/-! ## The probe -/

/-- The pane takes the letter of the probe. -/
def ProbeSent (ctx : RunnerContext σ) (capture : String) (w : σ) : Prop :=
  inputProbeLiteral ctx.provider ≠ "" ∧
    isInputCandidate ctx.texts ctx.provider capture = true ∧
    (ctx.sendKeyLiteral (inputProbeLiteral ctx.provider) w).1 = .ok ()

/-- Once the letter is in the pane, the probe does not return without a backspace. -/
def CleansUp (ctx : RunnerContext σ) (capture : String) (r : Runner σ) : Prop :=
  ProbeSent ctx capture r.world → Ends (confirmCanInput ctx capture) r fun _ r' =>
    r'.sent = r.sent ++
      [⟨.probe, .literal (inputProbeLiteral ctx.provider)⟩, ⟨.probe, .key "BSpace"⟩]

theorem ends_waitForProbe (reached : String → Bool) (attempts : Nat) (capturedOnce : Bool)
    (r : Runner σ) :
    Ends (waitForProbe ctx reached attempts capturedOnce) r fun result r' =>
      r'.sent = r.sent ∧ (capturedOnce = true → result.isOk = true) := by
  induction attempts generalizing capturedOnce r with
  | zero => exact ⟨rfl, fun _ => rfl⟩
  | succ attempts ih =>
    rw [waitForProbe, ends_bind, ends_ask]
    cases (ctx.capturePane r.world).1 with
    | ok capture =>
      dsimp only
      split_ifs
      · exact ⟨rfl, fun _ => rfl⟩
      · exact (ih true _).mono fun _ _ h => ⟨h.1, fun _ => h.2 rfl⟩
    | error err =>
      cases capturedOnce with
      | true => exact ⟨rfl, fun _ => rfl⟩
      | false => exact ⟨rfl, nofun⟩

/-- The wait for the echo ends in an error exactly if its first look does. -/
theorem ends_waitForProbeEcho (probe : String) (r : Runner σ) :
    Ends (waitForProbeEcho ctx probe) r fun result r' =>
      r'.sent = r.sent ∧ (result.isOk = true ↔ (ctx.capturePane r.world).1.isOk = true) := by
  rw [waitForProbeEcho, canInputProbeCaptureAttempts, waitForProbe, ends_bind, ends_ask]
  cases (ctx.capturePane r.world).1 with
  | error err => exact ⟨rfl, Iff.rfl⟩
  | ok capture =>
    dsimp only
    split_ifs
    · exact ⟨rfl, Iff.rfl⟩
    · exact (ends_waitForProbe _ 2 true _).mono fun _ _ h => ⟨h.1, iff_of_true (h.2 rfl) rfl⟩

theorem cleansUp_iff (ctx : RunnerContext σ) (capture : String) (r : Runner σ) :
    CleansUp ctx capture r ↔ (ProbeSent ctx capture r.world →
      (ctx.capturePane (ctx.sendKeyLiteral (inputProbeLiteral ctx.provider) r.world).2).1.isOk =
        true) := by
  refine forall_congr' fun ⟨probe, candidate, taken⟩ => ?_
  rw [confirmCanInput, if_neg (by simp [probe, candidate]), ends_bind, ends_send]
  simp only [taken]
  rw [ends_bind]
  refine (ends_congr ((ends_waitForProbeEcho _ _).mono ?_)).trans ends_const
  rintro result r₂ ⟨sent, looked⟩
  rw [← looked]
  cases result with
  | error err => exact iff_of_false (fun typed => by simp [sent] at typed) nofun
  | ok echoed =>
    refine iff_of_true ?_ rfl
    have removed := ends_send_sent ctx .probe (.key "BSpace") r₂
    rw [sent, List.append_assoc] at removed
    cases echoed with
    | true =>
      refine ends_bind.mpr (removed.mono fun result r₃ typed => ?_)
      cases result with
      | error => exact typed
      | ok => exact (ends_waitForProbe _ 3 false r₃).mono fun _ _ h => h.1.trans typed
    | false =>
      refine ends_bind.mpr (removed.mono fun result r₃ typed => ?_)
      cases result <;> exact typed

theorem not_cleansUp : ¬∀ (ctx : RunnerContext Unit) capture r,
    (∀ key w, (ctx.sendKeyKeysym key w).1 = .ok ()) → CleansUp ctx capture r := by
  intro all
  have typed := all (pane (.error (.tmuxCommandFailed "capture-pane" "" 1)) []) "› " ⟨(), []⟩
    (fun _ _ => rfl) ⟨by decide, by decide, rfl⟩
  have short : [SentKey.mk .probe (.literal "x")] =
    [⟨.probe, .literal "x"⟩, ⟨.probe, .key "BSpace"⟩] := typed
  cases short

end Ccbd.Prompt
