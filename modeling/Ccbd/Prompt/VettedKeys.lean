import Ccbd.Prompt.Runner

/-!
# What the prompt runner types

Every key that the runner sends is the probe letter, the backspace that removes it, or an action
that passed the whitelist. Keys that come from a model's answer are sent only if the answer was
safe and sure enough, for a provider and in a state in which the model may be asked.
-/

namespace Ccbd.Prompt

open Lib

variable {σ : Type} {ctx : RunnerContext σ} {maxDepth : Nat}

/-- An answer of the model that may be carried out. -/
structure Trusted (ctx : RunnerContext σ) (outcome : LlmOutcome) : Prop where
  answered : ∃ classifyPrompt, ctx.llmClassifier = some classifyPrompt ∧
    ∃ capture w w', classifyPrompt capture ctx.provider ctx.currentState w = (.ok outcome, w')
  safe : outcome.safe = true
  confident : outcome.confidence.lt confidenceThreshold = false
  steady : ctx.currentState = "IDLE" ∨ ctx.currentState = "BUSY"
  provider : isPromptHandlingProvider ctx.provider = true

/-- Where a key comes from says what it may be. -/
def Vetted (ctx : RunnerContext σ) (sent : SentKey) : Prop :=
  match sent.origin with
  | .probe => sent.key = .literal "x" ∨ sent.key = .key "BSpace"
  | .known _ => ∃ action : PromptAction, action.validate = .ok sent.key
  | .llm outcome => Trusted ctx outcome ∧ ∃ action ∈ outcome.action, action.validate = .ok sent.key

def AllVetted (ctx : RunnerContext σ) (r : Runner σ) : Prop := ∀ sent ∈ r.sent, Vetted ctx sent

/-! ## Calls to the world -/

theorem ends_ask {α : Type} {call : σ → α × σ} {Q : Except CcbdError α → Runner σ → Prop} :
    Ends (ask call) r Q ↔ Q (.ok (call r.world).1) { r with world := (call r.world).2 } := Iff.rfl

theorem preserves_ask {α : Type} (call : σ → α × σ) : Preserves (AllVetted ctx) (ask call) :=
  fun _ h => h

theorem preserves_send
    (vetted : Vetted ctx ⟨origin, key⟩) : Preserves (AllVetted ctx) (send ctx origin key) := by
  refine Preserves.bind (fun r h => ?_) fun _ => ?_
  · exact List.forall_mem_append.mpr ⟨h, List.forall_mem_singleton.mpr vetted⟩
  · cases key <;> exact (preserves_ask _).bind fun _ => .ofResult _

/-! ## The probe -/

theorem preserves_waitForProbe (reached : String → Bool) (attempts : Nat) (capturedOnce : Bool) :
    Preserves (AllVetted ctx) (waitForProbe ctx reached attempts capturedOnce) := by
  induction attempts generalizing capturedOnce with
  | zero => exact .pure false
  | succ attempts ih =>
    refine (preserves_ask _).bind fun result => ?_
    cases result with
    | ok capture =>
      by_cases h : reached capture = true
      · simp only [h]
        exact .pure true
      · simp only [h]
        exact ih true
    | error err =>
      intro r h
      cases capturedOnce <;> exact h

theorem preserves_confirmCanInput (capture : String) :
    Preserves (AllVetted ctx) (confirmCanInput ctx capture) := by
  unfold confirmCanInput
  simp only
  split
  · exact .pure false
  · have probe : inputProbeLiteral ctx.provider = "x" := by
      unfold inputProbeLiteral at *
      grind
    have letter : Preserves (AllVetted ctx) (send ctx .probe (.literal "x")) :=
      preserves_send (.inl rfl)
    have backspace : Preserves (AllVetted ctx) (send ctx .probe (.key "BSpace")) :=
      preserves_send (.inr rfl)
    rw [probe]
    refine letter.bind fun _ => ?_
    refine (preserves_waitForProbe _ _ _).bind fun echoed => ?_
    cases echoed with
    | true => exact backspace.bind fun _ => preserves_waitForProbe _ _ _
    | false => exact backspace.bind fun _ => .pure false

/-! ## Actions -/

theorem preserves_executeActions
    (vetted : ∀ action ∈ actions, ∀ key, action.validate = .ok key → Vetted ctx ⟨origin, key⟩) :
    Preserves (AllVetted ctx) (executeActions ctx origin actions) := by
  refine (Preserves.forEach fun action mem => ?_).bind fun _ => .pure ()
  cases h : action.validate with
  | ok key => exact preserves_send (vetted action mem key h)
  | error err => exact fun _ h => h

theorem preserves_runActions
    (vetted : ∀ action ∈ actions, ∀ key, action.validate = .ok key → Vetted ctx ⟨origin, key⟩)
    (st : ChainState) (hash : Hash) :
    Preserves (AllVetted ctx) (runActions ctx origin actions st hash) := by
  refine (preserves_executeActions vetted).attempt.bind fun result => ?_
  cases result <;> exact .pure _

/-- The slow path types nothing, and returns only actions of an answer that may be carried out. -/
theorem tryLlmSlowPath_ends (capture text : String) (r : Runner σ) :
    Ends (tryLlmSlowPath ctx capture text) r fun result r' =>
      r'.sent = r.sent ∧ ∀ outcome, result = .ok (.action outcome) → Trusted ctx outcome := by
  unfold tryLlmSlowPath
  split
  · simp
  split
  · simp
  rename_i provider
  split
  · simp
  rename_i classifyPrompt classifier
  rw [ends_bind, ends_ask]
  cases answer : (classifyPrompt capture ctx.provider ctx.currentState r.world).1 with
  | error err => cases err <;> simp
  | ok outcome =>
    simp only
    split
    · simp
    rename_i safe
    split
    · simp
    rename_i confident
    have trusted : Trusted ctx outcome :=
      { answered := ⟨classifyPrompt, classifier, capture, r.world, _, Prod.ext answer rfl⟩
        safe := by simpa using safe
        confident := by simpa using confident
        steady := by grind [isLlmSteadyState]
        provider := by simpa using provider }
    split
    · simpa using trusted
    · rw [ends_bind, ends_ask]
      simpa using trusted

/-! ## The chain -/

theorem preserves_onSkip (st : ChainState) (reason : GateSkipReason) (hash : Hash)
    (capture : String) : Preserves (AllVetted ctx)
    (onSkip ctx maxDepth st reason hash capture) := by
  cases reason with
  | emptyCapture | sameHash =>
    intro r h
    simp only [onSkip]
    split <;> exact h
  | idleMarker =>
    refine (preserves_confirmCanInput capture).attempt.bind fun result => ?_
    cases result with
    | ok confirmed => cases confirmed <;> exact .pure _
    | error err => exact .pure _

theorem preserves_onKnownAction (st : ChainState) (caseId : String) (actions : List PromptAction)
    (hash : Hash) (capture : String) :
    Preserves (AllVetted ctx) (onKnownAction ctx maxDepth st caseId actions hash capture) := by
  unfold onKnownAction
  simp only
  split
  · exact .pure _
  split
  · exact .pure _
  · refine preserves_runActions (fun action _ key valid => ?_) _ _
    exact ⟨action, valid⟩

theorem preserves_onUnknown (st : ChainState) (hash : Hash) (text capture : String) :
    Preserves (AllVetted ctx) (onUnknown ctx maxDepth st hash text capture) := by
  unfold onUnknown
  simp only
  split
  · split <;> exact .pure _
  · intro r h
    rw [ends_bind]
    refine (tryLlmSlowPath_ends capture text r).mono ?_
    rintro result r' ⟨same, trusted⟩
    have kept : AllVetted ctx r' := by rwa [AllVetted, same]
    cases result with
    | error err => exact kept
    | ok decision =>
      cases decision with
      | action outcome =>
        simp only
        split
        · exact kept
        · refine preserves_runActions (fun action mem key valid => ?_) _ _ r' kept
          exact ⟨trusted outcome rfl, action, mem, valid⟩
      | pending | notAttempted => exact kept

theorem preserves_turn (st : ChainState) : Preserves (AllVetted ctx) (turn ctx maxDepth st) := by
  refine (preserves_ask _).bind fun captured => ?_
  cases captured with
  | error err =>
    simp only
    split <;> exact .pure _
  | ok capture =>
    refine (preserves_ask _).bind fun decision => ?_
    cases decision with
    | skip reason hash => exact preserves_onSkip st reason hash capture
    | knownAction caseId actions hash => exact preserves_onKnownAction st caseId actions hash capture
    | unknown hash text => exact preserves_onUnknown st hash text capture
    | lookupFailed => exact .pure _

theorem preserves_chain (turns : Nat) (st : ChainState) :
    Preserves (AllVetted ctx) (chain ctx maxDepth turns st) := by
  induction turns generalizing st with
  | zero => exact .pure none
  | succ turns ih =>
    refine (preserves_turn st).bind fun result => ?_
    cases result with
    | done outcome => exact .pure _
    | again st => exact ih st

/-- Whatever the pane shows, the knowledge base and the experience hold and the model answers, all
that the prompt handler types is vetted and on the whitelist. -/
theorem handlePromptChain_vetted (ctx : RunnerContext σ) (maxDepth turns : Nat) (w : σ) :
    Ends (handlePromptChain ctx maxDepth turns) ⟨w, []⟩ fun _ r =>
      ∀ sent ∈ r.sent, Vetted ctx sent ∧ (sent.origin ≠ .probe → sent.key.Whitelisted) := by
  have vetted : AllVetted ctx ⟨w, []⟩ := by simp [AllVetted]
  refine (preserves_chain turns {} _ vetted).mono fun _ r after sent mem => ⟨after sent mem, ?_⟩
  have := after sent mem
  unfold Vetted at this
  split at this
  · rename_i origin
    exact fun other => absurd origin other
  · obtain ⟨action, valid⟩ := this
    exact fun _ => action.validate_whitelisted valid
  · obtain ⟨-, action, -, valid⟩ := this
    exact fun _ => action.validate_whitelisted valid

end Ccbd.Prompt
