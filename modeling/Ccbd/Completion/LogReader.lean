import Ccbd.Completion.LogMonitor
import Ccbd.Lib.Lines
import Ccbd.Lib.Utf8

/-!
# Tailing the provider logs

`read_provider_log_tail_with_state` reads the new lines of the log files and returns the
turns they complete. It remembers how far it has read in each file and, for the providers
that need one, in which files a user entry was seen.

What the JSON parser and the two regular expressions make of a text is given by `LogText`.
The files come as paths and bytes, in the order of the directory walk.
-/

namespace Ccbd

open Lib Lib.Lines Lib.Utf8

structure LogText where
  fromStr : List Char → Option Json
  fromSlice : List UInt8 → Option Json
  taskIds : String → List String
  finishedTaskIds : String → List String

/-! ## The lines of the log -/

inductive LogParseResult where
  | turnComplete (turnId reply : Option String)
  | userMessage (turnId : Option String)
  | notTerminal
  | unknownDegrade (reason : String)
deriving DecidableEq, Repr

def parseCodexLogValue (v : Json) : LogParseResult :=
  if v.strField? "type" ≠ some "event_msg" then .notTerminal
  else match v.get? "payload" with
  | none => .notTerminal
  | some payload =>
    if payload.strField? "type" ≠ some "task_complete" then .notTerminal
    else .turnComplete (payload.strField? "turn_id") (payload.strField? "last_agent_message")

def isClaudeUserEntry (v : Json) : Bool :=
  v.strField? "type" = some "user" ||
    (v.get? "message").bind (·.strField? "role") = some "user"

def claudeTextReply (message : Json) : Option String := do
  let content ← (← message.get? "content").asArray?
  let textParts := content.filterMap fun item =>
    if item.strField? "type" = some "text" then item.strField? "text" else none
  if textParts.isEmpty then none else some (String.join textParts)

def parseClaudeLogValue (v : Json) : LogParseResult :=
  if isClaudeUserEntry v then .userMessage (v.strField? "promptId")
  else if v.strField? "type" ≠ some "assistant" then .notTerminal
  else match v.get? "message" with
  | none => .notTerminal
  | some message =>
    if message.strField? "type" ≠ some "message" || message.strField? "role" ≠ some "assistant" then
      .notTerminal
    else match message.strField? "stop_reason" with
    | some stopReason =>
      if stopReason = "end_turn" || stopReason = "stop_sequence" || stopReason = "max_tokens" then
        match claudeTextReply message with
        | none => .notTerminal
        | some reply => .turnComplete none (some reply)
      else if stopReason = "tool_use" then .notTerminal
      else .unknownDegrade "claude_unknown_stop_reason"
    | none => .unknownDegrade "claude_missing_stop_reason"

def parseAntigravityLogValue (v : Json) : LogParseResult :=
  if v.strField? "source" = some "USER_EXPLICIT" && v.strField? "type" = some "USER_INPUT" then
    .userMessage none
  else if v.strField? "source" ≠ some "MODEL" || v.strField? "type" ≠ some "PLANNER_RESPONSE" ||
      v.strField? "status" ≠ some "DONE" then .notTerminal
  else if ((v.get? "tool_calls").bind (·.asArray?)).any (!·.isEmpty) then .notTerminal
  else .turnComplete none (v.strField? "content")

variable (text : LogText) (provider : String)

def parseProviderLogLine (line : List Char) : LogParseResult :=
  match text.fromStr line with
  | none => .notTerminal
  | some v =>
    if provider = "codex" then parseCodexLogValue v
    else if provider = "claude" then parseClaudeLogValue v
    else if provider = "antigravity" then parseAntigravityLogValue v
    else .notTerminal

def providerRequiresUserEntry : Bool :=
  provider = "claude" || provider = "antigravity"

/-! ## Background tasks -/

def newline : UInt8 := 10

/-- The tasks a line of the transcript starts and ends. -/
def taskMarks (line : List UInt8) (acc : List String × List String) : List String × List String :=
  match (text.fromSlice line).bind (·.strField? "content") with
  | none => acc
  | some content =>
    let running := Reply.containsText content.toList "Status: RUNNING".toList ||
      Reply.containsText content.toList "running as a background task".toList
    (if running then acc.1 ++ text.taskIds content else acc.1,
      acc.2 ++ text.finishedTaskIds content)

def hasPendingTasksInTranscript (bytes : List UInt8) : Bool :=
  let (started, finished) :=
    foldLines newline (fun _ line _ acc => taskMarks text line acc) bytes 0 ([], [])
  started.any fun task => !finished.contains task

/-! ## The reader -/

/-- The variables of the loop over the lines of one file. -/
structure TailAcc where
  completions : List LogCompletion
  seenUserEntry : Bool
  seenPaths : List String

/-- One line that is not empty. -/
def readLogLine (path : String) (upto line : List UInt8) (next : Nat) (acc : TailAcc) : TailAcc :=
  let requiresUserEntry := providerRequiresUserEntry provider
  match parseProviderLogLine text provider (decodeLossy line) with
  | .userMessage _ =>
    if requiresUserEntry then
      { acc with seenUserEntry := true, seenPaths := path :: acc.seenPaths.filter (· ≠ path) }
    else acc
  | .turnComplete turnId reply =>
    if !requiresUserEntry || acc.seenUserEntry then
      if provider = "antigravity" && hasPendingTasksInTranscript text upto then acc
      else
        let completions := acc.completions ++ [⟨turnId, reply, path, next⟩]
        if requiresUserEntry then ⟨completions, false, acc.seenPaths.filter (· ≠ path)⟩
        else { acc with completions := completions }
    else acc
  | .notTerminal | .unknownDegrade _ => acc

def insertCursor (cursors : List (String × Nat)) (path : String) (offset : Nat) :
    List (String × Nat) :=
  (path, offset) :: cursors.filter (·.1 ≠ path)

/-- One file; `cursors` are those the call was made with. -/
def readLogFile (cursors : List (String × Nat))
    (acc : List LogCompletion × LogReadState) (file : String × List UInt8) :
    List LogCompletion × LogReadState :=
  let (path, bytes) := file
  let (completions, state) := acc
  let consumedOffset := (cursors.lookup path).getD 0
  let requiresUserEntry := providerRequiresUserEntry provider
  let seenPaths := if requiresUserEntry && bytes.length < consumedOffset then
      state.userEntrySeenPaths.filter (· ≠ path)
    else state.userEntrySeenPaths
  let tail := foldLines newline (readLogLine text provider path) bytes
    (resume newline bytes consumedOffset)
    ⟨completions, requiresUserEntry && seenPaths.contains path, seenPaths⟩
  (tail.completions,
    { cursors := insertCursor state.cursors path bytes.length
      userEntrySeenPaths := tail.seenPaths })

def readProviderLogTailWithState (files : List (String × List UInt8)) (state : LogReadState) :
    List LogCompletion × LogReadState :=
  files.foldl (readLogFile text provider state.cursors) ([], state)

/-! ## Polling -/

/-- The completions of a sequence of calls, the `i`-th of which sees the first `nᵢ` bytes of
the file and begins with the state that the call before it has returned. -/
def pollCompletions (text : LogText) (provider path : String) (bytes : List UInt8) :
    LogReadState → List Nat → List LogCompletion
  | _, [] => []
  | state, n :: ns =>
    let read := readProviderLogTailWithState text provider [(path, bytes.take n)] state
    read.1 ++ pollCompletions text provider path bytes read.2 ns

/-- Polling on the way makes no difference. -/
def PollInvariant (path : String) (bytes : List UInt8)
    (state : LogReadState) (ns : List Nat) : Prop :=
  pollCompletions text provider path bytes state (ns ++ [bytes.length]) =
    (readProviderLogTailWithState text provider [(path, bytes)] state).1

def LogParseResult.isTurnComplete : LogParseResult → Bool
  | .turnComplete .. => true
  | _ => false

def LogParseResult.isUserMessage : LogParseResult → Bool
  | .userMessage _ => true
  | _ => false

/-- Neither the part nor the whole line completes a turn, and both or none of them is a user
entry. -/
def SilentLine (part whole : List UInt8) : Prop :=
  let first := parseProviderLogLine text provider (decodeLossy part)
  let all := parseProviderLogLine text provider (decodeLossy whole)
  first.isTurnComplete = false ∧ all.isTurnComplete = false ∧
    first.isUserMessage = all.isUserMessage

/-- A call that sees `n` bytes, after `consumed` of them were read: if it ends inside a line
that begins after `consumed`, this line is silent. -/
def QuietCut (bytes : List UInt8) (consumed n : Nat) : Prop :=
  ∀ start, consumed ≤ start → start < n → AtStart newline bytes start →
    n ≤ lineEnd newline bytes start →
    SilentLine text provider (slice bytes start n) (slice bytes start (lineEnd newline bytes start))

variable {text provider}

/-- Each call sees what was read before, and none ends badly. -/
def QuietPolls (text : LogText) (provider : String) (bytes : List UInt8) : Nat → List Nat → Prop
  | _, [] => True
  | consumed, n :: ns =>
    consumed ≤ n ∧ QuietCut text provider bytes consumed n ∧ QuietPolls text provider bytes n ns

variable {bytes : List UInt8} {state : LogReadState} {text : LogText} {n : Nat}
    {path provider : String}

theorem SilentLine.readLogLine_eq (silent : SilentLine text provider part whole) (path : String)
    (upto upto' : List UInt8) (next next' : Nat) (acc : TailAcc) :
    readLogLine text provider path upto part next acc =
      readLogLine text provider path upto' whole next' acc := by
  obtain ⟨first, all, user⟩ := silent
  unfold readLogLine
  cases h : parseProviderLogLine text provider (decodeLossy part) <;>
    cases h' : parseProviderLogLine text provider (decodeLossy whole) <;>
    simp_all [LogParseResult.isTurnComplete, LogParseResult.isUserMessage]

/-- The same with completions before its own. -/
def TailAcc.after (acc : TailAcc) (before : List LogCompletion) : TailAcc :=
  { acc with completions := before ++ acc.completions }

theorem readLogLine_after (text : LogText) (provider path : String) (before : List LogCompletion)
    (upto line : List UInt8) (next : Nat) (acc : TailAcc) :
    readLogLine text provider path upto line next (acc.after before) =
      (readLogLine text provider path upto line next acc).after before := by
  unfold readLogLine TailAcc.after
  cases parseProviderLogLine text provider (decodeLossy line) <;> dsimp only <;> split_ifs <;>
    simp [List.append_assoc]

/-- The flag says whether the path is among those with a user entry. -/
def TailAcc.Synced (provider path : String) (acc : TailAcc) : Prop :=
  acc.seenUserEntry = (providerRequiresUserEntry provider && acc.seenPaths.contains path)

theorem readLogLine_synced (text : LogText) (provider path : String) (upto line : List UInt8)
    (next : Nat) (acc : TailAcc) (h : acc.Synced provider path) :
    (readLogLine text provider path upto line next acc).Synced provider path := by
  unfold TailAcc.Synced readLogLine at *
  cases parseProviderLogLine text provider (decodeLossy line) with
  | userMessage turnId =>
    dsimp only
    split_ifs with required
    · simp [required]
    · exact h
  | turnComplete turnId reply =>
    dsimp only
    split_ifs
    · exact h
    · simp
    · exact h
    · exact h
  | notTerminal => exact h
  | unknownDegrade reason => exact h

theorem lookup_insertCursor (cursors : List (String × Nat)) (path : String) (offset : Nat) :
    (insertCursor cursors path offset).lookup path = some offset := by
  simp [insertCursor]

theorem readProviderLogTail_one (grown : (state.cursors.lookup path).getD 0 ≤ bytes.length) :
    readProviderLogTailWithState text provider [(path, bytes)] state =
      let tail := foldLines newline (readLogLine text provider path) bytes
        (resume newline bytes ((state.cursors.lookup path).getD 0))
        ⟨[], providerRequiresUserEntry provider && state.userEntrySeenPaths.contains path,
          state.userEntrySeenPaths⟩
      (tail.completions,
        { cursors := insertCursor state.cursors path bytes.length
          userEntrySeenPaths := tail.seenPaths }) := by
  have kept : (providerRequiresUserEntry provider &&
      decide (bytes.length < (state.cursors.lookup path).getD 0)) = false := by
    simp only [Bool.and_eq_false_iff, decide_eq_false_iff_not]
    exact .inr (by omega)
  simp [readProviderLogTailWithState, readLogFile, kept]

theorem readProviderLogTail_twice (grown : (state.cursors.lookup path).getD 0 ≤ n)
    (within : n ≤ bytes.length)
    (quiet : QuietCut text provider bytes ((state.cursors.lookup path).getD 0) n) :
    (readProviderLogTailWithState text provider [(path, bytes)] state).1 =
      (readProviderLogTailWithState text provider [(path, bytes.take n)] state).1 ++
        (readProviderLogTailWithState text provider [(path, bytes)]
          (readProviderLogTailWithState text provider [(path, bytes.take n)] state).2).1 := by
  have length : (bytes.take n).length = n := by simp [within]
  rw [readProviderLogTail_one (by omega), readProviderLogTail_one (by omega)]
  rw [readProviderLogTail_one (by rw [lookup_insertCursor, length]; exact within)]
  simp only [lookup_insertCursor, length]
  generalize (state.cursors.lookup path).getD 0 = consumed at *
  have alike : n < bytes.length → CutAlike newline (readLogLine text provider path) bytes consumed n :=
    fun _ start low cut begins inside acc =>
      (quiet start low cut begins inside).readLogLine_eq path _ _ _ _ acc
  rw [← foldLines_resume grown within alike]
  generalize tail : foldLines newline (readLogLine text provider path) (bytes.take n)
    (resume newline (bytes.take n) consumed) _ = first
  have synced : first.Synced provider path := by
    rw [← tail]
    exact foldLines_keeps (readLogLine_synced text provider path) _ rfl
  -- The second call begins without completions; those of the first one stand before its own.
  have fresh : (⟨[], providerRequiresUserEntry provider && first.seenPaths.contains path,
      first.seenPaths⟩ : TailAcc) = { first with completions := [] } := by
    rw [← synced]
  have whole : first = TailAcc.after { first with completions := [] } first.completions := by
    simp [TailAcc.after]
  rw [fresh]
  conv_lhs => rw [whole]
  rw [foldLines_comm (readLogLine_after text provider path first.completions)]
  rfl

/-- Polling makes no difference as long as no call ends inside a line that matters. -/
theorem pollInvariant_of_quiet (within : ∀ n ∈ ns, n ≤ bytes.length)
    (quiet : QuietPolls text provider bytes ((state.cursors.lookup path).getD 0) ns) :
    PollInvariant text provider path bytes state ns := by
  unfold PollInvariant
  induction ns generalizing state with
  | nil => simp [pollCompletions]
  | cons n ns ih =>
    rw [List.forall_mem_cons] at within
    obtain ⟨grown, cut, rest⟩ := quiet
    have length : (bytes.take n).length = n := by simp [within.1]
    rw [List.cons_append, pollCompletions, readProviderLogTail_twice grown within.1 cut,
      ih within.2]
    rw [readProviderLogTail_one (by omega)]
    simpa only [lookup_insertCursor, length, Option.getD_some] using rest

theorem quietCut_of_atStart (here : AtStart newline bytes n) :
    QuietCut text provider bytes consumed n := by
  intro start _ before _ inside
  have ends := here.lineEnd_lt before
  omega

def taskComplete : List Char :=
  "\x7b\"type\":\"event_msg\",\"payload\":\x7b\"type\":\"task_complete\"\x7d\x7d".toList

def taskCompleteValue : Json :=
  .obj [("type", .str "event_msg"), ("payload", .obj [("type", .str "task_complete")])]

/-- A parser that knows this one text. -/
def onlyTaskComplete : LogText where
  fromStr line := if line = taskComplete then some taskCompleteValue else none
  fromSlice _ := none
  taskIds _ := []
  finishedTaskIds _ := []

def oneLine : List UInt8 := encode taskComplete ++ [newline]

theorem pollInvariant_between_lines :
    (∀ n ∈ [oneLine.length], n ≤ (oneLine ++ oneLine).length) ∧
    PollInvariant onlyTaskComplete "codex" "rollout-1.jsonl" (oneLine ++ oneLine) { cursors := [] }
      [oneLine.length] := by
  have within : ∀ n ∈ [oneLine.length], n ≤ (oneLine ++ oneLine).length := by simp
  refine ⟨within, pollInvariant_of_quiet within ⟨Nat.zero_le _, quietCut_of_atStart (.inr ?_), trivial⟩⟩
  decide +kernel

/-- The line comes in two writes and a call sees the first of them: the turn is lost. -/
theorem not_pollInvariant_cut :
    ¬ ∃ text : LogText, text.fromStr taskComplete = some taskCompleteValue ∧
      text.fromStr (taskComplete.take 10) = none ∧
      PollInvariant text "codex" "rollout-1.jsonl" oneLine { cursors := [] } [10] := by
  rintro ⟨text, whole, part, same⟩
  have parsedWhole : parseProviderLogLine text "codex" (decodeLossy (slice oneLine 0 55)) =
      .turnComplete none none := by
    rw [show decodeLossy (slice oneLine 0 55) = taskComplete by decide +kernel,
      parseProviderLogLine, whole]
    rfl
  have parsedPart : parseProviderLogLine text "codex" (decodeLossy (slice oneLine 0 10)) =
      .notTerminal := by
    rw [show decodeLossy (slice oneLine 0 10) = taskComplete.take 10 by decide +kernel,
      parseProviderLogLine, part]
  -- The one call reads the line, the first of the two reads its part.
  have read : ∀ acc, foldLines newline (readLogLine text "codex" "rollout-1.jsonl") oneLine 0 acc =
      readLogLine text "codex" "rollout-1.jsonl" (oneLine.take 55) (slice oneLine 0 55) 56 acc := by
    intro acc
    rw [foldLines_of_lt (by decide +kernel), show nextLine newline oneLine 0 = 56 by decide +kernel,
      foldLines_of_le (by decide +kernel), visit,
      show lineEnd newline oneLine 0 = 55 by decide +kernel,
      show nextLine newline oneLine 0 = 56 by decide +kernel, if_neg (by decide)]
  have readPart : ∀ acc,
      foldLines newline (readLogLine text "codex" "rollout-1.jsonl") (oneLine.take 10) 0 acc =
        readLogLine text "codex" "rollout-1.jsonl" (oneLine.take 10) (slice oneLine 0 10) 10 acc :=
    foldLines_take_inside (by decide) (by decide +kernel) (by decide +kernel)
  have first : readProviderLogTailWithState text "codex" [("rollout-1.jsonl", oneLine.take 10)]
      { cursors := [] } = ([], { cursors := [("rollout-1.jsonl", 10)] }) := by
    rw [readProviderLogTail_one (Nat.zero_le _)]
    rw [show resume newline (oneLine.take 10) _ = 0 by decide +kernel, readPart, readLogLine,
      parsedPart]
    rfl
  have second : (readProviderLogTailWithState text "codex" [("rollout-1.jsonl", oneLine)]
      { cursors := [("rollout-1.jsonl", 10)] }).1 = [] := by
    rw [readProviderLogTail_one (by decide +kernel)]
    rw [show resume newline oneLine _ = 56 by decide +kernel, foldLines_of_le (by decide +kernel)]
  have once : (readProviderLogTailWithState text "codex" [("rollout-1.jsonl", oneLine)]
      { cursors := [] }).1 = [⟨none, none, "rollout-1.jsonl", 56⟩] := by
    rw [readProviderLogTail_one (Nat.zero_le _)]
    rw [show resume newline oneLine _ = 0 by decide +kernel, read, readLogLine, parsedWhole]
    rfl
  rw [PollInvariant, List.cons_append, List.nil_append, pollCompletions, first, pollCompletions,
    List.take_length, once] at same
  simp [second, pollCompletions] at same

end Ccbd
