import Mathlib.Data.List.Basic

/-!
# Reply texts

The pure text functions behind a completion: removal of terminal escapes, the
distillation of a reply from a screen, the test for a bare prompt, the idle marker
and the classification of a reply as final or deferred. Texts are lists of
characters.
-/

namespace Ccbd.Reply

/-! ## Text primitives -/

/-- `char::is_whitespace`. -/
def isWhitespace (c : Char) : Bool :=
  let n := c.toNat
  (9 ≤ n && n ≤ 13) || n = 0x20 || n = 0x85 || n = 0xa0 || n = 0x1680 ||
    (0x2000 ≤ n && n ≤ 0x200a) || n = 0x2028 || n = 0x2029 || n = 0x202f || n = 0x205f ||
    n = 0x3000

/-- `str::trim`. -/
def trim (text : List Char) : List Char :=
  ((text.dropWhile isWhitespace).reverse.dropWhile isWhitespace).reverse

/-- The text before and after the first occurrence of `pat`. -/
def cut (pat : List Char) : List Char → Option (List Char × List Char)
  | [] => if pat.isEmpty then some ([], []) else none
  | c :: cs =>
    if pat.isPrefixOf (c :: cs) then some ([], (c :: cs).drop pat.length)
    else (cut pat cs).map fun r => (c :: r.1, r.2)

/-- `str::contains`. -/
def containsText (text pat : List Char) : Bool := (cut pat text).isSome

/-- The pieces of a text between newlines. -/
def splitLines : List Char → List (List Char)
  | [] => [[]]
  | c :: cs =>
    if c = '\n' then [] :: splitLines cs
    else match splitLines cs with
      | [] => [[c]]
      | l :: ls => (c :: l) :: ls

/-- `str::lines`: no carriage return before a newline, and no empty last line. -/
def lines (text : List Char) : List (List Char) :=
  let pieces := splitLines text
  let ended := pieces.dropLast.map fun l => if l.getLast? = some '\r' then l.dropLast else l
  ended ++ (pieces.getLast?.toList.filter fun l => !l.isEmpty)

/-- The lowercase text as far as it can match an ASCII pattern: two further letters
have a lowercase form with an ASCII letter in it. -/
def lowercase (text : List Char) : List Char :=
  text.flatMap fun c =>
    if c.toNat = 0x212a then ['k']
    else if c.toNat = 0x130 then ['i', Char.ofNat 0x307]
    else [c.toLower]

/-! ## Terminal escapes -/

/-- Where the scan for escapes is. -/
inductive AnsiMode where
  | text
  | escape
  | csi
  | osc
  | oscEscape
  | dcs
  | dcsEscape

def esc : Char := Char.ofNat 0x1b
def bel : Char := Char.ofNat 0x07

def stripAnsiGo : AnsiMode → List Char → List Char
  | _, [] => []
  | .text, c :: cs => if c = esc then stripAnsiGo .escape cs else c :: stripAnsiGo .text cs
  | .escape, c :: cs =>
    if c = '[' then stripAnsiGo .csi cs
    else if c = ']' then stripAnsiGo .osc cs
    else if c = 'P' ∨ c = '_' ∨ c = '^' ∨ c = 'X' then stripAnsiGo .dcs cs
    else stripAnsiGo .text cs
  | .csi, c :: cs => if '@' ≤ c ∧ c ≤ '~' then stripAnsiGo .text cs else stripAnsiGo .csi cs
  | .osc, c :: cs =>
    if c = bel then stripAnsiGo .text cs
    else if c = esc then stripAnsiGo .oscEscape cs
    else stripAnsiGo .osc cs
  | .oscEscape, c :: cs =>
    if c = '\\' ∨ c = bel then stripAnsiGo .text cs
    else if c = esc then stripAnsiGo .oscEscape cs
    else stripAnsiGo .osc cs
  | .dcs, c :: cs => if c = esc then stripAnsiGo .dcsEscape cs else stripAnsiGo .dcs cs
  | .dcsEscape, c :: cs =>
    if c = '\\' then stripAnsiGo .text cs
    else if c = esc then stripAnsiGo .dcsEscape cs
    else stripAnsiGo .dcs cs

def stripAnsiEscapes (input : List Char) : List Char := stripAnsiGo .text input

/-! ## Distillation -/

/-- `str::len`. -/
def byteLen : List Char → Nat
  | [] => 0
  | c :: cs => c.utf8Size + byteLen cs

/-- `&text[start..]`. -/
def sliceFrom (start : Nat) : List Char → List Char
  | [] => []
  | c :: cs => if start = 0 then c :: cs else sliceFrom (start - c.utf8Size) cs

/-- The loop of `normalize_whitespace_with_end_offsets`: what is pushed to the two vectors, the
whitespace flag, and the byte offset of the next character. -/
structure NormalizeLoop where
  pushed : List (Char × Nat) := []
  inWhitespace : Bool := false
  idx : Nat := 0

def NormalizeLoop.step (st : NormalizeLoop) (c : Char) : NormalizeLoop :=
  let stop := st.idx + c.utf8Size
  if isWhitespace c then
    if !st.pushed.isEmpty && !st.inWhitespace then ⟨st.pushed ++ [(' ', stop)], true, stop⟩
    else { st with idx := stop }
  else ⟨st.pushed ++ [(c, stop)], false, stop⟩

def normalizeLoop (input : List Char) : NormalizeLoop := input.foldl NormalizeLoop.step {}

def endsBlank (pushed : List (Char × Nat)) : Bool := pushed.getLast?.any (·.1 = ' ')

/-- The normalised text, each character with its end offset; a blank at the end is popped. -/
def normalizeWhitespaceWithEndOffsets (input : List Char) : List (Char × Nat) :=
  let pushed := (normalizeLoop input).pushed
  if endsBlank pushed then pushed.dropLast else pushed

/-- The text with single blanks for its whitespace, and none at its ends. -/
def normalized (text : List Char) : List Char :=
  (normalizeWhitespaceWithEndOffsets text).map Prod.fst

def promptMatchEndByte (raw promptText : List Char) : Option Nat :=
  let rawEndOffsets := (normalizeWhitespaceWithEndOffsets raw).map Prod.snd
  let normalizedPrompt := normalized promptText
  if normalizedPrompt.isEmpty then none
  else (cut normalizedPrompt (normalized raw)).bind fun (before, _) =>
    rawEndOffsets[before.length + normalizedPrompt.length - 1]?

def stripPromptMarker (line : List Char) : Option (List Char) :=
  ["> ", "❯ ", "✦ ", "› ", "* "].findSome? fun marker =>
    if marker.toList.isPrefixOf line then some (line.drop marker.toList.length) else none

def isPromptEchoLine (trimmed promptText : List Char) : Bool :=
  if promptText.isEmpty || trimmed.isEmpty then false
  else if trimmed = promptText then true
  else match stripPromptMarker trimmed with
    | none => false
    | some rest =>
      let rest := trim rest
      !rest.isEmpty && (rest = promptText || rest.isPrefixOf promptText)

def isBoxDrawingLine (trimmed : List Char) : Bool :=
  trimmed.all fun c => 0x2500 ≤ c.toNat && c.toNat ≤ 0x257f

def isReplyChromeLine (trimmed : List Char) : Bool :=
  if trimmed.isEmpty then false
  else if isBoxDrawingLine trimmed then true
  else if [">", "❯", "✦", "›"].any fun s => s.toList = trimmed then true
  else if ["▸ Thought", "▸ Thinking"].any fun s => s.toList.isPrefixOf trimmed then true
  else "? for shortcuts".toList.isPrefixOf trimmed ||
    containsText trimmed "esc to cancel".toList ||
    ("gpt-".toList.isPrefixOf trimmed && containsText trimmed "·".toList)

/-- A line of the screen that is no part of the reply. -/
def isNoiseLine (promptText line : List Char) : Bool :=
  let trimmed := trim line
  isPromptEchoLine trimmed promptText || trimmed.map Char.toLower = "thinking...".toList ||
    (["Thinking...", "Working(", "• Working("].any fun s => s.toList.isPrefixOf trimmed) ||
    isReplyChromeLine trimmed

def distillReply (raw promptText : List Char) : List Char :=
  let withoutAnsi := stripAnsiEscapes raw
  let currentTurn := match promptMatchEndByte withoutAnsi promptText with
    | some stop => sliceFrom stop withoutAnsi
    | none => withoutAnsi
  let kept := (lines currentTurn).filter fun line => !isNoiseLine promptText line
  let text := ['\n'].intercalate kept
  let text := if promptText.isEmpty then text
    else match cut promptText text with
      | some (before, after) => before ++ after
      | none => text
  trim text

def isPromptOnlyReply (replyText : String) : Bool :=
  let text := trim (stripAnsiEscapes replyText.toList)
  text.isEmpty || ["$", "#", ">", "✦", "❯", "›", "▌", "%"].any fun s => s.toList = text

/-- The job id of the first idle marker in a text. -/
def extractAhIdleMarkerJobId (text : String) : Option String :=
  match cut "<<ah-idle:job-id=".toList text.toList with
  | none => none
  | some (_, rest) =>
    match cut ">>".toList rest with
    | none => none
    | some (jobId, _) => if (trim jobId).isEmpty then none else some (String.ofList (trim jobId))

/-! ## Terminality -/

/-- Some line has `first` and, after it, `second`. -/
def lineHasBoth (text first second : List Char) : Bool :=
  (splitLines text).any fun line =>
    (cut first line).any fun r => containsText r.2 second

/-- The prose that announces background work. -/
def announcesBackgroundWork (candidateReply : List Char) : Bool :=
  (["waiting for", "still running", "running in the background", "background cargo", "i'll wait",
      "will report", "i'll update", "once it finishes"].any fun p =>
        containsText (lowercase candidateReply) p.toList) ||
    (["等待", "等后台", "还在跑", "仍在运行", "跑完后", "稍后回报"].any fun p =>
      containsText candidateReply p.toList) ||
    lineHasBoth candidateReply "后台".toList "跑".toList ||
    lineHasBoth candidateReply "完成后".toList "报告".toList

inductive CompletionTerminality where
  | terminal
  | deferredBackgroundWork (reason : String)
deriving DecidableEq, Repr

def classifyTerminality (provider candidateReply : String) (hasPendingTasks : Option Bool) :
    CompletionTerminality :=
  let deferred := .deferredBackgroundWork "ANTIGRAVITY_DEFERRED_BACKGROUND_WORK"
  if provider = "antigravity" then
    match hasPendingTasks with
    | some true => deferred
    | some false => .terminal
    | none => if announcesBackgroundWork candidateReply.toList then deferred else .terminal
  else .terminal

end Ccbd.Reply
