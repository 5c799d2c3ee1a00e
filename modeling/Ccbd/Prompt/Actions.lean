import Ccbd.Completion.Reply
import Ccbd.Db.Schema

/-!
# Prompt actions

What the prompt handler may type into a pane: a key from a short list, a single letter or
digit, or one of three words. An action from anywhere (the knowledge base, learned experience,
a model's answer) is validated against that list before it is sent.
-/

namespace Ccbd.Prompt

open Reply

inductive PromptAction where
  | key (value : String)
  | literal (value : String)
deriving DecidableEq, Repr

inductive ValidatedAction where
  | key (value : String)
  | literal (value : String)
deriving DecidableEq, Repr

inductive PromptHandlerError where
  | invalidAction (details : String)
deriving DecidableEq, Repr

def PromptHandlerError.text : PromptHandlerError → String
  | invalidAction details => "invalid prompt action: " ++ details

def PromptHandlerError.toCcbdError (err : PromptHandlerError) : CcbdError :=
  .ipcInvalidRequest err.text

def trimmed (value : String) : String := String.ofList (trim value.toList)

def allowedNamed : List String :=
  ["Esc", "Escape", "Enter", "Up", "Down", "Left", "Right", "Tab", "Space", "BSpace", "Backspace",
    "C-c", "C-d", "Ctrl+C", "Ctrl+D"]

def isSingleAlnum (value : String) : Bool :=
  match value.toList with
  | [c] => c.isAlphanum
  | _ => false

/-- A character within the `{:?}` of a text. Beyond ASCII all are shown as they are. -/
def debugChar (c : Char) : String :=
  if c = '"' then "\\\""
  else if c = '\\' then "\\\\"
  else if c = '\n' then "\\n"
  else if c = '\r' then "\\r"
  else if c = '\t' then "\\t"
  else if c.toNat = 0 then "\\0"
  else if c.toNat < 32 ∨ c.toNat = 127 then
    "\\u\x7b" ++ String.ofList (Nat.toDigits 16 c.toNat) ++ "\x7d"
  else c.toString

/-- The `{:?}` of a text. -/
def debugText (value : String) : String :=
  "\"" ++ String.join (value.toList.map debugChar) ++ "\""

def validateKey (value : String) : Except PromptHandlerError ValidatedAction :=
  let normalized := trimmed value
  if normalized ∈ allowedNamed ∨ isSingleAlnum normalized then .ok (.key normalized)
  else .error (.invalidAction ("key " ++ debugText normalized ++ " is not whitelisted"))

def containsShellMetachar (value : String) : Bool :=
  value.toList.any (· ∈ ['&', '|', ';', '$', Char.ofNat 96, '<', '>', '\n', '\r'])

def allowedLiterals : List String := ["yes", "no", "agree"]

def toAsciiLowercase (value : String) : String := String.ofList (value.toList.map Char.toLower)

def validateLiteral (value : String) : Except PromptHandlerError ValidatedAction :=
  let normalized := trimmed value
  if toAsciiLowercase normalized ∈ allowedLiterals ∧ containsShellMetachar normalized = false then
    .ok (.literal normalized)
  else .error (.invalidAction ("literal " ++ debugText normalized ++ " is not whitelisted"))

def PromptAction.validate : PromptAction → Except PromptHandlerError ValidatedAction
  | key value => validateKey value
  | literal value => validateLiteral value

/-- The keys and words that may be typed. -/
def ValidatedAction.Whitelisted : ValidatedAction → Prop
  | key value => value ∈ allowedNamed ∨ isSingleAlnum value = true
  | literal value => toAsciiLowercase value ∈ allowedLiterals

theorem PromptAction.validate_whitelisted {action : PromptAction}
    (h : action.validate = .ok v) : v.Whitelisted := by
  cases action with
  | key value =>
    simp only [validate, validateKey] at h
    split at h
    · rename_i allowed
      cases h
      exact allowed
    · cases h
  | literal value =>
    simp only [validate, validateLiteral] at h
    split at h
    · rename_i allowed
      cases h
      exact allowed.1
    · cases h

end Ccbd.Prompt
