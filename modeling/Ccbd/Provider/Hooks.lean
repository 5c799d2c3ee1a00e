import Ccbd.Lib.ShellWords
import Ccbd.Provider.PluginHome

/-!
# Hooks that report to the daemon

A hook that reports to the daemon is a shell command. Its text is put together from the paths
and ids as they are, so the shell reads it as the words that are meant just if each of them is
plain.
-/

namespace Ccbd

open Lib Lib.Path

structure HookPushContext where
  agentId : String
  provider : String
  ahdSocketPath : String

def hookDebugLogPath (ctx : HookPushContext) : Option String :=
  let safeAgentId := String.ofList (ctx.agentId.toList.map fun c =>
    if c.isAlphanum || c = '-' || c = '_' then c else '_')
  (Disk.parent (components ctx.ahdSocketPath)).map fun _ =>
    join (join (parentText ctx.ahdSocketPath) "hooks-debug") (safeAgentId ++ ".log")

/-- `ahBin` is what `resolve_current_ah_binary` returns. -/
def buildAhHookCommand (ahBin : String) (ctx : HookPushContext) (event : String) : HookItem where
  hookType := "command"
  command := "CCB_SOCKET=" ++ ctx.ahdSocketPath ++ " " ++ ahBin ++ " agent notify --agent-id " ++
    ctx.agentId ++ " --event " ++ event ++ " --provider " ++ ctx.provider ++ " --socket " ++
    ctx.ahdSocketPath ++ " --hook-json" ++
    (hookDebugLogPath ctx).elim "" (" --hook-debug-log " ++ ·)
  timeout := some 5

/-- The words that are meant: the assignment, then the arguments. -/
def hookArgv (ahBin : String) (ctx : HookPushContext) (event : String) : List (List Char) :=
  (["CCB_SOCKET=" ++ ctx.ahdSocketPath, ahBin, "agent", "notify", "--agent-id", ctx.agentId,
    "--event", event, "--provider", ctx.provider, "--socket", ctx.ahdSocketPath, "--hook-json"] ++
    (hookDebugLogPath ctx).elim [] (["--hook-debug-log", ·])).map String.toList

theorem hookCommand_line (ahBin : String) (ctx : HookPushContext) (event : String) :
    (buildAhHookCommand ahBin ctx event).command.toList = Shell.line (hookArgv ahBin ctx event) := by
  simp only [buildAhHookCommand, hookArgv]
  cases hookDebugLogPath ctx <;> simp [Shell.line]

/-- What the shell reads in the command of a hook. -/
def hookWords (ahBin : String) (ctx : HookPushContext) (event : String) :
    Option (List (List Char)) :=
  Shell.words .bare none (buildAhHookCommand ahBin ctx event).command.toList

/-- The shell reads the words that are meant just if all that is filled in is plain, the path of
the socket also behind the name of its variable. -/
theorem hookWords_iff (ahBin : String) (ctx : HookPushContext) (event : String) :
    hookWords ahBin ctx event = some (hookArgv ahBin ctx event) ↔
      ∀ text ∈ ["CCB_SOCKET=" ++ ctx.ahdSocketPath, ahBin, ctx.agentId, event, ctx.provider,
        ctx.ahdSocketPath] ++ (hookDebugLogPath ctx).toList, Shell.Plain text.toList := by
  have fixed : ∀ text ∈ ["agent", "notify", "--agent-id", "--event", "--provider", "--socket",
      "--hook-json", "--hook-debug-log"], Shell.Plain text.toList := by decide
  rw [hookWords, hookCommand_line, Shell.words_line_iff (by simp [hookArgv])]
  simp only [hookArgv]
  cases hookDebugLogPath ctx <;> simp at fixed ⊢ <;> grind

/-- The shell reads in the command of a hook what is meant, whatever the paths and ids are. -/
def HooksInjectionFree : Prop :=
  ∀ ahBin ctx event, hookWords ahBin ctx event = some (hookArgv ahBin ctx event)

/-- A state directory with a blank in its name. -/
theorem not_hooksInjectionFree : ¬HooksInjectionFree := by
  intro free
  have read := free "ah" ⟨"a1", "claude", "/tmp/my state/ahd.sock"⟩ "stop"
  rw [hookWords, hookCommand_line, Shell.words_line_iff (by simp [hookArgv])] at read
  exact absurd (read "/tmp/my state/ahd.sock".toList (by simp [hookArgv])) (by decide)

end Ccbd
