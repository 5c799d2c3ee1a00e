import Ccbd.Lib.Path
import Ccbd.Rpc.Spawn
import Mathlib.Data.Finset.Basic

/-!
# The sandbox of a spawn

`handle_agent_spawn_with_db_action` once more, with the directories it creates and the
guard that removes them: every return before the last line drops the `SandboxDirGuard`, and
the drop removes the provider home that belongs to the directory and the directory itself.

`SpawnSteps` answers each step that asks something of the machine, where `Ccbd.Rpc.Spawn` has
one answer for all of them.
-/

namespace Ccbd

open Lib

/-! ## Paths -/

/-- What the daemon reads of its process to name a directory. A path that cannot be
resolved is its own canonical form; the digest is the first six bytes of SHA-256, in hex. -/
structure Host where
  stateDir : String
  unsafeNoSandbox : Bool := false
  xdgCacheHome : Option String := none
  home : Option String
  canonicalize : String → String := id
  shortDigest : String → String

def envHome (host : Host) : Except CcbdError String :=
  match host.home.filter (· ≠ "") with
  | some home => .ok home
  | none => .error (.environmentNotSupported "HOME is not set for provider home materialization")

def xdgCacheRoot (host : Host) : Except CcbdError String :=
  match host.xdgCacheHome.filter (· ≠ "") with
  | some cache => .ok cache
  | none => (envHome host).map (Path.join · ".cache")

def sandboxHomeForSandboxDir (host : Host) (sandboxDir : String) : Except CcbdError String :=
  (xdgCacheRoot host).map fun root =>
    Path.join (Path.join root "ah/sandboxes") (host.shortDigest (host.canonicalize sandboxDir))

def validateIdCharset (field value : String) : Except CcbdError Unit :=
  if value = "" || !value.toList.all (fun c => c.isAlphanum || c = '_' || c = '-') then
    .error (.ipcInvalidRequest ("invalid " ++ field ++ " for sandbox path: " ++ value))
  else .ok ()

def Host.sandboxDir (host : Host) (sessionId agentId : String) : String :=
  Path.join (Path.join (Path.join host.stateDir "sandboxes") sessionId) agentId

/-- `created` is the answer to `create_dir_all`. -/
def resolveSandboxDir (host : Host) (sessionId agentId : String)
    (created : Except CcbdError Unit) : Except CcbdError String := do
  validateIdCharset "session_id" sessionId
  validateIdCharset "agent_id" agentId
  created
  return host.sandboxDir sessionId agentId

/-! ## The machine -/

structure Machine where
  db : Db
  dirs : Finset String

/-- How the machine answers the steps of one spawn. -/
structure SpawnSteps where
  credentials : Except CcbdError Unit := .ok ()
  sandboxDir : Except CcbdError Unit := .ok ()
  homeLayout : Except CcbdError Unit := .ok ()
  fifoDir : Except CcbdError Unit := .ok ()
  mkfifo : Except CcbdError Unit := .ok ()
  openFifo : Except CcbdError Unit := .ok ()
  ensureSession : Except CcbdError Unit := .ok ()
  spawnWindow : Except CcbdError Unit := .ok ()
  panePid : Except CcbdError Int
  pipePane : Except CcbdError Unit := .ok ()
  pidfdOpen : Except CcbdError Unit := .ok ()
  pidfdClone : Except CcbdError Unit := .ok ()
  /-- Whether `remove_dir_all` works on a path. -/
  removable : String → Bool := fun _ => true
  now : Int

variable {db : Db} {ext : ExtensionConfig} {m : Machine} {manifest : String} {α : Type}

namespace Machine

def createDirAll (m : Machine) (dir : String) : Machine := { m with dirs := insert dir m.dirs }

/-- A failure is only logged. -/
def removeDirAll (m : Machine) (steps : SpawnSteps) (dir : String) : Machine :=
  if steps.removable dir then { m with dirs := m.dirs.erase dir } else m

@[simp] theorem createDirAll_db (m : Machine) (dir : String) : (m.createDirAll dir).db = m.db := rfl

@[simp] theorem removeDirAll_db (m : Machine) (steps : SpawnSteps) (dir : String) :
    (m.removeDirAll steps dir).db = m.db := by
  unfold removeDirAll
  split_ifs <;> rfl

end Machine

/-- A procedure of the database. -/
def onDb {α : Type} (m : EStateM CcbdError Db α) : EStateM CcbdError Machine α :=
  zoom Machine.db (fun s db => { s with db := db }) m

structure SandboxDirGuard where
  path : String

variable (host : Host) (manifest : String)

/-- Removes the home that belongs to the directory, then the directory. -/
def SandboxDirGuard.drop (steps : SpawnSteps) (guard : SandboxDirGuard) (m : Machine) : Machine :=
  let m := match sandboxHomeForSandboxDir host guard.path with
    | .ok homeRoot => m.removeDirAll steps homeRoot
    | .error _ => m
  m.removeDirAll steps guard.path

/-- Whether the guard comes into being does not depend on the machine's directories. -/
def sandboxGuard (p : AgentSpawnParams) (steps : SpawnSteps) :
    Except CcbdError (Option SandboxDirGuard) :=
  if host.unsafeNoSandbox then .ok none
  else (resolveSandboxDir host p.sessionId p.agentId steps.sandboxDir).map (some ⟨·⟩)

/-- `requires_home_materialization` of the manifests; that of bash is the exception. -/
def requiresHomeMaterialization : Bool :=
  manifest = "codex" || manifest = "claude" || manifest = "antigravity"

/-- The home that is filled for the provider. The source home is read first. -/
def materializedHome (guard : Option SandboxDirGuard) : Except CcbdError (Option String) :=
  match guard with
  | some guard =>
    if requiresHomeMaterialization manifest then do
      let _ ← envHome host
      return some (← sandboxHomeForSandboxDir host guard.path)
    else .ok none
  | none => .ok none

def layoutResult (guard : Option SandboxDirGuard) (steps : SpawnSteps) : Except CcbdError Unit := do
  match ← materializedHome host manifest guard with
  | some _ => steps.homeLayout
  | none => return ()

/-- From the fifo to the pidfd. -/
def SpawnSteps.startProcess (steps : SpawnSteps) : Except CcbdError Int := do
  steps.fifoDir
  steps.mkfifo
  steps.openFifo
  steps.ensureSession
  steps.spawnWindow
  let pid ← steps.panePid
  steps.pipePane
  steps.pidfdOpen
  steps.pidfdClone
  return pid

/-- What the machine answers to the steps that run under the guard. -/
def SpawnSteps.guarded (steps : SpawnSteps) (host : Host) (manifest : String)
    (guard : Option SandboxDirGuard) : Except CcbdError Int := do
  layoutResult host manifest guard steps
  steps.startProcess

/-- One answer for all the steps. -/
def SpawnSteps.answers (steps : SpawnSteps) (host : Host) (env : SpawnEnv) (p : AgentSpawnParams) :
    SpawnAnswers where
  credentials := steps.credentials
  process := do
    let manifest ← env.manifest p.provider
    let guard ← sandboxGuard host p steps
    steps.guarded host manifest guard
  now := steps.now

variable {host manifest}

/-! ## The steps and the database -/

variable {guard : SandboxDirGuard}

section Directories

variable {host : Host} {env : SpawnEnv} {p : AgentSpawnParams} {steps : SpawnSteps}

end Directories

end Ccbd
