import Ccbd.Rpc.Spawn

/-!
# Realigning a session

`handle_session_realign` compares the declared agents with the running ones. An agent that
is not running is spawned, a crashed one is respawned, and one whose fingerprint differs is
killed, deleted and respawned, unless it is BUSY and the call is not forced. The running
agents are read once, before the loop.
-/

namespace Ccbd

open Lib

structure RealignMasterParams where
  cmd : String := ""
  hooks : Hooks := .empty
  plugins : List String := []
  skills : List String := []
  bundle : List String := []
  settings : Table String Json := .empty
  bundleDigest : Option BundleDigest := none

/-- A request; every declared agent comes with the answers its spawn would get. -/
structure RealignRequest where
  sessionId : String
  force : Bool := false
  skipMaster : Bool := false
  master : RealignMasterParams := {}
  agents : List (RealignAgentParams × SpawnAnswers)
  configEnv : Table String String := .empty

inductive MasterStatus where
  | skipped
  | noChange
  | realigned
  | drift
deriving DecidableEq, Repr

inductive AgentStatus where
  | new
  | noChange
  | skippedBusy (reason : String)
  | realigned (reason : String)
  | orphan (killed : Bool)
deriving DecidableEq, Repr

inductive RealignResult where
  | master (status : MasterStatus)
  | agent (agentId : String) (status : AgentStatus)
deriving DecidableEq, Repr

/-! ## Fingerprints -/

/-- A digest that came with the request is used as it is. -/
def populateBundleDigest (files : BundleFiles) (role : BundleRole) (bundle : List String) :
    Option BundleDigest → Except CcbdError (Option BundleDigest)
  | some digest => .ok (some digest)
  | none => digestForBundles files role bundle

def populateAgentDigest (files : BundleFiles) (entry : RealignAgentParams × SpawnAnswers) :
    Except CcbdError (RealignAgentParams × SpawnAnswers) := do
  let digest ← populateBundleDigest files .worker entry.1.bundle entry.1.bundleDigest
  return ({ entry.1 with bundleDigest := digest }, entry.2)

def populateBundleDigests (files : BundleFiles) (req : RealignRequest) :
    Except CcbdError RealignRequest := do
  let digest ← populateBundleDigest files .master req.master.bundle req.master.bundleDigest
  let agents ← req.agents.mapM (populateAgentDigest files)
  return { req with master := { req.master with bundleDigest := digest }, agents := agents }

variable (env : SpawnEnv) (req : RealignRequest)

def masterConfigHash (master : RealignMasterParams) : String :=
  computeConfigHash env.digest
    { role := .master master.cmd, hooks := master.hooks, plugins := master.plugins
      skills := master.skills, settings := master.settings, bundle := master.bundleDigest }

/-- The fingerprint of the declared extensions, before any bundle is merged in. -/
def expectedConfigHash (configEnv : Table String String) (agent : RealignAgentParams) : String :=
  computeConfigHash env.digest
    { role := .agent agent.provider (bareConfigEnv configEnv agent.env)
      hooks := agent.hooks, plugins := agent.plugins, skills := agent.skills
      settings := agent.settings, bundle := agent.bundleDigest }

/-! ## Agents -/

/-- The agents of the session that are not KILLED. -/
def runningAgentHashes (db : Db) (sessionId : String) : List (String × Agent) :=
  db.agents.selectOrderBy (fun _ a => a.sessionId = sessionId && a.state ≠ .killed)
    fun x y => x.1 ≤ y.1

def driftReason (running : Agent) (expected : RealignAgentParams) : String :=
  if running.provider ≠ expected.provider then "provider changed"
  else if expected.plugins ≠ [] then "plugins changed"
  else if expected.skills ≠ [] then "skills changed"
  else if expected.bundleDigest.isSome then "bundle changed"
  else if expected.hooks.rows.isEmpty = false then "hooks changed"
  else if expected.env.rows.isEmpty = false then "env changed"
  else "config changed"

/-- What the loop does with a declared agent. -/
inductive RealignDecision where
  | spawnNew
  | respawnCrashed
  | upToDate
  | skipBusy
  | respawnDrifted
deriving DecidableEq, Repr

def realignDecision (running : Option Agent) (expectedHash : String) (force : Bool) :
    RealignDecision :=
  match running with
  | none => .spawnNew
  | some row =>
    if row.state = .crashed then .respawnCrashed
    else if row.configHash = some expectedHash then .upToDate
    else if row.state = .busy && !force then .skipBusy
    else .respawnDrifted

def reasonPayload (reason : String) : Json := .obj [("reason", .str reason)]

/-- The end of a respawn that succeeded. -/
def realigned (agentId reason : String) (now : Int) : EStateM CcbdError Db AgentStatus := do
  insertEvent agentId "drift_realigned" (reasonPayload reason) now
  return .realigned reason

def realignAgent (running : List (String × Agent))
    (entry : RealignAgentParams × SpawnAnswers) : EStateM CcbdError Db AgentStatus :=
  let agent := entry.1
  let agentId := agent.agentId
  let now := entry.2.now
  let expectedHash := expectedConfigHash env req.configEnv agent
  let row := running.lookup agentId
  let reason := (row.map (driftReason · agent)).getD ""
  match realignDecision row expectedHash req.force with
  | .spawnNew => do
    spawnRealignAgent env req.sessionId agent expectedHash false false req.configEnv none entry.2
    return .new
  | .respawnCrashed => do
    atomically fun db => deleteAgentSync db agentId
    spawnRealignAgent env req.sessionId agent expectedHash true true req.configEnv none entry.2
    realigned agentId reason now
  | .upToDate => return .noChange
  | .skipBusy => do
    insertEvent agentId "drift_skipped"
      (.obj [("reason", .str reason), ("state", .str AgentState.busy.asDbStr)]) now
    return .skippedBusy reason
  | .respawnDrifted => do
    let destructiveReason := if row.any (·.state = .busy) then "DRIFT_FORCE_REALIGN"
      else "DRIFT_REALIGN"
    let _ ← atomic fun db => markAgentKilledSync db agentId destructiveReason now
    atomically fun db => deleteAgentSync db agentId
    spawnRealignAgent env req.sessionId agent expectedHash true false req.configEnv none entry.2
    realigned agentId reason now

/-- A turn of the loop over the declared agents. -/
def realignTurn (running : List (String × Agent))
    (entry : RealignAgentParams × SpawnAnswers) : EStateM CcbdError Db RealignResult := do
  let status ← realignAgent env req running entry
  return .agent entry.1.agentId status

/-- A running agent that the request does not name. -/
def realignOrphan (force : Bool) (now : Int) (orphan : String × Agent) :
    EStateM CcbdError Db RealignResult :=
  if force then do
    let _ ← atomic fun db => markAgentKilledSync db orphan.1 "ORPHAN_FORCE_CLEANUP" now
    insertEvent orphan.1 "agent_killed" (reasonPayload "ORPHAN_FORCE_CLEANUP") now
    return .agent orphan.1 (.orphan true)
  else return .agent orphan.1 (.orphan false)

/-! ## The call -/

/-- The master, and whether the call goes on. `respawnMaster` is the forced respawn of the
master pane; it answers no if a newer master is already there. -/
def realignMaster (session : Session)
    (respawnMaster : EStateM CcbdError Db Bool) : EStateM CcbdError Db (MasterStatus × Bool) :=
  if req.skipMaster then return (.skipped, true)
  else if session.configHash = some (masterConfigHash env req.master) then return (.noChange, true)
  else if req.force then do
    let spawned ← respawnMaster
    return (if spawned then .realigned else .noChange, spawned)
  else return (.drift, true)

/-- The agents of the request and then the orphans. -/
def realignAgents (now : Int) : EStateM CcbdError Db (List RealignResult) := do
  let db ← get
  let running := runningAgentHashes db req.sessionId
  let results ← forEach (realignTurn env req running) req.agents
  let orphans := running.filter fun row => (req.agents.map (·.1.agentId)).contains row.1 = false
  let orphanResults ← forEach (realignOrphan req.force now) orphans
  return results ++ orphanResults

/-- The session and the request with its digests. -/
def openRealign (db : Db) : Except CcbdError (Session × RealignRequest) :=
  match db.sessions.get? req.sessionId with
  | none => .error (.ipcInvalidRequest ("session not found: " ++ req.sessionId))
  | some session => do
    let req ← populateBundleDigests (env.files session.absolutePath) req
    return (session, req)

def handleSessionRealign (respawnMaster : EStateM CcbdError Db Bool)
    (req : RealignRequest) (now : Int) : EStateM CcbdError Db (List RealignResult) := do
  let (session, req) ← atomic fun db => (openRealign env req db).map (·, db)
  let (master, goesOn) ← realignMaster env req session respawnMaster
  if goesOn then do
    let results ← realignAgents env req now
    return .master master :: results
  else return [.master master]

end Ccbd
