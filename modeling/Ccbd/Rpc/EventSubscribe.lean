import Ccbd.Audit.Settlement

/-!
# The event subscription

`stream_event_subscribe` looks into the database for an event its caller has missed, and
only then subscribes to a channel: to the event frames, or, for the state changes of one
job, to the job updates. A publisher commits first and notifies afterwards. What is
committed after the look and notified before the subscription is seen by neither.
-/

namespace Ccbd

open Lib

/-! ## Frames and filters -/

structure EventFrame where
  eventId : Int
  kind : String
  agentId : String
  jobId : Option String
  state : Option String
  tsUnixMicro : Int
  payload : Option Json
deriving Repr

def eventTypeToFrameKind (eventType : String) (payload : Json) : String :=
  if eventType = "UNKNOWN_PATTERN_STABLE" then "unknown_pattern"
  else if eventType = "UNKNOWN_PROMPT_DETECTED" then "unknown_prompt"
  else if eventType = "state_change" ∧ payload.strField? "to" = some "STUCK" then "stuck"
  else eventType

/-- `created_at.saturating_mul(1_000_000)`. -/
def microsOf (createdAt : Int) : Int :=
  max (-9223372036854775808) (min 9223372036854775807 (createdAt * 1000000))

def eventFrameFromParts (seqId : Nat) (eventType agentId : String) (state : Option String)
    (createdAt : Int) (payload : Json) : EventFrame where
  eventId := seqId
  kind := eventTypeToFrameKind eventType payload
  agentId := agentId
  jobId := payload.strField? "job_id"
  state := (((payload.get? "to").or (payload.get? "state")).bind Json.asStr?).or state
  tsUnixMicro := microsOf createdAt
  payload := some payload

def requestedEventKinds (params : Json) : Option (List String) :=
  match (params.get? "kind").or (params.get? "event_kind") with
  | none => none
  | some (.arr kinds) => some (kinds.filterMap Json.asStr?)
  | some (.str kind) => some [kind]
  | some _ => some []

def eventKindIncludes (params : Json) (kind : String) : Bool :=
  match requestedEventKinds params with
  | some kinds => kinds.contains kind
  | none => kind = "job_state_change"

def shouldUseJobTerminalSubscription (params : Json) : Bool :=
  (params.strField? "job_id").isSome &&
    ((requestedEventKinds params).map (·.contains "job_state_change")).getD true

def eventFrameMatchesFilter (frame : EventFrame) (params : Json) : Bool :=
  (requestedEventKinds params).all (·.contains frame.kind) &&
    (params.strField? "agent_id").all (frame.agentId = ·) &&
    (params.strField? "job_id").all (frame.jobId = some ·)

/-! ## The looks into the database -/

/-- The events after a sequence id, with the state of their agents. -/
def queryEventsBackfillSync (db : Db) (sinceSeqId : Int) (agentId : Option String)
    (kinds : Option (List String)) : List EventFrame :=
  let rows := db.events.select fun seq e => sinceSeqId < seq && agentId.all (e.agentId = ·)
  let frames := rows.filterMap fun (seq, e) => (db.agents.get? e.agentId).map fun agent =>
    eventFrameFromParts seq e.eventType e.agentId (some agent.state.asDbStr) e.createdAt e.payload
  frames.filter fun frame => kinds.all (·.contains frame.kind)

def subscriptionBackfill (db : Db) (params : Json) : List EventFrame :=
  match (params.get? "since_seq_id").bind Json.asI64? with
  | none => []
  | some since =>
    (queryEventsBackfillSync db since (params.strField? "agent_id")
      (requestedEventKinds params)).filter fun frame =>
        (params.strField? "job_id").all (frame.jobId = some ·)

/-- `payloadLike` is SQLite's `LIKE` on the text of a payload. -/
def queryLastEventOfTypeMatchingPayloadSync (db : Db) (agentId eventType : String)
    (payloadLike : Json → Bool) (beforeSeqId : Option Nat) : Option (Nat × Event) :=
  db.events.latest? fun seq e =>
    e.agentId = agentId && e.eventType = eventType && payloadLike e.payload &&
      beforeSeqId.all (seq < ·)

/-- The frame of a stored change to STUCK. -/
def stuckFrame (agentId : String) (seqId : Nat) (payload : Json) (nowUnixMicro : Int) :
    EventFrame where
  eventId := seqId
  kind := "stuck"
  agentId := agentId
  jobId := payload.strField? "job_id"
  state := some "STUCK"
  tsUnixMicro := nowUnixMicro
  payload := some (.obj
    [("elapsed_secs", .num (((payload.get? "elapsed_secs").bind Json.asI64?).getD 0)),
      ("job_id", Json.ofOptStr (payload.strField? "job_id")),
      ("signal_kinds", (payload.get? "signal_kinds").getD (.arr [.str "state_machine"]))])

def eventFrameForJob (db : Db) (jobId : String) (nowUnixMicro : Int) :
    Except CcbdError (Option EventFrame) :=
  match db.jobs.get? jobId with
  | none => .error (.ipcInvalidRequest s!"job_id not found: {jobId}")
  | some job =>
    if job.status.isSettled = false then .ok none
    else
      let payload := Json.obj
        [("error_reason", Json.ofOptStr job.errorReason), ("job_id", .str jobId),
          ("reply_text", Json.ofOptStr job.replyText), ("status", .str job.status.asDbStr)]
      .ok (some
        { eventId := job.completedAt.getD 0, kind := "job_state_change", agentId := job.agentId
          jobId := some jobId, state := some job.status.asDbStr, tsUnixMicro := nowUnixMicro
          payload := some payload })

/-! ## Publishers -/

inductive PublisherPhase where
  | ready
  | committed
  | notified
  | finished
deriving DecidableEq, Repr

/-- What a publisher commits, and the notice that follows. A wrapper such as
`mark_agent_idle_matched` notifies, and its callers notify `again`. -/
inductive Publication where
  | event (agentId : String) (requestId : Option String) (eventType : String) (payload : Json)
      (frame : EventFrame)
  | jobStatus (jobId : String) (expectedFrom toStatus : JobStatus) (reason : String)
      (again : Bool)

namespace Publication

def commit (db : Db) (now : Int) : Publication → Except CcbdError Db
  | event a request ty payload _ => (insertEventSync db a request ty payload now).map Prod.snd
  | jobStatus j source target reason _ => transitJobState db j source target reason now

/-- Where the next notice of a publisher leads to, if one is due. -/
def afterNotice : Publication → PublisherPhase → Option PublisherPhase
  | jobStatus _ _ _ _ true, .committed => some .notified
  | _, .committed | _, .notified => some .finished
  | _, .ready | _, .finished => none

/-- The filter asks for it: an event of the filter, or the end of the job it is about. -/
def matchesFilter (params : Json) : Publication → Bool
  | event _ _ _ _ frame => eventFrameMatchesFilter frame params
  | jobStatus j _ target _ _ =>
    shouldUseJobTerminalSubscription params && params.strField? "job_id" = some j &&
      target.isSettled

end Publication

structure Publisher where
  what : Publication
  phase : PublisherPhase := .ready

/-! ## The call -/

/-- Where the call stands: before which look, before its subscription, or in its loop with
the notices its receiver holds. -/
inductive SubscribePc where
  | backfill
  | stuckAgent
  | stuckScan (agentId : String) (beforeSeqId : Option Nat)
  | subscribeEvents
  | waitEvents (inbox : List EventFrame)
  | readJob (jobId : String)
  | subscribeJobs (jobId : String)
  | waitJobs (jobId : String) (inbox : List String)
  | checkJob (jobId : String) (inbox : List String)
  /-- A frame is written, or the call has failed. -/
  | done (result : Except CcbdError EventFrame)

structure SubscribeWorld where
  db : Db
  publishers : List Publisher
  pc : SubscribePc := .backfill

/-- A step of the call, of a publisher, or a notice about something else. -/
inductive SubscribeAct where
  | call (nowUnixMicro : Int)
  | commit (publisher : Nat) (now : Int)
  | notify (publisher : Nat)
  | otherFrame (frame : EventFrame)
  | otherJob (jobId : String)

namespace SubscribeWorld

variable (params : Json) (payloadLike : Json → Bool)

/-- After the looks at stored events: `required_str` cannot fail here. -/
def afterLooks : SubscribePc :=
  match params.strField? "job_id" with
  | some j => if shouldUseJobTerminalSubscription params then .readJob j else .subscribeEvents
  | none => .subscribeEvents

/-- The status of the job is looked at; the call goes on with `next` if the job is open. -/
def lookAtJob (w : SubscribeWorld) (jobId : String) (next : SubscribePc) (nowUnixMicro : Int) :
    SubscribePc :=
  match eventFrameForJob w.db jobId nowUnixMicro with
  | .error e => .done (.error e)
  | .ok (some frame) => .done (.ok frame)
  | .ok none => next

/-- `stream_event_subscribe` from one look or notice to the next. A write to the open
connection succeeds, and the receiver does not lag. -/
def proceed (w : SubscribeWorld) (nowUnixMicro : Int) : SubscribePc :=
  match w.pc with
  | .backfill =>
    match (subscriptionBackfill w.db params).head? with
    | some frame => .done (.ok frame)
    | none =>
      if eventKindIncludes params "stuck" && (params.get? "since_seq_id").isNone then .stuckAgent
      else afterLooks params
  | .stuckAgent =>
    match params.strField? "agent_id" with
    | some a => .stuckScan a none
    | none =>
      match params.strField? "job_id" with
      | none => afterLooks params
      | some j =>
        match w.db.jobs.get? j with
        | none => .done (.error (.ipcInvalidRequest s!"job_id not found: {j}"))
        | some job => .stuckScan job.agentId none
  | .stuckScan a before =>
    match queryLastEventOfTypeMatchingPayloadSync w.db a "state_change" payloadLike before with
    | none => afterLooks params
    | some (seq, event) =>
      if event.payload.strField? "to" ≠ some "STUCK" then .stuckScan a (some seq)
      else if (params.strField? "job_id").any (event.payload.strField? "job_id" ≠ some ·) then
        .stuckScan a (some seq)
      else .done (.ok (stuckFrame a seq event.payload nowUnixMicro))
  | .subscribeEvents => .waitEvents []
  | .waitEvents [] => .waitEvents []
  | .waitEvents (frame :: rest) =>
    if eventFrameMatchesFilter frame params then .done (.ok frame) else .waitEvents rest
  | .readJob j => w.lookAtJob j (.subscribeJobs j) nowUnixMicro
  | .subscribeJobs j => .waitJobs j []
  | .waitJobs j [] => .waitJobs j []
  | .waitJobs j (k :: rest) => if k = j then .checkJob j rest else .waitJobs j rest
  | .checkJob j rest => w.lookAtJob j (.waitJobs j rest) nowUnixMicro
  | .done r => .done r

/-- `notify_event`: the frame reaches the receiver, if there is one. -/
def notifyEvent (w : SubscribeWorld) (frame : EventFrame) : SubscribePc :=
  match w.pc with
  | .waitEvents inbox => .waitEvents (inbox ++ [frame])
  | pc => pc

def notifyJobUpdate (w : SubscribeWorld) (jobId : String) : SubscribePc :=
  match w.pc with
  | .waitJobs j inbox => .waitJobs j (inbox ++ [jobId])
  | .checkJob j inbox => .checkJob j (inbox ++ [jobId])
  | pc => pc

/-- The notice of a publication. -/
def notice (w : SubscribeWorld) : Publication → SubscribePc
  | .event _ _ _ _ frame => w.notifyEvent frame
  | .jobStatus j .. => w.notifyJobUpdate j

/-- A publisher that is not at this step, or whose transaction fails, stays where it is. -/
def apply (w : SubscribeWorld) : SubscribeAct → SubscribeWorld
  | .call now => { w with pc := w.proceed params payloadLike now }
  | .commit i now =>
    match w.publishers[i]? with
    | some ⟨what, .ready⟩ =>
      match what.commit w.db now with
      | .ok db => { w with db := db, publishers := w.publishers.set i ⟨what, .committed⟩ }
      | .error _ => w
    | _ => w
  | .notify i =>
    match w.publishers[i]? with
    | some ⟨what, phase⟩ =>
      match what.afterNotice phase with
      | some next => { w with publishers := w.publishers.set i ⟨what, next⟩, pc := w.notice what }
      | none => w
    | none => w
  | .otherFrame frame => { w with pc := w.notifyEvent frame }
  | .otherJob j => { w with pc := w.notifyJobUpdate j }

/-- Before the first step of the call and of every publisher. -/
def begin (db : Db) (publications : List Publication) : SubscribeWorld :=
  { db := db, publishers := publications.map fun what => { what := what } }

end SubscribeWorld

/-- The job is there, and not settled. -/
def Db.isOpen (db : Db) (jobId : String) : Bool :=
  (db.jobs.get? jobId).any (!·.status.isSettled)

/-- The other notices are about something the filter does not ask for, or about its job
while that is open. -/
def SubscribeAct.Foreign (params : Json) (db : Db) : SubscribeAct → Prop
  | otherFrame frame => eventFrameMatchesFilter frame params = false
  | otherJob j => params.strField? "job_id" = some j → db.isOpen j = true
  | _ => True

/-- The call, the publishers and foreign notices. -/
def SubscribeAct.Step (params : Json) (payloadLike : Json → Bool) (w : SubscribeWorld)
    (act : SubscribeAct) (w' : SubscribeWorld) : Prop :=
  act.Foreign params w.db ∧ w' = w.apply params payloadLike act

end Ccbd
