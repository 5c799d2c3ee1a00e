import Ccbd.Db.Jobs

/-!
# The life of a piece of evidence

Evidence is recorded PENDING, sealed when the state of its agent is lost, reviewed by an
assertion and discarded by an operator. Sealing and reviewing are part of the operations
in `Ccbd.Db.StateMachine`.
-/

namespace Ccbd

open Lib

/-- The event stays when the second insert fails: the two are not one transaction.
`evidenceId` is the fresh id the source draws. -/
def insertEvidenceRecordSync (db : Db) (evidenceId agentId : String) (jobId : Option String)
    (evidenceType : String) (payload : Json) (now : Int) : Except CcbdError String × Db :=
  if (db.agents.get? agentId).isNone then
    (.error (.dbConstraintViolation
      "insert evidence record event: FOREIGN KEY constraint failed"), db)
  else
    let db := db.appendEvent agentId "evidence_recorded" payload now
    if (db.evidence.get? evidenceId).isSome then
      (.error (.dbConstraintViolation
        "insert evidence record: UNIQUE constraint failed: evidence.id"), db)
    else if jobId.any fun j => (db.jobs.get? j).isNone then
      (.error (.dbConstraintViolation "insert evidence record: FOREIGN KEY constraint failed"), db)
    else
      (.ok evidenceId, db.insertEvidence evidenceId
        { agentId := agentId, eventSeqId := db.lastEventSeq, jobId := jobId,
          evidenceType := some evidenceType, createdAt := now })

def updateEvidenceStatusSync (db : Db) (evidenceId status : String)
    (l3AssertedState : Option String) : Db :=
  { db with
    evidence := db.evidence.modify evidenceId
      ({ · with status := status, l3AssertedState := l3AssertedState }) }

def discardEvidenceSync (db : Db) (evidenceId : String) : Except CcbdError (Unit × Db) :=
  if (db.evidence.get? evidenceId).isNone then
    .error (.dbEvidenceNotFound s!"evidence_id={evidenceId}")
  else .ok ((), updateEvidenceStatusSync db evidenceId "DISCARDED" none)

end Ccbd
