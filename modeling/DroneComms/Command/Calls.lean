import DroneComms.Command.Commands
import DroneComms.Fpv.Health

/-!
# Calls into the surroundings

The supervised command path is driven by injected objects: an id factory, a
health provider, a clock, an audit log and a link.  A `Call` is one request the
code makes to one of them and a `Reply` is what comes back, an exception
included.  The machines of `Lifecycle.lean` and `Service.lean` stand still at a
call and resume with its reply, so that a run of them is a list of replies.

The audit records are the ones the code writes; `AuditEvent.event` and
`AuditEvent.data` are the two arguments of `audit.record`.
-/

namespace DroneComms.Command

/-- One record of the command audit. -/
inductive AuditEvent where
  | commandStaged (id name : String) (command : Int)
  | commandCancelled (id : String)
  | armBlocked (id : String)
  | commandConfirmed (id name : String) (forceAck : Bool)
  | commandAttempt (command : Int) (name : String) (attempt : Int)
  | commandNoAck (command : Int) (name : String) (attempt : Int)
  | commandAccepted (command : Int) (name : String) (attempt : Int)
  | commandRejected (command : Int) (name : String) (attempt result : Int)
  | commandRetry (command : Int) (name : String) (attempt result : Int)
  | commandFailed (command : Int) (name : String) (attempts : Int) (result : Option Int)
deriving DecidableEq, Repr

namespace AuditEvent

/-- The `event` argument of `audit.record`. -/
def event : AuditEvent → String
  | commandStaged .. => "command_staged"
  | commandCancelled .. => "command_cancelled"
  | armBlocked .. => "arm_blocked"
  | commandConfirmed .. => "command_confirmed"
  | commandAttempt .. => "command_attempt"
  | commandNoAck .. => "command_no_ack"
  | commandAccepted .. => "command_accepted"
  | commandRejected .. => "command_rejected"
  | commandRetry .. => "command_retry"
  | commandFailed .. => "command_failed"

/-- The `base` dictionary of an execution with the fields added to it. -/
def base (command : Int) (name : String) (extra : List (String × Py.Value)) :
    List (String × Py.Value) :=
  ("command", .int command) :: ("name", .str name) :: extra

/-- The `data` argument of `audit.record`. -/
def data : AuditEvent → List (String × Py.Value)
  | commandStaged id name command =>
      [("id", .str id), ("name", .str name), ("command", .int command)]
  | commandCancelled id | armBlocked id => [("id", .str id)]
  | commandConfirmed id name forceAck =>
      [("id", .str id), ("name", .str name), ("force_ack", .bool forceAck)]
  | commandAttempt command name attempt | commandNoAck command name attempt
  | commandAccepted command name attempt => base command name [("attempt", .int attempt)]
  | commandRejected command name attempt result | commandRetry command name attempt result =>
      base command name [("attempt", .int attempt), ("result", .int result)]
  | commandFailed command name attempts result =>
      base command name
        [("attempts", .int attempts), ("result", result.elim .none Py.Value.int)]

/-- The three records that close an execution. -/
def isTerminal : AuditEvent → Bool
  | commandAccepted .. | commandRejected .. | commandFailed .. => true
  | _ => false

end AuditEvent

/-- `Ack`: a received COMMAND_ACK. -/
structure Ack where
  command : Int
  result : Int
  sourceSystem : Int := 1
deriving DecidableEq, Repr

/-- A call into the surroundings. -/
inductive Call where
  | /-- `id_factory.new_id()`. -/ newId
  | /-- `health_provider()`. -/ health
  | /-- `clock.now()`. -/ now
  | /-- `audit.record(event, data)`. -/ record (event : AuditEvent)
  | /-- `link.drain()`. -/ drain
  | /-- `link.send(spec)`. -/ send (spec : CommandSpec)
  | /-- `link.recv_ack(timeout)`. -/ recvAck (timeout : ℚ)

namespace Call

/-- The call goes to the link. -/
def toLink : Call → Bool
  | drain | send _ | recvAck _ => true
  | _ => false

/-- The call is an `audit.record`. -/
def toAudit : Call → Bool
  | record _ => true
  | _ => false

/-- The call is a `link.send`. -/
def isSend : Call → Bool
  | send _ => true
  | _ => false

/-- Whether the call may raise.  Clocks, id factories and health providers do
not. -/
def mayRaise : Call → Bool
  | newId | health | now => false
  | record _ | drain | send _ | recvAck _ => true

end Call

/-- What a call comes back with. -/
inductive Reply where
  | /-- Returned with nothing to tell. -/ done
  | token (id : String)
  | report (report : Option Fpv.HealthReport)
  | time (t : ℚ)
  | ack (ack : Option Ack)
  | /-- Left by an exception, which propagates. -/ raised
deriving DecidableEq, Repr

end DroneComms.Command
