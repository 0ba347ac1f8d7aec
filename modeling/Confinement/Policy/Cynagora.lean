import Confinement.Policy.Backend
import Confinement.Wire.Connection

/-!
# Permissions kept by a service

The store that talks to a permission service in records.  Checks are single requests; changes are
transactions: entered, made of a drop and one request for each permission, and left with a commit
when every step was answered `done` and with an abort otherwise.

A connection is opened by the first call that needs one and kept for the next, unless the call's
error is one that breaks it.  A call that cannot open one fails, and the next call tries again.
-/

namespace Confinement.Policy

open Host Wire

namespace Cynagora

/-- A client of the service. -/
structure Agent where
  endpoint : String
  /-- Why the next attempt to connect fails, if it does. -/
  unreachable : Option Failure
  /-- The same of the attempts after that one; all further attempts go as the last one does. -/
  attempts : List (Option Failure)
  /-- The peers of the connections still to be opened; after them come silent ones. -/
  peers : List Peer
  /-- The connection that is open. -/
  current : Option Connection
  /-- What each closed connection was sent, in order. -/
  past : List Bytes
  nextCheck : UInt64

/-- The agent of a service with the given peers, not connected yet. -/
def Agent.ofPeers (endpoint : String) (peers : List Peer) : Agent :=
  ⟨endpoint, none, [], peers, none, [], 0⟩

/-- The agent of a service that cannot be reached. -/
def Agent.unreachableAt (endpoint : String) (cause : Failure) : Agent :=
  ⟨endpoint, some cause, [], [], none, [], 0⟩

/-- What each connection was sent, in order. -/
def Agent.sent (agent : Agent) : List Bytes :=
  agent.past ++ (agent.current.map (·.sink.accepted)).toList

/-- Whether a record only tells that cached answers are outdated, and is no reply. -/
def isNotice (record : Record) : Bool := record.lossyTexts.head? == some "clear"

/-- The error of a reply that is not the expected one. -/
def unexpected (request : String) (reply : List String) : BackendError :=
  .unexpectedReply request (String.intercalate " " reply)

/-- Sends one request and reads its reply. -/
def request (fields : List String) : Call Connection (List String) := fun connection =>
  match connection.post (Record.ofTexts fields) with
  | (.error error, next) => (.error (.framing error), next)
  | (.ok (), next) =>
    match next.await isNotice with
    | (.ok record, last) => (.ok record.lossyTexts, last)
    | (.error .closed, last) => (.error .closed, last)
    | (.error (.framing error), last) => (.error (.framing error), last)

/-- Sends one request that must be answered `done`. -/
def expectDone (fields : List String) : Call Connection Unit := do
  let reply ← request fields
  if reply.head? = some "done" then pure ()
  else Action.fail (unexpected (fields.headD "") reply)

/-- Makes the steps of a transaction: commits when they all succeed, aborts otherwise. -/
def transaction (steps : Call Connection Unit) : Call Connection Unit := do
  expectDone ["enter"]
  fun connection =>
    match steps connection with
    | (.ok (), next) => expectDone ["leave", "commit"] next
    | (.error error, next) => (.error error, (expectDone ["leave", "abort"] next).2)

/-- The request that takes every permission from a label. -/
def dropRequest (label : String) : List String := ["drop", label, "*", "*", "*"]

/-- The request that gives a permission to a label. -/
def setRequest (label permission : String) : List String :=
  ["set", label, "*", "*", permission, "yes"]

/-- The steps that give permissions to a label. -/
def addRequests (label : String) (permissions : TextSet) (replace : Bool) : List (List String) :=
  (if replace then [dropRequest label] else []) ++ permissions.items.map (setRequest label)

/-- The request that asks for a permission of a label. -/
def checkRequest (serial : UInt64) (label permission : String) : List String :=
  ["check", toString serial.toNat, label, "*", "*", permission]

def verdict (serial : UInt64) (label permission : String) : Call Connection Bool := do
  let reply ← request (checkRequest serial label permission)
  match reply.head? with
  | some "yes" => pure true
  | some "no" => pure false
  | _ => Action.fail (unexpected "check" reply)

def greet : Call Connection Unit := expectDone ["cynagora", "1"]

def Agent.nextPeer (agent : Agent) : Peer := agent.peers.headD ⟨[], {}⟩

/-- The agent when an attempt to connect has been made. -/
def Agent.attempted (agent : Agent) : Agent :=
  { agent with
    unreachable := agent.attempts.headD agent.unreachable
    attempts := agent.attempts.drop 1 }

/-- Opens a connection and greets. -/
def connect : Call Agent Connection := fun agent =>
  match agent.unreachable with
  | some cause => (.error (.connect agent.endpoint cause), agent.attempted)
  | none =>
    let peer := agent.nextPeer
    let next := { agent.attempted with peers := agent.peers.drop 1 }
    match greet (Connection.fresh peer.source peer.sink) with
    | (.ok (), connection) => (.ok connection, { next with current := some connection })
    | (.error error, connection) =>
      (.error error, { next with past := agent.past ++ [connection.sink.accepted] })

/-- The connection to use: the one that is open, or a new one. -/
def acquire : Call Agent Connection := fun agent =>
  match agent.current with
  | some connection => (.ok connection, agent)
  | none => connect agent

/-- Keeps a connection for the next call, or gives it up after an error that breaks it. -/
def Agent.settle {Result : Type} (agent : Agent) (connection : Connection) :
    Except BackendError Result → Agent
  | .ok _ => { agent with current := some connection }
  | .error error =>
    if error.breaksConnection then
      { agent with current := none, past := agent.past ++ [connection.sink.accepted] }
    else
      { agent with current := some connection }

/-- Works on a connection that is open. -/
def withConnection {Result : Type} (work : Call Connection Result) : Call Agent Result :=
  fun agent =>
    match acquire agent with
    | (.error error, next) => (.error error, next)
    | (.ok connection, next) =>
      let (result, last) := work connection
      (result, next.settle last result)

/-- Whether a label holds a permission; each check has a serial number of its own. -/
def check (label permission : String) : Call Agent Bool := fun agent =>
  withConnection (verdict agent.nextCheck label permission)
    { agent with nextCheck := agent.nextCheck + 1 }

def add (label : String) (permissions : TextSet) (replace : Bool) : Call Agent Unit :=
  withConnection (transaction (Action.forEach expectDone (addRequests label permissions replace)))

/-- Takes every permission from a label. -/
def drop (label : String) : Call Agent Unit :=
  withConnection (transaction (expectDone (dropRequest label)))

end Cynagora

/-- The store that talks to the service through an agent in a part of the world. -/
def cynagoraStore {World : Type} (agent : Part World Cynagora.Agent) : PermissionStore World where
  name := "cynagora"
  check label permission := agent.call (Cynagora.check label permission)
  add label permissions replace := agent.call (Cynagora.add label permissions replace)
  drop label := agent.call (Cynagora.drop label)

end Confinement.Policy
