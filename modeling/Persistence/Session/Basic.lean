import Persistence.Session.Transaction
import Persistence.Session.Notice

/-!
Sessions: units of work against one datastore. A session counts what it is asked for, keeps at most one
transaction, which is an active one, and stays closed once it is closed.
-/

namespace Persistence

/-- A session of a datastore. -/
structure Session where
  id : SessionId
  store : StoreId
  isConnected : Bool := true
  /-- Whether it takes part in the transaction of its registry. -/
  isSynchronized : Bool := false
  transaction : Option Transaction := none
  flushes : Nat := 0
  clears : Nat := 0
  /-- Requests to close, repeated ones included. -/
  closes : Nat := 0
deriving DecidableEq, Inhabited, Repr

namespace Session

/-- Cuts the session off from its datastore. -/
def disconnect (s : Session) : Session :=
  { s with isConnected := false, closes := s.closes + 1 }

/-- What a request to close is noted as. -/
def disconnectNotice (s : Session) : Notice :=
  if s.isConnected then .closed s.id s.store else .alreadyClosed s.id s.store

/-- Fails if the session is closed. -/
def ensureConnected (s : Session) : Except Fault Unit :=
  if s.isConnected then .ok () else .error (.session (.closed s.id))

/-- Flushes what is pending in a session that is connected. -/
def flush (s : Session) : Except Fault Session := do
  s.ensureConnected
  return { s with flushes := s.flushes + 1 }

/-- Forgets what is pending, whether or not the session is connected. -/
def clear (s : Session) : Session := { s with clears := s.clears + 1 }

/-- Marks whether the session takes part in the transaction of its registry. -/
def setSynchronized (flag : Bool) (s : Session) : Session := { s with isSynchronized := flag }

/-- The transaction of the session, while it is active. -/
def activeTransaction? (s : Session) : Option TransactionId :=
  (s.transaction.filter (·.isActive)).map (·.id)

/-- Whether the session has an active transaction. -/
def hasTransaction (s : Session) : Bool := s.activeTransaction?.isSome

/-- Begins a transaction of the given identity. -/
def begin (id : TransactionId) (s : Session) : Except Fault Session := do
  s.ensureConnected
  match s.activeTransaction? with
  | some active => throw (.transaction (.alreadyActive s.id active))
  | none => return { s with transaction := some { id } }

/-- Finishes the transaction of the session, which has none from then on. -/
def finishTransaction (finish : Transaction → Except Fault Transaction) (s : Session) :
    Except Fault (Transaction × Session) :=
  match s.transaction with
  | none => .error (.transaction (.noTransaction s.id))
  | some t => do return (← finish t, { s with transaction := none })

/-- The text of a session in diagnostics. -/
def debug (s : Session) : String :=
  "Session \x7b id: " ++ s!"SessionId({s.id.number}), datastore: DatastoreId({s.store.number}), " ++
    s!"connected: {s.isConnected}" ++ " \x7d"

end Session

/-- The sessions that were ever opened. -/
abbrev Sessions := List Session

namespace Sessions

/-- The session of an identity, if it was opened. -/
def get? (sessions : Sessions) (id : SessionId) : Option Session :=
  sessions.find? (·.id == id)

/-- Changes the session of an identity and no other one. -/
def update (sessions : Sessions) (id : SessionId) (f : Session → Session) : Sessions :=
  sessions.map fun s => if s.id == id then f s else s

/-- Changes all sessions of some identities. -/
def updateAll (sessions : Sessions) (ids : List SessionId) (f : Session → Session) : Sessions :=
  sessions.map fun s => if ids.contains s.id then f s else s

/-- Whether the session was opened and is still connected. -/
def isConnected (sessions : Sessions) (id : SessionId) : Bool :=
  match sessions.get? id with
  | some s => s.isConnected
  | none => false

end Sessions

end Persistence
