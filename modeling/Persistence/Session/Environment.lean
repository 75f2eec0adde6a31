import Persistence.Session.Holder
import Persistence.Keyed
import Persistence.Session.Identity
import Persistence.Session.Event
import Persistence.Metamodel.Initialization

/-!
The state in which sessions live: the datastores, the sessions that were ever opened, the registry of one thread and
what has been noted. Callbacks of transactions are those of sessions, which the registry makes itself, and custom
ones of a type that the registry does not look into.
-/

namespace Persistence

/-- A datastore, with the site of its entities. -/
structure Store where
  id : StoreId
  name : String
  site : Site := {}
  /-- The fault of a datastore that never opens a session. -/
  failure : Option Fault := none
  isAvailable : Bool := true
  opened : Nat := 0
deriving Inhabited

namespace Store

/-- Why the datastore opens no session now. -/
def refusal? (store : Store) : Option Fault :=
  match store.failure with
  | some fault => some fault
  | none => if store.isAvailable then none else some (.resource (.unavailable store.name))

/-- The text of the datastore in diagnostics, unless it is one that never opens a session. -/
def debug? (store : Store) : Option String :=
  if store.failure.isSome then none
  else some
    ("SimpleDatastore \x7b id: " ++ s!"DatastoreId({store.id.number}), name: " ++ Text.quoted store.name ++ " \x7d")

end Store

/-- A callback for the completion of a transaction. -/
inductive Synchronization (κ : Type) where
  /-- The part of a session in the transaction of a datastore; a new session was opened for it. -/
  | session (session : SessionId) (store : StoreId) (isNew : Bool)
  | custom (callback : κ)

/-- The sessions of one thread: the bound ones, the ones whose close is deferred, and the callbacks of the
transaction that is running, if one is. -/
structure Registry (κ : Type) where
  holders : Keyed Holder StoreId := []
  /-- Sessions to close by datastore; there is no table without an open window. -/
  deferred : Option (Keyed (List SessionId) StoreId) := none
  synchronizations : Option (List (Synchronization κ)) := none

/-- The datastores, the sessions and the registry of one thread. -/
structure Environment (κ : Type) where
  stores : List Store := []
  sessions : Sessions := []
  nextTransaction : Nat := 1
  registry : Registry κ := {}
  /-- Whether the registry is the one that is bound to its thread. -/
  isThreadBound : Bool := false
  /-- What has been noted, in order. -/
  notices : List Notice := []
  /-- What scripts did, in the order in which they ended. -/
  events : List ScriptEvent := []

namespace Environment

variable {κ : Type}

/-- Adds to what was noted. -/
def note (notice : Notice) (env : Environment κ) : Environment κ :=
  { env with notices := env.notices ++ [notice] }

/-- Adds to what a script saw. -/
def record (event : ScriptEvent) (env : Environment κ) : Environment κ :=
  { env with events := env.events ++ [event] }

/-! ### Datastores -/

/-- The datastore of an identity. -/
def store? (env : Environment κ) (id : StoreId) : Option Store :=
  env.stores.find? (·.id == id)

/-- Changes the datastore of an identity and no other one. -/
def updateStore (id : StoreId) (f : Store → Store) (env : Environment κ) : Environment κ :=
  { env with stores := env.stores.map fun store => if store.id == id then f store else store }

/-- Adds a datastore under the next identity. -/
def addStore (name : String) (site : Site) (failure : Option Fault) (env : Environment κ) : Environment κ :=
  { env with stores := env.stores ++ [{ id := ⟨env.stores.length + 1⟩, name, site, failure }] }

/-- Lets a datastore open sessions, or not. -/
def setAvailable (store : StoreId) (flag : Bool) (env : Environment κ) : Environment κ :=
  env.updateStore store fun s => { s with isAvailable := flag }

/-! ### Sessions -/

/-- The session of an identity, if it was opened. -/
def session? (env : Environment κ) (id : SessionId) : Option Session := env.sessions.get? id

/-- Changes the session of an identity and no other one. -/
def updateSession (id : SessionId) (f : Session → Session) (env : Environment κ) : Environment κ :=
  { env with sessions := env.sessions.update id f }

/-- Adds a session that is connected and has done nothing yet. -/
def addSession (id : SessionId) (store : StoreId) (env : Environment κ) : Environment κ :=
  { env with sessions := env.sessions ++ [{ id, store }] }

/-- Opens a session of a datastore, under the next free identity. -/
def connect (store : StoreId) (env : Environment κ) : Except Fault SessionId × Environment κ :=
  match env.store? store with
  | none => (.error (.resource (.unknownStore store)), env)
  | some found =>
    match found.refusal? with
    | some fault => (.error fault, env)
    | none =>
      let id : SessionId := ⟨env.sessions.length + 1⟩
      let counted := env.updateStore store fun s => { s with opened := s.opened + 1 }
      (.ok id, (counted.addSession id store).note (.opened id found.name))

/-- Closes a session; a closed one only counts the request. -/
def disconnect (id : SessionId) (env : Environment κ) : Environment κ :=
  match env.session? id with
  | none => env
  | some s => (env.updateSession id Session.disconnect).note s.disconnectNotice

/-- Replaces a session by what an operation on it gives; a failed operation changes nothing. -/
def onSession {α : Type} (id : SessionId) (f : Session → Except Fault (α × Session)) (env : Environment κ) :
    Except Fault α × Environment κ :=
  match env.session? id with
  | none => (.error (.session (.unknown id)), env)
  | some s =>
    match f s with
    | .error fault => (.error fault, env)
    | .ok (answer, changed) => (.ok answer, env.updateSession id fun _ => changed)

def flush (id : SessionId) (env : Environment κ) : Except Fault Unit × Environment κ :=
  env.onSession id fun s => do return ((), ← s.flush)

def clear (id : SessionId) (env : Environment κ) : Environment κ :=
  env.updateSession id Session.clear

/-- Begins a transaction of a session, under the next free identity. -/
def begin (id : SessionId) (env : Environment κ) : Except Fault TransactionId × Environment κ :=
  let transaction : TransactionId := ⟨env.nextTransaction⟩
  match env.onSession id fun s => do return ((), ← s.begin transaction) with
  | (.ok (), env) =>
    (.ok transaction, { env with nextTransaction := env.nextTransaction + 1 }.note (.began transaction id))
  | (.error fault, env) => (.error fault, env)

/-- Ends the transaction of a session by a commit or a rollback. -/
def finishTransaction (finish : Transaction → Except Fault Transaction) (id : SessionId) (env : Environment κ) :
    Except Fault Unit × Environment κ :=
  match env.onSession id fun s => s.finishTransaction finish with
  | (.ok t, env) => (.ok (), env.note (.finished t.id t.state))
  | (.error fault, env) => (.error fault, env)

/-- Flushes a session and then commits its transaction. -/
def commit (id : SessionId) (env : Environment κ) : Except Fault Unit × Environment κ :=
  match env.flush id with
  | (.ok (), env) => env.finishTransaction Transaction.commit id
  | (.error fault, env) => (.error fault, env)

/-- Rolls the transaction of a session back. -/
def rollback (id : SessionId) (env : Environment κ) : Except Fault Unit × Environment κ :=
  env.finishTransaction Transaction.rollback id

/-- Does something at the site of the datastore of a session. -/
def atSite {α : Type} (id : SessionId) (action : Action α) (env : Environment κ) : Except Fault α × Environment κ :=
  match (env.session? id).bind fun s => env.store? s.store with
  | none => (.error (.session (.unknown id)), env)
  | some store =>
    let (answer, site) := store.site.run action
    (answer, env.updateStore store.id fun s => { s with site })

/-- A new object of an entity of the datastore that the session is of. -/
def create (id : SessionId) (entity : String) (env : Environment κ) : Except Fault Instance × Environment κ :=
  env.atSite id do Action.ofExcept (← Action.require entity).newInstance

end Environment

end Persistence
