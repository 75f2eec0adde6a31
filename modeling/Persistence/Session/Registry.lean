import Persistence.Session.Environment

/-!
The registry of sessions: which session is current for a datastore, which sessions close later, and which take part
in the running transaction. A datastore has a holder exactly as long as a session is bound for it.
-/

namespace Persistence.Environment

variable {κ : Type}

/-! ### Parts of the registry -/

/-- The holder of the sessions that are bound for a datastore. -/
def holder? (env : Environment κ) (store : StoreId) : Option Holder :=
  env.registry.holders.get? store

/-- The session that was bound last for a datastore. -/
def current? (env : Environment κ) (store : StoreId) : Option SessionId :=
  (env.holder? store).bind Holder.current?

/-- Whether a session is bound for a datastore. -/
def hasCurrent (env : Environment κ) (store : StoreId) : Bool := (env.current? store).isSome

/-- Whether a session is bound for a datastore. -/
def isBound (env : Environment κ) (session : SessionId) (store : StoreId) : Bool :=
  match env.holder? store with
  | some holder => holder.contains session
  | none => false

/-- The sessions that wait to be closed for a datastore, if it has an open window. -/
def pending? (env : Environment κ) (store : StoreId) : Option (List SessionId) :=
  env.registry.deferred.bind (·.get? store)

/-- Whether the sessions of a datastore are closed only at the end of a window. -/
def isDeferring (env : Environment κ) (store : StoreId) : Bool := (env.pending? store).isSome

/-- Whether a transaction is running whose completion is announced. -/
def isSynchronizing (env : Environment κ) : Bool := env.registry.synchronizations.isSome

/-- The callbacks of the transaction, none if there is no transaction. -/
def synchronizations (env : Environment κ) : List (Synchronization κ) :=
  env.registry.synchronizations.getD []

/-- How many callbacks the transaction has. -/
def synchronizationCount (env : Environment κ) : Nat := env.synchronizations.length

/-- Enters a holder for a datastore, in place of the one that was there. -/
def setHolder (store : StoreId) (holder : Holder) (env : Environment κ) : Environment κ :=
  { env with registry := { env.registry with holders := env.registry.holders.put store holder } }

/-- Removes the holder of a datastore. -/
def dropHolder (store : StoreId) (env : Environment κ) : Environment κ :=
  { env with registry := { env.registry with holders := env.registry.holders.erase store } }

/-- Stores a holder, or drops it when no session is left in it. -/
def settleHolder (store : StoreId) (holder : Holder) (env : Environment κ) : Environment κ :=
  if holder.isEmpty then env.dropHolder store else env.setHolder store holder

/-- Exchanges the windows of deferred closes. -/
def setDeferred (deferred : Option (Keyed (List SessionId) StoreId)) (env : Environment κ) : Environment κ :=
  { env with registry := { env.registry with deferred } }

/-- Exchanges the callbacks of the transaction; with none there is no transaction. -/
def setSynchronizations (callbacks : Option (List (Synchronization κ))) (env : Environment κ) : Environment κ :=
  { env with registry := { env.registry with synchronizations := callbacks } }

/-! ### Closing -/

/-- Closes a session at once. -/
def closeSession (session : SessionId) (env : Environment κ) : Environment κ :=
  (env.note (.closing session)).disconnect session

/-- Adds a session to those that wait, unless it waits already. -/
def addPending (pending : List SessionId) (session : SessionId) : List SessionId :=
  if pending.contains session then pending else pending ++ [session]

/-- Closes a session, or lets it wait while the datastore has an open window. -/
def closeOrDefer (session : SessionId) (store : StoreId) (env : Environment κ) : Environment κ :=
  match env.registry.deferred with
  | none => env.closeSession session
  | some windows =>
    match windows.get? store with
    | none => env.closeSession session
    | some pending =>
      (env.note (.deferring session)).setDeferred (some (windows.put store (addPending pending session)))

/-- Opens a window in which sessions of a datastore wait to be closed. An open one keeps those that wait. -/
def openDeferral (store : StoreId) (env : Environment κ) : Environment κ :=
  let windows := env.registry.deferred.getD []
  let pending := (windows.get? store).getD []
  (env.note (.deferredCloseOpened store)).setDeferred (some (windows.put store pending))

/-- The windows that are left when one is taken away. -/
def withoutWindow (windows : Keyed (List SessionId) StoreId) (store : StoreId) :
    Option (Keyed (List SessionId) StoreId) :=
  match windows.erase store with
  | [] => none
  | rest => some rest

/-- Ends the window of a datastore and closes the sessions that wait in it. -/
def processDeferral (store : StoreId) (env : Environment κ) : Except Fault Unit × Environment κ :=
  match env.registry.deferred with
  | none => (.error (.session (.noDeferredClose store)), env)
  | some windows =>
    match windows.get? store with
    | none => (.error (.session (.noDeferredClose store)), env)
    | some pending =>
      let ended := (env.setDeferred (withoutWindow windows store)).note (.deferredCloseProcessed store pending.length)
      (.ok (), pending.foldl (fun env session => env.closeSession session) ended)

/-! ### Binding -/

/-- Makes a session the current one of a datastore. -/
def bindSession (session : SessionId) (store : StoreId) (env : Environment κ) : Environment κ :=
  match env.holder? store with
  | none => env.setHolder store (Holder.ofSession session)
  | some holder =>
    let (holder, sessions) := holder.push session env.sessions
    { env with sessions }.setHolder store holder

/-- Makes a session the only one of a datastore, in a new holder that names its creator. -/
def bindWithCreator (session : SessionId) (store : StoreId) (creator : String) (env : Environment κ) :
    Environment κ :=
  let bound := env.setHolder store { sessions := [session], creator := some creator }
  match env.holder? store with
  | none => bound
  | some previous => bound.note (.holderReplaced store previous.size)

/-- Takes a session out of its holder and closes it, at once or later. A session that is not bound is only
noted. -/
def unbindSession (session : SessionId) (env : Environment κ) : Environment κ :=
  match env.session? session with
  | none => env
  | some s =>
    match env.holder? s.store with
    | none => env.note (.noHolder session)
    | some holder =>
      if holder.contains session then
        (env.settleHolder s.store (holder.remove session)).closeOrDefer session s.store
      else env.note (.notHeld session)

/-- Marks the holder of a datastore and the sessions in it as synchronized, or as not. -/
def synchronizeHolder (store : StoreId) (flag : Bool) (env : Environment κ) : Environment κ :=
  match env.holder? store with
  | none => env
  | some holder =>
    let (holder, sessions) := holder.synchronize flag env.sessions
    { env with sessions }.setHolder store holder

/-- Gives back a session. A bound one stays open. -/
def releaseSession (session : SessionId) (store : StoreId) (env : Environment κ) : Environment κ :=
  if env.isBound session store then env else env.closeOrDefer session store

/-! ### Synchronization -/

/-- Begins to collect callbacks. -/
def startSynchronization (env : Environment κ) : Except Fault Unit × Environment κ :=
  if env.isSynchronizing then (.error (.transaction .synchronizationActive), env)
  else (.ok (), env.setSynchronizations (some []))

/-- Ends the transaction without running its callbacks. -/
def clearSynchronization (env : Environment κ) : Environment κ := env.setSynchronizations none

/-- Adds a callback while callbacks are collected. -/
def enlist (callback : Synchronization κ) (env : Environment κ) : Environment κ :=
  match env.registry.synchronizations with
  | none => env
  | some callbacks => env.setSynchronizations (some (callbacks ++ [callback]))

/-- Registers a callback for the running transaction. -/
def registerSynchronization (callback : Synchronization κ) (env : Environment κ) : Except Fault Unit × Environment κ :=
  if env.isSynchronizing then (.ok (), env.enlist callback)
  else (.error (.transaction .synchronizationInactive), env)

/-! ### Sessions on demand -/

/-- The connected session that was bound last for a datastore; closed ones above it are dropped, and so is a holder
without any other. A holder that the running transaction does not know yet joins it. -/
def joinCurrent (store : StoreId) (env : Environment κ) : Option SessionId × Environment κ :=
  match env.holder? store with
  | none => (none, env)
  | some holder =>
    let valid := holder.validated env.sessions.isConnected
    match valid.current? with
    | none => (none, env.dropHolder store)
    | some session =>
      let kept := env.setHolder store valid
      if env.isSynchronizing && !valid.isSynchronized then
        (some session, ((kept.synchronizeHolder store true).note (.registeringExisting session)).enlist
          (.session session store false))
      else (some session, kept)

/-- The fault of a session on demand when the datastore opens none. -/
def openingFault : Fault → Fault
  | .resource cause => .resource cause
  | other => .resource (.stated other.message)

/-- Binds a session that was opened for the running transaction. -/
def enterTransaction (session : SessionId) (store : StoreId) (env : Environment κ) : Environment κ :=
  let bound := (env.note (.registeringNew session)).bindSession session store
  (bound.synchronizeHolder store true).enlist (.session session store true)

/-- Opens a session; while a transaction is running the session takes part in it. -/
def openSession (store : StoreId) (env : Environment κ) : Except Fault SessionId × Environment κ :=
  let announced :=
    match env.store? store with
    | some found => env.note (.opening found.name)
    | none => env
  match announced.connect store with
  | (.error fault, env) => (.error (openingFault fault), env)
  | (.ok session, env) => (.ok session, if env.isSynchronizing then env.enterTransaction session store else env)

/-- The bound session of a datastore, or a new one. Outside of transactions a new session is not bound, and there
is one only if that is allowed. -/
def getOrCreate (store : StoreId) (allow : Bool) (env : Environment κ) : Except Fault SessionId × Environment κ :=
  match env.joinCurrent store with
  | (some session, env) => (.ok session, env)
  | (none, env) =>
    if allow || env.isSynchronizing then env.openSession store
    else (.error (.session (.noneBound store)), env)

/-- Takes a session out of the holder of a datastore. -/
def removeBound (session : SessionId) (store : StoreId) (env : Environment κ) : Environment κ :=
  match env.holder? store with
  | none => env
  | some holder => env.settleHolder store (holder.remove session)

/-- Runs a body in the current session of a datastore, or in a new one that is bound for the time of the body. -/
def execute {α : Type} (store : StoreId) (body : SessionId → Environment κ → Except Fault α × Environment κ)
    (env : Environment κ) : Except Fault α × Environment κ :=
  match env.current? store with
  | some session => body session env
  | none =>
    match env.connect store with
    | (.error fault, env) => (.error fault, env)
    | (.ok session, env) =>
      let (answer, env) := body session (env.bindSession session store)
      (answer, (env.removeBound session store).closeOrDefer session store)

/-! ### Threads -/

/-- How many callbacks the registry of the thread has, for someone who asks for that registry. It is lent out once
at a time, so that there is no answer while it is in use. -/
def threadSynchronizationCount (env : Environment κ) : Except Fault Nat :=
  if env.isThreadBound then .error (.session .registryInUse) else .ok 0

/-- Whether the registry of another thread has a current session. Registries are not shared, so that a thread in
which no session was bound has none. -/
def otherThreadHasCurrent (_ : Environment κ) (store : StoreId) : Bool :=
  ({} : Environment κ).hasCurrent store

/-- The text of the registry in diagnostics. -/
def debugRegistry (env : Environment κ) : String :=
  let deferred :=
    match env.registry.deferred with
    | some windows => s!"Some({windows.length})"
    | none => "None"
  "SessionRegistry \x7b " ++ s!"holders: {env.registry.holders.length}, deferred_close: {deferred}, " ++
    s!"synchronizations: {env.synchronizationCount}" ++ " \x7d"

end Persistence.Environment
