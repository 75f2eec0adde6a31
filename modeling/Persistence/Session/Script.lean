import Persistence.Session.Completion

/-!
Requests to sessions and their registry as data. A script is a list of requests; the bodies of scoped executions
and the phases of scripted callbacks are scripts again, and what they did is recorded as an event when they end.
-/

namespace Persistence

mutual

/-- A step of a script. -/
inductive Request where
  | connect (store : StoreId)
  | getOrCreate (store : StoreId) (allow : Bool)
  | current (store : StoreId)
  | hasCurrent (store : StoreId)
  | bind (session : SessionId) (store : StoreId)
  | bindWithCreator (session : SessionId) (store : StoreId) (creator : String)
  | unbind (session : SessionId)
  | release (session : SessionId) (store : StoreId)
  | close (session : SessionId)
  | closeOrDefer (session : SessionId) (store : StoreId)
  | isBound (session : SessionId) (store : StoreId)
  | openDeferral (store : StoreId)
  | processDeferral (store : StoreId)
  /-- A scoped execution, whose body ends with the given fault if there is one. -/
  | execute (store : StoreId) (body : List Request) (fault : Option Fault)
  | startSynchronization
  | clearSynchronization
  | register (callback : ScriptedCallback)
  | registerSession (session : SessionId) (store : StoreId) (isNew : Bool)
  | complete (status : CompletionStatus)
  | setAvailable (store : StoreId) (flag : Bool)
  | otherThreadHasCurrent (store : StoreId)
  | threadSynchronizationCount
  | disconnect (session : SessionId)
  | flush (session : SessionId)
  | clear (session : SessionId)
  | begin (session : SessionId)
  | commit (session : SessionId)
  | rollback (session : SessionId)
  | setSynchronized (session : SessionId) (flag : Bool)
  | hasTransaction (session : SessionId)
  | debugSession (session : SessionId)
  | debugStore (store : StoreId)
  | create (session : SessionId) (entity : String)
  /-- Creates an object, sets its identifier and then one property. -/
  | createWith (session : SessionId) (entity : String) (identifier : Value) (property : String) (value : Value)
  | entities (store : StoreId)

/-- A callback that is given by scripts. -/
inductive ScriptedCallback where
  /-- Does nothing in any phase. -/
  | silent
  /-- Runs a script in each phase; before a commit it then fails with the given fault if there is one. -/
  | scripted (name : String) (fault : Option Fault) (beforeCommit beforeCompletion afterCompletion : List Request)

end

instance : Inhabited Request := ⟨.startSynchronization⟩

namespace Request

/-- How requests of inner scripts are run. -/
abbrev Runner := Request → Environment ScriptedCallback → Except Fault Answer × Environment ScriptedCallback

/-- Runs a script; a failing request does not keep the next one from running. -/
def runAll (run : Runner) : List Request → Environment ScriptedCallback →
    List (Except Fault Answer) × Environment ScriptedCallback
  | [], env => ([], env)
  | request :: rest, env =>
    let (answer, env) := run request env
    let (answers, env) := runAll run rest env
    (answer :: answers, env)

/-- Runs the script of a phase and records it. -/
def runPhase (run : Runner) (callback : String) (phase : CompletionPhase) (status : Option CompletionStatus)
    (script : List Request) (env : Environment ScriptedCallback) : Environment ScriptedCallback :=
  let (answers, env) := runAll run script env
  env.record (.phase callback phase status answers)

/-- What scripted callbacks do, given how their scripts are run. -/
def conduct (run : Runner) : Conduct ScriptedCallback where
  beforeCommit
    | .silent, env => (.ok (), env)
    | .scripted name fault script _ _, env =>
      let env := runPhase run name .beforeCommit none script env
      match fault with
      | none => (.ok (), env)
      | some fault => (.error fault, env)
  beforeCompletion
    | .silent, env => env
    | .scripted name _ _ script _, env => runPhase run name .beforeCompletion none script env
  afterCompletion
    | .silent, _, env => env
    | .scripted name _ _ _ script, status, env => runPhase run name .afterCompletion (some status) script env

/-- The body of an execution: runs a script, records it and answers the session. -/
def runBody (run : Runner) (body : List Request) (fault : Option Fault) (session : SessionId)
    (env : Environment ScriptedCallback) : Except Fault Answer × Environment ScriptedCallback :=
  let (answers, env) := runAll run body env
  let env := env.record (.body session answers)
  match fault with
  | none => (.ok (.session session), env)
  | some fault => (.error fault, env)

/-- The answer that an outcome is wrapped in. -/
def answering {α : Type} (wrap : α → Answer)
    (outcome : Except Fault α × Environment ScriptedCallback) : Except Fault Answer × Environment ScriptedCallback :=
  (outcome.1.map wrap, outcome.2)

/-- The answer of an operation that only changes the environment. -/
def done (env : Environment ScriptedCallback) : Except Fault Answer × Environment ScriptedCallback :=
  (.ok .nothing, env)

/-- The session of an identity, as a fault where none was opened. -/
def sessionOf (id : SessionId) (env : Environment ScriptedCallback) : Except Fault Session :=
  match env.session? id with
  | some s => .ok s
  | none => .error (.session (.unknown id))

/-- The datastore of an identity, as a fault where there is none. -/
def storeOf (id : StoreId) (env : Environment ScriptedCallback) : Except Fault Store :=
  match env.store? id with
  | some store => .ok store
  | none => .error (.resource (.unknownStore id))

/-- Access to a new object, to set its identifier and a property. -/
def createdWith (entity : String) (identifier : Value) (property : String) (value : Value) : Action Instance := do
  let obj ← Action.ofExcept (← Action.require entity).newInstance
  let access ← Action.accessTo obj
  let (identified, obj) := access.setIdentifier identifier obj
  Action.ofExcept identified
  let (written, obj) := access.setProperty property value obj
  Action.ofExcept written
  return obj

/-- The displays of the properties of each entity at a site. -/
def propertyRows (site : Site) : List (List String) :=
  site.context.entities.map fun entity => entity.properties.map Property.display

/-- Runs a request, given how the requests inside of it are run. -/
def runWith (run : Runner) : Runner
  | .connect store, env => answering .session (env.connect store)
  | .getOrCreate store allow, env => answering .session (env.getOrCreate store allow)
  | .current store, env => (.ok (.maybeSession (env.current? store)), env)
  | .hasCurrent store, env => (.ok (.flag (env.hasCurrent store)), env)
  | .bind session store, env => done (env.bindSession session store)
  | .bindWithCreator session store creator, env => done (env.bindWithCreator session store creator)
  | .unbind session, env => done (env.unbindSession session)
  | .release session store, env => done (env.releaseSession session store)
  | .close session, env => done (env.closeSession session)
  | .closeOrDefer session store, env => done (env.closeOrDefer session store)
  | .isBound session store, env => (.ok (.flag (env.isBound session store)), env)
  | .openDeferral store, env => done (env.openDeferral store)
  | .processDeferral store, env => answering (fun _ => .nothing) (env.processDeferral store)
  | .execute store body fault, env => env.execute store (runBody run body fault)
  | .startSynchronization, env => answering (fun _ => .nothing) env.startSynchronization
  | .clearSynchronization, env => done env.clearSynchronization
  | .register callback, env => answering (fun _ => .nothing) (env.registerSynchronization (.custom callback))
  | .registerSession session store isNew, env =>
    answering (fun _ => .participant session isNew) (env.registerSynchronization (.session session store isNew))
  | .complete status, env => answering (fun _ => .nothing) (env.complete (conduct run) status)
  | .setAvailable store flag, env => done (env.setAvailable store flag)
  | .otherThreadHasCurrent store, env => (.ok (.flag (env.otherThreadHasCurrent store)), env)
  | .threadSynchronizationCount, env => (env.threadSynchronizationCount.map .count, env)
  | .disconnect session, env => done (env.disconnect session)
  | .flush session, env => answering (fun _ => .nothing) (env.flush session)
  | .clear session, env => done (env.clear session)
  | .begin session, env => answering .transaction (env.begin session)
  | .commit session, env => answering (fun _ => .nothing) (env.commit session)
  | .rollback session, env => answering (fun _ => .nothing) (env.rollback session)
  | .setSynchronized session flag, env => done (env.updateSession session (Session.setSynchronized flag))
  | .hasTransaction session, env => ((sessionOf session env).map fun s => .flag s.hasTransaction, env)
  | .debugSession session, env => ((sessionOf session env).map fun s => .text s.debug, env)
  | .debugStore store, env => ((storeOf store env).map fun s => (s.debug?.map .text).getD .nothing, env)
  | .create session entity, env => answering .object (env.create session entity)
  | .createWith session entity identifier property value, env =>
    answering .object (env.atSite session (createdWith entity identifier property value))
  | .entities store, env => ((storeOf store env).map fun s => .rows (propertyRows s.site), env)

/-- Runs a request with so many levels left for requests inside of requests. -/
def runWithin : Nat → Runner
  | 0, _, env => (.error (.session .registryInUse), env)
  | levels + 1, request, env => runWith (runWithin levels) request env

/-! ### Size -/

mutual

/-- How many requests a request consists of. -/
def size : Request → Nat
  | .execute _ body _ => sizeAll body + 1
  | .register callback => sizeCallback callback + 1
  | _ => 1

/-- How many requests there are in a script, with those of its bodies and callbacks. -/
def sizeAll : List Request → Nat
  | [] => 0
  | request :: rest => size request + sizeAll rest

/-- How many requests there are in the scripts of a callback. -/
def sizeCallback : ScriptedCallback → Nat
  | .silent => 0
  | .scripted _ _ first second third => sizeAll first + sizeAll second + sizeAll third

end

/-- Runs a script request by request. Each outcome comes with the environment that it leaves, in which only the
notices and the events of this request are recorded. A request runs at most once, because a callback is called in
one completion only; so requests are never nested deeper than there are requests. -/
def runEach (levels : Nat) : List Request → Environment ScriptedCallback →
    List (Except Fault Answer × Environment ScriptedCallback)
  | [], _ => []
  | request :: rest, env =>
    let outcome := runWithin levels request { env with notices := [], events := [] }
    outcome :: runEach levels rest outcome.2

/-- The answers to the requests of a script, each with what it leaves. -/
def runScript (script : List Request) (env : Environment ScriptedCallback) :
    List (Except Fault Answer × Environment ScriptedCallback) :=
  runEach (sizeAll script) script env

end Request

end Persistence
