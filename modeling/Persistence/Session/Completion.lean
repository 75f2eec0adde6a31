import Persistence.Session.Registry

/-!
Completion of transactions. The callbacks are taken out of the registry and then called phase by phase, each phase
in the order of registration: before a commit, up to the first one that fails; before completion; after completion.
A failure before the commit turns it into a rollback.
-/

namespace Persistence

/-- What custom callbacks do in each phase. -/
structure Conduct (κ : Type) where
  beforeCommit : κ → Environment κ → Except Fault Unit × Environment κ
  beforeCompletion : κ → Environment κ → Environment κ
  afterCompletion : κ → CompletionStatus → Environment κ → Environment κ

/-- A session leaves the transaction of a datastore: after a rollback it is cleared, and if it was opened for the
transaction it is unbound. -/
def Environment.leaveTransaction {κ : Type} (session : SessionId) (store : StoreId) (isNew : Bool)
    (status : CompletionStatus) (env : Environment κ) : Environment κ :=
  let cleared := if status = .rolledBack then env.clear session else env
  let left := (cleared.synchronizeHolder store false).updateSession session (Session.setSynchronized false)
  if isNew then (left.note (.releasing session status)).unbindSession session else left

namespace Synchronization

variable {κ : Type}

/-- A session is flushed before a commit if it is connected. -/
def beforeCommit (conduct : Conduct κ) : Synchronization κ → Environment κ → Except Fault Unit × Environment κ
  | .session id _ _, env =>
    if env.sessions.isConnected id then (env.note (.flushing id)).flush id else (.ok (), env)
  | .custom callback, env => conduct.beforeCommit callback env

/-- What a callback does before the completion; those of sessions do nothing. -/
def beforeCompletion (conduct : Conduct κ) : Synchronization κ → Environment κ → Environment κ
  | .session _ _ _, env => env
  | .custom callback, env => conduct.beforeCompletion callback env

/-- A session leaves the transaction. -/
def afterCompletion (conduct : Conduct κ) (status : CompletionStatus) :
    Synchronization κ → Environment κ → Environment κ
  | .session id store isNew, env => env.leaveTransaction id store isNew status
  | .custom callback, env => conduct.afterCompletion callback status env

end Synchronization

namespace Environment

variable {κ : Type}

/-- Calls callbacks before a commit, up to the first one that fails. -/
def beforeCommits (conduct : Conduct κ) : List (Synchronization κ) → Environment κ → Option Fault × Environment κ
  | [], env => (none, env)
  | callback :: rest, env =>
    match callback.beforeCommit conduct env with
    | (.ok (), env) => beforeCommits conduct rest env
    | (.error fault, env) => (some fault, env.note (.beforeCommitFailed fault))

/-- The phase before a commit, which other outcomes do not have. -/
def prepareCommit (conduct : Conduct κ) (status : CompletionStatus) (callbacks : List (Synchronization κ))
    (env : Environment κ) : Option Fault × Environment κ :=
  if status = .committed then beforeCommits conduct callbacks env else (none, env)

/-- The outcome after the phase before a commit. -/
def settledStatus (status : CompletionStatus) (failure : Option Fault) : CompletionStatus :=
  if failure.isSome then .rolledBack else status

/-- Completes the transaction of the thread. The callbacks are taken off first; those before a commit end with the
first failure, and all of the others run in any case. -/
def complete (conduct : Conduct κ) (status : CompletionStatus) (env : Environment κ) :
    Except Fault Unit × Environment κ :=
  match env.registry.synchronizations with
  | none => (.error (.transaction .synchronizationInactive), env)
  | some callbacks =>
    let (failure, env) := prepareCommit conduct status callbacks env.clearSynchronization
    let env := callbacks.foldl (fun env callback => callback.beforeCompletion conduct env) env
    let env := callbacks.foldl
      (fun env callback => callback.afterCompletion conduct (settledStatus status failure) env) env
    match failure with
    | none => (.ok (), env)
    | some fault => (.error fault, env)

end Environment

end Persistence
