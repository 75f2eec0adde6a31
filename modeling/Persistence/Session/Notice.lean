import Persistence.Fault

/-!
What sessions and their registry note while they work, and the lines in which it is logged.
-/

namespace Persistence

/-- A note of a session or of the registry of sessions. -/
inductive Notice where
  | opening (store : String)
  | opened (session : SessionId) (store : String)
  | closing (session : SessionId)
  | closed (session : SessionId) (store : StoreId)
  | alreadyClosed (session : SessionId) (store : StoreId)
  | registeringExisting (session : SessionId)
  | registeringNew (session : SessionId)
  | holderReplaced (store : StoreId) (bound : Nat)
  | noHolder (session : SessionId)
  | notHeld (session : SessionId)
  | deferring (session : SessionId)
  | deferredCloseOpened (store : StoreId)
  | deferredCloseProcessed (store : StoreId) (pending : Nat)
  | flushing (session : SessionId)
  | releasing (session : SessionId) (status : CompletionStatus)
  | beforeCommitFailed (cause : Fault)
  | began (transaction : TransactionId) (session : SessionId)
  | finished (transaction : TransactionId) (state : TransactionState)
deriving DecidableEq

/-- The line that a notice is written as, led by its level. -/
def Notice.line : Notice → String
  | .opening store => s!"DEBUG Opening session for datastore '{store}'"
  | .opened session store => s!"DEBUG Opened {session.text} of datastore '{store}'"
  | .closing session => s!"DEBUG Closing {session.text}"
  | .closed session store => s!"DEBUG Closed {session.text} of {store.text}"
  | .alreadyClosed session store => s!"WARN {session.text} of {store.text} is already closed"
  | .registeringExisting session =>
    s!"DEBUG Registering transaction synchronization for existing {session.text}"
  | .registeringNew session => s!"DEBUG Registering transaction synchronization for new {session.text}"
  | .holderReplaced store bound => s!"WARN Replaced holder of {store.text} with {bound} session(s) still bound"
  | .noHolder session => s!"WARN Cannot unbind {session.text}, there's no SessionHolder registered"
  | .notHeld session => s!"WARN Cannot unbind {session.text}, it's not registered in a SessionHolder"
  | .deferring session => s!"DEBUG Registering {session.text} for deferred close"
  | .deferredCloseOpened store => s!"DEBUG Initializing deferred close for {store.text}"
  | .deferredCloseProcessed store pending => s!"DEBUG Processing {pending} deferred close(s) for {store.text}"
  | .flushing session => s!"DEBUG Flushing {session.text} before commit"
  | .releasing session status =>
    s!"DEBUG Releasing {session.text} opened for transaction ({status.display})"
  | .beforeCommitFailed cause => s!"WARN before_commit callback failed: {cause.message}"
  | .began transaction session => s!"DEBUG Began {transaction.text} in {session.text}"
  | .finished transaction state => s!"DEBUG {transaction.text} finished as {state.display}"

end Persistence
