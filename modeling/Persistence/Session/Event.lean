import Persistence.Session.Identity
import Persistence.Session.Outcome
import Persistence.Class.Instance

/-!
What requests to sessions answer, and the events in which the bodies of executions and the callbacks of transactions
are recorded with the answers that they got.
-/

namespace Persistence

/-- What a request of a script is answered with. -/
inductive Answer where
  | nothing
  | session (id : SessionId)
  | maybeSession (id : Option SessionId)
  | transaction (id : TransactionId)
  | flag (b : Bool)
  | count (n : Nat)
  | text (s : String)
  | participant (id : SessionId) (isNew : Bool)
  | object (obj : Instance)
  | rows (rows : List (List String))

/-- When a callback is run in the completion of a transaction. -/
inductive CompletionPhase where
  | beforeCommit
  | beforeCompletion
  | afterCompletion
deriving DecidableEq, Inhabited, Repr

/-- What a script did. -/
inductive ScriptEvent where
  | phase (callback : String) (phase : CompletionPhase) (status : Option CompletionStatus)
    (answers : List (Except Fault Answer))
  | body (session : SessionId) (answers : List (Except Fault Answer))

end Persistence
