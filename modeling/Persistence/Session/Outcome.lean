/-!
How far a transaction has come, and how its completion is announced.
-/

namespace Persistence

/-- The state of a transaction: it is active until it is committed or rolled back. -/
inductive TransactionState where
  | active
  | committed
  | rolledBack
deriving DecidableEq, Inhabited, Repr

namespace TransactionState

/-- Whether the transaction is neither committed nor rolled back. -/
def isActive : TransactionState → Bool
  | .active => true
  | _ => false

/-- Whether no state follows. -/
def isTerminal : TransactionState → Bool
  | .active => false
  | _ => true

/-- The word for a state. -/
def display : TransactionState → String
  | .active => "ACTIVE"
  | .committed => "COMMITTED"
  | .rolledBack => "ROLLED_BACK"

end TransactionState

/-- The outcome of a transaction as its callbacks hear of it. -/
inductive CompletionStatus where
  | committed
  | rolledBack
  | unknown
deriving DecidableEq, Inhabited, Repr

/-- The word for the status of a completion. -/
def CompletionStatus.display : CompletionStatus → String
  | .committed => "COMMITTED"
  | .rolledBack => "ROLLED_BACK"
  | .unknown => "UNKNOWN"

end Persistence
