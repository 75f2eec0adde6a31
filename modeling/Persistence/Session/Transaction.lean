import Persistence.Fault

/-!
Transactions of sessions. A transaction starts active and is finished once, by a commit or by a rollback.
-/

namespace Persistence

/-- A transaction of a session. -/
structure Transaction where
  id : TransactionId
  state : TransactionState := .active
deriving DecidableEq, Inhabited, Repr

namespace Transaction

/-- Whether the transaction is still to be ended. -/
def isActive (t : Transaction) : Bool := t.state.isActive

/-- Moves an active transaction to a final state. -/
def finish (target : TransactionState) (t : Transaction) : Except Fault Transaction :=
  if t.isActive then .ok { t with state := target }
  else .error (.transaction (.illegalMove t.id t.state target))

/-- Ends the transaction with a commit. -/
def commit (t : Transaction) : Except Fault Transaction := t.finish .committed

/-- Ends the transaction with a rollback. -/
def rollback (t : Transaction) : Except Fault Transaction := t.finish .rolledBack

end Transaction

end Persistence
