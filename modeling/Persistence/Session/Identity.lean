/-!
Identities of sessions, datastores and transactions. Each is a number that is given out once.
-/

namespace Persistence

/-- The identity of a session. -/
structure SessionId where
  number : Nat
deriving DecidableEq, Inhabited, Repr

/-- The identity of a datastore. -/
structure StoreId where
  number : Nat
deriving DecidableEq, Inhabited, Repr

/-- The identity of a transaction. -/
structure TransactionId where
  number : Nat
deriving DecidableEq, Inhabited, Repr

/-- Datastores by their numbers. -/
instance : LT StoreId := ⟨fun a b => a.number < b.number⟩

instance : DecidableLT StoreId := fun a b => inferInstanceAs (Decidable (a.number < b.number))

/-- The text of the identity of a session. -/
def SessionId.text (id : SessionId) : String := s!"session_{id.number}"

/-- The text of the identity of a datastore. -/
def StoreId.text (id : StoreId) : String := s!"datastore_{id.number}"

/-- The text of the identity of a transaction. -/
def TransactionId.text (id : TransactionId) : String := s!"txn_{id.number}"

end Persistence
