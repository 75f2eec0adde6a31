import Persistence.Session.Basic

/-!
Holders: the stack of sessions that are bound for one datastore. The session bound last is the current one. While a
holder is synchronized with a transaction, so is every session that is added to it.
-/

namespace Persistence

/-- The sessions bound for a datastore, the current one last. -/
structure Holder where
  sessions : List SessionId
  /-- Who bound the first session, if it was said. -/
  creator : Option String := none
  isSynchronized : Bool := false
deriving DecidableEq, Inhabited, Repr

namespace Holder

/-- A holder of one session. -/
def ofSession (session : SessionId) : Holder := { sessions := [session] }

/-- The session that was bound last. -/
def current? (holder : Holder) : Option SessionId := holder.sessions.getLast?

/-- How many sessions are held, with repetitions. -/
def size (holder : Holder) : Nat := holder.sessions.length

def isEmpty (holder : Holder) : Bool := holder.sessions.isEmpty

def contains (holder : Holder) (session : SessionId) : Bool := holder.sessions.contains session

/-- Takes out a session; of several entries of one session the lowest goes. -/
def remove (holder : Holder) (session : SessionId) : Holder :=
  { holder with sessions := holder.sessions.erase session }

/-- Drops closed sessions from the top until a connected one is current. -/
def validated (holder : Holder) (isConnected : SessionId → Bool) : Holder :=
  { holder with sessions := (holder.sessions.reverse.dropWhile fun session => !isConnected session).reverse }

/-- Puts a session on top. In a synchronized holder it becomes synchronized itself. -/
def push (holder : Holder) (session : SessionId) (sessions : Sessions) : Holder × Sessions :=
  ({ holder with sessions := holder.sessions ++ [session] },
    if holder.isSynchronized then sessions.update session (Session.setSynchronized true) else sessions)

/-- Marks the holder and all of its sessions as synchronized, or as not. -/
def synchronize (holder : Holder) (flag : Bool) (sessions : Sessions) : Holder × Sessions :=
  ({ holder with isSynchronized := flag }, sessions.updateAll holder.sessions (Session.setSynchronized flag))

/-- The active transaction of the current session. -/
def transaction? (holder : Holder) (sessions : Sessions) : Option TransactionId :=
  (holder.current?.bind sessions.get?).bind (·.activeTransaction?)

end Holder

end Persistence
