import SqlxDryRun.PathMap

/-!
# Locks of documents

At most one run works on a document at a time. Whoever wants a document asks for the lock that the
table has under its path, and a new lock is put there if the table has none. Requests for one lock
are granted one after the other, in the order in which they were made. A holder who leaves does so
in two steps: it gives the lock back, and then it removes the table's entry unless someone still
refers to the lock that stands there. A request that is given up before it is granted leaves the
table as it is.

Main definitions:

* `ask`, `poll`: to make a request, and to look whether it is granted;
* `leave`, `sweep`: the two steps of leaving;
* `drop`: what becomes of the locks when a holder or a waiting request goes away.
-/

namespace SqlxDryRun

/-- A request for a lock. A request is granted if it holds its lock. -/
structure LockRequest where
  ticket : Nat
  path : Path
  lock : Nat
  granted : Bool
deriving DecidableEq, Repr, Inhabited

/-- The table of locks and the requests that refer to them, the oldest first. -/
structure Locks where
  table : PathMap Nat
  requests : List LockRequest
  nextLock : Nat
  nextTicket : Nat
deriving Repr, Inhabited

namespace Locks

/-- No locks and no requests. -/
def empty : Locks := ⟨.empty, [], 0, 0⟩

/-- The table in which the path has a lock, and that lock. -/
def lockFor (l : Locks) (p : Path) : Locks × Nat :=
  match l.table.get? p with
  | some lock => (l, lock)
  | none =>
    ({ l with table := l.table.insert p l.nextLock, nextLock := l.nextLock + 1 }, l.nextLock)

/-- Makes a request for the lock of a path, and gives its ticket. -/
def ask (l : Locks) (p : Path) : Locks × Nat :=
  let (l', lock) := l.lockFor p
  ({ l' with
      requests := l'.requests ++ [⟨l.nextTicket, p, lock, false⟩],
      nextTicket := l.nextTicket + 1 },
    l.nextTicket)

/-- The request with a ticket. -/
def find? (l : Locks) (ticket : Nat) : Option LockRequest :=
  l.requests.find? fun r => r.ticket == ticket

/-- Whether a request is the oldest one for its lock. -/
def isFirst (l : Locks) (r : LockRequest) : Bool :=
  (l.requests.find? fun other => other.lock == r.lock).any fun first => first.ticket == r.ticket

/-- Grants the request with a ticket if it is the oldest one for its lock. -/
def poll (l : Locks) (ticket : Nat) : Locks :=
  { l with
    requests := l.requests.map fun r =>
      if r.ticket == ticket && l.isFirst r then { r with granted := true } else r }

/-- Whether the request with a ticket is granted. -/
def isGranted (l : Locks) (ticket : Nat) : Bool :=
  (l.find? ticket).any LockRequest.granted

/-- The locks without the request with a ticket. -/
def leave (l : Locks) (ticket : Nat) : Locks :=
  { l with requests := l.requests.filter fun r => r.ticket != ticket }

/-- Removes the lock of a path from the table if no request refers to it. -/
def sweep (l : Locks) (p : Path) : Locks :=
  match l.table.get? p with
  | none => l
  | some lock =>
    if l.requests.any fun r => r.lock == lock then l else { l with table := l.table.erase p }

/-- What is left when whoever has a ticket goes away. Only a holder looks after the table. -/
def drop (l : Locks) (ticket : Nat) : Locks :=
  match l.find? ticket with
  | none => l
  | some r => if r.granted then (l.leave ticket).sweep r.path else l.leave ticket

/-- The number of documents in the table. -/
def size (l : Locks) : Nat :=
  l.table.size

end Locks

end SqlxDryRun
