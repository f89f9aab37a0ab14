import Overlay.Table

/-!
# Keyed locks

A register of mutexes, one for each key that somebody holds or waits for. A request goes by the
register: it takes off the register every mutex that nothing else refers to, finds the mutex of its
key there or puts a new one on it, and asks this mutex. From then on it refers to the mutex that it
has asked, whatever becomes of the register, until it is given up.

How requests are treated by the mutex they ask is no matter of the register, so the kind of mutex is
a parameter. `Mutex.queue` is the one that is held by the request that has asked first.
-/

namespace Overlay

/-- What locks protect. -/
inductive LockScope where
  | port
  | network
  deriving DecidableEq, Repr

/-- The key of a lock. -/
structure LockKey where
  scope : LockScope
  id : String
  deriving DecidableEq, Repr

/-- The lock of a port. -/
def LockKey.port (id : String) : LockKey := ⟨.port, id⟩

/-- The lock of a network. -/
def LockKey.network (id : String) : LockKey := ⟨.network, id⟩

/-- A kind of mutex. `τ` is the type of requests. -/
structure Mutex (τ : Type) where
  State : Type
  /-- A mutex that was never asked. -/
  unused : State
  /-- After one more request. -/
  ask : State → τ → State
  /-- After a request is given up, whether it holds the mutex or waits for it. -/
  leave : State → τ → State
  holds : State → τ → Bool
  waits : State → τ → Bool

/-- A mutex as a queue of requests: the first one holds it, and the others wait. -/
def Mutex.queue (τ : Type) [DecidableEq τ] : Mutex τ where
  State := List τ
  unused := []
  ask q t := q ++ [t]
  leave q t := q.filter (· ≠ t)
  holds q t := q.head? = some t
  waits q t := t ∈ q.tail

/-- A mutex on the register, by its number. -/
structure LockEntry where
  key : LockKey
  mutex : Nat
  deriving DecidableEq, Repr

/-- A request that is not given up, and the number of the mutex that it has asked. -/
structure LockRequest (τ : Type) where
  request : τ
  mutex : Nat
  deriving DecidableEq, Repr

/-- Locks of one kind. -/
structure LockRegister {τ : Type} (M : Mutex τ) where
  register : List LockEntry
  requests : List (LockRequest τ)
  /-- Every mutex that was ever made, by its number. -/
  mutexes : List M.State

namespace LockRegister

variable {τ : Type} [DecidableEq τ] {M : Mutex τ}

/-- The register without any locks. -/
def empty : LockRegister M := ⟨[], [], []⟩

/-- How many refer to a mutex: the register, if it is there, and the requests that have asked it. -/
def references (l : LockRegister M) (mutex : Nat) : Nat :=
  l.register.countP (·.mutex = mutex) + l.requests.countP (·.mutex = mutex)

/-- Takes off the register every mutex that nothing else refers to. -/
def prune (l : LockRegister M) : LockRegister M :=
  { l with register := l.register.filter (l.references ·.mutex > 1) }

/-- Puts a new mutex on the register. -/
def add (l : LockRegister M) (key : LockKey) : LockRegister M :=
  { l with
    register := l.register ++ [⟨key, l.mutexes.length⟩]
    mutexes := l.mutexes ++ [M.unused] }

/-- A request asks a mutex, and from now on refers to it. -/
def join (l : LockRegister M) (t : τ) (mutex : Nat) : LockRegister M :=
  { l with
    requests := l.requests ++ [⟨t, mutex⟩]
    mutexes := l.mutexes.modify mutex (M.ask · t) }

/-- The locks after a request for a key. -/
def request (l : LockRegister M) (key : LockKey) (t : τ) : LockRegister M :=
  let l := l.prune
  match Table.find? LockEntry.key key l.register with
  | some e => l.join t e.mutex
  | none => (l.add key).join t l.mutexes.length

/-- The mutex that a request has asked, if the request is not given up. -/
def mutex? (l : LockRegister M) (t : τ) : Option Nat :=
  (Table.find? LockRequest.request t l.requests).map (·.mutex)

/-- The locks after a request is given up. -/
def release (l : LockRegister M) (t : τ) : LockRegister M :=
  match l.mutex? t with
  | some mutex =>
    { l with
      requests := Table.remove LockRequest.request t l.requests
      mutexes := l.mutexes.modify mutex (M.leave · t) }
  | none => l

/-- Whether the request holds its lock. -/
def holds (l : LockRegister M) (t : τ) : Bool :=
  ((l.mutex? t).bind (l.mutexes[·]?)).any (M.holds · t)

/-- Whether the request waits for its lock. -/
def waits (l : LockRegister M) (t : τ) : Bool :=
  ((l.mutex? t).bind (l.mutexes[·]?)).any (M.waits · t)

/-- The keys on the register. -/
def keys (l : LockRegister M) : List LockKey := l.register.map (·.key)

end LockRegister

/-- Locks that are granted in the order of the requests. -/
abbrev Locks (τ : Type) [DecidableEq τ] : Type := LockRegister (Mutex.queue τ)

end Overlay
