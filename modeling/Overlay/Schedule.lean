import Overlay.World

/-!
# Running programs side by side

Several programs over one world. A schedule is a list of turns, and at its turn a program has one
request answered; what the other programs do in between is up to the schedule. A lock is granted
only while nobody holds it, so a program that asks for a lock of another one cannot take its turn.

Main statement: `step?_eq_none_iff`. A program that cannot take its turn has ended or waits for a
lock that is held.
-/

namespace Overlay

/-- Programs that run side by side over one world. -/
structure Concurrent (α : Type) where
  /-- What is left of each program. -/
  threads : List (Program α)
  world : World
  /-- The number of the program that holds a lock. -/
  holder : LockKey → Option Nat

namespace Concurrent

variable {α : Type}

/-- Programs that have not taken a turn, and locks that nobody holds. -/
def start (threads : List (Program α)) (w : World) : Concurrent α := ⟨threads, w, fun _ => none⟩

/-- The state with something else left of program `i`. -/
def advance (c : Concurrent α) (i : Nat) (rest : Program α) : Concurrent α :=
  { c with threads := c.threads.set i rest }

/-- The state with another holder of a lock. -/
def setHolder (c : Concurrent α) (key : LockKey) (i : Option Nat) : Concurrent α :=
  { c with holder := fun other => if other = key then i else c.holder other }

/-- The state after a turn of program `i`, whose next request is `r`. -/
def grant? (c : Concurrent α) (i : Nat) : (r : Request) → (r.Answer → Program α) →
    Option (Concurrent α)
  | .acquire key, k =>
    if (c.holder key).isNone then some ((c.setHolder key (some i)).advance i (k ())) else none
  | .release key, k => some ((c.setHolder key none).advance i (k ()))
  | r, k =>
    let (a, world) := c.world.answer r
    some { c.advance i (k a) with world }

/-- The state after a turn of program `i`, if it can take one. -/
def step? (c : Concurrent α) (i : Nat) : Option (Concurrent α) :=
  match c.threads[i]? with
  | none => none
  | some (.done _) => none
  | some (.ask r k) => c.grant? i r k

/-- The state after all turns of a schedule, if every program could take its turns. -/
def run? (c : Concurrent α) (schedule : List Nat) : Option (Concurrent α) :=
  schedule.foldlM step? c

/-- Whether every program has ended. -/
def Ended (c : Concurrent α) : Prop := ∀ p ∈ c.threads, ∃ a, p = .done a

/-- Whether program `i` waits for a lock that is held. -/
def Waiting (c : Concurrent α) (i : Nat) : Prop :=
  ∃ key k, c.threads[i]? = some (.ask (.acquire key) k) ∧ c.holder key ≠ none

theorem grant?_eq_none_iff (c : Concurrent α) (i : Nat) (r : Request)
    (k : r.Answer → Program α) :
    c.grant? i r k = none ↔ ∃ key, r = .acquire key ∧ c.holder key ≠ none := by
  cases r with
  | acquire key =>
    rw [grant?]
    split
    · next free => simpa using Option.isNone_iff_eq_none.mp free
    · next taken => simpa using fun e => taken (Option.isNone_iff_eq_none.mpr e)
  | _ => simp [grant?]

theorem step?_eq_none_iff (c : Concurrent α) (i : Nat) (h : i < c.threads.length) :
    c.step? i = none ↔ (∃ a, c.threads[i] = .done a) ∨ c.Waiting i := by
  have found : c.threads[i]? = some c.threads[i] := List.getElem?_eq_getElem h
  unfold step? Waiting
  rw [found]
  cases hp : c.threads[i] with
  | done a => simp
  | ask r k =>
    simp only [grant?_eq_none_iff, reduceCtorEq, exists_false, false_or, Option.some.injEq]
    constructor
    · rintro ⟨key, rfl, taken⟩
      exact ⟨key, k, rfl, taken⟩
    · rintro ⟨key, k', e, taken⟩
      cases e
      exact ⟨key, rfl, taken⟩

end Concurrent

end Overlay
