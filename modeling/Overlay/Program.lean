import Overlay.Audit
import Overlay.Error
import Overlay.Locks
import Overlay.Router.Cache
import Overlay.Store.Tables

/-!
# Programs

What a handler does, as a tree of requests to its surroundings: each request is one step, and the
rest of the program depends on its answer. A program decides nothing about its surroundings; running
it alone and running it among others are two ways of answering its requests.
-/

namespace Overlay

/-- A request of a program to its surroundings. -/
inductive Request where
  /-- Waits for a lock. -/
  | acquire (key : LockKey)
  /-- Gives a lock back. -/
  | release (key : LockKey)
  | call (c : Controller.Call)
  | query (q : Catalog.Query)
  | execute (st : Store.Statement)
  /-- Looks for a validated tier-0 router. -/
  | validated (tier0Id : String)
  /-- Remembers a validated tier-0 router. -/
  | remember (tier0 : Tier0)
  /-- Puts an event on the audit trail. -/
  | report (e : Audit.Event)
  /-- Reads the clock. -/
  | now

/-- The type of the answer to a request. -/
abbrev Request.Answer : Request → Type
  | .acquire _ => Unit
  | .release _ => Unit
  | .call c => Except Controller.Error c.Answer
  | .query q => Except Catalog.Error q.Answer
  | .execute st => Except Store.Error st.Answer
  | .validated _ => Option Tier0
  | .remember _ => Unit
  | .report _ => Unit
  | .now => Instant

/-- A program with results in `α`. -/
inductive Program (α : Type) : Type where
  | done (a : α)
  | ask (r : Request) (k : r.Answer → Program α)

namespace Program

variable {α β γ : Type}

/-- A program followed by another one that depends on its result. -/
def bind : Program α → (α → Program β) → Program β
  | .done a, f => f a
  | .ask r k, f => .ask r fun a => (k a).bind f

instance : Monad Program where
  pure := .done
  bind := bind

/-- The program of a single request. -/
def request (r : Request) : Program r.Answer := .ask r .done

theorem bind_done (p : Program α) : p.bind .done = p := by
  induction p with
  | done a => rfl
  | ask r k ih => exact congrArg (Program.ask r) (funext ih)

theorem bind_assoc (p : Program α) (f : α → Program β) (g : β → Program γ) :
    (p.bind f).bind g = p.bind fun a => (f a).bind g := by
  induction p with
  | done a => rfl
  | ask r k ih => exact congrArg (Program.ask r) (funext ih)

instance : LawfulMonad Program :=
  LawfulMonad.mk' Program bind_done (fun _ _ => rfl) bind_assoc

end Program

/-- A program that may stop with an error. -/
abbrev Handler := ExceptT Error Program

namespace Handler

variable {α : Type}

/-- The answer of the controller, refusals included. -/
def tryCall (c : Controller.Call) : Handler (Except Controller.Error c.Answer) :=
  ExceptT.lift (Program.request (.call c))

/-- The answer of the controller; a refusal stops the handler. -/
def call (c : Controller.Call) : Handler c.Answer :=
  ExceptT.mk ((·.mapError .controller) <$> Program.request (.call c))

/-- The answer of the catalog; an error stops the handler. -/
def query (q : Catalog.Query) : Handler q.Answer :=
  ExceptT.mk ((·.mapError .catalog) <$> Program.request (.query q))

/-- The answer of the store; an error stops the handler. -/
def execute (st : Store.Statement) : Handler st.Answer :=
  ExceptT.mk ((·.mapError .store) <$> Program.request (.execute st))

/-- Puts an event on the audit trail. -/
def report (e : Audit.Event) : Handler Unit := ExceptT.lift (Program.request (.report e))

/-- The time of the moment. -/
def now : Handler Instant := ExceptT.lift (Program.request .now)

/-- What is remembered of a tier-0 router. -/
def validated (tier0Id : String) : Handler (Option Tier0) :=
  ExceptT.lift (Program.request (.validated tier0Id))

/-- Remembers a validated tier-0 router. -/
def remember (t : Tier0) : Handler Unit := ExceptT.lift (Program.request (.remember t))

/-- What the settings say. -/
def setting (a : Except Settings.Problem α) : Handler α :=
  match a with
  | .ok a => pure a
  | .error p => throw (.settings p)

/-- Runs `body` under a lock, which is given back however `body` ends. -/
def locked (key : LockKey) (body : Handler α) : Handler α :=
  ExceptT.mk do
    Program.request (.acquire key)
    let result ← body.run
    Program.request (.release key)
    return result

/-- What becomes of `body`, as a result and not as the end of the handler. -/
def attempt (body : Handler α) : Handler (Except Error α) := ExceptT.lift body.run

/-- Runs two handlers, one after the other, and gives both results. -/
def both {β : Type} (a : Handler α) (b : Handler β) : Handler (Except Error α × Except Error β) := do
  let ra ← attempt a
  let rb ← attempt b
  return (ra, rb)

end Handler

end Overlay
