import Overlay.Controller.State
import Overlay.Faults
import Overlay.Program
import Overlay.Time.Clock

/-!
# Running a program alone

The surroundings of a program as one state: controller, catalog, store, memory of tier-0 routers,
audit trail and clock, and the faults that keep requests from getting through. `Program.run` answers
the requests of one program in order. Nobody else is there to hold a lock, so every lock is granted.
-/

namespace Overlay

/-- The surroundings of a program. -/
structure World where
  controller : Controller.State
  /-- Which calls do not reach the controller. -/
  callFaults : Faults Controller.Operation Controller.Error
  /-- The calls that were made, first to last, whether they reached the controller or not. -/
  issued : List Controller.Call
  catalog : Catalog
  /-- Which look-ups do not reach the catalog. -/
  queryFaults : Faults Catalog.Topic Catalog.Error
  store : Store
  tier0s : Tier0Cache
  /-- Whether an audit trail is kept. -/
  auditing : Bool
  /-- The audit trail, first to last. -/
  trail : List Audit.Event
  clock : Clock

namespace World

/-- Surroundings in which nothing exists and nothing fails. -/
def empty (auditing : Bool) (clock : Clock) : World where
  controller := .empty
  callFaults := .none
  issued := []
  catalog := .empty
  queryFaults := .none
  store := .empty
  tier0s := .empty
  auditing := auditing
  trail := []
  clock := clock

/-- The answer of the controller, unless the call meets a fault. -/
def call (w : World) (c : Controller.Call) : Except Controller.Error c.Answer × World :=
  let w' := { w with
    issued := w.issued ++ [c]
    callFaults := w.callFaults.count c.operation }
  match w.callFaults.next c.operation with
  | some e => (.error e, w')
  | none =>
    let (answer, controller) := w.controller.perform c
    (answer, { w' with controller })

/-- The answer of the catalog, unless the look-up meets a fault. -/
def query (w : World) (q : Catalog.Query) : Except Catalog.Error q.Answer × World :=
  let w' := { w with queryFaults := w.queryFaults.count q.topic }
  match w.queryFaults.next q.topic with
  | some e => (.error e, w')
  | none => (.ok (w.catalog.answer q), w')

/-- The answer of the store. -/
def execute (w : World) (st : Store.Statement) : Except Store.Error st.Answer × World :=
  let (answer, store) := w.store.execute st
  (answer, { w with store })

/-- The answer to a request, and what it leaves. -/
def answer (w : World) : (r : Request) → r.Answer × World
  | .acquire _ => ((), w)
  | .release _ => ((), w)
  | .call c => w.call c
  | .query q => w.query q
  | .execute st => w.execute st
  | .validated id => (w.tier0s.get? id, w)
  | .remember t => ((), { w with tier0s := w.tier0s.insert t })
  | .report e => ((), if w.auditing then { w with trail := w.trail ++ [e] } else w)
  | .now => (w.clock.read.1, { w with clock := w.clock.read.2 })

end World

namespace Program

variable {α β : Type}

/-- The result of a program that runs alone, and what it leaves. -/
def run : Program α → World → α × World
  | .done a, w => (a, w)
  | .ask r k, w =>
    let (a, w) := w.answer r
    (k a).run w

/-- Two programs in turn run one after the other. -/
theorem run_bind (p : Program α) (f : α → Program β) (w : World) :
    (p >>= f).run w = let (a, w) := p.run w; (f a).run w := by
  induction p generalizing w with
  | done a => rfl
  | ask r k ih => exact ih _ _

end Program

/-- The result of a handler that runs alone, and what it leaves. -/
def Handler.runIn {α : Type} (h : Handler α) (w : World) : Except Error α × World :=
  Program.run h.run w

namespace Handler

variable {α β : Type}

/-! Each way of building a handler, seen through its run. -/

theorem runIn_pure (a : α) (w : World) : (pure a : Handler α).runIn w = (.ok a, w) := rfl

theorem runIn_throw (e : Error) (w : World) : (throw e : Handler α).runIn w = (.error e, w) := rfl

/-- A handler goes on with what the first one answers, and stops where it fails. -/
theorem runIn_bind (h : Handler α) (f : α → Handler β) (w : World) :
    (h >>= f).runIn w =
      match h.runIn w with
      | (.ok a, w') => (f a).runIn w'
      | (.error e, w') => (.error e, w') := by
  show Program.run (h.run >>= ExceptT.bindCont f) w = _
  rw [Program.run_bind]
  unfold runIn
  cases h.run.run w with
  | mk result w' => cases result <;> rfl

theorem runIn_tryCall (c : Controller.Call) (w : World) :
    (tryCall c).runIn w = (.ok (w.call c).1, (w.call c).2) := rfl

theorem runIn_call (c : Controller.Call) (w : World) :
    (call c).runIn w = ((w.call c).1.mapError .controller, (w.call c).2) := rfl

theorem runIn_query (q : Catalog.Query) (w : World) :
    (query q).runIn w = ((w.query q).1.mapError .catalog, (w.query q).2) := rfl

theorem runIn_execute (st : Store.Statement) (w : World) :
    (execute st).runIn w = ((w.execute st).1.mapError .store, (w.execute st).2) := rfl

theorem runIn_setting (a : Except Settings.Problem α) (w : World) :
    (setting a).runIn w = (a.mapError .settings, w) := by
  cases a <;> rfl

/-- A lock is no concern of a handler that runs alone. -/
theorem runIn_locked (key : LockKey) (body : Handler α) (w : World) :
    (locked key body).runIn w = body.runIn w := by
  show Program.run (body.run >>= _) w = _
  rw [Program.run_bind]
  rfl

/-- An attempt runs its body and has the body's error as a value. -/
theorem runIn_attempt (body : Handler α) (w : World) :
    (attempt body).runIn w = (.ok (body.runIn w).1, (body.runIn w).2) := by
  show Program.run (body.run >>= _) w = _
  rw [Program.run_bind]
  rfl

end Handler

end Overlay
