import Overlay.Proofs.Time.Written
import Overlay.World

/-!
# What a run leaves as it was

A program does much to its surroundings, but nothing to what decides about its requests: the catalog
stays, so do the faults and refusals that were arranged, requests are only counted on, and the clock
is only read on. `World.Follows` is this relation, and `Follows.run` says that every run keeps it.

`Handler.Leaves` says what holds when a handler stops, and `Handler.Ends` what holds then, provided
that the clock is legible. A clock that is legible at the end was legible all the time, so the rules
below lead from the parts of a handler to the whole of it without a word about times.
-/

namespace Overlay

/-- No call changes what the controller is told to refuse, every call is put on record, and only the
making of a server uses up a server's name. -/
theorem Controller.State.perform_frame (s : State) (c : Call) :
    (s.perform c).2.refusals = s.refusals ∧ (s.perform c).2.calls = s.calls ++ [c] ∧
      ((∀ config, c ≠ .createServer config) →
        (s.perform c).2.made.servers = s.made.servers) := by
  cases c <;> try exact ⟨rfl, rfl, fun _ => rfl⟩
  case createRouterPort r =>
    simp only [perform, effect, createRouterPort]
    split <;> exact ⟨rfl, rfl, fun _ => rfl⟩
  case setRouterPortSubnets id subnets =>
    simp only [perform, effect, setRouterPortSubnets]
    split <;> exact ⟨rfl, rfl, fun _ => rfl⟩
  case deleteRouterPort id =>
    simp only [perform, effect, deleteRouterPort]
    split <;> exact ⟨rfl, rfl, fun _ => rfl⟩
  case createServer config => exact ⟨rfl, rfl, fun other => absurd rfl (other config)⟩
  case setServerIp id ip =>
    simp only [perform, effect, setServerIp]
    split <;> exact ⟨rfl, rfl, fun _ => rfl⟩
  case deleteServer id =>
    simp only [perform, effect, deleteServer]
    split
    · exact ⟨rfl, rfl, fun _ => rfl⟩
    · split <;> exact ⟨rfl, rfl, fun _ => rfl⟩
  case createBinding serverId r =>
    simp only [perform, effect, createBinding]
    split
    · exact ⟨rfl, rfl, fun _ => rfl⟩
    · split <;> exact ⟨rfl, rfl, fun _ => rfl⟩
  case updateBinding serverId bindingId u =>
    simp only [perform, effect, updateBinding]
    split <;> exact ⟨rfl, rfl, fun _ => rfl⟩
  case deleteBinding serverId bindingId =>
    simp only [perform, effect, deleteBinding]
    split <;> exact ⟨rfl, rfl, fun _ => rfl⟩

namespace World

/-- What surroundings `w` may have become while programs ran in them. -/
structure Follows (w w' : World) : Prop where
  catalog : w'.catalog = w.catalog
  failing : ∀ op, (w'.callFaults.pattern op).failing = (w.callFaults.pattern op).failing
  seen : ∀ op, (w.callFaults.pattern op).seen ≤ (w'.callFaults.pattern op).seen
  missing : ∀ t, (w'.queryFaults.pattern t).failing = (w.queryFaults.pattern t).failing
  refusals : w'.controller.refusals = w.controller.refusals
  clock : w.clock.GoesOn w'.clock

namespace Follows

theorem refl (w : World) : w.Follows w :=
  ⟨rfl, fun _ => rfl, fun _ => Nat.le_refl _, fun _ => rfl, rfl, .refl _⟩

theorem trans {w w' w'' : World} (h : w.Follows w') (h' : w'.Follows w'') : w.Follows w'' where
  catalog := h'.catalog.trans h.catalog
  failing op := (h'.failing op).trans (h.failing op)
  seen op := Nat.le_trans (h.seen op) (h'.seen op)
  missing t := (h'.missing t).trans (h.missing t)
  refusals := h'.refusals.trans h.refusals
  clock := h.clock.trans h'.clock

end Follows

/-! ## Single requests -/

/-- Surroundings that have taken note of a call, whether it arrives or not. -/
def noted (w : World) (c : Controller.Call) : World :=
  { w with
    issued := w.issued ++ [c]
    callFaults := w.callFaults.count c.operation }

/-- A call that is lost changes nothing but the log and the count of its faults. -/
theorem call_lost {w : World} {c : Controller.Call} {e : Controller.Error}
    (h : w.callFaults.next c.operation = some e) : w.call c = (.error e, w.noted c) := by
  rw [call, h]
  rfl

/-- A call that arrives is answered by the controller, which is changed as the call says. -/
theorem call_arrived {w : World} {c : Controller.Call}
    (h : w.callFaults.next c.operation = none) :
    w.call c = ((w.controller.perform c).1,
      { w.noted c with controller := (w.controller.perform c).2 }) := by
  rw [call, h]
  rfl

/-- Counting an occurrence leaves the patterns of failure as they are. -/
theorem failing_count {ι ε : Type} [DecidableEq ι] (f : Faults ι ε) (i j : ι) :
    ((f.count i).pattern j).failing = (f.pattern j).failing := by
  by_cases same : j = i
  · subst same
    simp only [Faults.count, Faults.set, if_pos]
  · simp only [Faults.count, Faults.set, if_neg same]

/-- Counting an occurrence is seen by the pattern of its own kind only. -/
theorem seen_count {ι ε : Type} [DecidableEq ι] (f : Faults ι ε) (i j : ι) :
    ((f.count i).pattern j).seen = (f.pattern j).seen + if j = i then 1 else 0 := by
  by_cases same : j = i
  · subst same
    simp only [Faults.count, Faults.set, if_pos]
  · simp only [Faults.count, Faults.set, if_neg same, Nat.add_zero]

/-- Whatever becomes of the controller, as long as it refuses what it refused. -/
theorem Follows.noted (w : World) (c : Controller.Call) (s : Controller.State)
    (h : s.refusals = w.controller.refusals) :
    w.Follows { w.noted c with controller := s } where
  catalog := rfl
  failing op := failing_count w.callFaults c.operation op
  seen op := by
    show _ ≤ ((w.callFaults.count c.operation).pattern op).seen
    rw [seen_count]
    exact Nat.le_add_right _ _
  missing _ := rfl
  refusals := h
  clock := .refl _

/-- A call keeps what the surroundings keep, lost or not. -/
theorem Follows.call (w : World) (c : Controller.Call) : w.Follows (w.call c).2 := by
  cases h : w.callFaults.next c.operation with
  | none =>
      rw [call_arrived h]
      exact Follows.noted w c _ (w.controller.perform_frame c).1
  | some e =>
      rw [call_lost h]
      exact Follows.noted w c w.controller rfl

/-- Surroundings that a call has led to follow those before it. -/
theorem Follows.of_call {w w' : World} {c : Controller.Call}
    {answer : Except Controller.Error c.Answer} (call : w.call c = (answer, w')) :
    w.Follows w' := by
  have follows := Follows.call w c
  rwa [call] at follows

/-- A call is put on record, whether it arrives or not. -/
theorem issued_call {w w' : World} {c : Controller.Call}
    {answer : Except Controller.Error c.Answer} (call : w.call c = (answer, w')) :
    w'.issued = w.issued ++ [c] := by
  cases h : w.callFaults.next c.operation with
  | none =>
      rw [call_arrived h] at call
      cases call
      rfl
  | some e =>
      rw [call_lost h] at call
      cases call
      rfl

theorem Follows.query (w : World) (q : Catalog.Query) : w.Follows (w.query q).2 := by
  have counted : (w.query q).2 = { w with queryFaults := w.queryFaults.count q.topic } := by
    rw [World.query]
    split <;> rfl
  rw [counted]
  exact ⟨rfl, fun _ => rfl, fun _ => Nat.le_refl _,
    fun t => failing_count w.queryFaults q.topic t, rfl, .refl _⟩

/-- Whatever is asked of the surroundings, they go on from where they were. -/
theorem Follows.answer (w : World) (r : Request) : w.Follows (w.answer r).2 := by
  cases r with
  | acquire key => exact refl w
  | release key => exact refl w
  | call c => exact Follows.call w c
  | query q => exact Follows.query w q
  | execute st =>
      exact ⟨rfl, fun _ => rfl, fun _ => Nat.le_refl _, fun _ => rfl, rfl, .refl _⟩
  | validated id => exact refl w
  | remember t =>
      exact ⟨rfl, fun _ => rfl, fun _ => Nat.le_refl _, fun _ => rfl, rfl, .refl _⟩
  | report e =>
      rw [World.answer]
      split
      · exact ⟨rfl, fun _ => rfl, fun _ => Nat.le_refl _, fun _ => rfl, rfl, .refl _⟩
      · exact refl w
  | now => exact ⟨rfl, fun _ => rfl, fun _ => Nat.le_refl _, fun _ => rfl, rfl, .read _⟩

/-- A run keeps what decides about requests. -/
theorem Follows.run {α : Type} (p : Program α) (w : World) : w.Follows (p.run w).2 := by
  induction p generalizing w with
  | done a => exact refl w
  | ask r k ih => exact (Follows.answer w r).trans (ih _ _)

/-! ## Lost calls -/

/-- Between `w` and `w'` a call of this operation was lost to a fault with this error. -/
def Lost (w w' : World) (op : Controller.Operation) (e : Controller.Error) : Prop :=
  ∃ n, (w.callFaults.pattern op).seen ≤ n ∧ n < (w'.callFaults.pattern op).seen ∧
    (w.callFaults.pattern op).failing n = some e

/-- Nothing is lost where the faults have not been asked about the operation. -/
theorem not_lost {w w' : World} {op : Controller.Operation} {e : Controller.Error}
    (same : (w'.callFaults.pattern op).seen = (w.callFaults.pattern op).seen) :
    ¬ w.Lost w' op e := by
  rintro ⟨n, first, last, _⟩
  omega

/-- A call is lost over two stretches exactly if it is lost over one of them. -/
theorem Follows.lost_iff {w w' w'' : World} (h : w.Follows w') (h' : w'.Follows w'')
    {op : Controller.Operation} {e : Controller.Error} :
    w.Lost w'' op e ↔ w.Lost w' op e ∨ w'.Lost w'' op e := by
  have first := h.seen op
  have last := h'.seen op
  constructor
  · rintro ⟨n, low, high, fails⟩
    rcases Nat.lt_or_ge n (w'.callFaults.pattern op).seen with early | late
    · exact Or.inl ⟨n, low, early, fails⟩
    · exact Or.inr ⟨n, late, high, by rw [h.failing]; exact fails⟩
  · rintro (⟨n, low, high, fails⟩ | ⟨n, low, high, fails⟩)
    · exact ⟨n, low, by omega, fails⟩
    · rw [h.failing] at fails
      exact ⟨n, by omega, high, fails⟩

/-- A single call is lost to the fault that it meets and to no other. -/
theorem lost_call_iff {w : World} {c : Controller.Call} {op : Controller.Operation}
    {e : Controller.Error} :
    w.Lost (w.call c).2 op e ↔ op = c.operation ∧ w.callFaults.next op = some e := by
  have counted : (w.call c).2.callFaults = w.callFaults.count c.operation := by
    cases h : w.callFaults.next c.operation with
    | none => rw [call_arrived h]; rfl
    | some e => rw [call_lost h]; rfl
  rw [Lost, counted, seen_count, Faults.next]
  constructor
  · rintro ⟨n, low, high, fails⟩
    by_cases same : op = c.operation
    · rw [if_pos same] at high
      have here : n = (w.callFaults.pattern op).seen := by omega
      exact ⟨same, here ▸ fails⟩
    · rw [if_neg same] at high
      omega
  · rintro ⟨same, fails⟩
    rw [if_pos same]
    exact ⟨_, Nat.le_refl _, Nat.lt_succ_self _, fails⟩

/-- A call on which a fault falls is lost from one moment to the next. -/
theorem lost_noted {w : World} {c : Controller.Call} {e : Controller.Error}
    (h : w.callFaults.next c.operation = some e) : w.Lost (w.noted c) c.operation e := by
  have lost := (lost_call_iff (w := w) (c := c)).mpr ⟨rfl, h⟩
  rwa [call_lost h] at lost

/-- What comes of a call that only looks something up: it is lost, or it is answered with `a`. It is
put on record, and nothing else is changed. -/
inductive Asked {c : Controller.Call} (w : World) (a : c.Answer) :
    World → Except Controller.Error c.Answer → Prop where
  | lost {e : Controller.Error} (lost : w.Lost (w.noted c) c.operation e) :
      Asked w a (w.noted c) (.error e)
  | answered : Asked w a { w.noted c with
      controller := { w.controller with calls := w.controller.calls ++ [c] } } (.ok a)

/-- A call that only looks leaves the controller's objects as they were. -/
theorem asked_call {w w' : World} {c : Controller.Call} {a : c.Answer}
    {answer : Except Controller.Error c.Answer}
    (looks : w.controller.perform c
      = (.ok a, { w.controller with calls := w.controller.calls ++ [c] }))
    (call : w.call c = (answer, w')) : w.Asked a w' answer := by
  cases fate : w.callFaults.next c.operation with
  | some e =>
      rw [call_lost fate] at call
      cases call
      exact .lost (lost_noted fate)
  | none =>
      rw [call_arrived fate, looks] at call
      cases call
      exact .answered

/-- Nothing fails: no request meets a fault, and the controller refuses none on DHCP. -/
structure Calm (w : World) : Prop where
  calls : ∀ op n, (w.callFaults.pattern op).failing n = none
  queries : ∀ t n, (w.queryFaults.pattern t).failing n = none
  addresses : w.controller.refusals.addresses = []
  deletes : w.controller.refusals.serverDeletes = false

/-- Every look-up reaches the catalog. -/
def Reachable (w : World) : Prop := ∀ t n, (w.queryFaults.pattern t).failing n = none

/-- The catalog stays within reach. -/
theorem Reachable.follows {w w' : World} (h : w.Reachable) (f : w.Follows w') : w'.Reachable :=
  fun t n => (congrFun (f.missing t) n).trans (h t n)

theorem Calm.reachable {w : World} (calm : w.Calm) : w.Reachable := calm.queries

/-- Where a call is to be lost, the surroundings are not calm. -/
theorem not_calm_of_next {w : World} {op : Controller.Operation} {e : Controller.Error}
    (h : w.callFaults.next op = some e) : ¬ w.Calm := by
  intro calm
  have none := calm.calls op (w.callFaults.pattern op).seen
  exact Option.some_ne_none e (h.symm.trans none)

/-- In calm surroundings no call is lost. -/
theorem Calm.not_lost {w w' : World} (calm : w.Calm) (op : Controller.Operation)
    (e : Controller.Error) : ¬ w.Lost w' op e := by
  rintro ⟨n, -, -, fails⟩
  exact Option.some_ne_none e (fails.symm.trans (calm.calls op n))

/-- Surroundings stay calm, whatever is asked of them. -/
theorem Calm.follows {w w' : World} (h : w.Calm) (f : w.Follows w') : w'.Calm where
  calls op n := by rw [f.failing]; exact h.calls op n
  queries t n := by rw [f.missing]; exact h.queries t n
  addresses := by rw [f.refusals]; exact h.addresses
  deletes := by rw [f.refusals]; exact h.deletes

end World

namespace Handler

variable {α β : Type}

/-- A handler's surroundings at the end follow those at the start. -/
theorem follows_runIn (h : Handler α) (w : World) : w.Follows (h.runIn w).2 :=
  World.Follows.run h.run w

/-- When the handler stops, `Q` holds of its result and of what it leaves. -/
def Leaves (h : Handler α) (w : World) (Q : Except Error α → World → Prop) : Prop :=
  Q (h.runIn w).1 (h.runIn w).2

namespace Leaves

variable {h : Handler α} {f : α → Handler β} {w : World} {P Q : Except Error α → World → Prop}
  {R : Except Error β → World → Prop}

/-- A handler that leaves more than is asked for leaves what is asked for. -/
theorem mono (hP : h.Leaves w P) (weaker : ∀ r w', w.Follows w' → P r w' → Q r w') :
    h.Leaves w Q :=
  weaker _ _ (h.follows_runIn w) hP

theorem pure {a : α} (hQ : Q (.ok a) w) : Leaves (Pure.pure a) w Q := hQ

theorem throw {e : Error} (hQ : Q (.error e) w) : Leaves (throw e) w Q := hQ

/-- What comes after an error does not happen. -/
theorem throwing {e : Error} (hR : R (.error e) w) : Leaves (MonadExcept.throw e >>= f) w R := hR

/-- One handler after the other. Only a result of the first leads on to the second. -/
theorem bind (first : h.Leaves w P)
    (ok : ∀ a w', w.Follows w' → P (.ok a) w' → (f a).Leaves w' R)
    (error : ∀ e w', w.Follows w' → P (.error e) w' → R (.error e) w') :
    (h >>= f).Leaves w R := by
  unfold Leaves at *
  rw [runIn_bind]
  have follows := h.follows_runIn w
  cases run : h.runIn w with
  | mk result w' =>
      rw [run] at first follows
      cases result with
      | error e => exact error e w' follows first
      | ok a => exact ok a w' follows first

/-- A lock is no concern of a handler that runs alone. -/
theorem locked {key : LockKey} (body : h.Leaves w Q) : (Handler.locked key h).Leaves w Q := by
  unfold Leaves at *
  rw [runIn_locked]
  exact body

/-- An attempt leaves what its body leaves, with the body's error as a value. -/
theorem attempt {T : Except Error (Except Error α) → World → Prop}
    (body : h.Leaves w fun r w' => T (.ok r) w') : (Handler.attempt h).Leaves w T := by
  unfold Leaves at *
  rw [runIn_attempt]
  exact body

/-- Reading the clock takes the next instant and moves the clock on. -/
theorem now {T : Except Error Instant → World → Prop}
    (reading : T (.ok w.clock.next) { w with clock := w.clock.read.2 }) :
    Handler.now.Leaves w T := reading

/-- An event is put on the trail if one is kept. -/
theorem report {e : Audit.Event} {T : Except Error Unit → World → Prop}
    (kept : w.auditing = true → T (.ok ()) { w with trail := w.trail ++ [e] })
    (dropped : w.auditing = false → T (.ok ()) w) : (Handler.report e).Leaves w T := by
  show T (.ok ()) (if w.auditing then { w with trail := w.trail ++ [e] } else w)
  split
  · next auditing => exact kept auditing
  · next off => exact dropped (Bool.eq_false_iff.mpr off)

/-- What the trail is after an event. -/
theorem reported {e : Audit.Event} {T : Except Error Unit → World → Prop}
    (told : T (.ok ()) { w with trail := if w.auditing then w.trail ++ [e] else w.trail }) :
    (Handler.report e).Leaves w T := by
  refine report (fun on => ?_) fun off => ?_
  · rwa [if_pos on] at told
  · rwa [if_neg (Bool.eq_false_iff.mp off)] at told

/-- A statement is answered by the store, which is changed as the statement says. -/
theorem execute {st : Store.Statement} {T : Except Error st.Answer → World → Prop}
    (executed : T ((w.store.execute st).1.mapError .store)
      { w with store := (w.store.execute st).2 }) : (Handler.execute st).Leaves w T :=
  executed

/-- A statement whose answer is known, and what is done then. -/
theorem executed {st : Store.Statement} {a : st.Answer} {f : st.Answer → Handler β}
    (answer : (w.store.execute st).1 = .ok a)
    (rest : (f a).Leaves { w with store := (w.store.execute st).2 } R) :
    (Handler.execute st >>= f).Leaves w R := by
  refine bind (P := fun r w' => r = .ok a ∧ w' = { w with store := (w.store.execute st).2 })
    (execute ⟨by rw [answer]; rfl, rfl⟩) ?_ fun e w' _ h => nomatch h.1
  rintro b w' - ⟨same, rfl⟩
  cases same
  exact rest

/-- A look-up gives the catalog's answer, or fails because of a fault and leaves the rest alone. -/
theorem query {q : Catalog.Query} {T : Except Error q.Answer → World → Prop}
    (answered : ∀ queryFaults, T (.ok (w.catalog.answer q)) { w with queryFaults })
    (lost : ∀ e queryFaults, ¬ w.Reachable → T (.error (.catalog e)) { w with queryFaults }) :
    (Handler.query q).Leaves w T := by
  unfold Leaves
  rw [runIn_query, World.query]
  cases h : w.queryFaults.next q.topic with
  | none => exact answered _
  | some e =>
      refine lost e _ fun reachable => ?_
      have none := reachable q.topic (w.queryFaults.pattern q.topic).seen
      exact Option.some_ne_none e (h.symm.trans none)

/-- A call is lost, or it arrives and is answered. -/
theorem tryCall {c : Controller.Call}
    {T : Except Error (Except Controller.Error c.Answer) → World → Prop}
    (lost : ∀ e, w.callFaults.next c.operation = some e → T (.ok (.error e)) (w.noted c))
    (arrived : w.callFaults.next c.operation = none → T (.ok (w.controller.perform c).1)
      { w.noted c with controller := (w.controller.perform c).2 }) :
    (Handler.tryCall c).Leaves w T := by
  unfold Leaves
  rw [runIn_tryCall]
  cases h : w.callFaults.next c.operation with
  | none =>
      rw [World.call_arrived h]
      exact arrived h
  | some e =>
      rw [World.call_lost h]
      exact lost e h

/-- A call is lost to a fault, or arrives and is carried out. -/
theorem call {c : Controller.Call} {T : Except Error c.Answer → World → Prop}
    (lost : ∀ e, w.callFaults.next c.operation = some e →
      T (.error (.controller e)) (w.noted c))
    (arrived : w.callFaults.next c.operation = none →
      T ((w.controller.perform c).1.mapError .controller)
        { w.noted c with controller := (w.controller.perform c).2 }) :
    (Handler.call c).Leaves w T := by
  unfold Leaves
  rw [runIn_call]
  cases h : w.callFaults.next c.operation with
  | none =>
      rw [World.call_arrived h]
      exact arrived h
  | some e =>
      rw [World.call_lost h]
      exact lost e h

/-- A call, and what is done with its answer. -/
theorem called {c : Controller.Call} {f : c.Answer → Handler β}
    (ok : ∀ a w', w.call c = (.ok a, w') → (f a).Leaves w' R)
    (error : ∀ e w', w.call c = (.error e, w') → R (.error (.controller e)) w') :
    (Handler.call c >>= f).Leaves w R := by
  unfold Leaves
  rw [runIn_bind, runIn_call]
  cases answer : w.call c with
  | mk result w' =>
      cases result with
      | ok a => exact ok a w' answer
      | error e => exact error e w' answer

/-- A call, and what is done with its answer or with its refusal. -/
theorem tried {c : Controller.Call} {f : Except Controller.Error c.Answer → Handler β}
    (rest : ∀ r w', w.call c = (r, w') → (f r).Leaves w' R) :
    (Handler.tryCall c >>= f).Leaves w R := by
  unfold Leaves
  rw [runIn_bind, runIn_tryCall]
  exact rest _ _ rfl

end Leaves

/-- When the handler stops, `Q` holds of its result and of what it leaves, provided that the clock
is legible then. -/
def Ends (h : Handler α) (w : World) (Q : Except Error α → World → Prop) : Prop :=
  (h.runIn w).2.clock.Legible → Q (h.runIn w).1 (h.runIn w).2

namespace Ends

variable {h : Handler α} {f : α → Handler β} {w : World} {P Q : Except Error α → World → Prop}
  {R : Except Error β → World → Prop}

/-- What a handler leaves on a legible clock is what it ends with. -/
theorem of_leaves (hQ : h.Leaves w fun r w' => w'.clock.Legible → Q r w') : h.Ends w Q := hQ

/-- A handler that ends with something leaves it if the clock stays legible. -/
theorem leaves (hQ : h.Ends w Q) : h.Leaves w fun r w' => w'.clock.Legible → Q r w' := hQ

/-- A handler that ends with more than is asked for ends with what is asked for. -/
theorem mono (hP : h.Ends w P) (weaker : ∀ r w', w.Follows w' → P r w' → Q r w') : h.Ends w Q :=
  .of_leaves (hP.leaves.mono fun r w' follows hP legible => weaker r w' follows (hP legible))

/-- What holds when the handler stops, beside the run that leads there. -/
theorem ran (hQ : h.Ends w Q) : h.Ends w fun r w' => h.runIn w = (r, w') ∧ Q r w' :=
  fun legible => ⟨rfl, hQ legible⟩

theorem pure {a : α} (hQ : Q (.ok a) w) : Ends (Pure.pure a) w Q :=
  .of_leaves (Leaves.pure fun _ => hQ)

theorem throw {e : Error} (hQ : Q (.error e) w) : Ends (throw e) w Q :=
  .of_leaves (Leaves.throw fun _ => hQ)

/-- One handler after the other. The clock was legible after the first if it is after the second. -/
theorem bind (first : h.Ends w P)
    (ok : ∀ a w', w.Follows w' → P (.ok a) w' → (f a).Ends w' R)
    (error : ∀ e w', w.Follows w' → P (.error e) w' → R (.error e) w') :
    (h >>= f).Ends w R := by
  refine .of_leaves (first.leaves.bind (fun a w' follows hP legible => ?_)
    fun e w' follows hP legible => error e w' follows (hP legible))
  have earlier : w'.clock.Legible :=
    legible.earlier ((f a).follows_runIn w').clock
  exact ok a w' follows (hP earlier) legible

/-- A handler ends under a lock as it ends without it. -/
theorem locked {key : LockKey} (body : h.Ends w Q) : (Handler.locked key h).Ends w Q :=
  .of_leaves body.leaves.locked

/-- An attempt ends as its body does, with the body's error as a value. -/
theorem attempt {T : Except Error (Except Error α) → World → Prop}
    (body : h.Ends w fun r w' => T (.ok r) w') : (Handler.attempt h).Ends w T :=
  .of_leaves (Leaves.attempt body.leaves)

/-- The clock is read; the reading is legible since the clock still is at the end. -/
theorem now {T : Except Error Instant → World → Prop}
    (reading : w.clock.next.Legible → T (.ok w.clock.next) { w with clock := w.clock.read.2 }) :
    Handler.now.Ends w T :=
  fun legible => reading (Clock.legible_next legible)

/-- A record for the audit trail changes nothing else. -/
theorem report {e : Audit.Event} {T : Except Error Unit → World → Prop}
    (reported : ∀ trail, T (.ok ()) { w with trail }) : (Handler.report e).Ends w T :=
  .of_leaves (Leaves.report (fun _ _ => reported _) fun _ _ => reported w.trail)

/-- A statement is answered by the store, which is changed as it says. -/
theorem execute {st : Store.Statement} {T : Except Error st.Answer → World → Prop}
    (executed : T ((w.store.execute st).1.mapError .store)
      { w with store := (w.store.execute st).2 }) : (Handler.execute st).Ends w T :=
  .of_leaves (Leaves.execute fun _ => executed)

/-- A look-up gives the catalog's answer, or fails because of a fault. -/
theorem query {q : Catalog.Query} {T : Except Error q.Answer → World → Prop}
    (answered : ∀ queryFaults, T (.ok (w.catalog.answer q)) { w with queryFaults })
    (lost : ∀ e queryFaults, ¬ w.Reachable → T (.error (.catalog e)) { w with queryFaults }) :
    (Handler.query q).Ends w T :=
  .of_leaves (Leaves.query (fun queryFaults _ => answered queryFaults)
    fun e queryFaults fails _ => lost e queryFaults fails)

/-- A call is lost, or it arrives and is answered. -/
theorem tryCall {c : Controller.Call}
    {T : Except Error (Except Controller.Error c.Answer) → World → Prop}
    (lost : ∀ e, w.callFaults.next c.operation = some e → T (.ok (.error e)) (w.noted c))
    (arrived : w.callFaults.next c.operation = none → T (.ok (w.controller.perform c).1)
      { w.noted c with controller := (w.controller.perform c).2 }) :
    (Handler.tryCall c).Ends w T :=
  .of_leaves (Leaves.tryCall (fun e fate _ => lost e fate) fun fate _ => arrived fate)

/-- A call is lost to a fault, or arrives and is carried out, on a clock that stays legible. -/
theorem call {c : Controller.Call} {T : Except Error c.Answer → World → Prop}
    (lost : ∀ e, w.callFaults.next c.operation = some e →
      T (.error (.controller e)) (w.noted c))
    (arrived : w.callFaults.next c.operation = none →
      T ((w.controller.perform c).1.mapError .controller)
        { w.noted c with controller := (w.controller.perform c).2 }) :
    (Handler.call c).Ends w T :=
  .of_leaves (Leaves.call (fun e fate _ => lost e fate) fun fate _ => arrived fate)

end Ends

end Handler

end Overlay
