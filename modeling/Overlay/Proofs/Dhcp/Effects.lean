import Overlay.Proofs.Dhcp.Ledger
import Overlay.Proofs.World

/-!
# What handlers do to the ledger

Surroundings *show* a ledger if it is what their store and controller hold. A handler *goes* from a
ledger if, whenever it stops, the surroundings show a ledger to which a path leads from the first
one; the faults it met are those that the acts on the path tell of, and `Q` holds of its result, of
these acts and of the ledger shown. `Goes.bind` composes handlers, and a request that changes
nothing is passed over by `Goes.quiet`.

The lemmas on single requests say which ledger is shown after each of them. They do not ask for a
linked ledger to be linked again after the request, as acts take several.
-/

namespace Overlay

open Dhcp (Ledger Act Path Desired)
open Controller (HeldServer HeldBinding)

namespace World

/-- The ledger is what store and controller hold. -/
structure Shows (w : World) (l : Ledger) : Prop where
  store : w.store.Holds l.services l.rows
  controller : w.controller.Holds l.servers l.held l.serversMade l.bindingsMade
  networks : w.store.networks = l.networks
  ports : w.store.ports = l.ports

/-- The switch behind a network. -/
def switch? (w : World) (networkId : String) : Option String :=
  w.store.networks.bind fun rows =>
    (Table.find? Store.NetworkMapping.networkId networkId rows).map (·.switchId)

/-- The ledger knows of a network's switch what the mapping table says. -/
theorem Shows.switch?_eq {w : World} {l : Ledger} (shows : w.Shows l) : l.switch? = w.switch? := by
  funext networkId
  rw [Ledger.switch?, switch?, shows.networks]

/-- Between `w` and `w'` one removal of a binding was lost to the error `m`, or none was. -/
def Loses (w : World) (m : Option Controller.Error) (w' : World) : Prop :=
  ∀ e, w.Lost w' .deleteBinding e ↔ m = some e

/-- The faults that the acts tell of were met between `w` and `w'`, and no other removal of a
binding was lost. -/
structure Accounts (w : World) (acts : List Act) (w' : World) : Prop where
  bindings : ∀ e, w.Lost w' .deleteBinding e ↔ ∃ a ∈ acts, a.fault? = some (.deleteBinding, e)
  servers : ∀ a ∈ acts, ∀ e, a.fault? = some (.deleteServer, e) → w.Lost w' .deleteServer e

section Accounts

variable {w w' w'' : World}

/-- Where no faults have been asked about, no removal of a binding was lost. -/
theorem loses_none (same : w'.callFaults = w.callFaults) : w.Loses none w' := by
  intro e
  constructor
  · exact fun lost => absurd lost (not_lost (by rw [same]))
  · exact fun h => nomatch h

/-- A call that removes no binding loses none. -/
theorem loses_other (w : World) {c : Controller.Call}
    (other : decide (c.operation = .deleteBinding) = false) (s : Controller.State) :
    w.Loses none { w.noted c with controller := s } := by
  have other := of_decide_eq_false other
  intro e
  constructor
  · refine fun lost => absurd lost (not_lost ?_)
    show ((w.callFaults.count c.operation).pattern _).seen = _
    rw [seen_count, if_neg (Ne.symm other), Nat.add_zero]
  · exact fun h => nomatch h

/-- Of two stretches of which the first loses nothing, what is lost is lost in the second. -/
theorem Loses.none_trans {m : Option Controller.Error} (f : w.Follows w') (f' : w'.Follows w'')
    (h : w.Loses none w') (h' : w'.Loses m w'') : w.Loses m w'' := by
  intro e
  rw [f.lost_iff f', h e, h' e]
  exact or_iff_right fun none => nomatch none

/-- Of two stretches of which the second loses nothing, what is lost is lost in the first. -/
theorem Loses.trans_none {m : Option Controller.Error} (f : w.Follows w') (f' : w'.Follows w'')
    (h : w.Loses m w') (h' : w'.Loses none w'') : w.Loses m w'' := by
  intro e
  rw [f.lost_iff f', h e, h' e]
  exact or_iff_left fun none => nomatch none

/-- Without acts there is nothing that a fault could have stopped. -/
theorem Accounts.nil (h : w.Loses none w') : w.Accounts [] w' where
  bindings e := by
    rw [h e]
    constructor
    · exact fun none => nomatch none
    · exact fun ⟨a, ha, _⟩ => nomatch ha
  servers a ha := nomatch ha

/-- One act accounts for what was lost, if the fault it tells of is that loss. -/
theorem Accounts.single {a : Act} {m : Option Controller.Error} (h : w.Loses m w')
    (fault : a.fault? = m.map (.deleteBinding, ·)) : w.Accounts [a] w' where
  bindings e := by
    rw [h e]
    constructor
    · intro some
      refine ⟨a, List.mem_singleton_self a, ?_⟩
      rw [fault, some]
      rfl
    · rintro ⟨a', ha, hit⟩
      rw [List.mem_singleton.mp ha, fault] at hit
      cases m with
      | none => exact nomatch hit
      | some e' => exact congrArg _ (Prod.mk.inj (Option.some.inj hit)).2
  servers a' ha e hit := by
    rw [List.mem_singleton.mp ha, fault] at hit
    cases m with
    | none => exact nomatch hit
    | some e' => exact nomatch (Prod.mk.inj (Option.some.inj hit)).1

/-- A server that is given up accounts for its own removal, if that was lost. -/
theorem Accounts.retired {x : Store.Service} {m : Option Controller.Error} (h : w.Loses none w')
    (lost : ∀ e ∈ m, w.Lost w' .deleteServer e) : w.Accounts [.retire x m] w' where
  bindings e := by
    rw [h e]
    constructor
    · exact fun none => nomatch none
    · rintro ⟨a, ha, hit⟩
      rw [List.mem_singleton.mp ha] at hit
      cases m with
      | none => exact nomatch hit
      | some e' => exact nomatch (Prod.mk.inj (Option.some.inj hit)).1
  servers a ha e hit := by
    rw [List.mem_singleton.mp ha] at hit
    cases m with
    | none => exact nomatch hit
    | some e' => exact lost e (congrArg _ (Prod.mk.inj (Option.some.inj hit)).2)

/-- The acts of two stretches, one after the other, account for what was lost over both. -/
theorem Accounts.append (f : w.Follows w') (f' : w'.Follows w'') {acts more : List Act}
    (h : w.Accounts acts w') (h' : w'.Accounts more w'') : w.Accounts (acts ++ more) w'' where
  bindings e := by
    rw [f.lost_iff f', h.bindings e, h'.bindings e]
    constructor
    · rintro (⟨a, ha, hit⟩ | ⟨a, ha, hit⟩)
      · exact ⟨a, List.mem_append_left _ ha, hit⟩
      · exact ⟨a, List.mem_append_right _ ha, hit⟩
    · rintro ⟨a, ha, hit⟩
      exact (List.mem_append.mp ha).imp (fun h => ⟨a, h, hit⟩) (fun h => ⟨a, h, hit⟩)
  servers a ha e hit := by
    rw [f.lost_iff f']
    exact (List.mem_append.mp ha).imp (fun m => h.servers a m e hit)
      (fun m => h'.servers a m e hit)

/-- If nothing fails, no act tells of a fault. -/
theorem Accounts.clean (calm : w.Calm) {acts : List Act} (h : w.Accounts acts w') :
    ∀ a ∈ acts, a.fault? = none := by
  intro a ha
  have bindings : ∀ e, a.fault? ≠ some (.deleteBinding, e) := fun e hit =>
    calm.not_lost _ e ((h.bindings e).mpr ⟨a, ha, hit⟩)
  have servers : ∀ e, a.fault? ≠ some (.deleteServer, e) := fun e hit =>
    calm.not_lost _ e (h.servers a ha e hit)
  cases a with
  | retire x m => cases m with
    | none => rfl
    | some e => exact absurd rfl (servers e)
  | bind x portId d time m => cases m with
    | none => rfl
    | some e => exact absurd rfl (bindings e)
  | release b m => cases m with
    | none => rfl
    | some e => exact absurd rfl (bindings e)
  | leak x portId d e => exact absurd rfl (bindings e)
  | stay b e => exact absurd rfl (bindings e)
  | _ => rfl

end Accounts

end World

namespace Handler

variable {α β : Type}

/-- What began at `w` with ledger `l` has come to `w'`, and the handler brings it to an end: there
is a path from `l` to the ledger shown then, with `Q` of the result, of the acts on the path and of
that ledger. -/
def Completes (h : Handler α) (w : World) (l : Ledger) (w' : World)
    (Q : Except Error α → List Act → Ledger → Prop) : Prop :=
  h.Ends w' fun r w'' =>
    ∃ acts l', Path l acts l' ∧ w''.Shows l' ∧ w.Accounts acts w'' ∧ Q r acts l'

/-- The handler takes surroundings that show `l` along a path to others, with `Q` of its result, of
the acts on the path and of the ledger shown at its end. -/
abbrev Goes (h : Handler α) (w : World) (l : Ledger)
    (Q : Except Error α → List Act → Ledger → Prop) : Prop :=
  h.Completes w l w Q

/-- The handler does nothing to the ledger. -/
def Quiet (h : Handler α) (w : World) (l : Ledger) (P : Except Error α → Prop) : Prop :=
  h.Ends w fun r w' => w'.Shows l ∧ w.Loses none w' ∧ P r

namespace Goes

variable {h : Handler α} {f : α → Handler β} {w : World} {l : Ledger}
  {P Q : Except Error α → List Act → Ledger → Prop} {R : Except Error β → List Act → Ledger → Prop}

/-- What is shown of the acts of a handler may be weakened. -/
theorem mono (hP : h.Goes w l P)
    (weaker : ∀ r acts l', Path l acts l' → P r acts l' → Q r acts l') : h.Goes w l Q := by
  refine Ends.mono hP ?_
  rintro r w' - ⟨acts, l', path, shows, accounts, here⟩
  exact ⟨acts, l', path, shows, accounts, weaker r acts l' path here⟩

/-- What the handler comes to, beside the result that it gives. -/
theorem ran (hQ : h.Goes w l Q) : h.Goes w l fun r acts l' => (h.runIn w).1 = r ∧ Q r acts l' := by
  refine Ends.mono (Ends.ran hQ) ?_
  rintro r w' - ⟨run, acts, l', path, shows, accounts, here⟩
  exact ⟨acts, l', path, shows, accounts, congrArg Prod.fst run, here⟩

/-- A handler that does nothing to the ledger goes along the empty path. -/
theorem of_quiet {T : Except Error α → Prop} (quiet : h.Quiet w l T)
    (stays : ∀ r, T r → Q r [] l) : h.Goes w l Q := by
  refine Ends.mono quiet ?_
  rintro r w' - ⟨shows, loses, here⟩
  exact ⟨[], l, .nil l, shows, .nil loses, stays r here⟩

/-- To answer is not an act. -/
theorem pure {a : α} (shows : w.Shows l) (hQ : Q (.ok a) [] l) : Goes (Pure.pure a) w l Q :=
  Ends.pure ⟨[], l, .nil l, shows, .nil (World.loses_none rfl), hQ⟩

/-- To fail is not an act. -/
theorem throw {e : Error} (shows : w.Shows l) (hQ : Q (.error e) [] l) :
    Goes (throw e) w l Q :=
  Ends.throw ⟨[], l, .nil l, shows, .nil (World.loses_none rfl), hQ⟩

/-- What is left to do after a first part of a path. -/
theorem resume {w' : World} {l' : Ledger} {acts : List Act} (path : Path l acts l')
    (follows : w.Follows w') (accounts : w.Accounts acts w')
    (rest : h.Goes w' l' fun r more l'' => Q r (acts ++ more) l'') :
    h.Completes w l w' Q := by
  refine Ends.mono rest ?_
  rintro r w'' follows' ⟨more, l'', path', shows, accounts', here⟩
  exact ⟨acts ++ more, l'', path.append path', shows, accounts.append follows follows' accounts',
    here⟩

/-- The acts of two handlers in turn are those of the first and then those of the second, unless the
first fails. -/
theorem bind (linked : l.Linked) (first : h.Goes w l P)
    (ok : ∀ a acts l' w', w.Follows w' → w'.Shows l' → l'.Linked → Path l acts l' →
      P (.ok a) acts l' → (f a).Goes w' l' fun r more l'' => R r (acts ++ more) l'')
    (error : ∀ e acts l', Path l acts l' → P (.error e) acts l' → R (.error e) acts l') :
    (h >>= f).Goes w l R := by
  refine Ends.bind first ?_ ?_
  · rintro a w' follows ⟨acts, l', path, shows, accounts, here⟩
    exact resume path follows accounts
      (ok a acts l' w' follows shows (path.linked linked) path here)
  · rintro e w' - ⟨acts, l', path, shows, accounts, here⟩
    exact ⟨acts, l', path, shows, accounts, error e acts l' path here⟩

/-- A first part that does nothing to the ledger. -/
theorem quiet {T : Except Error α → Prop} (first : h.Quiet w l T)
    (ok : ∀ a w', w.Follows w' → w'.Shows l → T (.ok a) → (f a).Goes w' l R)
    (error : ∀ e, T (.error e) → R (.error e) [] l) : (h >>= f).Goes w l R := by
  refine Ends.bind first ?_ ?_
  · rintro a w' follows ⟨shows, loses, here⟩
    exact resume (.nil l) follows (.nil loses) (ok a w' follows shows here)
  · rintro e w' - ⟨shows, loses, here⟩
    exact ⟨[], l, .nil l, shows, .nil loses, error e here⟩

/-- The acts of a choice are those of the branch that is taken. -/
theorem ite {c : Prop} [Decidable c] {h' : Handler α} (pos : c → h.Goes w l Q)
    (neg : ¬ c → h'.Goes w l Q) : Goes (if c then h else h') w l Q := by
  by_cases hc : c
  · rw [if_pos hc]
    exact pos hc
  · rw [if_neg hc]
    exact neg hc

/-- A lock is not an act. -/
theorem locked {key : LockKey} (body : h.Goes w l Q) : (Handler.locked key h).Goes w l Q :=
  Ends.locked body

/-- An attempt acts as its body does, with the body's error as a value. -/
theorem attempt {T : Except Error (Except Error α) → List Act → Ledger → Prop}
    (body : h.Goes w l fun r acts l' => T (.ok r) acts l') : (Handler.attempt h).Goes w l T :=
  Ends.attempt body

/-- A loop. `I` holds of the elements that were taken, of the value carried along, of the acts so
far and of the ledger that they have led to. -/
theorem foldlM {σ : Type} {step : σ → α → Handler σ} (shows : w.Shows l) (linked : l.Linked)
    (I : List α → σ → List Act → Ledger → Prop) (E : List Act → Ledger → Prop) {xs : List α} {s : σ}
    (start : I [] s [] l)
    (next : ∀ done a s acts l' w', a ∈ xs → w.Follows w' → w'.Shows l' → l'.Linked →
      Path l acts l' → I done s acts l' → (step s a).Goes w' l' fun r more l'' =>
        match r with
        | .ok s' => I (done ++ [a]) s' (acts ++ more) l''
        | .error _ => E (acts ++ more) l'')
    {T : Except Error σ → List Act → Ledger → Prop}
    (ok : ∀ s acts l', I xs s acts l' → T (.ok s) acts l')
    (error : ∀ e acts l', E acts l' → T (.error e) acts l') : (xs.foldlM step s).Goes w l T := by
  -- by induction on what is left to do, for all surroundings that the loop may have come to
  suffices rest : ∀ (todo done : List α) (s : σ) (acts : List Act) (l' : Ledger) (w' : World),
      done ++ todo = xs → w.Follows w' → w'.Shows l' → l'.Linked → Path l acts l' →
      I done s acts l' →
      (todo.foldlM step s).Goes w' l' fun r more l'' => T r (acts ++ more) l'' from
    rest xs [] s [] l w rfl (.refl w) shows linked (.nil l) start
  intro todo
  induction todo with
  | nil =>
      intro done s acts l' w' all _ shows' _ _ here
      rw [List.append_nil] at all
      refine Goes.pure shows' ?_
      rw [List.append_nil]
      exact ok s acts l' (all ▸ here)
  | cons a rest ih =>
      intro done s acts l' w' all follows shows' linked' path here
      have ha : a ∈ xs := all ▸ List.mem_append_right _ List.mem_cons_self
      rw [List.foldlM_cons]
      refine Goes.bind linked' (next done a s acts l' w' ha follows shows' linked' path here) ?_ ?_
      · intro s' more l'' w'' follows' shows'' linked'' path' here'
        refine Goes.mono (ih (done ++ [a]) s' (acts ++ more) l'' w''
          (by rw [List.append_assoc]; exact all) (follows.trans follows') shows'' linked''
          (path.append path') here') ?_
        intro r later l3 _ stop
        rw [← List.append_assoc]
        exact stop
      · intro e more l'' _ stop
        exact error e (acts ++ more) l'' stop

end Goes

/-! ## Requests that change nothing -/

section Quiet

variable {w : World} {l : Ledger}

theorem quiet_pure {a : α} (shows : w.Shows l) : Quiet (Pure.pure a) w l fun r => r = .ok a :=
  Ends.pure ⟨shows, World.loses_none rfl, rfl⟩

/-- A statement that leaves the store as it is. -/
theorem quiet_read (shows : w.Shows l) {st : Store.Statement} {a : Except Store.Error st.Answer}
    (answer : w.store.execute st = (a, w.store)) :
    (execute st).Quiet w l fun r => r = a.mapError .store := by
  refine Ends.execute ?_
  rw [answer]
  exact ⟨shows, World.loses_none rfl, rfl⟩

/-- Looking up a service changes nothing and finds what the ledger has. -/
theorem quiet_getService (shows : w.Shows l) (networkId : String) :
    (execute (.getService networkId)).Quiet w l fun r =>
      r = .ok (Table.find? Store.Service.networkId networkId l.services) :=
  quiet_read shows (shows.store.getService networkId)

/-- Listing the rows of a port changes nothing and finds those of the ledger. -/
theorem quiet_bindingsOf (shows : w.Shows l) (portId : String) :
    (execute (.bindingsOf portId)).Quiet w l fun r => r = .ok (Store.ofPort portId l.rows) :=
  quiet_read shows (shows.store.bindingsOf portId)

/-- Looking up a network's switch changes nothing and finds what the ledger knows of it. -/
theorem quiet_getSwitch (shows : w.Shows l) (networkId : String) :
    (execute (.getSwitch networkId)).Quiet w l fun r =>
      match r with
      | .ok switchId => switchId = l.switch? networkId
      | .error _ => l.networks = none := by
  have answer : w.store.execute (.getSwitch networkId) = (Store.readTable l.networks fun rows =>
      .ok ((Table.find? Store.NetworkMapping.networkId networkId rows).map (·.switchId)),
      w.store) := by
    rw [← shows.networks]
    rfl
  refine Ends.mono (quiet_read shows answer) ?_
  rintro r w' - ⟨shows', loses, rfl⟩
  refine ⟨shows', loses, ?_⟩
  rw [Dhcp.Ledger.switch?]
  cases l.networks with
  | none => rfl
  | some rows => rfl

/-- Looking up a network's switch port changes nothing and finds what the ledger knows of it. -/
theorem quiet_getPort (shows : w.Shows l) (portId : String) :
    (execute (.getPort portId)).Quiet w l fun r =>
      match r with
      | .ok _ => l.ports ≠ none
      | .error e => l.ports = none ∧ e = .store .database := by
  have answer : w.store.execute (.getPort portId) = (Store.readTable l.ports fun rows =>
      .ok (Table.find? Store.PortMapping.portId portId rows), w.store) := by
    rw [← shows.ports]
    rfl
  refine Ends.mono (quiet_read shows answer) ?_
  rintro r w' - ⟨shows', loses, rfl⟩
  refine ⟨shows', loses, ?_⟩
  cases l.ports with
  | none => exact ⟨rfl, rfl⟩
  | some rows => exact fun none => nomatch none

/-- Looking something up in the catalog changes nothing, and finds it unless a fault falls on the
look-up. -/
theorem quiet_lookUp (shows : w.Shows l) (q : Catalog.Query) :
    (query q).Quiet w l fun r =>
      match r with
      | .ok a => a = w.catalog.answer q
      | .error _ => ¬ w.Reachable := by
  refine Ends.query ?_ ?_
  · intro queryFaults
    exact ⟨⟨shows.store, shows.controller, shows.networks, shows.ports⟩, World.loses_none rfl, rfl⟩
  · intro e queryFaults away
    exact ⟨⟨shows.store, shows.controller, shows.networks, shows.ports⟩, World.loses_none rfl,
      away⟩

/-- What a look-up finds is what the catalog has. -/
theorem quiet_query (shows : w.Shows l) (q : Catalog.Query) :
    (query q).Quiet w l fun r =>
      match r with
      | .ok a => a = w.catalog.answer q
      | .error _ => ¬ w.Calm := by
  refine Ends.mono (quiet_lookUp shows q) ?_
  rintro (e | a) w' - ⟨shows', loses, answer⟩
  · exact ⟨shows', loses, fun calm => answer calm.reachable⟩
  · exact ⟨shows', loses, answer⟩

theorem quiet_report (shows : w.Shows l) (e : Audit.Event) :
    (report e).Quiet w l fun r => r = .ok () := by
  refine Ends.report fun trail => ?_
  exact ⟨⟨shows.store, shows.controller, shows.networks, shows.ports⟩, World.loses_none rfl, rfl⟩

/-- Reading the clock changes nothing that the ledger shows. -/
theorem quiet_now (shows : w.Shows l) :
    Handler.now.Quiet w l fun r =>
      match r with
      | .ok time => time.Legible
      | .error _ => False :=
  Ends.now fun legible => ⟨⟨shows.store, shows.controller, shows.networks, shows.ports⟩,
    World.loses_none rfl, legible⟩

/-- Asking the settings changes nothing. -/
theorem quiet_setting (shows : w.Shows l) (a : Except Settings.Problem α) :
    (setting a).Quiet w l fun r => r = a.mapError .settings := by
  cases a with
  | ok a => exact quiet_pure shows
  | error p => exact Ends.throw ⟨shows, World.loses_none rfl, rfl⟩

/-- A call that does not concern servers and bindings and is never refused. -/
theorem quiet_aside (shows : w.Shows l) {c : Controller.Call}
    (other : decide (c.operation = .deleteBinding) = false)
    (answered : ∀ s : Controller.State, ∃ a, (s.perform c).1 = .ok a)
    (servers : ∀ s : Controller.State, (s.perform c).2.servers = s.servers)
    (bindings : ∀ s : Controller.State, (s.perform c).2.bindings = s.bindings)
    (serversMade : ∀ s : Controller.State, (s.perform c).2.made.servers = s.made.servers)
    (bindingsMade : ∀ s : Controller.State, (s.perform c).2.made.bindings = s.made.bindings) :
    (call c).Quiet w l fun r =>
      match r with
      | .ok _ => True
      | .error _ => ¬ w.Calm := by
  refine Ends.call ?_ ?_
  · intro e lost
    exact ⟨⟨shows.store, shows.controller, shows.networks, shows.ports⟩,
      World.loses_other w other w.controller, World.not_calm_of_next lost⟩
  · intro _
    obtain ⟨a, answer⟩ := answered w.controller
    rw [answer]
    exact ⟨⟨shows.store, shows.controller.congr (servers _) (bindings _) (serversMade _)
      (bindingsMade _), shows.networks, shows.ports⟩, World.loses_other w other _, trivial⟩

end Quiet

/-! ## Statements that change services and rows -/

section Statements

variable {w : World} {l : Ledger}

/-- A statement after which the store holds other services and rows changes the ledger by these. -/
theorem ends_execute (shows : w.Shows l) {st : Store.Statement} {services : List Store.Service}
    {rows : List Store.Binding} (holds : (w.store.execute st).2.Holds services rows)
    (networks : (w.store.execute st).2.networks = w.store.networks)
    (ports : (w.store.execute st).2.ports = w.store.ports) :
    (execute st).Ends w fun r w' =>
      r = (w.store.execute st).1.mapError .store ∧ w'.Shows { l with services, rows } ∧
        w.Loses none w' := by
  refine Ends.execute ⟨rfl, ?_, World.loses_none rfl⟩
  exact ⟨holds, shows.controller, networks.trans shows.networks, ports.trans shows.ports⟩

/-- A service for a network without one is put behind the others. -/
theorem ends_putService (shows : w.Shows l) {x : Store.Service} (legible : x.createdAt.Legible)
    (new : ∀ y ∈ l.services, y.networkId ≠ x.networkId) :
    (execute (.putService x)).Ends w fun r w' =>
      r = .ok () ∧ w'.Shows { l with services := l.services ++ [x] } ∧ w.Loses none w' := by
  obtain ⟨answer, holds⟩ := shows.store.putService legible new
  refine Ends.mono (ends_execute shows holds rfl rfl) ?_
  rintro r w' - ⟨rfl, rest⟩
  rw [answer]
  exact ⟨rfl, rest⟩

/-- A row is put into the ledger as the store puts it. -/
theorem ends_putBinding (shows : w.Shows l) {b : Store.Binding} (legible : b.Legible) :
    (execute (.putBinding b)).Ends w fun r w' =>
      r = .ok () ∧ w'.Shows { l with rows := Store.putBinding b l.rows } ∧ w.Loses none w' := by
  obtain ⟨answer, holds⟩ := shows.store.putBinding legible
  refine Ends.mono (ends_execute shows holds rfl rfl) ?_
  rintro r w' - ⟨rfl, rest⟩
  rw [answer]
  exact ⟨rfl, rest⟩

/-- A row that is deleted goes from the ledger. -/
theorem ends_deleteBindingRow (shows : w.Shows l) (portId : String) (ip : IPv4) :
    (execute (.deleteBinding portId ip)).Ends w fun r w' =>
      (∃ a, r = .ok a) ∧ w'.Shows { l with
        rows := Table.remove Store.Binding.key (portId, ip) l.rows } ∧ w.Loses none w' := by
  obtain ⟨⟨found, answer⟩, holds⟩ := shows.store.deleteBinding portId ip
  refine Ends.mono (ends_execute shows holds rfl rfl) ?_
  rintro r w' - ⟨rfl, rest⟩
  rw [answer]
  exact ⟨⟨found, rfl⟩, rest⟩

/-- A row is moved, unless another one is in the way. -/
theorem ends_moveBinding (shows : w.Shows l) (keyed : Table.Keyed Store.Binding.key l.rows)
    {b : Store.Binding} (hb : b ∈ l.rows) (d : Desired) {time : Instant}
    (legible : time.Legible) :
    (execute (.moveBinding b.portId b.address d.subnetId d.address d.macAddress time)).Ends w
      fun r w' => w.Loses none w' ∧ match r with
        | .ok _ => (∀ c ∈ l.rows, c.key = (b.portId, d.address) → c = b) ∧
          w'.Shows { l with
            rows := Table.modify Store.Binding.key b.key
              (.moved d.subnetId d.address d.macAddress time) l.rows }
        | .error e => e = .store .database ∧ w'.Shows l ∧
          ∃ c ∈ l.rows, c.key = (b.portId, d.address) ∧ c ≠ b := by
  by_cases free : ∀ c ∈ l.rows, c.key = (b.portId, d.address) → c = b
  · obtain ⟨answer, holds⟩ :=
      shows.store.moveBinding keyed hb d.subnetId d.address d.macAddress legible free
    refine Ends.mono (ends_execute shows holds rfl rfl) ?_
    rintro r w' - ⟨rfl, shows', loses⟩
    rw [answer]
    exact ⟨loses, free, shows'⟩
  · obtain ⟨c, hc, taken, other⟩ : ∃ c ∈ l.rows, c.key = (b.portId, d.address) ∧ c ≠ b := by
      simpa using free
    refine Ends.mono (quiet_read shows (shows.store.moveBinding_taken keyed hb hc d.subnetId
      d.macAddress time taken other)) ?_
    rintro r w' - ⟨shows', loses, rfl⟩
    exact ⟨loses, rfl, shows', c, hc, taken, other⟩

end Statements

/-! ## Calls that change servers and bindings -/

section Calls

variable {w : World} {l : Ledger}

/-- A controller that has noted the arrival of a call. -/
theorem arrived_holds (shows : w.Shows l) (c : Controller.Call) :
    Controller.State.Holds { w.controller with calls := w.controller.calls ++ [c] } l.servers
      l.held l.serversMade l.bindingsMade :=
  shows.controller.congr rfl rfl rfl rfl

/-- A server that is made is the ledger's newest one; a call that is lost makes none. -/
theorem ends_createServer (shows : w.Shows l) (config : DhcpServerConfig) :
    (call (.createServer config)).Ends w fun r w' => w.Loses none w' ∧ match r with
      | .ok id => id = Controller.State.serverName (l.serversMade + 1) ∧ w'.Shows { l with
          servers := l.servers ++ [⟨Controller.State.serverName (l.serversMade + 1), config⟩]
          serversMade := l.serversMade + 1 }
      | .error _ => ¬ w.Calm ∧ w'.Shows l := by
  refine Ends.call ?_ ?_
  · intro e lost
    exact ⟨World.loses_other w rfl w.controller, World.not_calm_of_next lost, shows.store,
      shows.controller, shows.networks, shows.ports⟩
  · intro _
    obtain ⟨name, holds⟩ := (arrived_holds shows (.createServer config)).createServer config
    exact ⟨World.loses_other w rfl _, name, shows.store, holds, shows.networks, shows.ports⟩

/-- A server that is there gets the address, unless the call is lost. -/
theorem ends_setServerIp (shows : w.Shows l) (keyed : Table.Keyed HeldServer.id l.servers)
    {v : HeldServer} (hv : v ∈ l.servers) (ip : Address) :
    (call (.setServerIp v.id ip)).Ends w fun r w' => w.Loses none w' ∧ match r with
      | .ok _ => w'.Shows ((Act.readdress v.id ip).apply l)
      | .error _ => ¬ w.Calm ∧ w'.Shows l := by
  refine Ends.call ?_ ?_
  · intro e lost
    exact ⟨World.loses_other w rfl w.controller, World.not_calm_of_next lost, shows.store,
      shows.controller, shows.networks, shows.ports⟩
  · intro _
    obtain ⟨answer, holds⟩ := (arrived_holds shows (.setServerIp v.id ip)).setServerIp hv keyed ip
    rw [show (w.controller.perform (.setServerIp v.id ip)).1 = .ok () from answer]
    exact ⟨World.loses_other w rfl _, shows.store, holds, shows.networks, shows.ports⟩

/-- A server that is removed goes with all bindings under it, unless the call is lost or refused. -/
theorem ends_deleteServer (shows : w.Shows l) (keyed : Table.Keyed HeldServer.id l.servers)
    {v : HeldServer} (hv : v ∈ l.servers) :
    (tryCall (.deleteServer v.id)).Ends w fun r w' => w.Loses none w' ∧ match r with
      | .ok (.ok _) => w'.Shows { l with
          servers := Table.remove HeldServer.id v.id l.servers
          held := Table.remove HeldBinding.serverId v.id l.held }
      | .ok (.error e) => ¬ w.Calm ∧ w'.Shows l ∧ (e.kind = .notFound → w.Lost w' .deleteServer e)
      | .error _ => False := by
  refine Ends.tryCall ?_ ?_
  · intro e lost
    have once := (World.lost_call_iff (w := w) (c := .deleteServer v.id) (e := e)).mpr ⟨rfl, lost⟩
    rw [World.call_lost lost] at once
    exact ⟨World.loses_other w rfl w.controller, World.not_calm_of_next lost,
      ⟨shows.store, shows.controller, shows.networks, shows.ports⟩, fun _ => once⟩
  · intro _
    have holds := arrived_holds shows (.deleteServer v.id)
    cases refused : w.controller.refusals.serverDeletes with
    | true =>
        obtain ⟨e, answer, kind⟩ := Controller.State.deleteServer_refused
          (s := { w.controller with calls := w.controller.calls ++ [.deleteServer v.id] })
          refused v.id
        rw [show w.controller.perform (.deleteServer v.id) = _ from answer]
        refine ⟨World.loses_other w rfl _, fun calm => ?_,
          ⟨shows.store, holds, shows.networks, shows.ports⟩, fun missing => ?_⟩
        · exact absurd (refused.symm.trans calm.deletes) (by decide)
        · exact nomatch kind.symm.trans missing
    | false =>
        obtain ⟨answer, holds'⟩ := holds.deleteServer refused hv keyed
        rw [show (w.controller.perform (.deleteServer v.id)).1 = .ok () from answer]
        exact ⟨World.loses_other w rfl _, shows.store, holds', shows.networks, shows.ports⟩

/-- A binding that is made under a recorded server is the ledger's newest one, unless the call is
lost. -/
theorem ends_createBinding (shows : w.Shows l) (linked : l.Linked) {x : Store.Service}
    (hx : x ∈ l.services) (d : Desired) (t : Dhcp.Template) :
    (call (.createBinding x.serverId (t.request d))).Ends w fun r w' => w.Loses none w' ∧
      match r with
      | .ok id => id = Controller.State.bindingName (l.bindingsMade + 1) ∧ w'.Shows (l.create x d)
      | .error _ => ¬ w.Calm ∧ w'.Shows l := by
  obtain ⟨v, hv, id⟩ := linked.server_of_service x hx
  rw [← id]
  refine Ends.call ?_ ?_
  · intro e lost
    exact ⟨World.loses_other w rfl w.controller, World.not_calm_of_next lost, shows.store,
      shows.controller, shows.networks, shows.ports⟩
  · intro _
    have holds := arrived_holds shows (.createBinding v.id (t.request d))
    by_cases refused : d.address ∈ w.controller.refusals.addresses
    · obtain ⟨e, answer⟩ := Controller.State.createBinding_refused
        (s := { w.controller with
          calls := w.controller.calls ++ [.createBinding v.id (t.request d)] })
        (r := t.request d) refused v.id
      rw [show w.controller.perform (.createBinding v.id (t.request d)) = _ from answer]
      refine ⟨World.loses_other w rfl _, fun calm => ?_, shows.store, holds, shows.networks,
        shows.ports⟩
      exact absurd (calm.addresses ▸ refused) List.not_mem_nil
    · obtain ⟨answer, holds'⟩ :=
        holds.createBinding (r := t.request d) refused hv linked.servers_keyed
      rw [show (w.controller.perform (.createBinding v.id (t.request d))).1 = .ok _ from answer]
      refine ⟨World.loses_other w rfl _, rfl, shows.store, ?_, shows.networks, shows.ports⟩
      rw [Ledger.create, ← id]
      exact holds'

/-- A recorded binding gets the address and the MAC address, unless the call is lost. -/
theorem ends_updateBinding (shows : w.Shows l) (linked : l.Linked) {b : Store.Binding}
    (hb : b ∈ l.rows) (d : Desired) (t : Dhcp.Template) :
    (call (.updateBinding b.serverId b.bindingId (Dhcp.updateFor b d t))).Ends w fun r w' =>
      w.Loses none w' ∧ match r with
        | .ok _ => w'.Shows { l with
            held := Table.modify HeldBinding.key b.name (Act.amend b d) l.held }
        | .error _ => ¬ w.Calm ∧ w'.Shows l := by
  refine Ends.call ?_ ?_
  · intro e lost
    exact ⟨World.loses_other w rfl w.controller, World.not_calm_of_next lost, shows.store,
      shows.controller, shows.networks, shows.ports⟩
  · intro _
    have change : (HeldBinding.updated · (Dhcp.updateFor b d t)) = Act.amend b d :=
      funext fun h => Act.updated_updateFor b d t h
    obtain ⟨answer, holds⟩ := (arrived_holds shows (.updateBinding b.serverId b.bindingId
      (Dhcp.updateFor b d t))).updateBinding (linked.held_of_row b hb) (Dhcp.updateFor b d t)
    rw [change] at holds
    rw [show (w.controller.perform (.updateBinding b.serverId b.bindingId
      (Dhcp.updateFor b d t))).1 = .ok () from answer]
    exact ⟨World.loses_other w rfl _, shows.store, holds, shows.networks, shows.ports⟩

/-- The binding that a row names is let go, or the call is lost. -/
theorem ends_deleteBinding (shows : w.Shows l) {b : Store.Binding}
    (held : ∃ h ∈ l.held, h.key = b.name) :
    (tryCall (.deleteBinding b.serverId b.bindingId)).Ends w fun r w' =>
      match r with
      | .ok (.ok _) => w.Loses none w' ∧ w'.Shows (l.letGo b none)
      | .ok (.error e) => w.Loses (some e) w' ∧ w'.Shows l ∧ ¬ w.Calm
      | .error _ => False := by
  have once : ∀ e, w.Lost (w.call (.deleteBinding b.serverId b.bindingId)).2 .deleteBinding e ↔
      w.callFaults.next .deleteBinding = some e := fun e =>
    World.lost_call_iff.trans (and_iff_right rfl)
  refine Ends.tryCall ?_ ?_
  · intro e lost
    refine ⟨fun e' => ?_, ⟨shows.store, shows.controller, shows.networks, shows.ports⟩,
      World.not_calm_of_next lost⟩
    rw [← show w.callFaults.next .deleteBinding = some e from lost, ← once, World.call_lost lost]
  · intro arrived
    obtain ⟨answer, holds⟩ :=
      (arrived_holds shows (.deleteBinding b.serverId b.bindingId)).deleteBinding held
    rw [show (w.controller.perform (.deleteBinding b.serverId b.bindingId)).1 = .ok () from answer]
    refine ⟨fun e' => ?_, shows.store, holds, shows.networks, shows.ports⟩
    rw [← show w.callFaults.next .deleteBinding = none from arrived, ← once,
      World.call_arrived arrived]

end Calls

end Handler

end Overlay
