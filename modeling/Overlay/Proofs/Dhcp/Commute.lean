import Overlay.Proofs.Dhcp.Coherent
import Overlay.Proofs.Dhcp.Serial
import Overlay.Proofs.Dhcp.Square

/-!
# Events of two networks

Locks keep the events of one network apart, not those of two. What an event of one network does is
about the server of this network and the rows of the port that the event names, so an event of
another network, about another port, neither sees nor touches it, and both may come in either order:
the answers are the same, and so is what is left, but for times, for the order of records and for
the names of what is made, which are given by counting.

This takes that no two networks have a server in common. The store does not see to it; if two
services name one server, it goes with the first of them, and what is done for the other one depends
on which comes first (`shared_server_does_not_commute`).

Main statement: `events_commute`.
-/

namespace Overlay.Dhcp

open Overlay.Controller (HeldServer HeldBinding Made)
open Overlay.Controller.State (serverName bindingName switchPortName serverName_inj bindingName_inj
  switchPortName_inj)

/-! ## One event -/

/-- The switch on which an event makes a switch port, if it does. -/
def Event.proxySwitch? (settings : Settings) (networks : Option (List Store.NetworkMapping)) :
    Event → Option String
  | .networkCreated n => (proxySwitch settings networks n).toOption.bind id
  | _ => none

/-- An answer under another name of the switch port that it tells of. -/
def Event.renamed (ρ : Renaming) : (e : Event) → Except Error e.Answer → Except Error e.Answer
  | .networkCreated _, r => r.map (·.map ρ.switchPort)
  | _, r => r

/-- An event with its answer under another name. -/
def Answered.renamed (ρ : Renaming) (a : Answered) : Answered :=
  ⟨a.event, a.event.renamed ρ a.answer⟩

/-- What becomes of an event between two ledgers where nothing fails. -/
structure Event.Comes (settings : Settings) (e : Event) (R : Realm) (effect : Effect) (w : World)
    (l l' : Ledger) : Prop where
  shows : ((e.handler settings).runIn w).2.Shows l'
  way : Way R effect.deeds l l'
  result : ((e.handler settings).runIn w).1.map (fun _ => ()) = effect.result
  made : e.made? ((e.handler settings).runIn w).1
    = (e.proxySwitch? settings w.store.networks).map (nextSwitchPort w)
  beside : w.Beside (e.made? ((e.handler settings).runIn w).1) ((e.handler settings).runIn w).2

section Events

variable {settings : Settings} {e : Event} {w w' : World} {l : Ledger} {R : Realm}

/-- Two events in turn. -/
theorem inTurn_pair (settings : Settings) (e f : Event) (w : World) : inTurn settings [e, f] w =
    ([⟨e, ((e.handler settings).runIn w).1⟩,
      ⟨f, ((f.handler settings).runIn ((e.handler settings).runIn w).2).1⟩],
      ((f.handler settings).runIn ((e.handler settings).runIn w).2).2) := rfl

/-- An event of one network is no resync. -/
theorem Event.single {networkId : String} (here : e.networkId? = some networkId) :
    ∀ profileId, e ≠ .resync profileId := by
  rintro profileId rfl
  exact nomatch here

/-- An event of one network has an effect that its view describes. -/
theorem Event.described {networkId : String} (here : e.networkId? = some networkId)
    (settings : Settings) (c : Catalog) (v : View) :
    ∃ effect, e.effect? settings c v = some effect := by
  cases e with
  | resync profileId => exact nomatch here
  | _ => exact ⟨_, rfl⟩

/-- Where nothing fails, the answer tells of the switch port that was made, under the next name. -/
theorem made_event (calm : w.Calm) :
    (e.handler settings).Ends w fun r _ =>
      e.made? r = (e.proxySwitch? settings w.store.networks).map (nextSwitchPort w) := by
  cases e with
  | networkCreated n =>
      refine Handler.Ends.mono (ends_networkCreated settings calm n) ?_
      rintro r w' - ⟨rfl, -⟩
      rw [Event.made?, Event.proxySwitch?]
      cases proxySwitch settings w.store.networks n <;> rfl
  | _ => exact fun _ => rfl

/-- Where nothing fails, an event of a realm does in this realm what its view tells it to do. -/
theorem Event.comes (calm : w.Calm) (shows : w.Shows l) (proper : l.Proper)
    (here : e.networkId? = some R.networkId) (port : e.portId? = R.portId?) (stays : e.Stays)
    (lodged : ∀ q ∈ R.portId?, l.Lodged R.networkId q) (within : l.Within R) {effect : Effect}
    (described : e.effect? settings w.catalog (l.view R.networkId R.portId?) = some effect)
    (granted : ∀ i < serverCount effect.deeds,
      R.servers (serverName (l.serversMade + i + 1)) = true)
    (legible : ((e.handler settings).runIn w).2.clock.Legible) :
    ∃ l', e.Comes settings R effect w l l' := by
  rw [← port] at described lodged
  obtain ⟨acts, l', path, shows', -, result, deeds⟩ :=
    comes_event settings calm shows proper here stays lodged described legible
  have own := of_event settings w.catalog here described
  rw [port] at own
  have inside : ∀ d ∈ effect.deeds, d.In R := fun d hd => (own d hd).inside within
  exact ⟨l', shows', path.way deeds inside granted, result, made_event calm legible,
    beside_event settings calm (Event.single here) legible⟩

/-- After an event the next switch port is named behind those it has made. -/
theorem Event.Comes.next {effect : Effect} {l' : Ledger}
    (comes : e.Comes settings R effect w l l') :
    nextSwitchPort ((e.handler settings).runIn w).2 = .mk (switchPortName
      (w.controller.made.switchPorts
        + (e.proxySwitch? settings w.store.networks).toList.length + 1)) := by
  funext s
  rw [nextSwitchPort, comes.beside.made, comes.made, Option.toList_map, List.length_map]

/-- The switch port that another event makes after it. -/
theorem Event.Comes.made_next {f : Event} {S : Realm} {effect effect' : Effect} {l' m m' : Ledger}
    (comes : e.Comes settings R effect w l l')
    (comes' : f.Comes settings S effect' ((e.handler settings).runIn w).2 m m') :
    f.made? ((f.handler settings).runIn ((e.handler settings).runIn w).2).1
      = (f.proxySwitch? settings w.store.networks).map (.mk (switchPortName
        (w.controller.made.switchPorts
          + (e.proxySwitch? settings w.store.networks).toList.length + 1))) := by
  rw [comes'.made, comes.next, comes.beside.networks]

/-- An event of another realm comes to the same after it. -/
theorem comes_in_turn {f : Event} {S : Realm} (apart : S.Apart R)
    (calm : w.Calm) (shows : w.Shows l) (proper : l.Proper)
    (here : e.networkId? = some R.networkId) (there : f.networkId? = some S.networkId)
    (port : e.portId? = R.portId?) (port' : f.portId? = S.portId?) (stays : e.Stays)
    (stays' : f.Stays) (lodged : ∀ q ∈ R.portId?, l.Lodged R.networkId q)
    (lodged' : ∀ q ∈ S.portId?, l.Lodged S.networkId q) (within : l.Within R)
    (within' : l.Within S) {first next : Effect}
    (described : e.effect? settings w.catalog (l.view R.networkId R.portId?) = some first)
    (described' : f.effect? settings w.catalog (l.view S.networkId S.portId?) = some next)
    (granted : ∀ i < serverCount first.deeds,
      R.servers (serverName (l.serversMade + i + 1)) = true)
    (granted' : ∀ i < serverCount next.deeds,
      S.servers (serverName (l.serversMade + serverCount first.deeds + i + 1)) = true)
    (legible : (inTurn settings [e, f] w).2.clock.Legible) : ∃ l₁ l₁₂,
      e.Comes settings R first w l l₁ ∧
        f.Comes settings S next ((e.handler settings).runIn w).2 l₁ l₁₂ := by
  have follows := (e.handler settings).follows_runIn w
  have earlier : ((e.handler settings).runIn w).2.clock.Legible :=
    legible.earlier ((f.handler settings).follows_runIn _).clock
  obtain ⟨l₁, comes⟩ := Event.comes calm shows proper here port stays lodged within described
    granted earlier
  have linked : l.Linked := proper.toLinked
  -- the second event sees of its own realm what it would have seen at first
  rw [← comes.way.view_of_apart apart linked within' within, ← follows.catalog] at described'
  rw [← comes.way.made.1] at granted'
  obtain ⟨l₁₂, comes'⟩ := Event.comes (calm.follows follows) comes.shows
    (comes.way.proper proper) there port' stays'
    (comes.way.lodged_of_apart apart linked within' within lodged')
    (comes.way.within linked within' (Or.inr apart)) described' granted' legible
  exact ⟨l₁, l₁₂, comes, comes'⟩

/-- Two answers to an event are the same but for the name of a switch port, if all is well both
times or the same is in the way. -/
theorem Event.renamed_eq {ρ : Renaming} {r r' : Except Error e.Answer}
    (single : ∀ profileId, e ≠ .resync profileId)
    (result : r.map (fun _ => ()) = r'.map fun _ => ())
    (made : (e.made? r).map ρ.switchPort = e.made? r') : e.renamed ρ r = r' := by
  cases r with
  | error stop =>
      cases r' with
      | ok _ => exact nomatch result
      | error _ =>
          cases result
          cases e <;> rfl
  | ok answer =>
      cases r' with
      | error _ => exact nomatch result
      | ok answer' =>
          cases e with
          | networkCreated n => exact congrArg Except.ok made
          | resync profileId => exact absurd rfl (single profileId)
          | _ => rfl

end Events

/-! ## Two switch ports -/

section SwitchPorts

variable {ports : List SwitchPort} {p q : SwitchPort}

/-- Two switch ports with different names are put beside the others. -/
theorem put_put_perm (keyed : Table.Keyed SwitchPort.id ports) (other : p.id ≠ q.id) :
    (Table.put SwitchPort.id q (Table.put SwitchPort.id p ports)).Perm
      (q :: p :: Table.remove SwitchPort.id q.id (Table.remove SwitchPort.id p.id ports)) := by
  refine (Table.put_perm (keyed.put p) q).trans (List.Perm.cons q ?_)
  have inner := (Table.put_perm keyed p).filter fun c => decide (c.id ≠ q.id)
  rwa [List.filter_cons_of_pos (by simpa using other)] at inner

section Trades

variable {ρ : Renaming} {k : Nat} {x? y? : Option String}
  (trades : ρ.switchPorts = traded switchPortName k x?.toList.length y?.toList.length)

include trades

/-- The switch port of the first event has, the other way round, the number behind that of the
second. -/
theorem switchPort_first : (x?.map (.mk (switchPortName (k + 1)))).map ρ.switchPort
    = x?.map (.mk (switchPortName (k + y?.toList.length + 1))) := by
  cases x? with
  | none => rfl
  | some x =>
      refine congrArg some ?_
      rw [Renaming.switchPort, trades, traded_name switchPortName_inj]
      exact congrArg (fun n => SwitchPort.mk (switchPortName n) x)
        (exchange_first (i := 0) Nat.one_pos)

/-- The switch port of the second event has, the other way round, the first number. -/
theorem switchPort_next :
    (y?.map (.mk (switchPortName (k + x?.toList.length + 1)))).map ρ.switchPort
      = y?.map (.mk (switchPortName (k + 1))) := by
  cases y? with
  | none => rfl
  | some y =>
      refine congrArg some ?_
      rw [Renaming.switchPort, trades, traded_name switchPortName_inj]
      exact congrArg (fun n => SwitchPort.mk (switchPortName n) y)
        (exchange_second (i := 0) Nat.one_pos)

end Trades

/-- Whichever of two switch ports is made first, the same ports are there if their names change
places. -/
theorem switchPorts_perm (keyed : Table.Keyed SwitchPort.id ports) {ρ : Renaming} {k : Nat}
    {x? y? : Option String}
    (trades : ρ.switchPorts = traded switchPortName k x?.toList.length y?.toList.length) :
    ((withPort (y?.map (.mk (switchPortName (k + x?.toList.length + 1))))
        (withPort (x?.map (.mk (switchPortName (k + 1)))) ports)).map ρ.switchPort).Perm
      (withPort (x?.map (.mk (switchPortName (k + y?.toList.length + 1))))
        (withPort (y?.map (.mk (switchPortName (k + 1)))) ports)) := by
  have single : x? = none ∨ y? = none → ∀ ports : List SwitchPort,
      (ports.map ρ.switchPort).Perm ports := by
    intro none ports
    have same : ∀ p ∈ ports, ρ.switchPort p = p := fun p _ => by
      rw [Renaming.switchPort, trades, traded_same switchPortName_inj]
      exact none.imp (fun none => by rw [none]; rfl) fun none => by rw [none]; rfl
    rw [List.map_congr_left same, List.map_id']
  cases x? with
  | none => exact single (Or.inl rfl) _
  | some x =>
      cases y? with
      | none => exact single (Or.inr rfl) _
      | some y =>
          have first := Option.some.inj (switchPort_first trades)
          have next := Option.some.inj (switchPort_next trades)
          have other : switchPortName (k + 1) ≠ switchPortName (k + 1 + 1) := fun same => by
            have := switchPortName_inj same
            omega
          have left := (put_put_perm keyed (p := ⟨switchPortName (k + 1), x⟩)
            (q := ⟨switchPortName (k + 1 + 1), y⟩) other).map ρ.switchPort
          have right := put_put_perm keyed (p := ⟨switchPortName (k + 1), y⟩)
            (q := ⟨switchPortName (k + 1 + 1), x⟩) other
          -- no other switch port has one of the two names
          have rest : ∀ p ∈ Table.remove SwitchPort.id (switchPortName (k + 1 + 1))
              (Table.remove SwitchPort.id (switchPortName (k + 1)) ports), ρ.switchPort p = p := by
            intro p hp
            obtain ⟨hp, not_next⟩ := Table.mem_remove.mp hp
            have not_first := (Table.mem_remove.mp hp).2
            have stays := traded_of_ne switchPortName_inj (k := k) (a := 1) (b := 1) (s := p.id)
              fun j later within same => by
                rcases (show j = k + 1 ∨ j = k + 1 + 1 by omega) with rfl | rfl
                · exact not_first same
                · exact not_next same
            rw [Renaming.switchPort, trades, Option.toList, Option.toList]
            exact congrArg (fun name => SwitchPort.mk name p.switchId) stays
          refine left.trans (.trans (.of_eq ?_) ((List.Perm.swap _ _ _).trans right.symm))
          rw [List.map_cons, List.map_cons, List.map_congr_left rest, List.map_id']
          exact congrArg₂ List.cons next (congrArg₂ List.cons first rfl)

end SwitchPorts

/-! ## Both orders -/

/-- Coherent surroundings in which no two networks have a server in common, no binding is under a
name that is still to be given to a server, no switch port is there twice, and none has a name that
is still to be given. -/
structure Unmixed (w : World) (services : List Store.Service) (rows : List Store.Binding) : Prop
    extends Coherent w services rows where
  owners_once : (services.map (·.serverId)).Nodup
  homes_new : ∀ k, w.controller.made.servers < k → ∀ h ∈ w.controller.bindings,
    h.serverId ≠ serverName k
  switchPorts_once : (w.controller.switchPorts.map (·.id)).Nodup
  switchPorts_new : ∀ k, w.controller.made.switchPorts < k → ∀ p ∈ w.controller.switchPorts,
    p.id ≠ switchPortName k

/-- Every binding at the controller is under a server that is there. -/
def Ledger.Housed (l : Ledger) : Prop := ∀ h ∈ l.held, ∃ v ∈ l.servers, v.id = h.serverId

/-- Every binding stays under a server that is there. -/
theorem Ledger.Housed.apply {l : Ledger} (housed : l.Housed) (linked : l.Linked) {a : Act}
    (fits : a.Fits l) : (a.apply l).Housed := by
  -- amending a binding leaves it under its server
  have amended : ∀ {h b d}, h ∈ Table.modify HeldBinding.key (Store.Binding.name b)
      (Act.amend b d) l.held → ∃ v ∈ l.servers, v.id = h.serverId := by
    intro h b d hh
    rcases Table.mem_or_eq_of_mem_modify hh with old | ⟨g, hg, rfl⟩
    · exact housed h old
    · exact housed g hg
  -- a binding is made under a recorded server, and that one is there
  have created : ∀ {x} (d : Desired), x ∈ l.services → (l.create x d).Housed := by
    intro x d hx h hh
    rcases List.mem_append.mp hh with old | new
    · exact housed h old
    · rw [List.mem_singleton.mp new]
      exact linked.server_of_service x hx
  cases a with
  | serve networkId portId config time =>
      intro h hh
      obtain ⟨v, hv, id⟩ := housed h hh
      exact ⟨v, List.mem_append_left _ hv, id⟩
  | readdress serverId ip =>
      intro h hh
      obtain ⟨v, hv, id⟩ := housed h hh
      -- readdressing changes no name
      have ids : (Table.modify HeldServer.id serverId (Controller.State.readdressed ip)
          l.servers).map HeldServer.id = l.servers.map HeldServer.id :=
        Table.map_modify (f := Controller.State.readdressed ip) (fun _ => rfl) _
      have there : h.serverId ∈ l.servers.map HeldServer.id := List.mem_map.mpr ⟨v, hv, id⟩
      rw [← ids] at there
      exact List.mem_map.mp there
  | retire x missing =>
      intro h hh
      cases missing with
      | some e => exact housed h hh
      | none =>
          obtain ⟨hh, other⟩ := Table.mem_remove.mp hh
          obtain ⟨v, hv, id⟩ := housed h hh
          exact ⟨v, Table.mem_remove.mpr ⟨hv, fun same => other (id.symm.trans same)⟩, id⟩
  | bind x portId d time missing =>
      obtain ⟨held, eq, sub⟩ := (l.create x d).supersede_eq (l.row? portId d.address) missing
      rw [Act.apply, eq]
      exact fun h hh => created d fits.1 h (sub.subset hh)
  | leak x portId d e => exact created d fits.1
  | move b d time => exact fun h hh => amended hh
  | clash b c d => exact fun h hh => amended hh
  | release b missing =>
      obtain ⟨held, eq, sub⟩ := l.supersede_eq (some b) missing
      rw [Act.apply, show l.letGo b missing = { l with held } from eq]
      exact fun h hh => housed h (sub.subset hh)
  | stay b e => exact housed

/-- Every run from nothing leads to unmixed surroundings as soon as rows agree with their bindings,
if nothing from outside lists a switch port twice or under a name that is still to be given. -/
theorem Unmixed.of_run {allowed : Delivery → Prop} {ds : List Delivery} {w : World}
    {services : List Store.Service} {rows : List Store.Binding} (run : Run allowed ds w)
    (agrees : Agrees w services rows)
    (once : (w.controller.switchPorts.map (·.id)).Nodup)
    (new : ∀ k, w.controller.made.switchPorts < k → ∀ p ∈ w.controller.switchPorts,
      p.id ≠ switchPortName k) :
    ∃ services', Unmixed w services' rows := by
  obtain ⟨l, shows, proper, housed⟩ := run.invariant (P := Ledger.Housed)
    (fun h hh => nomatch hh) (fun _ _ _ h => h) fun d l acts l' _ proper housed leads => by
      have kept : l'.Linked ∧ l'.Housed := by
        refine leads.path.keeps (P := fun l => l.Linked ∧ l.Housed) ⟨proper, housed⟩ ?_
        exact fun a _ l fits ⟨linked, housed⟩ => ⟨linked.apply fits, housed.apply linked fits⟩
      exact kept.2
  have same : l.rows = rows := shows.store.bindings_unique agrees.store
  refine ⟨l.services, same ▸ .of_ledger shows proper (agrees.agreed shows),
    proper.owners_keyed, ?_, once, new⟩
  rw [shows.controller.servers_made, shows.controller.bindings_eq]
  intro k later h hh name
  obtain ⟨v, hv, id⟩ := housed h hh
  exact proper.servers_new k later v hv (id.trans name)

/-- Two surroundings are the same but for times, for the order of records and for names: under other
names and at no particular time store and controller have the same, up to order. -/
structure SameUpTo (ρ : Renaming) (w w' : World) (services services' : List Store.Service)
    (rows rows' : List Store.Binding) : Prop where
  store : w.store.Holds services rows
  store' : w'.store.Holds services' rows'
  services : (services.map ρ.service).Perm (services'.map Renaming.same.service)
  rows : (rows.map ρ.row).Perm (rows'.map Renaming.same.row)
  networks : w.store.networks = w'.store.networks
  ports : w.store.ports = w'.store.ports
  servers : (w.controller.servers.map ρ.server).Perm w'.controller.servers
  bindings : (w.controller.bindings.map ρ.held).Perm w'.controller.bindings
  switchPorts : (w.controller.switchPorts.map ρ.switchPort).Perm w'.controller.switchPorts
  made : w.controller.made = w'.controller.made
  rest : w.controller.aside = w'.controller.aside

/-- Ledgers that have the same, in surroundings that have the same beside them. -/
theorem SameUpTo.of_ledgers {ρ : Renaming} {w w' : World} {l l' : Ledger} (shows : w.Shows l)
    (shows' : w'.Shows l') (same : l.SameUpTo ρ l')
    (rest : w.controller.aside = w'.controller.aside)
    (networks : w.store.networks = w'.store.networks) (ports : w.store.ports = w'.store.ports)
    (made : w.controller.made.switchPorts = w'.controller.made.switchPorts)
    (switchPorts : (w.controller.switchPorts.map ρ.switchPort).Perm w'.controller.switchPorts) :
    SameUpTo ρ w w' l.services l'.services l.rows l'.rows where
  store := shows.store
  store' := shows'.store
  services := same.services
  rows := same.rows
  networks
  ports
  servers := by
    rw [shows.controller.servers_eq, shows'.controller.servers_eq]
    exact same.servers.trans (.of_eq (List.map_id _))
  bindings := by
    rw [shows.controller.bindings_eq, shows'.controller.bindings_eq]
    exact same.held.trans (.of_eq (List.map_id _))
  switchPorts
  made := by
    have routerPorts : w.controller.made.routerPorts = w'.controller.made.routerPorts :=
      congrArg (·.made.routerPorts) rest
    have servers : w.controller.made.servers = w'.controller.made.servers := by
      rw [shows.controller.servers_made, shows'.controller.servers_made, same.serversMade]
    have bindings : w.controller.made.bindings = w'.controller.made.bindings := by
      rw [shows.controller.bindings_made, shows'.controller.bindings_made, same.bindingsMade]
    show Made.mk _ _ _ _ = Made.mk _ _ _ _
    rw [routerPorts, made, servers, bindings]
  rest

/-- What is made first changes names with what is made next: so many objects of each kind, and so
many after them. -/
def Renaming.trade (made first next : Made) : Renaming where
  servers := traded serverName made.servers first.servers next.servers
  bindings := traded bindingName made.bindings first.bindings next.bindings
  switchPorts := traded switchPortName made.switchPorts first.switchPorts next.switchPorts
  servers_inj := traded_inj serverName_inj
  bindings_inj := traded_inj bindingName_inj
  switchPorts_inj := traded_inj switchPortName_inj

/-- How much is made where this effect comes, and with it a switch port on this switch, if any. -/
def Effect.makes (effect : Effect) (switch? : Option String) : Made :=
  ⟨0, switch?.toList.length, serverCount effect.deeds, bindingCount effect.deeds⟩

/-- The names that change places are those that the two events give. -/
theorem trades_trade (w : World) (services : List Store.Service) (rows : List Store.Binding)
    (first next : Effect) (x? y? : Option String) :
    (Renaming.trade w.controller.made (first.makes x?) (next.makes y?)).Trades
      (Coherent.ledgerOf w services rows) first.deeds next.deeds where
  servers_given _ given := traded_of_ne serverName_inj fun j later _ => given j later
  bindings_given _ given := traded_of_ne bindingName_inj fun j later _ => given j later
  servers_first _ hi := (traded_name serverName_inj _).trans
    (congrArg serverName (exchange_first hi))
  servers_next _ hi := (traded_name serverName_inj _).trans
    (congrArg serverName (exchange_second hi))
  bindings_first _ hi := (traded_name bindingName_inj _).trans
    (congrArg bindingName (exchange_first hi))
  bindings_next _ hi := (traded_name bindingName_inj _).trans
    (congrArg bindingName (exchange_second hi))

/-- Names that are in use at the controller stay. -/
structure Renaming.Keeps (ρ : Renaming) (w : World) : Prop where
  servers : ∀ v ∈ w.controller.servers, ρ.servers v.id = v.id
  bindings : ∀ h ∈ w.controller.bindings, ρ.bindings h.id = h.id
  switchPorts : ∀ p ∈ w.controller.switchPorts, ρ.switchPorts p.id = p.id

/-- Only names change that the controller gives between `w` and `w'`. -/
structure Renaming.MovesGiven (ρ : Renaming) (w w' : World) : Prop where
  servers : ∀ s, ρ.servers s ≠ s → ∃ k, w.controller.made.servers < k ∧
    k ≤ w'.controller.made.servers ∧ s = serverName k
  bindings : ∀ s, ρ.bindings s ≠ s → ∃ k, w.controller.made.bindings < k ∧
    k ≤ w'.controller.made.bindings ∧ s = bindingName k
  switchPorts : ∀ s, ρ.switchPorts s ≠ s → ∃ k, w.controller.made.switchPorts < k ∧
    k ≤ w'.controller.made.switchPorts ∧ s = switchPortName k

section Commute

variable {settings : Settings} {a b : Event} {m n : String} {w : World}

/-- Two events in both orders, with the same effects in both: from `l` by `l₁` if `a` comes first,
and by `l₂` if `b` does. -/
structure BothOrders (settings : Settings) (a b : Event) (effect effect' : Effect) (w : World)
    (R S R' S' : Realm) (l l₁ l₁₂ l₂ l₂₁ : Ledger) : Prop where
  first : a.Comes settings R effect w l l₁
  first_next : b.Comes settings S effect' ((a.handler settings).runIn w).2 l₁ l₁₂
  second : b.Comes settings S' effect' w l l₂
  second_next : a.Comes settings R' effect ((b.handler settings).runIn w).2 l₂ l₂₁

/-- Events of two networks have the same effects in both orders. -/
theorem Ledger.Divided.both_orders {l : Ledger} {effect effect' : Effect}
    (divided : l.Divided m n a.portId? b.portId?) (of_m : a.networkId? = some m)
    (of_n : b.networkId? = some n) (stays : a.Stays) (stays' : b.Stays) (calm : w.Calm)
    (shows : w.Shows l)
    (described : a.effect? settings w.catalog (l.view m a.portId?) = some effect)
    (described' : b.effect? settings w.catalog (l.view n b.portId?) = some effect')
    (timely : (inTurn settings [a, b] w).2.clock.Legible)
    (timely' : (inTurn settings [b, a] w).2.clock.Legible) :
    ∃ R S R' S' l₁ l₁₂ l₂ l₂₁, BothOrders settings a b effect effect' w R S R' S' l l₁ l₁₂ l₂ l₂₁ ∧
      Square m n a.portId? b.portId? effect.deeds effect'.deeds l l₁ l₁₂ l₂ l₂₁ := by
  have linked := divided.settled.toLinked
  -- `a` first: the first servers that are made belong to its network
  obtain ⟨-, apart⟩ := apart_others
    (l.realm m a.portId? l.serversMade (serverCount effect.deeds)) divided.networks divided.ports
  obtain ⟨l₁, l₁₂, first, first_next⟩ := comes_in_turn apart calm shows divided.proper of_m
    of_n rfl rfl stays stays' divided.lodged divided.lodged' (within_realm divided.lodged)
    (within_others _ _ divided.proper divided.networks (Nat.le_refl _) divided.lodged')
    described described' (fun i hi => servers_realm.mpr (Or.inr ⟨i, hi, rfl⟩))
    (fun i _ => others_made linked (by omega) fun j _ => by omega) timely
  -- `b` first: those that come after its own do
  obtain ⟨apart', -⟩ := apart_others (l.realm m a.portId?
    (l.serversMade + serverCount effect'.deeds) (serverCount effect.deeds)) divided.networks
    divided.ports
  obtain ⟨l₂, l₂₁, second, second_next⟩ := comes_in_turn apart' calm shows divided.proper of_n
    of_m rfl rfl stays' stays divided.lodged' divided.lodged
    (within_others _ _ divided.proper divided.networks (Nat.le_add_right _ _) divided.lodged')
    (within_realm divided.lodged) described' described
    (fun i _ => others_made linked (by omega) fun j _ => by omega)
    (fun i hi => servers_realm.mpr (Or.inr ⟨i, hi, rfl⟩)) timely'
  exact ⟨_, _, _, _, l₁, l₁₂, l₂, l₂₁, ⟨first, first_next, second, second_next⟩, divided,
    of_event settings w.catalog of_m described, of_event settings w.catalog of_n described',
    first.way, first_next.way, second.way, second_next.way⟩

namespace BothOrders

variable {effect effect' : Effect} {R S R' S' : Realm} {l l₁ l₁₂ l₂ l₂₁ : Ledger} {ρ : Renaming}
  (both : BothOrders settings a b effect effect' w R S R' S' l l₁ l₁₂ l₂ l₂₁)
  (trades : ρ.switchPorts = traded switchPortName w.controller.made.switchPorts
    (a.proxySwitch? settings w.store.networks).toList.length
    (b.proxySwitch? settings w.store.networks).toList.length)

include both trades

/-- The answers are the same, if the names of switch ports that are made change places. -/
theorem answers (of_m : a.networkId? = some m) (of_n : b.networkId? = some n) :
    (inTurn settings [a, b] w).1.map (Answered.renamed ρ)
      = (inTurn settings [b, a] w).1.reverse := by
  have answer : a.renamed ρ ((a.handler settings).runIn w).1 = _ :=
    Event.renamed_eq (Event.single of_m)
      (both.first.result.trans both.second_next.result.symm) (by
        rw [both.first.made, both.second.made_next both.second_next]
        exact switchPort_first trades)
  have answer' : b.renamed ρ
      ((b.handler settings).runIn ((a.handler settings).runIn w).2).1 = _ :=
    Event.renamed_eq (Event.single of_n)
      (both.first_next.result.trans both.second.result.symm) (by
        rw [both.first.made_next both.first_next, both.second.made]
        exact switchPort_next trades)
  exact congrArg₂ (fun r s => [Answered.mk a r, Answered.mk b s]) answer answer'

/-- If the ledgers have the same in the end, so have the surroundings. -/
theorem same_up_to (same : l₁₂.SameUpTo ρ l₂₁)
    (keyed : Table.Keyed SwitchPort.id w.controller.switchPorts) :
    SameUpTo ρ (inTurn settings [a, b] w).2 (inTurn settings [b, a] w).2 l₁₂.services l₂₁.services
      l₁₂.rows l₂₁.rows := by
  have first := both.first.beside
  have first_next := both.first_next.beside
  have second := both.second.beside
  have second_next := both.second_next.beside
  have made := both.first.made_next both.first_next
  have made' := both.second.made_next both.second_next
  refine .of_ledgers both.first_next.shows both.second_next.shows same
    ((first_next.rest.trans first.rest).trans (second_next.rest.trans second.rest).symm)
    ((first_next.networks.trans first.networks).trans
      (second_next.networks.trans second.networks).symm)
    ((first_next.ports.trans first.ports).trans (second_next.ports.trans second.ports).symm) ?_ ?_
  · rw [inTurn_pair, inTurn_pair, first_next.made, first.made, second_next.made, second.made, made,
      made', both.first.made, both.second.made]
    simp only [Option.toList_map, List.length_map]
    omega
  · rw [inTurn_pair, inTurn_pair, first_next.switchPorts, first.switchPorts,
      second_next.switchPorts, second.switchPorts, made, made', both.first.made, both.second.made]
    exact switchPorts_perm keyed trades

omit trades in
/-- How much there has been made when both events are over. -/
theorem made (shows : w.Shows l) :
    (inTurn settings [a, b] w).2.controller.made.servers
        = w.controller.made.servers + serverCount effect.deeds + serverCount effect'.deeds ∧
      (inTurn settings [a, b] w).2.controller.made.bindings
        = w.controller.made.bindings + bindingCount effect.deeds + bindingCount effect'.deeds ∧
      (inTurn settings [a, b] w).2.controller.made.switchPorts = w.controller.made.switchPorts
        + (a.proxySwitch? settings w.store.networks).toList.length
        + (b.proxySwitch? settings w.store.networks).toList.length := by
  have first := both.first.way.made
  have next := both.first_next.way.made
  have shows' := both.first_next.shows.controller
  refine ⟨?_, ?_, ?_⟩
  · rw [inTurn_pair, shows'.servers_made, shows.controller.servers_made, next.1, first.1]
  · rw [inTurn_pair, shows'.bindings_made, shows.controller.bindings_made, next.2, first.2]
  · rw [inTurn_pair, both.first_next.beside.made, both.first.beside.made,
      both.first.made_next both.first_next, both.first.made]
    simp only [Option.toList_map, List.length_map]

omit trades in
/-- What changes places is made by the two events. -/
theorem moves_given (shows : w.Shows l) :
    (Renaming.trade w.controller.made (effect.makes (a.proxySwitch? settings w.store.networks))
      (effect'.makes (b.proxySwitch? settings w.store.networks))).MovesGiven w
        (inTurn settings [a, b] w).2 := by
  obtain ⟨servers, bindings, switchPorts⟩ := both.made shows
  constructor <;> intro s moved
  · rw [servers]
    exact exists_of_traded serverName_inj moved
  · rw [bindings]
    exact exists_of_traded bindingName_inj moved
  · rw [switchPorts]
    exact exists_of_traded switchPortName_inj moved

end BothOrders

variable {services : List Store.Service} {rows : List Store.Binding}

/-- Two networks with services of their own divide the ledger. -/
theorem Unmixed.divided (unmixed : Unmixed w services rows) {q? r? : Option String}
    (networks : m ≠ n) (ports : ∀ q ∈ q?, q ∉ r?)
    (lodged : ∀ b ∈ rows, b.portId ∈ q? →
      ∃ x ∈ services, x.networkId = m ∧ x.serverId = b.serverId)
    (lodged' : ∀ b ∈ rows, b.portId ∈ r? →
      ∃ x ∈ services, x.networkId = n ∧ x.serverId = b.serverId) :
    (Coherent.ledgerOf w services rows).Divided m n q? r? where
  proper := ⟨unmixed.linked, unmixed.owners_once⟩
  homes_new := unmixed.homes_new
  networks
  ports
  lodged _ hq b hb here := lodged b hb (here ▸ hq)
  lodged' _ hr b hb here := lodged' b hb (here ▸ hr)

/-- What is still to be given is not in use yet. -/
theorem Unmixed.keeps {ρ : Renaming} {w' : World} (unmixed : Unmixed w services rows)
    (moves : ρ.MovesGiven w w') : ρ.Keeps w where
  servers v hv := by
    by_contra moved
    obtain ⟨k, later, -, name⟩ := moves.servers _ moved
    exact unmixed.servers_new k later v hv name
  bindings h hh := by
    by_contra moved
    obtain ⟨k, later, -, name⟩ := moves.bindings _ moved
    exact unmixed.bindings_new k later h hh name
  switchPorts p hp := by
    by_contra moved
    obtain ⟨k, later, -, name⟩ := moves.switchPorts _ moved
    exact unmixed.switchPorts_new k later p hp name

/-- Events of two networks, about different ports, may come in either order: answers and
surroundings are the same but for times, for the order of records and for the names that the
controller gives meanwhile. -/
theorem events_commute {settings : Settings} {a b : Event} {m n : String}
    (of_m : a.networkId? = some m) (of_n : b.networkId? = some n) (networks : m ≠ n)
    (ports : ∀ q ∈ a.portId?, q ∉ b.portId?) (stays : a.Stays) (stays' : b.Stays)
    (unmixed : Unmixed w services rows) (calm : w.Calm)
    (lodged : ∀ c ∈ rows, c.portId ∈ a.portId? →
      ∃ x ∈ services, x.networkId = m ∧ x.serverId = c.serverId)
    (lodged' : ∀ c ∈ rows, c.portId ∈ b.portId? →
      ∃ x ∈ services, x.networkId = n ∧ x.serverId = c.serverId)
    (timely : (inTurn settings [a, b] w).2.clock.Legible)
    (timely' : (inTurn settings [b, a] w).2.clock.Legible) :
    ∃ ρ : Renaming, ρ.Keeps w ∧ ρ.MovesGiven w (inTurn settings [a, b] w).2 ∧
      (inTurn settings [a, b] w).1.map (Answered.renamed ρ)
        = (inTurn settings [b, a] w).1.reverse ∧
      ∃ services₁ services₂ rows₁ rows₂, SameUpTo ρ (inTurn settings [a, b] w).2
        (inTurn settings [b, a] w).2 services₁ services₂ rows₁ rows₂ := by
  have divided := unmixed.divided networks ports lodged lodged'
  obtain ⟨first, described⟩ := Event.described of_m settings w.catalog
    ((Coherent.ledgerOf w services rows).view m a.portId?)
  obtain ⟨next, described'⟩ := Event.described of_n settings w.catalog
    ((Coherent.ledgerOf w services rows).view n b.portId?)
  obtain ⟨_, _, _, _, l₁, l₁₂, l₂, l₂₁, both, square⟩ := divided.both_orders of_m of_n stays stays'
    calm unmixed.shows described described' timely timely'
  have trades := trades_trade w services rows first next
    (a.proxySwitch? settings w.store.networks) (b.proxySwitch? settings w.store.networks)
  have moves := both.moves_given unmixed.shows
  exact ⟨_, unmixed.keeps moves, moves, both.answers rfl of_m of_n, _, _, _, _,
    both.same_up_to rfl (square.same_up_to trades) unmixed.switchPorts_once⟩

end Commute

/-! ## A second network -/

namespace Sample

def otherDhcpPort : Port :=
  ⟨"other-dhcp-port", "other-net", "", "fa:16:3e:00:01:02", "network:dhcp",
    [⟨"other-subnet", .v4 ⟨10, 0, 1, 2⟩⟩]⟩

def otherInstancePort : Port :=
  ⟨"other-instance-port", "other-net", "", "fa:16:3e:00:01:05", "compute:nova",
    [⟨"other-subnet", .v4 ⟨10, 0, 1, 5⟩⟩]⟩

/-- Beside the first network there is another one with a switch of its own. -/
def twoNetworks : World :=
  { world with
    catalog := {
      networks := catalog.networks ++ [⟨"other-net", "other-net", "tenant"⟩]
      subnets := catalog.subnets ++ [⟨"other-subnet", "other-net",
        .v4 (block ⟨10, 0, 1, 0⟩), true, none, [], []⟩]
      ports := catalog.ports ++ [otherDhcpPort, otherInstancePort] }
    store := { Store.empty with
      networks := some [⟨"net", "switch"⟩, ⟨"other-net", "other-switch"⟩] } }

/-- Nothing fails on the two networks. -/
theorem calm_twoNetworks : twoNetworks.Calm := ⟨fun _ _ => rfl, fun _ _ => rfl, rfl, rfl⟩

/-- The two networks have no server in common. -/
theorem unmixed_twoNetworks : ∃ services, Unmixed twoNetworks services [] := by
  have start : Run (fun _ => True) [] twoNetworks :=
    .change (.start false Clock.counting) ⟨rfl, rfl, rfl, rfl, rfl, rfl⟩
  have agrees : Agrees twoNetworks [] [] := {
    store := ⟨rfl, rfl, fun _ h => (nomatch h), fun _ h => (nomatch h)⟩
    bound := fun _ h => (nomatch h)
    distinct := List.nodup_nil
    owned := fun _ h => (nomatch h)
    served := fun _ h => (nomatch h) }
  exact Unmixed.of_run start agrees List.nodup_nil fun _ _ _ h => nomatch h

/-- Both networks have the first server. -/
def bothServices : List Store.Service :=
  [⟨"net", "dhcp-port", serverName 1, someTime⟩,
    ⟨"other-net", "other-dhcp-port", serverName 1, someTime⟩]

/-- One server is there, and both networks have it. -/
def shared : World :=
  { twoNetworks with
    store := { twoNetworks.store with services := some (bothServices.map Store.Service.toRow) }
    controller := { twoNetworks.controller with
      servers := [⟨serverName 1, ⟨"dhcpserver", "profile", .v4 (block ⟨10, 0, 0, 2⟩), [],
        "", none, .ofRoutes [], []⟩⟩]
      made := ⟨0, 0, 1, 0⟩ } }

/-- Rows and controller agree where one server is recorded for both networks. -/
theorem coherent_shared : Coherent shared bothServices [] where
  store := by
    have legible : someTime.Legible := ⟨by decide, by decide⟩
    have times : ∀ x ∈ bothServices, x.createdAt.Legible :=
      List.forall_mem_cons.mpr ⟨legible, List.forall_mem_singleton.mpr legible⟩
    exact ⟨rfl, rfl, times, fun _ h => nomatch h⟩
  bound := fun _ h => (nomatch h)
  distinct := List.nodup_nil
  owned := fun _ h => (nomatch h)
  served := by decide
  services_once := by decide
  rows_once := List.nodup_nil
  servers_once := by decide
  bindings_once := List.nodup_nil
  servers_new k later v hv := by
    rw [List.mem_singleton.mp hv]
    intro same
    have : 1 = k := serverName_inj same
    exact absurd later (by rw [← this]; decide)
  bindings_new := fun _ _ _ h => (nomatch h)

end Sample

/-- Which of two networks has the first server depends on the order, and nothing else does. -/
theorem servers_made_in_either_order :
    (inTurn Sample.settings [.portCreated Sample.dhcpPort, .portCreated Sample.otherDhcpPort]
      Sample.twoNetworks).2.store.services.map (·.map fun x => (x.networkId, x.serverId))
        = some [("net", "dhcp-1"), ("other-net", "dhcp-2")] ∧
    (inTurn Sample.settings [.portCreated Sample.otherDhcpPort, .portCreated Sample.dhcpPort]
      Sample.twoNetworks).2.store.services.map (·.map fun x => (x.networkId, x.serverId))
        = some [("other-net", "dhcp-1"), ("net", "dhcp-2")] ∧
    ∃ services, Unmixed Sample.twoNetworks services [] ∧ ∃ ρ : Renaming,
      ρ.Keeps Sample.twoNetworks ∧
      ρ.MovesGiven Sample.twoNetworks (inTurn Sample.settings
        [.portCreated Sample.dhcpPort, .portCreated Sample.otherDhcpPort] Sample.twoNetworks).2 ∧
      (inTurn Sample.settings [.portCreated Sample.dhcpPort, .portCreated Sample.otherDhcpPort]
        Sample.twoNetworks).1.map (Answered.renamed ρ)
        = (inTurn Sample.settings [.portCreated Sample.otherDhcpPort,
          .portCreated Sample.dhcpPort] Sample.twoNetworks).1.reverse ∧
      ∃ services₁ services₂ rows₁ rows₂, SameUpTo ρ
        (inTurn Sample.settings [.portCreated Sample.dhcpPort, .portCreated Sample.otherDhcpPort]
          Sample.twoNetworks).2
        (inTurn Sample.settings [.portCreated Sample.otherDhcpPort, .portCreated Sample.dhcpPort]
          Sample.twoNetworks).2 services₁ services₂ rows₁ rows₂ := by
  obtain ⟨services, unmixed⟩ := Sample.unmixed_twoNetworks
  have timely : (inTurn Sample.settings [.portCreated Sample.dhcpPort,
      .portCreated Sample.otherDhcpPort] Sample.twoNetworks).2.clock.Legible := by
    show Clock.Legible _
    decide +kernel
  have timely' : (inTurn Sample.settings [.portCreated Sample.otherDhcpPort,
      .portCreated Sample.dhcpPort] Sample.twoNetworks).2.clock.Legible := by
    show Clock.Legible _
    decide +kernel
  refine ⟨by decide +kernel, by decide +kernel, services, unmixed, ?_⟩
  exact events_commute (m := "net") (n := "other-net") rfl rfl (by decide) (by decide) trivial
    trivial unmixed Sample.calm_twoNetworks (fun _ h => nomatch h) (fun _ h => nomatch h) timely
    timely'

/-- Another name of a switch port does not make an answer an error, or an error an answer. -/
theorem isOk_renamed (ρ : Renaming) (a : Answered) : (a.renamed ρ).answer.isOk = a.answer.isOk := by
  obtain ⟨e, r⟩ := a
  cases e <;> first | rfl | (cases r <;> rfl)

/-- Where two networks have one server, rows and bindings may agree and no name may be there twice,
and yet their events do not commute: the server goes with the first network, and an address on the
second one can be bound before that, but not after it. -/
theorem shared_server_does_not_commute :
    Coherent Sample.shared Sample.bothServices [] ∧ Sample.shared.Calm ∧
    (∀ e ∈ [Event.networkDeleted "net", .portCreated Sample.otherInstancePort], e.Stays) ∧
    (Event.networkDeleted "net").networkId? = some "net" ∧
    (Event.portCreated Sample.otherInstancePort).networkId? = some "other-net" ∧
    (inTurn Sample.settings [.networkDeleted "net", .portCreated Sample.otherInstancePort]
      Sample.shared).2.clock.Legible ∧
    (inTurn Sample.settings [.portCreated Sample.otherInstancePort, .networkDeleted "net"]
      Sample.shared).2.clock.Legible ∧
    ∀ ρ : Renaming,
      (inTurn Sample.settings [.networkDeleted "net", .portCreated Sample.otherInstancePort]
        Sample.shared).1.map (Answered.renamed ρ)
      ≠ (inTurn Sample.settings [.portCreated Sample.otherInstancePort, .networkDeleted "net"]
        Sample.shared).1.reverse := by
  -- the answers differ in whether they are errors, which is the same under any names
  have refused : (inTurn Sample.settings [.networkDeleted "net",
      .portCreated Sample.otherInstancePort] Sample.shared).1.map (·.answer.isOk)
      = [true, false] := by decide +kernel
  have bound : (inTurn Sample.settings [.portCreated Sample.otherInstancePort,
      .networkDeleted "net"] Sample.shared).1.reverse.map (·.answer.isOk) = [true, true] := by
    decide +kernel
  refine ⟨Sample.coherent_shared, ⟨fun _ _ => rfl, fun _ _ => rfl, rfl, rfl⟩, by simp [Event.Stays],
    rfl, rfl, ?_, ?_, fun ρ same => ?_⟩
  · show Clock.Legible _
    decide +kernel
  · show Clock.Legible _
    decide +kernel
  · have answers := congrArg (List.map fun a : Answered => a.answer.isOk) same
    rw [List.map_map, bound] at answers
    have unrenamed : (fun a : Answered => a.answer.isOk) ∘ Answered.renamed ρ
        = fun a => a.answer.isOk := funext (isOk_renamed ρ)
    rw [unrenamed, refused] at answers
    exact absurd answers (by decide)

end Overlay.Dhcp
