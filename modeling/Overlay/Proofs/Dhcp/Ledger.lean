import Overlay.Dhcp.Binding
import Overlay.Proofs.Controller.View
import Overlay.Proofs.Store.View

/-!
# The ledger of native DHCP

Store and controller change one after the other, so their records of servers and bindings are kept
together here as one *ledger*. An `Act` is what handlers do to it in one piece: the calls and
statements that belong together, up to the point where a handler may stop. What a fault does in the
middle of a piece makes an act of its own (`leak`, `clash`) or is written beside the act.

* `Ledger.Linked`: no key occurs twice, and what rows and services name exists. `Ledger.Proper`
  asks in addition that no two services have the same server.
* `Path`: a sequence of acts, each of which fits the ledger it meets.
* `Linked.apply`, `Path.linked`: an act that fits, and so a path, keeps a ledger linked, and
  likewise proper.
-/

namespace Overlay.Store

/-- The binding at the controller that a row names. -/
def Binding.name (b : Binding) : String × String := (b.serverId, b.bindingId)

/-- A binding that takes the place of a row keeps its name. -/
theorem Binding.name_inPlace (rows : List Binding) (b : Binding) :
    (b.inPlace rows).name = b.name := by
  rw [inPlace]
  split <;> rfl

end Overlay.Store

namespace Overlay.Dhcp

open Overlay.Controller (HeldServer HeldBinding)

/-- The records of store and controller, side by side. -/
structure Ledger where
  services : List Store.Service
  /-- The bindings that the store remembers. -/
  rows : List Store.Binding
  servers : List HeldServer
  /-- The bindings that the controller holds. -/
  held : List HeldBinding
  serversMade : Nat
  bindingsMade : Nat
  networks : Option (List Store.NetworkMapping)
  ports : Option (List Store.PortMapping)

/-- The binding that the controller should hold for a row. -/
def heldFor (b : Store.Binding) : HeldBinding :=
  ⟨b.bindingId, b.serverId, b.macAddress, b.address, hostName b.address⟩

namespace Ledger

/-- The row of the next binding that is made. -/
def newRow (l : Ledger) (x : Store.Service) (portId : String) (d : Desired) (time : Instant) :
    Store.Binding :=
  ⟨portId, d.subnetId, d.address, d.macAddress, x.serverId,
    Controller.State.bindingName (l.bindingsMade + 1), time, time⟩

/-- The ledger with one more binding at the controller. -/
def create (l : Ledger) (x : Store.Service) (d : Desired) : Ledger :=
  { l with
    held := l.held ++ [⟨Controller.State.bindingName (l.bindingsMade + 1), x.serverId,
      d.macAddress, d.address, hostName d.address⟩]
    bindingsMade := l.bindingsMade + 1 }

/-- The ledger after the binding that a row names was asked to be removed. One that is reported
missing by a fault stays. -/
def letGo (l : Ledger) (b : Store.Binding) : Option Controller.Error → Ledger
  | none => { l with held := Table.remove HeldBinding.key b.name l.held }
  | some _ => l

/-- The ledger after a row's old binding, if there is one, was let go. -/
def supersede (l : Ledger) (old : Option Store.Binding) (missing : Option Controller.Error) :
    Ledger :=
  match old with
  | some b => l.letGo b missing
  | none => l

/-- The switch behind a network. -/
def switch? (l : Ledger) (networkId : String) : Option String :=
  l.networks.bind fun rows =>
    (Table.find? Store.NetworkMapping.networkId networkId rows).map (·.switchId)

/-- The row at a key. -/
def row? (l : Ledger) (portId : String) (ip : IPv4) : Option Store.Binding :=
  Table.find? Store.Binding.key (portId, ip) l.rows

end Ledger

/-- What is done to a ledger in one piece. The errors are those of faults that were met. -/
inductive Act where
  /-- A server is made for a network and remembered. -/
  | serve (networkId portId : String) (config : DhcpServerConfig) (time : Instant)
  /-- A server gets another address. -/
  | readdress (serverId : String) (ip : Address)
  /-- The server of a service is removed, unless it is reported missing; all rows under it and the
  service go. -/
  | retire (x : Store.Service) (missing : Option Controller.Error)
  /-- An address is bound on the server of `x`, and a binding that its row named before is let go,
  unless it is reported missing. -/
  | bind (x : Store.Service) (portId : String) (d : Desired) (time : Instant)
      (missing : Option Controller.Error)
  /-- An address is bound, but the binding that its row names cannot be let go: the new binding
  stays behind without a row. -/
  | leak (x : Store.Service) (portId : String) (d : Desired) (e : Controller.Error)
  /-- A bound address changes with its row. -/
  | move (b : Store.Binding) (d : Desired) (time : Instant)
  /-- A bound address changes at the controller, but its row cannot, since row `c` is in the way. -/
  | clash (b c : Store.Binding) (d : Desired)
  /-- A row goes with the binding that it names, unless that is reported missing. -/
  | release (b : Store.Binding) (missing : Option Controller.Error)
  /-- The binding that a row names cannot be let go, and nothing changes. -/
  | stay (b : Store.Binding) (e : Controller.Error)

namespace Act

/-- The change of a binding at the controller that gives it the address of `d`. -/
def amend (b : Store.Binding) (d : Desired) (h : HeldBinding) : HeldBinding :=
  { h with
    macAddress := if b.macAddress ≠ d.macAddress then d.macAddress else h.macAddress
    address := if b.address ≠ d.address then d.address else h.address
    hostName := if b.address ≠ d.address then hostName d.address else h.hostName }

/-- The controller amends a binding as the ledger does. -/
theorem updated_updateFor (b : Store.Binding) (d : Desired) (t : Template) (h : HeldBinding) :
    h.updated (updateFor b d t) = amend b d h := by
  simp only [HeldBinding.updated, updateFor, amend]
  congr 1
  · split <;> rfl
  · split <;> rfl
  · split <;> rfl

/-- When an act can be done. -/
def Fits (l : Ledger) : Act → Prop
  | serve networkId _ _ _ => ∀ x ∈ l.services, x.networkId ≠ networkId
  | readdress _ _ => True
  | retire x missing =>
    x ∈ l.services ∧ (∀ e ∈ missing, e.kind = .notFound) ∧
      ∀ y ∈ l.services, y.serverId = x.serverId → y = x
  | bind x _ _ _ missing => x ∈ l.services ∧ ∀ e ∈ missing, e.kind = .notFound
  | leak x portId d e =>
    x ∈ l.services ∧ (∃ b ∈ l.rows, b.key = (portId, d.address)) ∧ e.kind ≠ .notFound
  | move b d _ => b ∈ l.rows ∧ ∀ c ∈ l.rows, c.key = (b.portId, d.address) → c = b
  | clash b c d => b ∈ l.rows ∧ c ∈ l.rows ∧ c.key = (b.portId, d.address) ∧ c ≠ b
  | release b missing => b ∈ l.rows ∧ ∀ e ∈ missing, e.kind = .notFound
  | stay b e => b ∈ l.rows ∧ e.kind ≠ .notFound

/-- The call that met a fault in the middle of an act, and the error of this fault. -/
def fault? : Act → Option (Controller.Operation × Controller.Error)
  | retire _ missing => missing.map (.deleteServer, ·)
  | bind _ _ _ _ missing => missing.map (.deleteBinding, ·)
  | leak _ _ _ e => some (.deleteBinding, e)
  | release _ missing => missing.map (.deleteBinding, ·)
  | stay _ e => some (.deleteBinding, e)
  | _ => none

/-- The ledger after an act. -/
def apply (l : Ledger) : Act → Ledger
  | serve networkId portId config time =>
    { l with
      services := l.services ++
        [⟨networkId, portId, Controller.State.serverName (l.serversMade + 1), time⟩]
      servers := l.servers ++ [⟨Controller.State.serverName (l.serversMade + 1), config⟩]
      serversMade := l.serversMade + 1 }
  | readdress serverId ip =>
    { l with
      servers := Table.modify HeldServer.id serverId (Controller.State.readdressed ip) l.servers }
  | retire x missing =>
    { l with
      services := Table.remove Store.Service.networkId x.networkId l.services
      rows := Table.remove Store.Binding.serverId x.serverId l.rows
      servers :=
        if missing.isSome then l.servers else Table.remove HeldServer.id x.serverId l.servers
      held :=
        if missing.isSome then l.held
        else Table.remove HeldBinding.serverId x.serverId l.held }
  | bind x portId d time missing =>
    { (l.create x d).supersede (l.row? portId d.address) missing with
      rows := Store.putBinding (l.newRow x portId d time) l.rows }
  | leak x _ d _ => l.create x d
  | move b d time =>
    { l with
      rows := Table.modify Store.Binding.key b.key
        (.moved d.subnetId d.address d.macAddress time) l.rows
      held := Table.modify HeldBinding.key b.name (amend b d) l.held }
  | clash b _ d => { l with held := Table.modify HeldBinding.key b.name (amend b d) l.held }
  | release b missing =>
    { l.letGo b missing with rows := Table.remove Store.Binding.key b.key l.rows }
  | stay _ _ => l

end Act

/-- From `l` to `l'` by acts each of which fits the ledger that it meets. -/
inductive Path : Ledger → List Act → Ledger → Prop
  | nil (l : Ledger) : Path l [] l
  | cons {l l' : Ledger} {a : Act} {acts : List Act} (fits : a.Fits l)
      (rest : Path (a.apply l) acts l') : Path l (a :: acts) l'

namespace Path

/-- One act is a path. -/
theorem single {l : Ledger} {a : Act} (fits : a.Fits l) : Path l [a] (a.apply l) :=
  cons fits (nil _)

/-- Paths may be put one behind the other. -/
theorem append {l l' l'' : Ledger} {acts more : List Act} (h : Path l acts l')
    (h' : Path l' more l'') : Path l (acts ++ more) l'' := by
  induction h with
  | nil l => exact h'
  | cons fits rest ih => exact cons fits (ih h')

/-- A path over two lists of acts passes through a ledger between them. -/
theorem of_append {l l'' : Ledger} {acts more : List Act} (h : Path l (acts ++ more) l'') :
    ∃ l', Path l acts l' ∧ Path l' more l'' := by
  induction acts generalizing l with
  | nil => exact ⟨l, nil l, h⟩
  | cons a acts ih =>
      cases h with
      | cons fits rest =>
          obtain ⟨l', first, last⟩ := ih rest
          exact ⟨l', cons fits first, last⟩

/-- Every act of a path fits where it is carried out. -/
theorem fits {l l' : Ledger} {acts : List Act} (h : Path l acts l') :
    ∀ a ∈ acts, ∃ m, a.Fits m := by
  induction h with
  | nil l => exact fun a ha => nomatch ha
  | cons here rest ih => exact List.forall_mem_cons.mpr ⟨⟨_, here⟩, ih⟩

/-- What every act of a path keeps, the path keeps. -/
theorem keeps {P : Ledger → Prop} {l l' : Ledger} {acts : List Act} (h : Path l acts l')
    (start : P l) (step : ∀ a ∈ acts, ∀ l, a.Fits l → P l → P (a.apply l)) : P l' := by
  induction h with
  | nil l => exact start
  | cons fits rest ih =>
      refine ih (step _ List.mem_cons_self _ fits start) fun a ha => ?_
      exact step a (List.mem_cons_of_mem _ ha)

end Path

namespace Ledger

/-- No key occurs twice, no name that is still to be given is in use, and whatever is named by a
service or a row exists. -/
structure Linked (l : Ledger) : Prop where
  services_keyed : Table.Keyed Store.Service.networkId l.services
  rows_keyed : Table.Keyed Store.Binding.key l.rows
  names_keyed : Table.Keyed Store.Binding.bindingId l.rows
  servers_keyed : Table.Keyed HeldServer.id l.servers
  held_keyed : Table.Keyed HeldBinding.id l.held
  servers_new : ∀ k, l.serversMade < k → ∀ v ∈ l.servers, v.id ≠ Controller.State.serverName k
  held_new : ∀ k, l.bindingsMade < k → ∀ h ∈ l.held, h.id ≠ Controller.State.bindingName k
  server_of_service : ∀ x ∈ l.services, ∃ v ∈ l.servers, v.id = x.serverId
  service_of_row : ∀ b ∈ l.rows, ∃ x ∈ l.services, x.serverId = b.serverId
  held_of_row : ∀ b ∈ l.rows, ∃ h ∈ l.held, h.key = b.name

/-! ## Letting go -/

section LetGo

variable (l : Ledger) (old : Option Store.Binding) (missing : Option Controller.Error)

/-- Letting go changes nothing but what the controller holds. -/
theorem supersede_eq : ∃ held, l.supersede old missing = { l with held } ∧ held.Sublist l.held := by
  cases old with
  | none => exact ⟨l.held, rfl, List.Sublist.refl _⟩
  | some b =>
      cases missing with
      | none => exact ⟨_, rfl, List.filter_sublist⟩
      | some e => exact ⟨l.held, rfl, List.Sublist.refl _⟩

variable {l old}

/-- A binding that is not the superseded one stays. -/
theorem mem_supersede {h : HeldBinding} (hh : h ∈ l.held)
    (other : ∀ b, old = some b → h.key ≠ b.name) : h ∈ (l.supersede old missing).held := by
  cases old with
  | none => exact hh
  | some b =>
      cases missing with
      | none => exact Table.mem_remove.mpr ⟨hh, other b rfl⟩
      | some e => exact hh

end LetGo

/-- The row that is looked up is a row, and has the key. -/
theorem row?_mem {l : Ledger} {portId : String} {ip : IPv4} {b : Store.Binding}
    (h : l.row? portId ip = some b) : b ∈ l.rows ∧ b.key = (portId, ip) :=
  Table.mem_of_find? h

namespace Linked

variable {l : Ledger}

/-- The bindings of the controller have keys of their own. -/
theorem held_keys (linked : l.Linked) : Table.Keyed HeldBinding.key l.held :=
  linked.held_keyed.of_key fun _ _ _ _ same => congrArg Prod.snd same

/-- The rows name bindings of their own. -/
theorem row_names (linked : l.Linked) : Table.Keyed Store.Binding.name l.rows :=
  linked.names_keyed.of_key fun _ _ _ _ same => congrArg Prod.snd same

/-- A row's binding is found by the name it is held under. -/
theorem eq_of_name (linked : l.Linked) {b c : Store.Binding} (hb : b ∈ l.rows) (hc : c ∈ l.rows)
    (same : b.name = c.name) : b = c :=
  linked.names_keyed.eq_of_key hb hc (congrArg Prod.snd same)

/-- No row names the binding that is made next. -/
theorem name_ne (linked : l.Linked) {b : Store.Binding} (hb : b ∈ l.rows) (x : Store.Service) :
    (x.serverId, Controller.State.bindingName (l.bindingsMade + 1)) ≠ b.name := by
  intro same
  obtain ⟨h, hh, key⟩ := linked.held_of_row b hb
  refine linked.held_new _ (Nat.lt_succ_self _) h hh ?_
  exact congrArg Prod.snd (key.trans same.symm)

/-! ## One lemma for each act -/

/-- A server that is made for a network without one leaves the ledger linked. -/
theorem serve (linked : l.Linked) {networkId : String}
    (fits : ∀ x ∈ l.services, x.networkId ≠ networkId) (portId : String)
    (config : DhcpServerConfig) (time : Instant) :
    ((Act.serve networkId portId config time).apply l).Linked := by
  have new := linked.servers_new (l.serversMade + 1) (Nat.lt_succ_self _)
  refine { linked with
    services_keyed := linked.services_keyed.concat fits
    servers_keyed := linked.servers_keyed.concat new
    servers_new := ?_
    server_of_service := ?_
    service_of_row := ?_ }
  · intro k hk v hv
    have later : l.serversMade + 1 < k := hk
    rcases List.mem_append.mp hv with old | added
    · exact linked.servers_new k (by omega) v old
    · rw [List.mem_singleton.mp added]
      intro same
      have := Controller.State.serverName_inj same
      omega
  · intro x hx
    rcases List.mem_append.mp hx with old | added
    · obtain ⟨v, hv, id⟩ := linked.server_of_service x old
      exact ⟨v, List.mem_append_left _ hv, id⟩
    · rw [List.mem_singleton.mp added]
      exact ⟨_, List.mem_append_right _ (List.mem_singleton_self _), rfl⟩
  · intro b hb
    obtain ⟨x, hx, id⟩ := linked.service_of_row b hb
    exact ⟨x, List.mem_append_left _ hx, id⟩

/-- A server that is readdressed leaves the ledger linked. -/
theorem readdress (linked : l.Linked) (serverId : String) (ip : Address) :
    ((Act.readdress serverId ip).apply l).Linked := by
  have ids : (Table.modify HeldServer.id serverId (Controller.State.readdressed ip)
      l.servers).map HeldServer.id = l.servers.map HeldServer.id :=
    Table.map_modify (f := Controller.State.readdressed ip) (fun _ => rfl) _
  refine { linked with
    servers_keyed := ?_
    servers_new := ?_
    server_of_service := ?_ }
  · show (List.map _ _).Nodup
    rw [show ((Act.readdress serverId ip).apply l).servers.map HeldServer.id
      = l.servers.map HeldServer.id from ids]
    exact linked.servers_keyed
  · intro k hk v hv
    rcases Table.mem_or_eq_of_mem_modify hv with old | ⟨u, hu, rfl⟩
    · exact linked.servers_new k hk v old
    · exact linked.servers_new k hk u hu
  · intro x hx
    obtain ⟨v, hv, id⟩ := linked.server_of_service x hx
    have there : x.serverId ∈ ((Act.readdress serverId ip).apply l).servers.map HeldServer.id := by
      rw [show ((Act.readdress serverId ip).apply l).servers.map HeldServer.id
        = l.servers.map HeldServer.id from ids]
      exact List.mem_map.mpr ⟨v, hv, id⟩
    exact List.mem_map.mp there

/-- A server that is taken down with all its rows leaves the ledger linked, if no other service
names it. -/
theorem retire (linked : l.Linked) {x : Store.Service} (hx : x ∈ l.services)
    (alone : ∀ y ∈ l.services, y.serverId = x.serverId → y = x)
    (missing : Option Controller.Error) : ((Act.retire x missing).apply l).Linked := by
  have servers : ((Act.retire x missing).apply l).servers.Sublist l.servers := by
    show (if _ then _ else _ : List HeldServer).Sublist _
    split
    · exact List.Sublist.refl _
    · exact List.filter_sublist
  have held : ((Act.retire x missing).apply l).held.Sublist l.held := by
    show (if _ then _ else _ : List HeldBinding).Sublist _
    split
    · exact List.Sublist.refl _
    · exact List.filter_sublist
  refine {
    services_keyed := linked.services_keyed.remove _ _
    rows_keyed := linked.rows_keyed.remove _ _
    names_keyed := linked.names_keyed.remove _ _
    servers_keyed := linked.servers_keyed.sublist (servers.map _)
    held_keyed := linked.held_keyed.sublist (held.map _)
    servers_new := fun k hk v hv => linked.servers_new k hk v (servers.subset hv)
    held_new := fun k hk h hh => linked.held_new k hk h (held.subset hh)
    server_of_service := ?_
    service_of_row := ?_
    held_of_row := ?_ }
  -- no other service has the server that goes
  · intro y hy
    obtain ⟨hy, other⟩ := Table.mem_remove.mp hy
    obtain ⟨v, hv, id⟩ := linked.server_of_service y hy
    refine ⟨v, ?_, id⟩
    show v ∈ (if _ then _ else _ : List HeldServer)
    split
    · exact hv
    · refine Table.mem_remove.mpr ⟨hv, fun same => other ?_⟩
      rw [alone y hy (id.symm.trans same)]
  -- a row that stays is under another server, and so belongs to another service
  · intro b hb
    obtain ⟨hb, other⟩ := Table.mem_remove.mp hb
    obtain ⟨y, hy, id⟩ := linked.service_of_row b hb
    refine ⟨y, Table.mem_remove.mpr ⟨hy, fun same => other ?_⟩, id⟩
    rw [← id, linked.services_keyed.eq_of_key hy hx same]
  · intro b hb
    obtain ⟨hb, other⟩ := Table.mem_remove.mp hb
    obtain ⟨h, hh, key⟩ := linked.held_of_row b hb
    refine ⟨h, ?_, key⟩
    show h ∈ (if _ then _ else _ : List HeldBinding)
    split
    · exact hh
    · exact Table.mem_remove.mpr ⟨hh, fun same => other ((congrArg Prod.fst key).symm.trans same)⟩

/-- A binding that is made leaves the ledger linked. -/
theorem create (linked : l.Linked) (x : Store.Service) (d : Desired) : (l.create x d).Linked := by
  refine { linked with
    held_keyed := linked.held_keyed.concat (linked.held_new _ (Nat.lt_succ_self _))
    held_new := ?_
    held_of_row := ?_ }
  · intro k hk h hh
    have later : l.bindingsMade + 1 < k := hk
    rcases List.mem_append.mp hh with old | added
    · exact linked.held_new k (by omega) h old
    · rw [List.mem_singleton.mp added]
      intro same
      have := Controller.State.bindingName_inj same
      omega
  · intro b hb
    obtain ⟨h, hh, key⟩ := linked.held_of_row b hb
    exact ⟨h, List.mem_append_left _ hh, key⟩

/-- A binding that is made with its row leaves the ledger linked. -/
theorem bind (linked : l.Linked) {x : Store.Service} (hx : x ∈ l.services) (portId : String)
    (d : Desired) (time : Instant) (missing : Option Controller.Error) :
    ((Act.bind x portId d time missing).apply l).Linked := by
  have made := linked.create x d
  obtain ⟨held, eq, sub⟩ := (l.create x d).supersede_eq (l.row? portId d.address) missing
  have new : ∀ b ∈ l.rows, b.bindingId ≠ Controller.State.bindingName (l.bindingsMade + 1) :=
    fun b hb same => linked.name_ne hb ⟨"", "", b.serverId, time⟩ (Prod.ext rfl same.symm)
  -- the rows are those of other keys and the new one
  have rows : ∀ b ∈ Store.putBinding (l.newRow x portId d time) l.rows,
      b.name = (l.newRow x portId d time).name ∨
        (b ∈ l.rows ∧ b.key ≠ (portId, d.address)) := by
    intro b hb
    rcases (Table.mem_put linked.rows_keyed).mp hb with rfl | ⟨old, other⟩
    · exact Or.inl (Store.Binding.name_inPlace _ _)
    · rw [Store.key_inPlace] at other
      exact Or.inr ⟨old, other⟩
  have held_of : ∀ h ∈ (l.create x d).held,
      (∀ b, l.row? portId d.address = some b → h.key ≠ b.name) → h ∈ held := by
    intro h hh other
    have := Ledger.mem_supersede missing hh other
    rwa [eq] at this
  rw [Act.apply, eq]
  refine {
    services_keyed := linked.services_keyed
    rows_keyed := linked.rows_keyed.put _
    names_keyed := ?_
    servers_keyed := linked.servers_keyed
    held_keyed := made.held_keyed.sublist (sub.map _)
    servers_new := linked.servers_new
    held_new := fun k hk h hh => made.held_new k hk h (sub.subset hh)
    server_of_service := linked.server_of_service
    service_of_row := ?_
    held_of_row := ?_ }
  · refine Table.Keyed.perm ?_ (Table.put_perm linked.rows_keyed _).symm
    refine Table.keyed_cons.mpr ⟨?_, linked.names_keyed.remove _ _⟩
    intro b hb
    rw [show (Store.Binding.inPlace l.rows _).bindingId = _ from
      congrArg Prod.snd (Store.Binding.name_inPlace l.rows (l.newRow x portId d time))]
    exact new b (Table.mem_remove.mp hb).1
  · intro b hb
    rcases rows b hb with same | ⟨old, _⟩
    · exact ⟨x, hx, (congrArg Prod.fst same).symm⟩
    · exact linked.service_of_row b old
  · intro b hb
    rcases rows b hb with same | ⟨old, other⟩
    · refine ⟨_, held_of _ (List.mem_append_right _ (List.mem_singleton_self _)) ?_, same.symm⟩
      intro c row
      exact linked.name_ne (row?_mem row).1 x
    · obtain ⟨h, hh, key⟩ := linked.held_of_row b old
      refine ⟨h, held_of h (List.mem_append_left _ hh) fun c row same => ?_, key⟩
      have itself := linked.eq_of_name old (row?_mem row).1 (key.symm.trans same)
      exact other (itself ▸ (row?_mem row).2)

/-- A binding that changes at the controller keeps its name. -/
theorem amend (linked : l.Linked) (name : String × String) (b : Store.Binding) (d : Desired) :
    { l with held := Table.modify HeldBinding.key name (Act.amend b d) l.held }.Linked := by
  have keys : (Table.modify HeldBinding.key name (Act.amend b d) l.held).map HeldBinding.key
      = l.held.map HeldBinding.key := Table.map_modify (f := Act.amend b d) (fun _ => rfl) _
  have ids : (Table.modify HeldBinding.key name (Act.amend b d) l.held).map HeldBinding.id
      = l.held.map HeldBinding.id := Table.map_modify (f := Act.amend b d) (fun _ => rfl) _
  refine { linked with
    held_keyed := ?_
    held_new := ?_
    held_of_row := ?_ }
  · show (List.map _ _).Nodup
    rw [ids]
    exact linked.held_keyed
  · intro k hk h hh
    have there : h.id ∈ l.held.map HeldBinding.id := ids ▸ List.mem_map.mpr ⟨h, hh, rfl⟩
    obtain ⟨g, hg, same⟩ := List.mem_map.mp there
    exact same ▸ linked.held_new k hk g hg
  · intro c hc
    obtain ⟨h, hh, key⟩ := linked.held_of_row c hc
    have there : c.name ∈ (Table.modify HeldBinding.key name (Act.amend b d) l.held).map
        HeldBinding.key := keys ▸ List.mem_map.mpr ⟨h, hh, key⟩
    exact List.mem_map.mp there

/-- A binding that is moved with its row leaves the ledger linked, if no other row is in the way. -/
theorem move (linked : l.Linked) {b : Store.Binding} (hb : b ∈ l.rows) {d : Desired}
    (free : ∀ c ∈ l.rows, c.key = (b.portId, d.address) → c = b) (time : Instant) :
    ((Act.move b d time).apply l).Linked := by
  have amended := linked.amend b.name b d
  -- after the move the rows are the moved one and the others
  have mem : ∀ c, c ∈ ((Act.move b d time).apply l).rows ↔
      c = b.moved d.subnetId d.address d.macAddress time ∨ (c ∈ l.rows ∧ c.key ≠ b.key) :=
    fun c => Table.mem_modify linked.rows_keyed hb _
  refine { amended with
    rows_keyed := ?_
    names_keyed := ?_
    service_of_row := ?_
    held_of_row := ?_ }
  · refine Table.Keyed.perm ?_ (Table.modify_perm linked.rows_keyed hb _).symm
    refine Table.keyed_cons.mpr ⟨fun c hc same => ?_, linked.rows_keyed.remove _ _⟩
    obtain ⟨old, other⟩ := Table.mem_remove.mp hc
    exact other (congrArg _ (free c old same))
  · have ids : ((Act.move b d time).apply l).rows.map Store.Binding.bindingId
        = l.rows.map Store.Binding.bindingId :=
      Table.map_modify (f := Store.Binding.moved d.subnetId d.address d.macAddress time)
        (fun _ => rfl) _
    show (List.map _ _).Nodup
    rw [ids]
    exact linked.names_keyed
  · intro c hc
    rcases (mem c).mp hc with rfl | ⟨old, _⟩
    · exact linked.service_of_row b hb
    · exact linked.service_of_row c old
  · intro c hc
    rcases (mem c).mp hc with rfl | ⟨old, _⟩
    · exact amended.held_of_row b hb
    · exact amended.held_of_row c old

/-- A binding that is released with its row leaves the ledger linked. -/
theorem release (linked : l.Linked) {b : Store.Binding} (hb : b ∈ l.rows)
    (missing : Option Controller.Error) : ((Act.release b missing).apply l).Linked := by
  obtain ⟨held, eq, sub⟩ := l.supersede_eq (some b) missing
  have eq' : l.letGo b missing = { l with held } := eq
  rw [Act.apply, eq']
  refine { linked with
    rows_keyed := linked.rows_keyed.remove _ _
    names_keyed := linked.names_keyed.remove _ _
    held_keyed := linked.held_keyed.sublist (sub.map _)
    held_new := fun k hk h hh => linked.held_new k hk h (sub.subset hh)
    service_of_row := fun c hc => linked.service_of_row c (Table.mem_remove.mp hc).1
    held_of_row := ?_ }
  intro c hc
  obtain ⟨old, other⟩ := Table.mem_remove.mp hc
  obtain ⟨h, hh, key⟩ := linked.held_of_row c old
  have stays : h ∈ (l.supersede (some b) missing).held := by
    refine Ledger.mem_supersede missing hh fun b' itself same => other ?_
    cases itself
    exact congrArg _ (linked.eq_of_name old hb (key.symm.trans same))
  rw [eq] at stays
  exact ⟨h, stays, key⟩

/-- An act that fits keeps the ledger linked. -/
theorem apply (linked : l.Linked) {a : Act} (fits : a.Fits l) : (a.apply l).Linked := by
  cases a with
  | serve networkId portId config time => exact linked.serve fits portId config time
  | readdress serverId ip => exact linked.readdress serverId ip
  | retire x missing => exact linked.retire fits.1 fits.2.2 missing
  | bind x portId d time missing => exact linked.bind fits.1 portId d time missing
  | leak x portId d e => exact linked.create x d
  | move b d time => exact linked.move fits.1 fits.2 time
  | clash b c d => exact linked.amend b.name b d
  | release b missing => exact linked.release fits.1 missing
  | stay b e => exact linked

end Linked

/-! ## Servers of their own -/

/-- A linked ledger in which no two services have the same server. -/
structure Proper (l : Ledger) : Prop extends Linked l where
  owners_keyed : Table.Keyed Store.Service.serverId l.services

instance (l : Ledger) : Coe l.Proper l.Linked := ⟨Proper.toLinked⟩

/-- Only the making of a server adds a service, and its name is new. -/
theorem Proper.apply {l : Ledger} (proper : l.Proper) {a : Act} (fits : a.Fits l) :
    (a.apply l).Proper := by
  refine ⟨proper.toLinked.apply fits, ?_⟩
  cases a with
  | serve networkId portId config time =>
      refine proper.owners_keyed.concat fun x hx same => ?_
      obtain ⟨v, hv, id⟩ := proper.server_of_service x hx
      exact proper.servers_new _ (Nat.lt_succ_self _) v hv (id.trans same)
  | retire x missing => exact proper.owners_keyed.remove _ _
  | bind x portId d time missing =>
      obtain ⟨held, eq, -⟩ := (l.create x d).supersede_eq (l.row? portId d.address) missing
      rw [Act.apply, eq]
      exact proper.owners_keyed
  | release b missing => cases missing <;> exact proper.owners_keyed
  | readdress _ _ => exact proper.owners_keyed
  | leak _ _ _ _ => exact proper.owners_keyed
  | move _ _ _ => exact proper.owners_keyed
  | clash _ _ _ => exact proper.owners_keyed
  | stay _ _ => exact proper.owners_keyed

end Ledger

namespace Path

variable {l l' : Ledger} {acts : List Act}

/-- A ledger stays linked along a path. -/
theorem linked (h : Path l acts l') (linked : l.Linked) : l'.Linked :=
  h.keeps linked fun _ _ _ fits linked => linked.apply fits

/-- A ledger stays proper along a path. -/
theorem proper (h : Path l acts l') (proper : l.Proper) : l'.Proper :=
  h.keeps proper fun _ _ _ fits proper => proper.apply fits

end Path

end Overlay.Dhcp
