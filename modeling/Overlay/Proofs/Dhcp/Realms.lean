import Overlay.Proofs.Dhcp.Agreement
import Overlay.Proofs.Dhcp.Views

/-!
# What belongs to one network

A *realm* is what one network has for itself: servers, what lies under them, and the rows of a port.
A deed in a realm does to the realm's part of a ledger what it does to the ledger, and nothing to
the part of another realm.

Main statements: `part_apply`, `Way.part_of_apart`, `Way.view_of_apart`.
-/

namespace Overlay.Dhcp

open Overlay.Controller (HeldServer HeldBinding)
open Overlay.Controller.State (serverName bindingName)

/-- A network with servers, present or to come, and a port if there is one. -/
structure Realm where
  networkId : String
  portId? : Option String
  servers : String → Bool

/-- Two realms have nothing in common. -/
structure Realm.Apart (R S : Realm) : Prop where
  networks : R.networkId ≠ S.networkId
  ports : ∀ q, R.portId? = some q → S.portId? ≠ some q
  servers : ∀ s, S.servers s = true → R.servers s = false

/-- What the ledger has of the network and of the port lies under the realm's servers. -/
structure Ledger.Within (R : Realm) (l : Ledger) : Prop where
  services : ∀ x ∈ l.services, x.networkId = R.networkId → R.servers x.serverId = true
  rows : ∀ b ∈ l.rows, R.portId? = some b.portId → R.servers b.serverId = true

/-- What lies under the realm's servers. -/
def Ledger.part (R : Realm) (l : Ledger) : Ledger :=
  { l with
    services := l.services.filter fun x => R.servers x.serverId
    rows := l.rows.filter fun b => R.servers b.serverId
    servers := l.servers.filter fun v => R.servers v.id
    held := l.held.filter fun h => R.servers h.serverId }

namespace Deed

/-- How many servers are made by the deed. -/
def serves : Deed → Nat
  | serve .. => 1
  | _ => 0

/-- How many bindings are made by the deed. -/
def binds : Deed → Nat
  | bind .. => 1
  | _ => 0

/-- The deed is about the realm. -/
def In (R : Realm) : Deed → Prop
  | serve n _ _ => n = R.networkId
  | readdress s _ => R.servers s = true
  | retire x => x.networkId = R.networkId ∧ R.servers x.serverId = true
  | bind x q _ => R.portId? = some q ∧ R.servers x.serverId = true
  | move b _ | clash b _ | release b => R.portId? = some b.portId ∧ R.servers b.serverId = true

/-- The server that the deed makes, if any, is in the realm. -/
def Granted (R : Realm) (l : Ledger) (d : Deed) : Prop :=
  0 < d.serves → R.servers (serverName (l.serversMade + 1)) = true

end Deed

variable {l : Ledger} {a : Act} {d : Deed} {R S : Realm}

/-- What an act of this deed makes. -/
theorem made_apply (did : a.deed? = some d) :
    (a.apply l).serversMade = l.serversMade + d.serves ∧
      (a.apply l).bindingsMade = l.bindingsMade + d.binds := by
  have act := Act.of_deed? did
  cases d with
  | serve n p config => obtain ⟨time, rfl⟩ := act; exact ⟨rfl, rfl⟩
  | readdress s ip => cases act; exact ⟨rfl, rfl⟩
  | retire x => cases act; exact ⟨rfl, rfl⟩
  | bind x q d =>
      obtain ⟨time, rfl⟩ := act
      obtain ⟨held, eq, -⟩ := (l.create x d).supersede_eq (l.row? q d.address) none
      rw [Act.apply, eq]
      exact ⟨rfl, rfl⟩
  | move b d => obtain ⟨time, rfl⟩ := act; exact ⟨rfl, rfl⟩
  | clash b d => obtain ⟨c, rfl⟩ := act; exact ⟨rfl, rfl⟩
  | release b => cases act; exact ⟨rfl, rfl⟩

/-! ## Deeds in the realm -/

/-- Rows of the realm's port lie in the realm. -/
theorem Ledger.Within.of_key (within : l.Within R) {q : String} {ip : IPv4}
    (port : R.portId? = some q) : ∀ c ∈ l.rows, c.key = (q, ip) → R.servers c.serverId = true :=
  fun c hc key => within.rows c hc (port.trans (congrArg (some ·.1) key.symm))

/-- A binding that a row of the realm names lies in the realm. -/
theorem servers_of_name {b : Store.Binding} (inside : R.servers b.serverId = true)
    {h : HeldBinding} (key : h.key = b.name) : R.servers h.serverId = true := by
  rw [show h.serverId = b.serverId from congrArg Prod.fst key]
  exact inside

theorem row?_part (within : l.Within R) {q : String} (port : R.portId? = some q) (ip : IPv4) :
    (l.part R).row? q ip = l.row? q ip :=
  Table.find?_filter (within.of_key port)

theorem putBinding_part (within : l.Within R) {b : Store.Binding}
    (port : R.portId? = some b.portId) (inside : R.servers b.serverId = true) :
    (Store.putBinding b l.rows).filter (fun b => R.servers b.serverId)
      = Store.putBinding b (l.part R).rows := by
  have old : ∀ c ∈ l.rows, c.key = b.key → R.servers c.serverId = true :=
    within.of_key port
  have found : b.inPlace (l.part R).rows = b.inPlace l.rows := by
    rw [Store.Binding.inPlace, Store.Binding.inPlace, Ledger.part, Table.find?_filter old]
  have server : (b.inPlace l.rows).serverId = b.serverId :=
    congrArg Prod.fst (Store.Binding.name_inPlace l.rows b)
  rw [Store.putBinding, Store.putBinding, found]
  refine Table.put_filter (by rw [server]; exact inside) fun c hc key => old c hc ?_
  rw [key, Store.key_inPlace]

theorem putBinding_hidden {b : Store.Binding} (outside : R.servers b.serverId = false)
    (old : ∀ c ∈ l.rows, c.key = b.key → R.servers c.serverId = false) :
    (Store.putBinding b l.rows).filter (fun b => R.servers b.serverId) = (l.part R).rows := by
  have server : (b.inPlace l.rows).serverId = b.serverId :=
    congrArg Prod.fst (Store.Binding.name_inPlace l.rows b)
  rw [Store.putBinding]
  refine Table.put_hidden (by rw [server]; exact outside) fun c hc key => old c hc ?_
  rw [key, Store.key_inPlace]

theorem amend_part (b : Store.Binding) (d : Desired) (inside : R.servers b.serverId = true) :
    (Table.modify HeldBinding.key b.name (Act.amend b d) l.held).filter
        (fun h => R.servers h.serverId)
      = Table.modify HeldBinding.key b.name (Act.amend b d) (l.part R).held :=
  Table.modify_filter fun _ _ key => ⟨servers_of_name inside key, servers_of_name inside key⟩

theorem part_bind (within : l.Within R) {x : Store.Service} {q : String} (d : Desired)
    (time : Instant) (port : R.portId? = some q) (here : R.servers x.serverId = true) :
    ((Act.bind x q d time none).apply l).part R
      = (Act.bind x q d time none).apply (l.part R) := by
  have rows := putBinding_part within (b := l.newRow x q d time) port here
  have held : (l.create x d).held.filter (fun h => R.servers h.serverId)
      = ((l.part R).create x d).held := by
    rw [Ledger.create, List.filter_append,
      List.filter_cons_of_pos (p := fun h : HeldBinding => R.servers h.serverId) here]
    rfl
  rw [Act.apply, Act.apply, row?_part within port]
  cases l.row? q d.address with
  | none =>
      show Ledger.mk _ _ _ _ _ _ _ _ = Ledger.mk _ _ _ _ _ _ _ _
      congr 1
  | some b =>
      show Ledger.mk _ _ _ _ _ _ _ _ = Ledger.mk _ _ _ _ _ _ _ _
      congr 1
      show (Table.remove HeldBinding.key b.name (l.create x d).held).filter _ = _
      rw [Table.remove_filter, held]
      rfl

/-- A deed in the realm does to its part what it does to the whole. -/
theorem part_apply (within : l.Within R) (did : a.deed? = some d) (inside : d.In R)
    (granted : d.Granted R l) : (a.apply l).part R = a.apply (l.part R) := by
  have act := Act.of_deed? did
  -- whatever the deed changes passes the filter before and after it
  cases d with
  | serve n p config =>
      obtain ⟨time, rfl⟩ := act
      have here := granted Nat.one_pos
      simp [Ledger.part, Act.apply, List.filter_append, here]
  | readdress s ip =>
      cases act
      have servers : (Table.modify HeldServer.id s (Controller.State.readdressed ip)
          l.servers).filter (fun v => R.servers v.id)
          = Table.modify HeldServer.id s (Controller.State.readdressed ip) (l.part R).servers :=
        Table.modify_filter fun v _ id => ⟨id ▸ inside, id ▸ inside⟩
      rw [Act.apply, Ledger.part, servers]
      rfl
  | retire x =>
      cases act
      show Ledger.mk _ _ _ _ _ _ _ _ = Ledger.mk _ _ _ _ _ _ _ _
      congr 1 <;> exact Table.remove_filter _ _
  | bind x q d =>
      obtain ⟨time, rfl⟩ := act
      exact part_bind within d time inside.1 inside.2
  | move b d =>
      obtain ⟨time, rfl⟩ := act
      obtain ⟨port, here⟩ := inside
      show Ledger.mk _ _ _ _ _ _ _ _ = Ledger.mk _ _ _ _ _ _ _ _
      congr 1
      · refine Table.modify_filter fun c hc key => ?_
        have old := within.of_key port c hc key
        exact ⟨old, old⟩
      · exact amend_part b d here
  | clash b d =>
      obtain ⟨c, rfl⟩ := act
      show Ledger.mk _ _ _ _ _ _ _ _ = Ledger.mk _ _ _ _ _ _ _ _
      congr 1
      exact amend_part b d inside.2
  | release b =>
      cases act
      show Ledger.mk _ _ _ _ _ _ _ _ = Ledger.mk _ _ _ _ _ _ _ _
      congr 1 <;> exact Table.remove_filter _ _

/-! ## Deeds in another realm -/

/-- The ledger with other counts of what was made. -/
def Ledger.counting (l : Ledger) (serversMade bindingsMade : Nat) : Ledger :=
  { l with serversMade, bindingsMade }

section Apart

variable (apart : R.Apart S)

include apart

/-- A binding for a port of one realm is not seen in another one. -/
theorem part_bind_of_apart (within : l.Within S) {x : Store.Service} {q : String} (d : Desired)
    (time : Instant) (port : S.portId? = some q) (here : S.servers x.serverId = true) :
    ((Act.bind x q d time none).apply l).part R
      = (l.part R).counting ((Act.bind x q d time none).apply l).serversMade
        ((Act.bind x q d time none).apply l).bindingsMade := by
  -- a row in its place would be of the same port, and so of the other realm
  have keyed : ∀ c ∈ l.rows, c.key = (q, d.address) → R.servers c.serverId = false :=
    fun c hc key => apart.servers _ (within.of_key port c hc key)
  -- the new binding lies under a server of the other realm
  have outside := apart.servers _ here
  have rows := putBinding_hidden (b := l.newRow x q d time) outside keyed
  have held : (l.create x d).held.filter (fun h => R.servers h.serverId)
      = (l.part R).held := by
    rw [Ledger.create, List.filter_append,
      List.filter_cons_of_neg (p := fun h : HeldBinding => R.servers h.serverId)
        (by simpa using outside)]
    exact List.append_nil _
  rw [Act.apply]
  cases old : l.row? q d.address with
  | none =>
      show Ledger.mk _ _ _ _ _ _ _ _ = Ledger.mk _ _ _ _ _ _ _ _
      congr 1
  | some b =>
      obtain ⟨hb, key⟩ := Ledger.row?_mem old
      have there := within.of_key port b hb key
      show Ledger.mk _ _ _ _ _ _ _ _ = Ledger.mk _ _ _ _ _ _ _ _
      congr 1
      show (Table.remove HeldBinding.key b.name (l.create x d).held).filter _ = _
      refine (Table.remove_hidden fun h _ same => ?_).trans held
      exact apart.servers _ (servers_of_name there same)

/-- A deed in one realm changes nothing in another but the counts. -/
theorem part_apply_of_apart (linked : l.Linked) (within : l.Within S) (fits : a.Fits l)
    (did : a.deed? = some d) (inside : d.In S) (granted : d.Granted S l) :
    (a.apply l).part R
      = (l.part R).counting (a.apply l).serversMade (a.apply l).bindingsMade := by
  have act := Act.of_deed? did
  have named : ∀ {b : Store.Binding}, S.servers b.serverId = true → ∀ h ∈ l.held,
      h.key = b.name → R.servers h.serverId = false := fun inside h _ key =>
    apart.servers _ (servers_of_name inside key)
  have keyed : ∀ {q : String} {ip : IPv4}, S.portId? = some q → ∀ c ∈ l.rows,
      c.key = (q, ip) → R.servers c.serverId = false := fun port c hc key =>
    apart.servers _ (within.of_key port c hc key)
  -- whatever the deed changes is filtered out before and after it
  cases d with
  | serve n p config =>
      obtain ⟨time, rfl⟩ := act
      have outside := apart.servers _ (granted Nat.one_pos)
      simp [Ledger.part, Ledger.counting, Act.apply, List.filter_append, outside]
  | readdress s ip =>
      cases act
      have outside := apart.servers _ inside
      have servers : (Table.modify HeldServer.id s (Controller.State.readdressed ip)
          l.servers).filter (fun v => R.servers v.id) = (l.part R).servers :=
        Table.modify_hidden fun v _ id => ⟨id ▸ outside, id ▸ outside⟩
      rw [Act.apply, Ledger.part, servers]
      rfl
  | retire x =>
      cases act
      have outside := apart.servers _ inside.2
      show Ledger.mk _ _ _ _ _ _ _ _ = Ledger.mk _ _ _ _ _ _ _ _
      congr 1
      · refine Table.remove_hidden fun y hy network => ?_
        rw [linked.services_keyed.eq_of_key hy fits.1 network]
        exact outside
      · exact Table.remove_hidden fun b _ server => server ▸ outside
      · exact Table.remove_hidden fun v _ id => id ▸ outside
      · exact Table.remove_hidden fun h _ server => server ▸ outside
  | bind x q d =>
      obtain ⟨time, rfl⟩ := act
      exact part_bind_of_apart apart within d time inside.1 inside.2
  | move b d =>
      obtain ⟨time, rfl⟩ := act
      obtain ⟨port, here⟩ := inside
      show Ledger.mk _ _ _ _ _ _ _ _ = Ledger.mk _ _ _ _ _ _ _ _
      congr 1
      · exact Table.modify_hidden fun c hc key => ⟨keyed port c hc key, keyed port c hc key⟩
      · exact Table.modify_hidden fun h hh key => ⟨named here h hh key, named here h hh key⟩
  | clash b d =>
      obtain ⟨c, rfl⟩ := act
      show Ledger.mk _ _ _ _ _ _ _ _ = Ledger.mk _ _ _ _ _ _ _ _
      congr 1
      exact Table.modify_hidden fun h hh key => ⟨named inside.2 h hh key, named inside.2 h hh key⟩
  | release b =>
      cases act
      show Ledger.mk _ _ _ _ _ _ _ _ = Ledger.mk _ _ _ _ _ _ _ _
      congr 1
      · exact Table.remove_hidden (keyed inside.1)
      · exact Table.remove_hidden (named inside.2)

end Apart

/-! ## Ways -/

/-- From `l` to `l'` by these deeds, all of them in the realm. -/
inductive Way (R : Realm) : List Deed → Ledger → Ledger → Prop
  | nil (l : Ledger) : Way R [] l l
  | cons {l l' : Ledger} {a : Act} {d : Deed} {ds : List Deed} (fits : a.Fits l)
      (did : a.deed? = some d) (inside : d.In R) (granted : d.Granted R l)
      (rest : Way R ds (a.apply l) l') : Way R (d :: ds) l l'

/-- How many servers are made by these deeds. -/
def serverCount (ds : List Deed) : Nat := ds.foldr (fun d n => d.serves + n) 0

/-- How many bindings are made by these deeds. -/
def bindingCount (ds : List Deed) : Nat := ds.foldr (fun d n => d.binds + n) 0

theorem serverCount_cons (d : Deed) (ds : List Deed) :
    serverCount (d :: ds) = d.serves + serverCount ds := rfl

theorem bindingCount_cons (d : Deed) (ds : List Deed) :
    bindingCount (d :: ds) = d.binds + bindingCount ds := rfl

/-- A path is a way if its deeds are in the realm and the servers that it makes are, too. -/
theorem Path.way {l l' : Ledger} {acts : List Act} {ds : List Deed} (path : Path l acts l')
    (deeds : acts.map Act.deed? = ds.map some) (inside : ∀ d ∈ ds, d.In R)
    (granted : ∀ i < serverCount ds, R.servers (serverName (l.serversMade + i + 1)) = true) :
    Way R ds l l' := by
  -- the deeds are taken off with the acts, and servers are counted from where the path is
  induction path generalizing ds with
  | nil l =>
      cases ds with
      | nil => exact .nil l
      | cons d rest => exact nomatch deeds
  | cons fits path ih =>
      cases ds with
      | nil => exact nomatch deeds
      | cons d rest =>
          obtain ⟨did, later⟩ := List.cons.inj deeds
          have count := serverCount_cons d rest
          refine .cons fits did (inside d List.mem_cons_self) (fun one => granted 0 (by omega))
            (ih later (fun d hd => inside d (List.mem_cons_of_mem _ hd)) fun i hi => ?_)
          have here := granted (d.serves + i) (by omega)
          rwa [← Nat.add_assoc, ← (made_apply did).1] at here

namespace Way

variable {l' : Ledger} {ds : List Deed}

theorem linked (way : Way R ds l l') (h : l.Linked) : l'.Linked := by
  induction way with
  | nil l => exact h
  | cons fits _ _ _ _ ih => exact ih (h.apply fits)

theorem proper (way : Way R ds l l') (h : l.Proper) : l'.Proper := by
  induction way with
  | nil l => exact h
  | cons fits _ _ _ _ ih => exact ih (h.apply fits)

theorem made (way : Way R ds l l') : l'.serversMade = l.serversMade + serverCount ds ∧
    l'.bindingsMade = l.bindingsMade + bindingCount ds := by
  induction way with
  | nil l => exact ⟨rfl, rfl⟩
  | cons _ did _ _ _ ih =>
      obtain ⟨servers, bindings⟩ := made_apply did
      rw [ih.1, ih.2, servers, bindings, serverCount_cons, bindingCount_cons]
      exact ⟨Nat.add_assoc _ _ _, Nat.add_assoc _ _ _⟩

end Way

/-- What a deed adds to the ledger is in its realm, and so not in another one. -/
theorem Ledger.Within.apply {T : Realm} (within : l.Within T) (linked : l.Linked) (fits : a.Fits l)
    (did : a.deed? = some d) (inside : d.In R) (granted : d.Granted R l)
    (either : R = T ∨ T.Apart R) : (a.apply l).Within T := by
  have act := Act.of_deed? did
  constructor
  · intro x hx network
    -- only `serve` adds a service, and the deed is in `R`
    by_cases old : x ∈ l.services
    · exact within.services x old network
    · obtain ⟨n, p, config, rfl⟩ : ∃ n p config, d = .serve n p config := by
        cases d with
        | serve n p config => exact ⟨n, p, config, rfl⟩
        | readdress s ip => cases act; exact absurd hx old
        | retire y => cases act; exact absurd (Table.mem_remove.mp hx).1 old
        | bind y q d =>
            obtain ⟨time, rfl⟩ := act
            obtain ⟨held, eq, -⟩ := (l.create y d).supersede_eq (l.row? q d.address) none
            rw [Act.apply, eq] at hx
            exact absurd hx old
        | move b d => obtain ⟨time, rfl⟩ := act; exact absurd hx old
        | clash b d => obtain ⟨c, rfl⟩ := act; exact absurd hx old
        | release b => cases act; exact absurd hx old
      obtain ⟨time, rfl⟩ := act
      have new := (List.mem_append.mp hx).resolve_left old
      rw [List.mem_singleton.mp new] at network ⊢
      rcases either with rfl | apart
      · exact granted Nat.one_pos
      · exact absurd (network.symm.trans inside) apart.networks
  · intro b hb port
    rcases Act.row_cases linked fits hb with old | ⟨x, q, d', time, m, rfl, rfl⟩ |
      ⟨c, d', time, rfl, old, rfl⟩
    · exact within.rows b old port
    · cases m with
      | some e => cases did
      | none =>
          cases did
          have server : ((l.newRow x q d' time).inPlace l.rows).serverId = x.serverId :=
            congrArg Prod.fst (Store.Binding.name_inPlace l.rows (l.newRow x q d' time))
          have mine : ((l.newRow x q d' time).inPlace l.rows).portId = q :=
            congrArg Prod.fst (Store.key_inPlace l.rows (l.newRow x q d' time))
          rw [server]
          rcases either with rfl | apart
          · exact inside.2
          · exact absurd (inside.1.trans (congrArg some mine.symm)) (apart.ports _ port)
    · exact within.rows c old port

namespace Way

variable {l' : Ledger} {ds : List Deed}

theorem within {T : Realm} (way : Way R ds l l') (linked : l.Linked) (within : l.Within T)
    (either : R = T ∨ T.Apart R) : l'.Within T := by
  induction way with
  | nil l => exact within
  | cons fits did inside granted _ ih =>
      exact ih (linked.apply fits) (within.apply linked fits did inside granted either)

/-- A way in one realm changes nothing in another but the counts. -/
theorem part_of_apart {S : Realm} (apart : R.Apart S) (way : Way S ds l l') (linked : l.Linked)
    (within : l.Within S) :
    l'.part R = (l.part R).counting l'.serversMade l'.bindingsMade := by
  induction way with
  | nil l => rfl
  | cons fits did inside granted _ ih =>
      rw [ih (linked.apply fits) (within.apply linked fits did inside granted (Or.inl rfl)),
        part_apply_of_apart apart linked within fits did inside granted]
      rfl

end Way

/-! ## Views -/

theorem ofPort_part (within : l.Within R) {q : String} (port : R.portId? = some q) :
    Store.ofPort q (l.part R).rows = Store.ofPort q l.rows := by
  rw [Store.ofPort, Store.ofPort, Ledger.part, List.filter_filter]
  congr 1
  refine List.filter_congr fun b hb => ?_
  by_cases here : b.portId = q
  · simp [here, within.rows b hb (here ▸ port)]
  · simp [here]

/-- An event looks at nothing but what is in its realm. -/
theorem view_part (within : l.Within R) :
    (l.part R).view R.networkId R.portId? = l.view R.networkId R.portId? := by
  have service : Table.find? Store.Service.networkId R.networkId (l.part R).services
      = Table.find? Store.Service.networkId R.networkId l.services :=
    Table.find?_filter within.services
  have rows : (R.portId?.map fun q => Store.ofPort q (l.part R).rows)
      = R.portId?.map fun q => Store.ofPort q l.rows := by
    cases port : R.portId? with
    | none => rfl
    | some q => exact congrArg some (ofPort_part within port)
  rw [Ledger.view, Ledger.view, service, rows]
  rfl

/-- What is done in one realm is not seen from another. -/
theorem Way.view_of_apart {S : Realm} {l' : Ledger} {ds : List Deed} (apart : R.Apart S)
    (way : Way S ds l l') (linked : l.Linked) (mine : l.Within R) (within : l.Within S) :
    l'.view R.networkId R.portId? = l.view R.networkId R.portId? := by
  rw [← view_part (way.within linked mine (Or.inr apart)), way.part_of_apart apart linked within,
    ← view_part mine]
  rfl

/-- The rows of a port stay under the server of its network whatever is done in another realm. -/
theorem Way.lodged_of_apart {S : Realm} {l' : Ledger} {ds : List Deed} (apart : R.Apart S)
    (way : Way S ds l l') (linked : l.Linked) (mine : l.Within R) (within : l.Within S)
    (lodged : ∀ q ∈ R.portId?, l.Lodged R.networkId q) :
    ∀ q ∈ R.portId?, l'.Lodged R.networkId q := by
  have part := way.part_of_apart apart linked within
  have rows : (l'.part R).rows = (l.part R).rows := by rw [part]; rfl
  have services : (l'.part R).services = (l.part R).services := by rw [part]; rfl
  have mine' := way.within linked mine (Or.inr apart)
  intro q port b hb here
  have inside : b ∈ (l'.part R).rows :=
    List.mem_filter.mpr ⟨hb, mine'.rows b hb (port.trans (congrArg some here.symm))⟩
  rw [rows] at inside
  obtain ⟨x, hx, network, server⟩ := lodged q port b (List.mem_filter.mp inside).1 here
  have there : x ∈ (l.part R).services := List.mem_filter.mpr ⟨hx, mine.services x hx network⟩
  rw [← services] at there
  exact ⟨x, (List.mem_filter.mp there).1, network, server⟩

/-- What an event does is in its realm. -/
theorem Deed.Of.inside (within : l.Within R)
    (h : d.Of R.networkId R.portId? (l.view R.networkId R.portId?)) : d.In R := by
  have service : ∀ {x}, (l.view R.networkId R.portId?).service = some x →
      x.networkId = R.networkId ∧ R.servers x.serverId = true := fun found =>
    have there := Table.mem_of_find? found
    ⟨there.2, within.services _ there.1 there.2⟩
  have row : ∀ {b}, b ∈ (l.view R.networkId R.portId?).rows →
      R.portId? = some b.portId ∧ R.servers b.serverId = true := by
    intro b hb
    rw [Ledger.view] at hb
    cases port : R.portId? with
    | none => rw [port] at hb; cases hb
    | some q =>
        rw [port] at hb
        obtain ⟨there, rfl⟩ := Store.mem_ofPort.mp hb
        exact ⟨rfl, within.rows b there port⟩
  cases d with
  | serve n p config => exact h
  | readdress s ip => obtain ⟨x, found, rfl⟩ := h; exact (service found).2
  | retire x => exact service h
  | bind x q d => exact ⟨h.2, (service h.1).2⟩
  | move b d => exact row h
  | clash b d => exact row h
  | release b => exact row h

end Overlay.Dhcp
