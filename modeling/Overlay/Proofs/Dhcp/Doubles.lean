import Overlay.Proofs.Dhcp.Agreement
import Overlay.Proofs.Dhcp.Strays

/-!
# One binding for an address

Where ports stay on their networks, addresses stay with their ports, different networks have
different switches, and only requests fail (`Delivery.Regular`), there are two ways to a second
binding for an address of a server, and each comes to it at once.

* An address is bound anew and the binding that its row named before cannot be let go. Then the new
  binding is left behind without a row (`Act.leak`), beside the old one for the same address, and no
  later event removes it but the end of the server. An event has left a binding behind if it has
  made one and has lost the removal of one: where things could not be let go first, nothing is made
  (`Orderly`), so the removal that was lost can only be the one between the new binding and its row.
* A binding is given an address that another row of its port still has. Then its own row cannot
  follow (`Act.clash`) and the two no longer agree. No call needs to fail for this, but the port has
  to list an address under another subnet than before.

Two networks behind one switch are a further way, without a call that fails: a pass binds what is
behind a switch under one server, and the two networks may have an address in common.

Main statement: `one_binding_iff_let_go_and_agreed`.
-/

namespace Overlay.Dhcp

open Overlay.Controller (HeldServer HeldBinding)

/-! ## Who has which address -/

/-- Which network a port is on, and which port of a network has an address. -/
structure Allocation where
  network : String → String
  port : String → IPv4 → String

/-- The port is on its network and has only addresses of its own. -/
structure Allocation.Covers (al : Allocation) (p : Port) : Prop where
  network : p.networkId = al.network p.id
  port : ∀ f ∈ p.ipv4s, al.port p.networkId f.2 = p.id

variable {al : Allocation} {l : Ledger} {ports : List Port} {switch? : String → Option String}

/-- An address that is bound belongs to the port on the network of the server. -/
theorem Act.Sourced.placed {a : Act} (sourced : a.Sourced ports switch?)
    (covers : ∀ p ∈ ports, al.Covers p)
    (separate : ∀ m n s, switch? m = some s → switch? n = some s → m = n) {x : Store.Service}
    {portId : String} {d : Desired} (aim : a.aim? = some (x, portId, d)) :
    x.networkId = al.network portId ∧ al.port (al.network portId) d.address = portId := by
  have given : ∃ p ∈ ports, p.id = portId ∧ d.Of p ∧ (x.networkId = p.networkId ∨
      ∃ s, switch? x.networkId = some s ∧ switch? p.networkId = some s) := by
    cases a <;> cases aim <;> exact sourced
  obtain ⟨p, hp, rfl, own, server⟩ := given
  have network : x.networkId = p.networkId := by
    rcases server with same | ⟨s, here, there⟩
    · exact same
    · exact separate _ _ s here there
  rw [network, ← (covers p hp).network]
  exact ⟨rfl, (covers p hp).port _ own.1⟩

/-! ## The invariant -/

/-- The server of a row is that of its port's network, and the row's address is the port's. -/
def Ledger.Placed (al : Allocation) (l : Ledger) : Prop :=
  ∀ b ∈ l.rows, al.port (al.network b.portId) b.address = b.portId ∧
    ∃ x ∈ l.services, x.serverId = b.serverId ∧ x.networkId = al.network b.portId

/-- The rows are those of the ports that have their addresses. -/
structure Ledger.Tidy (al : Allocation) (l : Ledger) : Prop where
  proper : l.Proper
  placed : l.Placed al

/-- A service goes only with all rows under its server. -/
theorem Act.service_stays (linked : l.Linked) {a : Act} (fits : a.Fits l) {b : Store.Binding}
    (hb : b ∈ (a.apply l).rows) {x : Store.Service} (hx : x ∈ l.services)
    (same : x.serverId = b.serverId) : x ∈ (a.apply l).services := by
  cases a with
  | serve networkId portId config time => exact List.mem_append_left _ hx
  | retire y m =>
      obtain ⟨-, outside⟩ := Table.mem_remove.mp hb
      refine Table.mem_remove.mpr ⟨hx, fun network => outside ?_⟩
      rw [← same, linked.services_keyed.eq_of_key hx fits.1 network]
  | bind y portId d time m =>
      obtain ⟨held, eq, -⟩ := (l.create y d).supersede_eq (l.row? portId d.address) m
      rw [Act.apply, eq]
      exact hx
  | release c m => cases m <;> exact hx
  | readdress _ _ => exact hx
  | leak _ _ _ _ => exact hx
  | move _ _ _ => exact hx
  | clash _ _ _ => exact hx
  | stay _ _ => exact hx

/-- An act with a source keeps the rows of a port under its network's server. -/
theorem Ledger.Placed.apply (placed : l.Placed al) (linked : l.Linked) {a : Act} (fits : a.Fits l)
    (sourced : a.Sourced ports switch?) (covers : ∀ p ∈ ports, al.Covers p)
    (separate : ∀ m n s, switch? m = some s → switch? n = some s → m = n) :
    (a.apply l).Placed al := by
  intro b hb
  rcases Act.row_cases linked fits hb with old | ⟨x, portId, d, time, m, rfl, rfl⟩ |
    ⟨c, d, time, rfl, hc, rfl⟩
  · obtain ⟨port, x, hx, server, network⟩ := placed b old
    exact ⟨port, x, Act.service_stays linked fits hb hx server, server, network⟩
  · obtain ⟨network, port⟩ := sourced.placed covers separate rfl
    have stays := fun same => Act.service_stays linked fits hb fits.1 same
    have here : ∀ r : Store.Binding, r.portId = portId → r.address = d.address →
        r.serverId = x.serverId → al.port (al.network r.portId) r.address = r.portId ∧
          x.serverId = r.serverId ∧ x.networkId = al.network r.portId := by
      rintro r rfl address server
      rw [address]
      exact ⟨port, server.symm, network⟩
    have key := Store.key_inPlace l.rows (l.newRow x portId d time)
    have name := Store.Binding.name_inPlace l.rows (l.newRow x portId d time)
    obtain ⟨port, server, network⟩ :=
      here _ (congrArg Prod.fst key) (congrArg Prod.snd key) (congrArg Prod.fst name)
    exact ⟨port, x, stays server, server, network⟩
  · obtain ⟨-, x, hx, server, network⟩ := placed c hc
    obtain ⟨p, hp, id, own⟩ := sourced
    have given := (covers p hp).port _ own.1
    rw [(covers p hp).network, id] at given
    exact ⟨given, x, Act.service_stays linked fits hb hx server, server, network⟩

/-- An act with a source leaves the ledger tidy. -/
theorem Ledger.Tidy.apply (tidy : l.Tidy al) {a : Act} (fits : a.Fits l)
    (sourced : a.Sourced ports switch?) (covers : ∀ p ∈ ports, al.Covers p)
    (separate : ∀ m n s, switch? m = some s → switch? n = some s → m = n) :
    (a.apply l).Tidy al where
  proper := tidy.proper.apply fits
  placed := tidy.placed.apply tidy.proper fits sourced covers separate

/-- A ledger stays tidy along a path. -/
theorem Path.tidy {l' : Ledger} {acts : List Act} (path : Path l acts l') (tidy : l.Tidy al)
    (sourced : ∀ a ∈ acts, a.Sourced ports switch?) (covers : ∀ p ∈ ports, al.Covers p)
    (separate : ∀ m n s, switch? m = some s → switch? n = some s → m = n) : l'.Tidy al :=
  path.keeps tidy fun a ha _ fits tidy => tidy.apply fits (sourced a ha) covers separate

/-- The server of a port's network is that of its rows. -/
theorem Ledger.Tidy.server_eq (tidy : l.Tidy al) {x : Store.Service} (hx : x ∈ l.services)
    {b : Store.Binding} (hb : b ∈ l.rows) (network : x.networkId = al.network b.portId) :
    b.serverId = x.serverId := by
  obtain ⟨-, y, hy, server, same⟩ := tidy.placed b hb
  rw [← server, tidy.proper.services_keyed.eq_of_key hy hx (same.trans network.symm)]

/-- All rows of a port are under one server. -/
theorem Ledger.Tidy.same_server (tidy : l.Tidy al) {b c : Store.Binding} (hb : b ∈ l.rows)
    (hc : c ∈ l.rows) (port : c.portId = b.portId) : c.serverId = b.serverId := by
  obtain ⟨-, x, hx, server, network⟩ := tidy.placed b hb
  rw [← server]
  refine tidy.server_eq hx hc ?_
  rw [port]
  exact network

/-! ## Doubled addresses -/

/-- At most one binding is held for an address of a server. -/
def OnePerAddress (held : List HeldBinding) : Prop :=
  (held.map fun h => (h.serverId, h.address)).Nodup

instance (held : List HeldBinding) : Decidable (OnePerAddress held) :=
  inferInstanceAs (Decidable (List.Nodup _))

/-- A binding was left behind beside the one that a row names. -/
def Ledger.Doubled (l : Ledger) : Prop :=
  ∃ h, l.Stray h ∧ ∃ b ∈ l.rows, b.serverId = h.serverId ∧ b.address = h.address

/-- A doubled ledger has an address twice. -/
theorem Ledger.Doubled.not_one (doubled : l.Doubled) (agreed : l.Agreed) :
    ¬ OnePerAddress l.held := by
  intro one
  obtain ⟨h, ⟨hh, unnamed⟩, b, hb, server, address⟩ := doubled
  have same : h = heldFor b :=
    Table.Keyed.eq_of_key one hh (agreed b hb) (Prod.ext server.symm address.symm)
  exact unnamed b hb (congrArg HeldBinding.key same).symm

/-- Where every binding has a row that says its address, none is doubled. -/
theorem Ledger.Tidy.one_of_named (tidy : l.Tidy al) (agreed : l.Agreed)
    (named : ∀ h, ¬ l.Stray h) : OnePerAddress l.held := by
  have row : ∀ h ∈ l.held, ∃ b ∈ l.rows, h = heldFor b := by
    intro h hh
    obtain ⟨b, hb, name⟩ : ∃ b ∈ l.rows, b.name = h.key := Classical.byContradiction fun none =>
      named h ⟨hh, fun b hb same => none ⟨b, hb, same⟩⟩
    exact ⟨b, hb, tidy.proper.held_keys.eq_of_key hh (agreed b hb) name.symm⟩
  refine Table.Keyed.of_key tidy.proper.held_keyed fun h hh g hg same => ?_
  obtain ⟨b, hb, rfl⟩ := row h hh
  obtain ⟨c, hc, rfl⟩ := row g hg
  have server : b.serverId = c.serverId := congrArg Prod.fst same
  have address : b.address = c.address := congrArg Prod.snd same
  obtain ⟨port, x, hx, owner, network⟩ := tidy.placed b hb
  obtain ⟨port', y, hy, owner', network'⟩ := tidy.placed c hc
  have one : x = y := tidy.proper.owners_keyed.eq_of_key hx hy (by rw [owner, owner', server])
  have ports : b.portId = c.portId := by rw [← port, ← port', ← network, ← network', one, address]
  rw [tidy.proper.rows_keyed.eq_of_key hb hc (Prod.ext ports address)]

/-- What is doubled stays doubled as long as things are only made. -/
theorem Ledger.Doubled.apply (doubled : l.Doubled) (tidy : l.Tidy al) {a : Act} (fits : a.Fits l)
    (builds : a.Builds) (sourced : a.Sourced ports switch?) (covers : ∀ p ∈ ports, al.Covers p)
    (separate : ∀ m n s, switch? m = some s → switch? n = some s → m = n) :
    (a.apply l).Doubled := by
  obtain ⟨h, stray, b, hb, server, address⟩ := doubled
  refine ⟨h, stray.apply tidy.proper builds, ?_⟩
  cases a with
  | serve networkId portId config time => exact ⟨b, hb, server, address⟩
  | readdress serverId ip => exact ⟨b, hb, server, address⟩
  | leak x portId d e => exact ⟨b, hb, server, address⟩
  | bind x portId d time m =>
      have rows : ∀ c, c ∈ ((Act.bind x portId d time m).apply l).rows ↔
          c = (l.newRow x portId d time).inPlace l.rows ∨
            (c ∈ l.rows ∧ c.key ≠ ((l.newRow x portId d time).inPlace l.rows).key) :=
        fun c => Table.mem_put tidy.proper.rows_keyed
      have key := Store.key_inPlace l.rows (l.newRow x portId d time)
      by_cases same : b.key = (portId, d.address)
      · -- the new row takes the place of the old one, on the same server
        refine ⟨_, (rows _).mpr (Or.inl rfl), ?_, ?_⟩
        · obtain ⟨network, -⟩ := sourced.placed covers separate rfl
          rw [← show b.portId = portId from congrArg Prod.fst same] at network
          rw [← server, tidy.server_eq fits.1 hb network]
          exact congrArg Prod.fst (Store.Binding.name_inPlace l.rows (l.newRow x portId d time))
        · rw [← address, show b.address = d.address from congrArg Prod.snd same]
          exact congrArg Prod.snd key
      · refine ⟨b, (rows b).mpr (Or.inr ⟨hb, ?_⟩), server, address⟩
        rw [key]
        exact same
  | retire _ _ => exact builds.elim
  | move _ _ _ => exact builds.elim
  | clash _ _ _ => exact builds.elim
  | release _ _ => exact builds.elim
  | stay _ _ => exact builds.elim

/-- A binding that is left behind is doubled. -/
theorem Ledger.Tidy.doubled (tidy : l.Tidy al) {x : Store.Service} {portId : String} {d : Desired}
    {e : Controller.Error} (fits : (Act.leak x portId d e).Fits l)
    (sourced : (Act.leak x portId d e).Sourced ports switch?) (covers : ∀ p ∈ ports, al.Covers p)
    (separate : ∀ m n s, switch? m = some s → switch? n = some s → m = n) :
    ((Act.leak x portId d e).apply l).Doubled := by
  obtain ⟨hx, ⟨b, hb, key⟩, -⟩ := fits
  obtain ⟨network, -⟩ := sourced.placed covers separate rfl
  rw [← show b.portId = portId from congrArg Prod.fst key] at network
  refine ⟨⟨Controller.State.bindingName (l.bindingsMade + 1), x.serverId, d.macAddress, d.address,
    hostName d.address⟩, ⟨List.mem_append_right _ (List.mem_singleton_self _), ?_⟩, b, hb,
    tidy.server_eq hx hb network, congrArg Prod.snd key⟩
  exact fun c hc same => tidy.proper.name_ne hc x same.symm

/-- A binding whose row cannot follow comes to the address of another one. -/
theorem Ledger.Tidy.clash_doubles (tidy : l.Tidy al) (agreed : l.Agreed) {b c : Store.Binding}
    {d : Desired} (fits : (Act.clash b c d).Fits l) :
    ¬ OnePerAddress ((Act.clash b c d).apply l).held := by
  obtain ⟨hb, hc, key, other⟩ := fits
  have mem : ∀ h, h ∈ ((Act.clash b c d).apply l).held ↔
      h = Act.amend b d (heldFor b) ∨ (h ∈ l.held ∧ h.key ≠ b.name) := fun h =>
    Table.mem_modify tidy.proper.held_keys (agreed b hb) _
  have apart : c.name ≠ b.name := fun same => other (tidy.proper.eq_of_name hc hb same)
  have moved := amend_heldFor b d b.updatedAt
  have server : c.serverId = b.serverId := tidy.same_server hb hc (congrArg Prod.fst key)
  have address : c.address = d.address := congrArg Prod.snd key
  intro one
  have same : Act.amend b d (heldFor b) = heldFor c := by
    refine Table.Keyed.eq_of_key one ((mem _).mpr (Or.inl rfl))
      ((mem _).mpr (Or.inr ⟨agreed c hc, apart⟩)) ?_
    rw [moved]
    exact Prod.ext server.symm address.symm
  exact apart (congrArg HeldBinding.key (moved.symm.trans same)).symm

/-! ## What an event leaves behind -/

/-- Every binding that is made is counted. -/
theorem Path.made_eq {l' : Ledger} {acts : List Act} (path : Path l acts l') :
    l'.bindingsMade = l.bindingsMade + (acts.filterMap Act.aim?).length := by
  induction path with
  | nil l => rfl
  | @cons l l' a acts fits rest ih =>
      rw [ih]
      cases a with
      | bind x portId d time m =>
          obtain ⟨held, eq, -⟩ := (l.create x d).supersede_eq (l.row? portId d.address) m
          rw [Act.apply, eq]
          show l.bindingsMade + 1 + _ = l.bindingsMade + (_ + 1)
          omega
      | leak x portId d e =>
          show l.bindingsMade + 1 + _ = l.bindingsMade + (_ + 1)
          omega
      | release b m => cases m <;> rfl
      | serve _ _ _ _ => rfl
      | readdress _ _ => rfl
      | retire _ _ => rfl
      | move _ _ _ => rfl
      | clash _ _ _ => rfl
      | stay _ _ => rfl

theorem Path.split {l l'' : Ledger} {front back : List Act} {a : Act}
    (path : Path l (front ++ a :: back) l'') :
    ∃ l', Path l front l' ∧ a.Fits l' ∧ Path (a.apply l') back l'' := by
  obtain ⟨l', first, last⟩ := path.of_append
  cases last with
  | cons fits rest => exact ⟨l', first, fits, rest⟩

namespace Delivery

/-- The event has made a binding. -/
def MakesBinding (d : Delivery) : Prop :=
  d.world.controller.made.bindings < d.after.controller.made.bindings

/-- The event has lost the removal of a binding. -/
def LosesRemoval (d : Delivery) : Prop := ∃ e, d.world.Lost d.after .deleteBinding e

/-- The event tells only of ports as they are allocated and finds no others in the catalog,
different networks have different switches, and no call is lost but as a request. -/
structure Regular (al : Allocation) (d : Delivery) : Prop where
  covers : ∀ p ∈ d.ports, al.Covers p
  separate : ∀ m n s, d.world.switch? m = some s → d.world.switch? n = some s → m = n
  requests : ∀ op e, d.world.Lost d.after op e → e.kind = .request

variable {d : Delivery} {l' : Ledger} {acts : List Act}

/-- Only binding an address anew, and only giving up on a row, is told of by a fault. -/
theorem Regular.fault_cases (regular : d.Regular al) (leads : d.Leads l acts l') {a : Act}
    (ha : a ∈ acts) :
    a.fault? = none ∨ (∃ b e, a = .stay b e) ∨ ∃ x portId d e, a = .leak x portId d e := by
  obtain ⟨m, fits⟩ := leads.path.fits a ha
  have request : ∀ op e, a.fault? = some (op, e) → op = .deleteBinding ∨ op = .deleteServer →
      e.kind ≠ .notFound := by
    rintro op e hit (rfl | rfl) missing
    · have lost := regular.requests _ e ((leads.accounts.bindings e).mpr ⟨a, ha, hit⟩)
      exact nomatch lost.symm.trans missing
    · have lost := regular.requests _ e (leads.accounts.servers a ha e hit)
      exact nomatch lost.symm.trans missing
  cases a with
  | retire x missing =>
      cases missing with
      | none => exact Or.inl rfl
      | some e => exact absurd (fits.2.1 e rfl) (request _ e rfl (Or.inr rfl))
  | bind x portId d time missing =>
      cases missing with
      | none => exact Or.inl rfl
      | some e => exact absurd (fits.2 e rfl) (request _ e rfl (Or.inl rfl))
  | release b missing =>
      cases missing with
      | none => exact Or.inl rfl
      | some e => exact absurd (fits.2 e rfl) (request _ e rfl (Or.inl rfl))
  | leak x portId d e => exact Or.inr (Or.inr ⟨x, portId, d, e, rfl⟩)
  | stay b e => exact Or.inr (Or.inl ⟨b, e, rfl⟩)
  | serve _ _ _ _ => exact Or.inl rfl
  | readdress _ _ => exact Or.inl rfl
  | move _ _ _ => exact Or.inl rfl
  | clash _ _ _ => exact Or.inl rfl

/-- An event has made a binding exactly if one of its acts aims at an address. -/
theorem Leads.makesBinding_iff (leads : d.Leads l acts l') :
    d.MakesBinding ↔ ∃ a ∈ acts, ∃ b, a.aim? = some b := by
  rw [MakesBinding, leads.before.controller.bindings_made, leads.after.controller.bindings_made,
    leads.path.made_eq]
  constructor
  · intro more
    have some : 0 < (acts.filterMap Act.aim?).length := by omega
    obtain ⟨b, hb⟩ := List.exists_mem_of_length_pos some
    obtain ⟨a, ha, aim⟩ := List.mem_filterMap.mp hb
    exact ⟨a, ha, b, aim⟩
  · rintro ⟨a, ha, b, aim⟩
    have some := List.length_pos_of_mem (List.mem_filterMap.mpr ⟨a, ha, aim⟩)
    omega

/-- A binding is left behind if and only if the event has made one and has lost the removal of
one. -/
theorem Regular.leaks_iff (regular : d.Regular al) (leads : d.Leads l acts l') :
    d.MakesBinding ∧ d.LosesRemoval ↔ ∃ x portId d e, .leak x portId d e ∈ acts := by
  rw [leads.makesBinding_iff]
  constructor
  · rintro ⟨⟨made, hmade, b, aim⟩, e, lost⟩
    obtain ⟨a, ha, hit⟩ := (leads.accounts.bindings e).mp lost
    rcases regular.fault_cases leads ha with none | ⟨c, e', rfl⟩ | ⟨x, portId, d', e', rfl⟩
    · exact nomatch hit.symm.trans none
    -- where a row was given up on, nothing is made
    · exact absurd trivial (leads.changed.orderly.not_stops ha hmade (.of_aim aim))
    · exact ⟨x, portId, d', e', ha⟩
  · rintro ⟨x, portId, d', e, ha⟩
    exact ⟨⟨_, ha, _, rfl⟩, e, (leads.accounts.bindings e).mpr ⟨_, ha, rfl⟩⟩

/-- A regular event leaves the ledger tidy. -/
theorem Regular.tidy (regular : d.Regular al) (tidy : l.Tidy al) (leads : d.Leads l acts l') :
    l'.Tidy al :=
  leads.path.tidy tidy (leads.before.switch?_eq ▸ leads.changed.sourced) regular.covers
    regular.separate

/-- What is left behind is doubled at the end of the event: nothing goes any more. -/
theorem Regular.doubled (regular : d.Regular al) (tidy : l.Tidy al) (agreed : l.Agreed)
    (leads : d.Leads l acts l') (leaks : ∃ x portId d e, .leak x portId d e ∈ acts) :
    ¬ OnePerAddress l'.held := by
  obtain ⟨x, portId, d', e, ha⟩ := leaks
  have orderly := leads.changed.orderly
  have free : ∀ a ∈ acts, ∀ b c f, a ≠ .clash b c f := by
    rintro a clash b c f rfl
    exact orderly.not_stops clash ha trivial trivial
  have after := leads.path.agreed_of_free tidy.proper free agreed
  have sourced := leads.before.switch?_eq ▸ leads.changed.sourced
  have covers := regular.covers
  obtain ⟨front, back, rfl, -, makes⟩ := orderly.split ha
  obtain ⟨l1, first, fits, rest⟩ := leads.path.split
  obtain ⟨sourced1, sourced⟩ := List.forall_mem_append.mp sourced
  obtain ⟨here, sourced2⟩ := List.forall_mem_cons.mp sourced
  have tidy1 := first.tidy tidy sourced1 covers regular.separate
  have kept : l'.Tidy al ∧ l'.Doubled := by
    refine rest.keeps (P := fun l => l.Tidy al ∧ l.Doubled)
      ⟨tidy1.apply fits here covers regular.separate,
        tidy1.doubled fits here covers regular.separate⟩ ?_
    rintro a ha m fits ⟨tidy, doubled⟩
    exact ⟨tidy.apply fits (sourced2 a ha) covers regular.separate,
      doubled.apply tidy fits ((makes a ha).2 trivial) (sourced2 a ha) covers regular.separate⟩
  exact kept.2.not_one after

/-- Where nothing is doubled, all rows could follow: the handler would have stopped at the first one
that cannot. -/
theorem Regular.agreed (regular : d.Regular al) (tidy : l.Tidy al) (agreed : l.Agreed)
    (leads : d.Leads l acts l') (one : OnePerAddress l'.held) : l'.Agreed := by
  by_cases clash : ∃ b c e, .clash b c e ∈ acts
  · obtain ⟨b, c, e, ha⟩ := clash
    have sourced := leads.before.switch?_eq ▸ leads.changed.sourced
    obtain ⟨front, back, rfl, before, after⟩ := leads.changed.orderly.split ha
    obtain ⟨l1, first, fits, rest⟩ := leads.path.split
    have tidy1 := first.tidy tidy (List.forall_mem_append.mp sourced).1 regular.covers
      regular.separate
    have free : ∀ a ∈ front, ∀ b c e, a ≠ .clash b c e := by
      rintro a ha b c e rfl
      exact (before _ ha).1 trivial
    have agreed1 := first.agreed_of_free tidy.proper free agreed
    cases back with
    | nil =>
        cases rest
        exact absurd one (tidy1.clash_doubles agreed1 fits)
    | cons a more => exact absurd trivial (after a List.mem_cons_self).1
  · refine leads.path.agreed_of_free tidy.proper ?_ agreed
    rintro a ha b c e rfl
    exact clash ⟨b, c, e, ha⟩

/-- Where no binding is left behind, everything stays named. -/
theorem Regular.named (regular : d.Regular al) (linked : l.Linked) (leads : d.Leads l acts l')
    (none : ¬ ∃ x portId d e, .leak x portId d e ∈ acts) (named : ∀ h, ¬ l.Stray h) :
    ∀ h, ¬ l'.Stray h := by
  have kept : l'.Linked ∧ ∀ h, ¬ l'.Stray h := by
    refine leads.path.keeps (P := fun l => l.Linked ∧ ∀ h, ¬ l.Stray h) ⟨linked, named⟩ ?_
    rintro a ha l fits ⟨linked, named⟩
    refine ⟨linked.apply fits, fun h stray => named h ?_⟩
    rcases regular.fault_cases leads ha with clean | ⟨b, e, rfl⟩ | ⟨x, portId, d', e, rfl⟩
    · exact stray.of_apply linked fits clean
    · exact stray
    · exact absurd ⟨x, portId, d', e, ha⟩ none
  exact kept.2

end Delivery

/-! ## All runs -/

/-- Without rows the ledger is tidy. -/
theorem Ledger.tidy_empty (al : Allocation) : Ledger.empty.Tidy al where
  proper := Ledger.proper_empty
  placed _ hb := nomatch hb

/-- A change of mappings leaves the ledger tidy. -/
theorem Ledger.Tidy.mapped (tidy : l.Tidy al) (networks : Option (List Store.NetworkMapping))
    (ports : Option (List Store.PortMapping)) : (l.mapped networks ports).Tidy al :=
  { tidy with proper := tidy.proper.mapped networks ports }

/-- Where no event doubles an address, rows and bindings agree. -/
theorem Run.agreed {ds : List Delivery} {w : World}
    (run : Run (fun d => d.Regular al ∧ OnePerAddress d.after.controller.bindings) ds w) :
    ∃ l, w.Shows l ∧ l.Tidy al ∧ l.Agreed := by
  obtain ⟨l, shows, -, here⟩ := run.invariant (P := fun l => l.Tidy al ∧ l.Agreed)
    ⟨Ledger.tidy_empty al, fun b hb => nomatch hb⟩
    (fun l networks ports here => ⟨here.1.mapped networks ports, here.2⟩)
    fun d l acts l' fits _ here leads =>
      ⟨fits.1.tidy here.1 leads,
        fits.1.agreed here.1 here.2 leads (leads.after.controller.bindings_eq ▸ fits.2)⟩
  exact ⟨l, shows, here⟩

/-- Where no event leaves a binding behind, every binding is named. -/
theorem Run.named {ds : List Delivery} {w : World}
    (run : Run (fun d => d.Regular al ∧ ¬ (d.MakesBinding ∧ d.LosesRemoval)) ds w) :
    ∃ l, w.Shows l ∧ l.Tidy al ∧ ∀ h, ¬ l.Stray h := by
  obtain ⟨l, shows, -, here⟩ := run.invariant (P := fun l => l.Tidy al ∧ ∀ h, ¬ l.Stray h)
    ⟨Ledger.tidy_empty al, fun h stray => nomatch stray.1⟩
    (fun l networks ports here => ⟨here.1.mapped networks ports, here.2⟩)
    fun d l acts l' regular linked here leads =>
      ⟨regular.1.tidy here.1 leads,
        regular.1.named linked leads (mt (regular.1.leaks_iff leads).mpr regular.2) here.2⟩
  exact ⟨l, shows, here⟩

/-- After every event of a run there is at most one binding for an address of a server if and only
if no event has both made a binding and lost the removal of one, and after every event rows and
bindings agree. -/
theorem one_binding_iff_let_go_and_agreed {ds : List Delivery} {w : World}
    (run : Run (Delivery.Regular al) ds w) :
    (∀ d ∈ ds, OnePerAddress d.after.controller.bindings) ↔
      ∀ d ∈ ds, ¬ (d.MakesBinding ∧ d.LosesRemoval) ∧
        ∃ services rows, Agrees d.after services rows := by
  constructor
  -- the first event of either kind comes upon rows and bindings that agree
  · intro one d hd
    obtain ⟨before, run', timely, ⟨regular, here⟩, -⟩ := (run.narrow one).split hd
    obtain ⟨l, shows, tidy, agreed⟩ := run'.agreed
    obtain ⟨acts, l', leads⟩ := d.leads timely shows tidy.proper
    rw [leads.after.controller.bindings_eq] at here
    refine ⟨fun left => ?_, l'.services, l'.rows, ?_⟩
    · exact regular.doubled tidy agreed leads ((regular.leaks_iff leads).mp left) here
    · exact (regular.agreed tidy agreed leads here).agrees (regular.tidy tidy leads).proper
        leads.after
  · intro none d hd
    obtain ⟨before, run', timely, fits, -⟩ :=
      (run.narrow fun d hd => (none d hd).1).split hd
    obtain ⟨l, shows, tidy, named⟩ := (Run.event d run' timely fits).named
    obtain ⟨-, services, rows, agrees⟩ := none d hd
    rw [shows.controller.bindings_eq]
    exact tidy.one_of_named (agrees.agreed shows) named

/-! ## Runs that double an address -/

namespace Sample

/-- The addresses of the two ports. -/
def allocation : Allocation where
  network _ := "net"
  port _ ip := if ip = ⟨10, 0, 0, 2⟩ then "dhcp-port" else "instance-port"

/-- Both ports have their addresses. -/
theorem covers : allocation.Covers dhcpPort ∧ allocation.Covers instancePort :=
  ⟨⟨rfl, by decide⟩, ⟨rfl, by decide⟩⟩

/-- Both events are regular. -/
theorem regular : served.Regular allocation ∧ bound.Regular allocation := by
  obtain ⟨first, second⟩ := ports covers.1 covers.2
  constructor
  · refine ⟨first, separate rfl, fun op e lost => ?_⟩
    exact absurd lost (calm.not_lost op e)
  · refine ⟨second, separate (by decide +kernel), fun op e lost => ?_⟩
    exact absurd lost ((calm.follows follows_served).not_lost op e)

/-- The instance's port comes once more, while no binding can be removed. -/
def again : Delivery where
  settings := settings
  event := .portCreated instancePort
  world := { bound.after with
    callFaults := Faults.none.set .deleteBinding (.window ⟨.request, "unavailable"⟩ 0 none) }

/-- To deliver the second event again is regular, though a removal is lost. -/
theorem regular_again : again.Regular allocation := by
  have catalog : again.world.catalog = bound.world.catalog := (Handler.follows_runIn _ _).catalog
  refine ⟨?_, separate (by decide +kernel), ?_⟩
  · show ∀ p ∈ [instancePort] ++ again.world.catalog.ports, allocation.Covers p
    rw [catalog]
    exact (ports covers.1 covers.2).2
  · rintro op e ⟨n, -, -, fails⟩
    have fails : (if op = .deleteBinding then FaultPattern.window ⟨.request, "unavailable"⟩ 0 none
      else .none : FaultPattern Controller.Error).failing n = some e := fails
    by_cases here : op = .deleteBinding
    · rw [if_pos here] at fails
      cases fails
      rfl
    · rw [if_neg here] at fails
      exact nomatch fails

end Sample

/-- In the first run every address is bound once, so nothing is left behind and rows agree. -/
theorem first_address_bound_once :
    OnePerAddress Sample.bound.after.controller.bindings ∧ Sample.bound.MakesBinding ∧
      ¬ Sample.bound.LosesRemoval ∧ ∃ services rows, Agrees Sample.bound.after services rows := by
  have once : ∀ d ∈ [Sample.served, Sample.bound],
      OnePerAddress d.after.controller.bindings := by
    refine List.forall_mem_cons.mpr ⟨by decide +kernel, ?_⟩
    exact List.forall_mem_singleton.mpr (by decide +kernel)
  have makes : Sample.bound.MakesBinding := by
    unfold Delivery.MakesBinding
    decide +kernel
  obtain ⟨let_go, agrees⟩ := (one_binding_iff_let_go_and_agreed
    (Sample.run Sample.regular.1 Sample.regular.2)).mp once Sample.bound (by simp)
  exact ⟨once _ (by simp), makes, fun lost => let_go ⟨makes, lost⟩, agrees⟩

/-- A port that comes twice has its address bound twice if the first binding cannot be removed. -/
theorem second_binding_left_behind :
    Run (Delivery.Regular Sample.allocation) [Sample.served, Sample.bound, Sample.again]
      Sample.again.after ∧ ¬ OnePerAddress Sample.again.after.controller.bindings := by
  have timely : Sample.again.Timely := by
    show Clock.Legible _
    decide +kernel
  constructor
  · exact .event Sample.again (.change (Sample.run Sample.regular.1 Sample.regular.2)
      ⟨rfl, rfl, rfl, rfl, rfl, rfl⟩) timely Sample.regular_again
  · decide +kernel

end Overlay.Dhcp
