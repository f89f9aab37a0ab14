import Overlay.Proofs.Dhcp.Renaming

/-!
# Both orders

Some deeds of one network and some of another are done to a ledger, in one order or in the other.
To see that both come to the same, the ledger is divided in two: what lies under the server of the
first network, which it has or is going to get, and what lies under all other servers. The first
deeds are in the first part and the second ones are in the other, so each part sees the same deeds,
whatever the order (`Square.alike`); only the names of what is made depend on it, and these change
places.

Main statement: `Square.same_up_to`.
-/

namespace Overlay.Dhcp

open Overlay.Controller (HeldServer HeldBinding)
open Overlay.Controller.State (serverName bindingName)

/-! ## Two realms -/

/-- What belongs to a network: the server of its service, and as many servers as it is going to get
after the first so many. -/
def Ledger.realm (l : Ledger) (networkId : String) (portId? : Option String) (first count : Nat) :
    Realm where
  networkId
  portId?
  servers s := l.services.any (fun x => x.networkId = networkId && x.serverId = s) ||
    (List.range count).any fun i => serverName (first + i + 1) = s

/-- All other servers, as what belongs to another network. -/
def Realm.others (R : Realm) (networkId : String) (portId? : Option String) : Realm :=
  ⟨networkId, portId?, fun s => !R.servers s⟩

section Realms

variable {l : Ledger} {m n s : String} {q? r? : Option String} {first count : Nat}

theorem servers_realm : (l.realm m q? first count).servers s = true ↔
    (∃ x ∈ l.services, x.networkId = m ∧ x.serverId = s) ∨
      ∃ i < count, serverName (first + i + 1) = s := by
  simp [Ledger.realm]

theorem servers_others {R : Realm} : (R.others n r?).servers s = true ↔ R.servers s ≠ true := by
  simp [Realm.others]

theorem apart_others (R : Realm) (networks : R.networkId ≠ n)
    (ports : ∀ q, R.portId? = some q → r? ≠ some q) :
    R.Apart (R.others n r?) ∧ (R.others n r?).Apart R where
  left := ⟨networks, ports, fun s there => by simpa [Realm.others] using there⟩
  right := ⟨networks.symm, fun q there here => ports q here there, fun s here => by
    simp [Realm.others, here]⟩

theorem within_realm (lodged : ∀ q ∈ q?, l.Lodged m q) : l.Within (l.realm m q? first count) where
  services x hx network := servers_realm.mpr (Or.inl ⟨x, hx, network, rfl⟩)
  rows b hb port := servers_realm.mpr (Or.inl (lodged b.portId port b hb rfl))

/-- The server of another network is another one, and is there already. -/
theorem within_others (q? : Option String) (count : Nat) (proper : l.Proper) (apart : m ≠ n)
    (later : l.serversMade ≤ first) (lodged : ∀ q ∈ r?, l.Lodged n q) :
    l.Within ((l.realm m q? first count).others n r?) := by
  have outside : ∀ x ∈ l.services, x.networkId = n →
      ((l.realm m q? first count).others n r?).servers x.serverId = true := by
    intro x hx network
    rw [servers_others, Ne, servers_realm]
    rintro (⟨y, hy, other, same⟩ | ⟨i, -, name⟩)
    · have itself := proper.owners_keyed.eq_of_key hx hy same.symm
      exact apart (other.symm.trans (itself ▸ network))
    · obtain ⟨v, hv, id⟩ := proper.server_of_service x hx
      exact proper.servers_new _ (by omega) v hv (id.trans name.symm)
  refine ⟨outside, fun b hb port => ?_⟩
  obtain ⟨x, hx, network, server⟩ := lodged b.portId port b hb rfl
  exact server ▸ outside x hx network

end Realms

/-! ## Names in use -/

/-- No name that is still to be given is in use anywhere. -/
structure Ledger.Settled (l : Ledger) : Prop extends Ledger.Linked l where
  homes_new : ∀ k, l.serversMade < k → ∀ h ∈ l.held, h.serverId ≠ serverName k

/-- A name that is not one of those that are still to be given to servers. -/
def Ledger.Given (l : Ledger) (s : String) : Prop := ∀ k, l.serversMade < k → s ≠ serverName k

section Settled

variable {l : Ledger} {s : String} {ρ : Renaming}

theorem Ledger.Linked.given_service (linked : l.Linked) {x : Store.Service} (hx : x ∈ l.services) :
    l.Given x.serverId := fun k later name => by
  obtain ⟨v, hv, id⟩ := linked.server_of_service x hx
  exact linked.servers_new k later v hv (id.trans name)

theorem Ledger.Linked.given_row (linked : l.Linked) {b : Store.Binding} (hb : b ∈ l.rows) :
    l.Given b.serverId ∧ ∀ k, l.bindingsMade < k → b.bindingId ≠ bindingName k := by
  constructor
  · obtain ⟨x, hx, server⟩ := linked.service_of_row b hb
    exact server ▸ linked.given_service hx
  · intro k later name
    obtain ⟨h, hh, key⟩ := linked.held_of_row b hb
    exact linked.held_new k later h hh ((congrArg Prod.snd key).trans name)

/-- Under the names in use realms that differ in names to be given are the same. -/
theorem realm_of_given (given : l.Given s) {m : String} {q? : Option String}
    {first first' count : Nat} (later : l.serversMade ≤ first) (later' : l.serversMade ≤ first') :
    (l.realm m q? first count).servers s = (l.realm m q? first' count).servers s := by
  rw [Bool.eq_iff_iff, servers_realm, servers_realm]
  have none : ∀ first, l.serversMade ≤ first → ¬ ∃ i < count, serverName (first + i + 1) = s := by
    rintro first later ⟨i, -, name⟩
    exact given _ (by omega) name.symm
  simp only [none first later, none first' later', or_false]

/-- A renaming that leaves alone the names in use leaves every part of the ledger alone. -/
theorem Ledger.Settled.alike {R S : Realm} (settled : l.Settled)
    (same : ∀ s, l.Given s → R.servers s = S.servers s)
    (servers : ∀ s, l.Given s → ρ.servers s = s)
    (bindings : ∀ s, (∀ k, l.bindingsMade < k → s ≠ bindingName k) → ρ.bindings s = s) :
    (l.part R).Alike ρ (l.part S) := by
  -- one argument for all four tables: what is there is under names that are given
  have part : ∀ {α : Type} {xs : List α} {f g : α → α} {server : α → String},
      (∀ x ∈ xs, l.Given (server x) ∧ f x = g x) →
      (xs.filter fun x => R.servers (server x)).map f
        = (xs.filter fun x => S.servers (server x)).map g := by
    intro α xs f g server h
    rw [List.filter_congr fun x hx => same _ (h x hx).1]
    exact List.map_congr_left fun x hx => (h x (List.mem_filter.mp hx).1).2
  have services :
      (l.part R).services.map ρ.service = (l.part S).services.map Renaming.same.service :=
    part fun x hx => by
      have given := settled.given_service hx
      exact ⟨given, by rw [Renaming.service, servers _ given]; rfl⟩
  have rows : (l.part R).rows.map ρ.row = (l.part S).rows.map Renaming.same.row :=
    part fun b hb => by
      obtain ⟨given, name⟩ := settled.given_row hb
      exact ⟨given, by rw [Renaming.row, servers _ given, bindings _ name]; rfl⟩
  have made : (l.part R).servers.map ρ.server = (l.part S).servers.map Renaming.same.server :=
    part fun v hv => by
      have given : l.Given v.id := fun k later => settled.servers_new k later v hv
      exact ⟨given, by rw [Renaming.server, servers _ given]; rfl⟩
  have held : (l.part R).held.map ρ.held = (l.part S).held.map Renaming.same.held :=
    part fun h hh => by
      have given : l.Given h.serverId := fun k later => settled.homes_new k later h hh
      exact ⟨given, by
        rw [Renaming.held, servers _ given, bindings _ fun k later => settled.held_new k later h hh]
        rfl⟩
  show Ledger.mk _ _ _ _ _ _ _ _ = Ledger.mk _ _ _ _ _ _ _ _
  congr 1

/-- Deeds that are about what is there mention names in use only. -/
theorem Deed.Of.fixed (linked : l.Linked) {m : String} {q? : Option String} {d : Deed}
    (h : d.Of m q? (l.view m q?)) (servers : ∀ s, l.Given s → ρ.servers s = s)
    (bindings : ∀ s, (∀ k, l.bindingsMade < k → s ≠ bindingName k) → ρ.bindings s = s) :
    d.Fixed ρ := by
  have service : ∀ {x}, (l.view m q?).service = some x → ρ.servers x.serverId = x.serverId :=
    fun found => servers _ (linked.given_service (Table.mem_of_find? found).1)
  have row : ∀ {b}, b ∈ (l.view m q?).rows →
      ρ.servers b.serverId = b.serverId ∧ ρ.bindings b.bindingId = b.bindingId := by
    intro b hb
    cases q? with
    | none => exact nomatch hb
    | some q =>
        obtain ⟨given, name⟩ := linked.given_row (Store.mem_ofPort.mp hb).1
        exact ⟨servers _ given, bindings _ name⟩
  cases d with
  | serve n p config => trivial
  | readdress s ip => obtain ⟨x, found, rfl⟩ := h; exact service found
  | retire x => exact service h
  | bind x q d => exact service h.1
  | move b d => exact row h
  | clash b d => exact row h
  | release b => exact row h

/-- A name that is still to be given is outside a realm that does not get it. -/
theorem others_made (linked : l.Linked) {m n : String} {q? r? : Option String}
    {first count k : Nat} (later : l.serversMade ≤ k) (other : ∀ i < count, first + i ≠ k) :
    ((l.realm m q? first count).others n r?).servers (serverName (k + 1)) = true := by
  rw [servers_others, Ne, servers_realm]
  rintro (⟨x, hx, -, name⟩ | ⟨i, hi, name⟩)
  · exact linked.given_service hx (k + 1) (by omega) name
  · have same := Controller.State.serverName_inj name
    exact other i hi (by omega)

end Settled

/-! ## Both orders -/

/-- The renaming leaves alone the names in use, and what is made first by the deeds of one list
changes names with what is made next by those of another one. -/
structure Renaming.Trades (ρ : Renaming) (l : Ledger) (as bs : List Deed) : Prop where
  servers_given : ∀ s, l.Given s → ρ.servers s = s
  bindings_given : ∀ s, (∀ k, l.bindingsMade < k → s ≠ bindingName k) → ρ.bindings s = s
  servers_first : ∀ i < serverCount as, ρ.servers (serverName (l.serversMade + i + 1))
    = serverName (l.serversMade + serverCount bs + i + 1)
  servers_next : ∀ i < serverCount bs,
    ρ.servers (serverName (l.serversMade + serverCount as + i + 1))
      = serverName (l.serversMade + i + 1)
  bindings_first : ∀ i < bindingCount as, ρ.bindings (bindingName (l.bindingsMade + i + 1))
    = bindingName (l.bindingsMade + bindingCount bs + i + 1)
  bindings_next : ∀ i < bindingCount bs,
    ρ.bindings (bindingName (l.bindingsMade + bindingCount as + i + 1))
      = bindingName (l.bindingsMade + i + 1)

/-- Two networks with their ports that have nothing in common in a ledger. -/
structure Ledger.Divided (l : Ledger) (m n : String) (q? r? : Option String) : Prop where
  proper : l.Proper
  homes_new : ∀ k, l.serversMade < k → ∀ h ∈ l.held, h.serverId ≠ serverName k
  networks : m ≠ n
  ports : ∀ q, q? = some q → r? ≠ some q
  lodged : ∀ q ∈ q?, l.Lodged m q
  lodged' : ∀ r ∈ r?, l.Lodged n r

theorem Ledger.Divided.settled {l : Ledger} {m n : String} {q? r? : Option String}
    (divided : l.Divided m n q? r?) : l.Settled :=
  ⟨divided.proper.toLinked, divided.homes_new⟩

/-- Deeds of one network and deeds of another one, done to `l` in one order, by `l₁`, and in the
other order, by `l₂`. -/
structure Square (m n : String) (q? r? : Option String) (as bs : List Deed)
    (l l₁ l₁₂ l₂ l₂₁ : Ledger) : Prop where
  divided : l.Divided m n q? r?
  mine : ∀ d ∈ as, d.Of m q? (l.view m q?)
  others : ∀ d ∈ bs, d.Of n r? (l.view n r?)
  first : Way (l.realm m q? l.serversMade (serverCount as)) as l l₁
  first_next : Way ((l.realm m q? l.serversMade (serverCount as)).others n r?) bs l₁ l₁₂
  second : Way ((l.realm m q? (l.serversMade + serverCount bs) (serverCount as)).others n r?) bs
    l l₂
  second_next : Way (l.realm m q? (l.serversMade + serverCount bs) (serverCount as)) as l₂ l₂₁

/-- Under other names and at no particular time two ledgers have the same, up to order. -/
structure Ledger.SameUpTo (ρ : Renaming) (l m : Ledger) : Prop where
  services : (l.services.map ρ.service).Perm (m.services.map Renaming.same.service)
  rows : (l.rows.map ρ.row).Perm (m.rows.map Renaming.same.row)
  servers : (l.servers.map ρ.server).Perm (m.servers.map Renaming.same.server)
  held : (l.held.map ρ.held).Perm (m.held.map Renaming.same.held)
  serversMade : l.serversMade = m.serversMade
  bindingsMade : l.bindingsMade = m.bindingsMade

/-- Two ledgers have the same if they are alike in a part of each and in the rest. -/
theorem Ledger.SameUpTo.of_parts {ρ : Renaming} {l m : Ledger} {R S : Realm} {n : String}
    {r? : Option String} (inside : (l.part R).Alike ρ (m.part S))
    (outside : (l.part (R.others n r?)).Alike ρ (m.part (S.others n r?)))
    (serversMade : l.serversMade = m.serversMade) (bindingsMade : l.bindingsMade = m.bindingsMade) :
    l.SameUpTo ρ m where
  services := Table.perm_of_filter_eq (congrArg Ledger.services inside)
    (congrArg Ledger.services outside)
  rows := Table.perm_of_filter_eq (congrArg Ledger.rows inside) (congrArg Ledger.rows outside)
  servers := Table.perm_of_filter_eq (congrArg Ledger.servers inside)
    (congrArg Ledger.servers outside)
  held := Table.perm_of_filter_eq (congrArg Ledger.held inside) (congrArg Ledger.held outside)
  serversMade
  bindingsMade

section Square

variable {m n : String} {q? r? : Option String} {as bs : List Deed} {l l₁ l₁₂ l₂ l₂₁ : Ledger}
  {ρ : Renaming}

/-- What belongs to the first network, and what belongs to all others, comes out alike in both
orders: where the deeds of the other network come first or last, they are not seen. -/
theorem Square.alike (square : Square m n q? r? as bs l l₁ l₁₂ l₂ l₂₁)
    (trades : ρ.Trades l as bs) :
    (l₁₂.part (l.realm m q? l.serversMade (serverCount as))).Alike ρ
        (l₂₁.part (l.realm m q? (l.serversMade + serverCount bs) (serverCount as))) ∧
      (l₁₂.part ((l.realm m q? l.serversMade (serverCount as)).others n r?)).Alike ρ
        (l₂₁.part ((l.realm m q? (l.serversMade + serverCount bs) (serverCount as)).others n
          r?)) := by
  have divided := square.divided
  have settled := divided.settled
  have linked := settled.toLinked
  have linked₁ := square.first.linked linked
  have linked₂ := square.second.linked linked
  have later := Nat.le_add_right l.serversMade (serverCount bs)
  have ⟨apart₁, apart₁'⟩ := apart_others (l.realm m q? l.serversMade (serverCount as))
    divided.networks divided.ports
  have ⟨apart₂, apart₂'⟩ := apart_others
    (l.realm m q? (l.serversMade + serverCount bs) (serverCount as))
    divided.networks divided.ports
  have outside₁ : l.Within _ := within_others q? (serverCount as) divided.proper
    divided.networks (Nat.le_refl _) divided.lodged'
  have outside₂ : l.Within _ := within_others q? (serverCount as) divided.proper
    divided.networks later divided.lodged'
  have same : ∀ s, l.Given s → (l.realm m q? l.serversMade (serverCount as)).servers s
      = (l.realm m q? (l.serversMade + serverCount bs) (serverCount as)).servers s :=
    fun s given => realm_of_given given (Nat.le_refl _) later
  have same' : ∀ s, l.Given s →
      ((l.realm m q? l.serversMade (serverCount as)).others n r?).servers s
        = ((l.realm m q? (l.serversMade + serverCount bs) (serverCount as)).others n
          r?).servers s :=
    fun s given => congrArg (!·) (same s given)
  constructor
  -- the first network: in the other order its deeds come second
  · have unseen := square.second.part_of_apart apart₂ linked outside₂
    have start := settled.alike same trades.servers_given trades.bindings_given
    have unseen' := square.first_next.part_of_apart apart₁ linked₁
      (square.first.within linked outside₁ (Or.inr apart₁'))
    rw [unseen']
    refine square.first.alike square.second_next linked linked₂ (within_realm divided.lodged)
      (square.second.within linked (within_realm divided.lodged) (Or.inr apart₂))
      (fun d hd => (square.mine d hd).fixed linked trades.servers_given trades.bindings_given)
      ?_ ?_ (unseen ▸ start)
    · rw [square.second.made.1]
      exact trades.servers_first
    · rw [square.second.made.2]
      exact trades.bindings_first
  -- the others: in the other order their deeds come first
  · have unseen := square.first.part_of_apart apart₁' linked (within_realm divided.lodged)
    have start := settled.alike same' trades.servers_given trades.bindings_given
    have unseen' := square.second_next.part_of_apart apart₂' linked₂
      (square.second.within linked (within_realm divided.lodged) (Or.inr apart₂))
    rw [unseen']
    refine square.first_next.alike square.second linked₁ linked
      (square.first.within linked outside₁ (Or.inr apart₁')) outside₂
      (fun d hd => (square.others d hd).fixed linked trades.servers_given trades.bindings_given)
      ?_ ?_ (unseen ▸ start)
    · rw [square.first.made.1]
      exact trades.servers_next
    · rw [square.first.made.2]
      exact trades.bindings_next

/-- In both orders the deeds of two networks come to the same. -/
theorem Square.same_up_to (square : Square m n q? r? as bs l l₁ l₁₂ l₂ l₂₁)
    (trades : ρ.Trades l as bs) : l₁₂.SameUpTo ρ l₂₁ := by
  obtain ⟨inside, outside⟩ := square.alike trades
  refine .of_parts inside outside ?_ ?_
  · rw [square.first_next.made.1, square.first.made.1, square.second_next.made.1,
      square.second.made.1]
    omega
  · rw [square.first_next.made.2, square.first.made.2, square.second_next.made.2,
      square.second.made.2]
    omega

end Square

end Overlay.Dhcp
