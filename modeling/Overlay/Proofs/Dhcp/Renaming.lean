import Overlay.Proofs.Dhcp.Realms

/-!
# Other names

The controller names what it makes by counting, so the names depend on what was made before. A
`Renaming` gives other names to servers, bindings and switch ports, different ones to different
ones. Two ledgers are *alike* under a renaming if it carries what one has to what the other has,
times apart. Deeds in a realm, done in two ledgers that are alike there, leave them alike, provided
that the renaming leaves the names alone that the deeds mention, and that it carries the names that
are given in one ledger to those that are given in the other.

Main statements: `under_apply`, `Way.alike`.
-/

namespace Overlay.Dhcp

open Overlay.Controller (HeldServer HeldBinding)
open Overlay.Controller.State (serverName bindingName)

/-- Other names for servers, bindings and switch ports; different names stay different. -/
structure Renaming where
  servers : String → String
  bindings : String → String
  switchPorts : String → String
  servers_inj : ∀ {s t}, servers s = servers t → s = t
  bindings_inj : ∀ {s t}, bindings s = bindings t → s = t
  switchPorts_inj : ∀ {s t}, switchPorts s = switchPorts t → s = t

/-- The time that stands for all times. -/
def someTime : Instant := .ofSeconds 0

namespace Renaming

/-- Every name stays. -/
def same : Renaming := ⟨id, id, id, id, id, id⟩

variable (ρ : Renaming)

/-- A service under its other name, at no particular time. -/
def service (x : Store.Service) : Store.Service :=
  { x with serverId := ρ.servers x.serverId, createdAt := someTime }

/-- A row under its other names, at no particular time. -/
def row (b : Store.Binding) : Store.Binding :=
  { b with
    serverId := ρ.servers b.serverId
    bindingId := ρ.bindings b.bindingId
    createdAt := someTime
    updatedAt := someTime }

/-- A server under its other name. -/
def server (v : HeldServer) : HeldServer := { v with id := ρ.servers v.id }

/-- A binding under its other names. -/
def held (h : HeldBinding) : HeldBinding :=
  { h with id := ρ.bindings h.id, serverId := ρ.servers h.serverId }

/-- A switch port under its other name. -/
def switchPort (p : SwitchPort) : SwitchPort := { p with id := ρ.switchPorts p.id }

end Renaming

/-- The ledger under other names, at no particular time. -/
def Ledger.under (ρ : Renaming) (l : Ledger) : Ledger :=
  { l with
    services := l.services.map ρ.service
    rows := l.rows.map ρ.row
    servers := l.servers.map ρ.server
    held := l.held.map ρ.held }

namespace Deed

/-- An act that does the deed. -/
def act : Deed → Act
  | serve networkId portId config => .serve networkId portId config someTime
  | readdress serverId ip => .readdress serverId ip
  | retire x => .retire x none
  | bind x portId d => .bind x portId d someTime none
  | move b d => .move b d someTime
  | clash b d => .clash b b d
  | release b => .release b none

/-- The renaming leaves the names alone that the deed mentions. -/
def Fixed (ρ : Renaming) : Deed → Prop
  | serve .. => True
  | readdress s _ => ρ.servers s = s
  | retire x | bind x _ _ => ρ.servers x.serverId = x.serverId
  | move b _ | clash b _ | release b =>
    ρ.servers b.serverId = b.serverId ∧ ρ.bindings b.bindingId = b.bindingId

end Deed

variable {l m : Ledger} {a : Act} {d : Deed} {ρ : Renaming}

/-! ## One deed under other names -/

/-- No other server gets the name of a server that keeps its own. -/
theorem servers_iff {s : String} (fixed : ρ.servers s = s) (t : String) :
    ρ.servers t = s ↔ t = s :=
  ⟨fun h => ρ.servers_inj (h.trans fixed.symm), fun h => h ▸ fixed⟩

/-- A renamed binding is named by a renamed row exactly if the binding is named by the row. -/
theorem held_key_iff (b : Store.Binding) (h : HeldBinding) :
    (ρ.held h).key = (ρ.row b).name ↔ h.key = b.name := by
  rw [HeldBinding.key, HeldBinding.key, Store.Binding.name, Store.Binding.name, Prod.mk.injEq,
    Prod.mk.injEq]
  exact and_congr ⟨ρ.servers_inj, congrArg _⟩ ⟨ρ.bindings_inj, congrArg _⟩

/-- A row keeps its name if the names of its server and binding stay. -/
theorem name_row {b : Store.Binding}
    (fixed : ρ.servers b.serverId = b.serverId ∧ ρ.bindings b.bindingId = b.bindingId) :
    (ρ.row b).name = b.name :=
  Prod.ext fixed.1 fixed.2

/-- Letting a binding go and renaming may change places. -/
theorem map_letGo (b : Store.Binding) (held : List HeldBinding) :
    (Table.remove HeldBinding.key b.name held).map ρ.held
      = Table.remove HeldBinding.key (ρ.row b).name (held.map ρ.held) :=
  (Table.remove_map fun h _ => held_key_iff b h).symm

/-- Amending a binding and renaming may change places. -/
theorem map_amend (b : Store.Binding) (d : Desired) (held : List HeldBinding) :
    (Table.modify HeldBinding.key b.name (Act.amend b d) held).map ρ.held
      = Table.modify HeldBinding.key (ρ.row b).name (Act.amend b d) (held.map ρ.held) :=
  (Table.modify_map (fun h _ => held_key_iff b h) fun _ _ => by rfl).symm

/-- Putting a row and renaming may change places. -/
theorem map_putBinding (b : Store.Binding) (rows : List Store.Binding) :
    (Store.putBinding b rows).map ρ.row = Store.putBinding (ρ.row b) (rows.map ρ.row) := by
  have found : Table.find? Store.Binding.key (ρ.row b).key (rows.map ρ.row)
      = (Table.find? Store.Binding.key b.key rows).map ρ.row := Table.find?_map fun _ _ => Iff.rfl
  have here : (ρ.row b).inPlace (rows.map ρ.row) = ρ.row (b.inPlace rows) := by
    rw [Store.Binding.inPlace, Store.Binding.inPlace, found]
    cases Table.find? Store.Binding.key b.key rows <;> rfl
  rw [Store.putBinding, Store.putBinding, here]
  exact (Table.put_map fun _ _ => by exact Iff.rfl).symm

/-- Taking down a server that keeps its name is the same before and after renaming. -/
theorem under_retire (x : Store.Service) (fixed : ρ.servers x.serverId = x.serverId) {i j : Nat} :
    (((Act.retire x none).apply l).under ρ).counting i j
      = (Act.retire x none).apply ((l.under ρ).counting i j) := by
  have services : (Table.remove Store.Service.networkId x.networkId l.services).map ρ.service
      = Table.remove Store.Service.networkId x.networkId (l.services.map ρ.service) :=
    (Table.remove_map fun _ _ => by exact Iff.rfl).symm
  have rows : (Table.remove Store.Binding.serverId x.serverId l.rows).map ρ.row
      = Table.remove Store.Binding.serverId x.serverId (l.rows.map ρ.row) :=
    (Table.remove_map fun b _ => servers_iff fixed b.serverId).symm
  have servers : (Table.remove HeldServer.id x.serverId l.servers).map ρ.server
      = Table.remove HeldServer.id x.serverId (l.servers.map ρ.server) :=
    (Table.remove_map fun v _ => servers_iff fixed v.id).symm
  have held : (Table.remove HeldBinding.serverId x.serverId l.held).map ρ.held
      = Table.remove HeldBinding.serverId x.serverId (l.held.map ρ.held) :=
    (Table.remove_map fun h _ => servers_iff fixed h.serverId).symm
  show Ledger.mk _ _ _ _ _ _ _ _ = Ledger.mk _ _ _ _ _ _ _ _
  congr 1

/-- Binding an address is the same before and after renaming, if the new binding is renamed to the
one made next. -/
theorem under_bind (x : Store.Service) (q : String) (d : Desired) (time : Instant)
    (fixed : ρ.servers x.serverId = x.serverId) {i j : Nat}
    (name : ρ.bindings (bindingName (l.bindingsMade + 1)) = bindingName (j + 1)) :
    (((Act.bind x q d time none).apply l).under ρ).counting i (j + 1)
      = (Act.bind x q d someTime none).apply ((l.under ρ).counting i j) := by
  have row : ρ.row (l.newRow x q d time)
      = ((l.under ρ).counting i j).newRow x q d someTime := by
    show Store.Binding.mk _ _ _ _ _ _ _ _ = Store.Binding.mk _ _ _ _ _ _ _ _
    congr 1
  have rows := map_putBinding (ρ := ρ) (l.newRow x q d time) l.rows
  rw [row] at rows
  have held : (l.create x d).held.map ρ.held
      = (((l.under ρ).counting i j).create x d).held := by
    rw [Ledger.create, List.map_append, List.map_cons, Renaming.held, name, fixed]
    rfl
  have old : ((l.under ρ).counting i j).row? q d.address
      = (l.row? q d.address).map ρ.row := Table.find?_map fun _ _ => Iff.rfl
  rw [Act.apply, Act.apply, old]
  cases l.row? q d.address with
  | none =>
      show Ledger.mk _ _ _ _ _ _ _ _ = Ledger.mk _ _ _ _ _ _ _ _
      congr 1
  | some b =>
      show Ledger.mk _ _ _ _ _ _ _ _ = Ledger.mk _ _ _ _ _ _ _ _
      congr 1
      exact (map_letGo b _).trans (congrArg _ held)

/-- Under other names a deed does the same, where the name that it gives is the next one. -/
theorem under_apply (did : a.deed? = some d) (fixed : d.Fixed ρ) {i j : Nat}
    (server : 0 < d.serves → ρ.servers (serverName (l.serversMade + 1)) = serverName (i + 1))
    (binding : 0 < d.binds → ρ.bindings (bindingName (l.bindingsMade + 1)) = bindingName (j + 1)) :
    ((a.apply l).under ρ).counting (i + d.serves) (j + d.binds)
      = d.act.apply ((l.under ρ).counting i j) := by
  have act := Act.of_deed? did
  cases d with
  | serve n p config =>
      obtain ⟨time, rfl⟩ := act
      have name := server Nat.one_pos
      simp [Deed.act, Act.apply, Ledger.under, Ledger.counting, Renaming.service, Renaming.server,
        Deed.serves, Deed.binds, name]
  | readdress s ip =>
      cases act
      -- the server keeps its name, so that no other one is readdressed in its place
      have servers : (Table.modify HeldServer.id s (Controller.State.readdressed ip)
          l.servers).map ρ.server = Table.modify HeldServer.id s
            (Controller.State.readdressed ip) (l.servers.map ρ.server) :=
        (Table.modify_map (fun v _ => servers_iff fixed v.id) fun _ _ => by rfl).symm
      show Ledger.mk _ _ _ _ _ _ _ _ = Ledger.mk _ _ _ _ _ _ _ _
      congr 1
  | retire x =>
      cases act
      exact under_retire x fixed
  | bind x q d =>
      obtain ⟨time, rfl⟩ := act
      exact under_bind x q d time fixed (binding Nat.one_pos)
  | move b d =>
      obtain ⟨time, rfl⟩ := act
      -- rows keep port and address, so their keys are as before
      have rows : (Table.modify Store.Binding.key b.key
          (.moved d.subnetId d.address d.macAddress time) l.rows).map ρ.row
          = Table.modify Store.Binding.key b.key
            (.moved d.subnetId d.address d.macAddress someTime) (l.rows.map ρ.row) :=
        (Table.modify_map (fun _ _ => by exact Iff.rfl) fun _ _ => by rfl).symm
      have held := map_amend (ρ := ρ) b d l.held
      rw [name_row fixed] at held
      show Ledger.mk _ _ _ _ _ _ _ _ = Ledger.mk _ _ _ _ _ _ _ _
      congr 1
  | clash b d =>
      obtain ⟨c, rfl⟩ := act
      have held := map_amend (ρ := ρ) b d l.held
      rw [name_row fixed] at held
      show Ledger.mk _ _ _ _ _ _ _ _ = Ledger.mk _ _ _ _ _ _ _ _
      congr 1
  | release b =>
      cases act
      have rows : (Table.remove Store.Binding.key b.key l.rows).map ρ.row
          = Table.remove Store.Binding.key b.key (l.rows.map ρ.row) :=
        (Table.remove_map fun _ _ => by exact Iff.rfl).symm
      have held := map_letGo (ρ := ρ) b l.held
      rw [name_row fixed] at held
      show Ledger.mk _ _ _ _ _ _ _ _ = Ledger.mk _ _ _ _ _ _ _ _
      congr 1

/-! ## Ledgers that are alike -/

/-- Under other names the one ledger is what the other is, but for times and for how much has been
made. -/
def Ledger.Alike (ρ : Renaming) (l m : Ledger) : Prop :=
  (l.under ρ).counting 0 0 = (m.under .same).counting 0 0

/-- Acts of one deed leave alike what was alike. -/
theorem Ledger.Alike.apply {a' : Act} (alike : l.Alike ρ m) (did : a.deed? = some d)
    (did' : a'.deed? = some d) (fixed : d.Fixed ρ)
    (server : 0 < d.serves →
      ρ.servers (serverName (l.serversMade + 1)) = serverName (m.serversMade + 1))
    (binding : 0 < d.binds →
      ρ.bindings (bindingName (l.bindingsMade + 1)) = bindingName (m.bindingsMade + 1)) :
    (a.apply l).Alike ρ (a'.apply m) := by
  have still : d.Fixed .same := by cases d <;> trivial
  have first := under_apply did fixed server binding
  have second := under_apply (l := m) (ρ := .same) did' still (i := m.serversMade)
    (j := m.bindingsMade) (fun _ => rfl) fun _ => rfl
  have before : (l.under ρ).counting m.serversMade m.bindingsMade
      = (m.under .same).counting m.serversMade m.bindingsMade :=
    congrArg (fun l => l.counting m.serversMade m.bindingsMade) alike
  rw [before, ← second] at first
  exact congrArg (fun l => l.counting 0 0) first

/-- The same deeds, done in two ledgers that are alike in their realms, leave these alike. -/
theorem Way.alike {R S : Realm} {ds : List Deed} {l' m' : Ledger} (way : Way R ds l l')
    (way' : Way S ds m m') (linked : l.Linked) (linked' : m.Linked) (within : l.Within R)
    (within' : m.Within S) (fixed : ∀ d ∈ ds, d.Fixed ρ)
    (servers : ∀ i < serverCount ds,
      ρ.servers (serverName (l.serversMade + i + 1)) = serverName (m.serversMade + i + 1))
    (bindings : ∀ i < bindingCount ds,
      ρ.bindings (bindingName (l.bindingsMade + i + 1)) = bindingName (m.bindingsMade + i + 1))
    (alike : (l.part R).Alike ρ (m.part S)) : (l'.part R).Alike ρ (m'.part S) := by
  -- the other way has the same deeds, so it is taken apart along with this one
  induction way generalizing m with
  | nil l => cases way'; exact alike
  | @cons l l' a d ds fits did inside granted rest ih =>
      cases way' with
      | @cons _ _ a' _ _ fits' did' inside' granted' rest' =>
          have made := made_apply (l := l) did
          have made' := made_apply (l := m) did'
          have count := serverCount_cons d ds
          have count' := bindingCount_cons d ds
          refine ih rest' (linked.apply fits) (linked'.apply fits')
            (within.apply linked fits did inside granted (Or.inl rfl))
            (within'.apply linked' fits' did' inside' granted' (Or.inl rfl))
            (fun d hd => fixed d (List.mem_cons_of_mem _ hd)) (fun i hi => ?_) (fun i hi => ?_) ?_
          · have here := servers (d.serves + i) (by omega)
            rwa [← Nat.add_assoc, ← Nat.add_assoc, ← made.1, ← made'.1] at here
          · have here := bindings (d.binds + i) (by omega)
            rwa [← Nat.add_assoc, ← Nat.add_assoc, ← made.2, ← made'.2] at here
          · rw [part_apply within did inside granted, part_apply within' did' inside' granted']
            exact alike.apply did did' (fixed d List.mem_cons_self)
              (fun one => servers 0 (by omega)) fun one => bindings 0 (by omega)

/-! ## Names that change places -/

/-- The numbers `k + 1, …, k + a` change places with the `b` numbers that follow. -/
def exchange (k a b j : Nat) : Nat :=
  if j ≤ k then j else if j ≤ k + a then j + b else if j ≤ k + a + b then j - a else j

section Exchange

variable {k a b i j : Nat}

/-- No two numbers are exchanged for one. -/
theorem exchange_inj (h : exchange k a b i = exchange k a b j) : i = j := by
  simp only [exchange] at h
  grind

/-- The first numbers are moved behind the second ones. -/
theorem exchange_first (h : i < a) : exchange k a b (k + i + 1) = k + b + i + 1 := by
  rw [exchange, if_neg (by omega), if_pos (by omega)]
  omega

/-- The second numbers are moved to the front. -/
theorem exchange_second (h : i < b) : exchange k a b (k + a + i + 1) = k + i + 1 := by
  rw [exchange, if_neg (by omega), if_neg (by omega), if_pos (by omega)]
  omega

/-- Nothing is exchanged where there is nothing on one side. -/
theorem exchange_same (none : a = 0 ∨ b = 0) : exchange k a b j = j := by
  rw [exchange]
  split
  · rfl
  · split
    · omega
    · split <;> omega

end Exchange

/-- Names of a kind change places as their numbers do; everything else keeps its name. -/
def traded (name : Nat → String) (k a b : Nat) (s : String) : String :=
  match (List.range (k + a + b + 1)).find? (name · = s) with
  | some j => name (exchange k a b j)
  | none => s

section Traded

variable {name : Nat → String} (inj : ∀ {i j}, name i = name j → i = j) {k a b : Nat} {s t : String}

include inj

/-- A name is traded for the one with the exchanged number. -/
theorem traded_name (j : Nat) : traded name k a b (name j) = name (exchange k a b j) := by
  rw [traded]
  cases found : (List.range (k + a + b + 1)).find? (name · = name j) with
  | some i =>
      have same : i = j := inj (by simpa using List.find?_some found)
      rw [same]
  | none =>
      have beyond : ¬ j < k + a + b + 1 := fun within => by
        simpa using List.find?_eq_none.mp found j (List.mem_range.mpr within)
      rw [exchange, if_neg (by omega), if_neg (by omega), if_neg (by omega)]

/-- A name stays if it is none of those that change places. -/
theorem traded_of_ne (other : ∀ j, k < j → j ≤ k + a + b → s ≠ name j) :
    traded name k a b s = s := by
  -- a string may be the name of no number at all
  by_cases some : ∃ j, name j = s
  · obtain ⟨j, rfl⟩ := some
    have outside : j ≤ k ∨ k + a + b < j := by
      rcases Nat.lt_or_ge k j with later | before
      · exact Or.inr (Nat.lt_of_not_le fun within => other j later within rfl)
      · exact Or.inl before
    rw [traded_name inj, exchange]
    rcases outside with before | beyond
    · rw [if_pos before]
    · rw [if_neg (by omega), if_neg (by omega), if_neg (by omega)]
  · have absent : (List.range (k + a + b + 1)).find? (name · = s) = none :=
      List.find?_eq_none.mpr fun j _ => by simpa using fun same => some ⟨j, same⟩
    rw [traded, absent]

/-- Only names change places that are given to these numbers. -/
theorem exists_of_traded (moved : traded name k a b s ≠ s) :
    ∃ j, k < j ∧ j ≤ k + a + b ∧ s = name j := by
  by_contra other
  exact moved (traded_of_ne inj fun j later within same => other ⟨j, later, within, same⟩)

/-- No name is traded where there is nothing on one side. -/
theorem traded_same (none : a = 0 ∨ b = 0) : traded name k a b s = s := by
  by_cases some : ∃ j, name j = s
  · obtain ⟨j, rfl⟩ := some
    rw [traded_name inj, exchange_same none]
  · exact traded_of_ne inj fun j _ _ same => some ⟨j, same.symm⟩

/-- No two names are traded for one. -/
theorem traded_inj (h : traded name k a b s = traded name k a b t) : s = t := by
  by_cases first : ∃ i, name i = s
  · obtain ⟨i, rfl⟩ := first
    rw [traded_name inj] at h
    by_cases second : ∃ j, name j = t
    · obtain ⟨j, rfl⟩ := second
      rw [traded_name inj] at h
      exact congrArg name (exchange_inj (inj h))
    · rw [traded_of_ne inj (s := t) fun j _ _ same => second ⟨j, same.symm⟩] at h
      exact absurd ⟨_, h⟩ second
  · rw [traded_of_ne inj (s := s) fun j _ _ same => first ⟨j, same.symm⟩] at h
    by_cases second : ∃ j, name j = t
    · obtain ⟨j, rfl⟩ := second
      rw [traded_name inj] at h
      exact absurd ⟨_, h.symm⟩ first
    · rwa [traded_of_ne inj (s := t) fun j _ _ same => second ⟨j, same.symm⟩] at h

end Traded

end Overlay.Dhcp
