import Overlay.Proofs.Address.Written
import Overlay.Proofs.Table
import Overlay.Proofs.Time.Written
import Overlay.Store.Tables

/-!
# The store seen as records

The store keeps services and bindings as rows of text. A store *holds* two lists of records if its
tables are these records written down, with all times legible; then no row fails to be read back.
What any row at all is read as, or refused for, is in `BindingRow.read_cases`.

For each statement on services and bindings there is one lemma: what it answers and which records
the store holds after it. Statements on bindings do not look at the other tables, so what they do is
said of a store that holds bindings (`HoldsBindings`) first. Nothing past this module looks at the
text of a row.
-/

namespace Overlay.Store

/-- The primary key of a binding. -/
def Binding.key (b : Binding) : String × IPv4 := (b.portId, b.address)

/-- A binding as it is put among others: it takes over the creation time of the one for its port and
address. -/
def Binding.inPlace (rows : List Binding) (b : Binding) : Binding :=
  match Table.find? Binding.key b.key rows with
  | some old => { b with createdAt := old.createdAt }
  | none => b

/-- The bindings with one added or replaced. -/
def putBinding (b : Binding) (rows : List Binding) : List Binding :=
  Table.put Binding.key (b.inPlace rows) rows

/-- A binding at another address, subnet and MAC address from a point of time on. -/
def Binding.moved (subnetId : String) (address : IPv4) (macAddress : String) (time : Instant)
    (b : Binding) : Binding :=
  { b with subnetId, address, macAddress, updatedAt := time }

/-- The bindings of a port by the texts of creation time and address. -/
def ofPort (portId : String) (rows : List Binding) : List Binding :=
  (rows.filter (·.portId = portId)).mergeSort fun a b =>
    columnsLe (a.createdAt.render, a.address.render) (b.createdAt.render, b.address.render)

/-- The bindings under a server by port and the text of the address. -/
def underServer (serverId : String) (rows : List Binding) : List Binding :=
  (rows.filter (·.serverId = serverId)).mergeSort fun a b =>
    columnsLe (a.portId, a.address.render) (b.portId, b.address.render)

/-- All bindings by port and the text of the address. -/
def inOrder (rows : List Binding) : List Binding :=
  rows.mergeSort fun a b =>
    columnsLe (a.portId, a.address.render) (b.portId, b.address.render)

/-- The rows of a port are those that name it. -/
theorem mem_ofPort {portId : String} {rows : List Binding} {b : Binding} :
    b ∈ ofPort portId rows ↔ b ∈ rows ∧ b.portId = portId := by
  rw [ofPort, List.mem_mergeSort, List.mem_filter, decide_eq_true_iff]

/-- The rows under a server are those that name it. -/
theorem mem_underServer {serverId : String} {rows : List Binding} {b : Binding} :
    b ∈ underServer serverId rows ↔ b ∈ rows ∧ b.serverId = serverId := by
  rw [underServer, List.mem_mergeSort, List.mem_filter, decide_eq_true_iff]

/-- Both times of a binding are legible. -/
def Binding.Legible (b : Binding) : Prop := b.createdAt.Legible ∧ b.updatedAt.Legible

instance (b : Binding) : Decidable b.Legible := by unfold Binding.Legible; infer_instance

/-- The table of bindings is these records, written down. -/
structure HoldsBindings (s : Store) (bindings : List Binding) : Prop where
  bindings_eq : s.bindings = some (bindings.map Binding.toRow)
  legible : ∀ b ∈ bindings, b.Legible

/-- The tables of services and of bindings are these records, written down. -/
structure Holds (s : Store) (services : List Service) (bindings : List Binding) : Prop where
  services_eq : s.services = some (services.map Service.toRow)
  bindings_eq : s.bindings = some (bindings.map Binding.toRow)
  services_legible : ∀ x ∈ services, x.createdAt.Legible
  bindings_legible : ∀ b ∈ bindings, b.Legible

/-! ## Reading rows -/

/-- A time that was written is read back. -/
theorem readTime_render {table : TableName} {t : Instant} (h : t.Legible) :
    readTime table t.render = .ok t := by
  rw [readTime, Instant.parse?_render h]

/-- A service that was written is read back. -/
theorem read_toRow_service {x : Service} (h : x.createdAt.Legible) : x.toRow.read = .ok x := by
  rw [ServiceRow.read, Service.toRow, readTime_render h]
  rfl

/-- A binding that was written is read back. -/
theorem read_toRow {b : Binding} (h : b.Legible) : b.toRow.read = .ok b := by
  rw [BindingRow.read, Binding.toRow, IPv4.parse?_render, readTime_render h.1,
    readTime_render h.2]
  rfl

/-- Both times of a row are timestamps. -/
def BindingRow.Timed (r : BindingRow) : Prop :=
  (Instant.parse? r.createdAt).isSome ∧ (Instant.parse? r.updatedAt).isSome

instance (r : BindingRow) : Decidable r.Timed := by unfold BindingRow.Timed; infer_instance

/-- A row is refused for its address before it is refused for a time. -/
theorem BindingRow.read_cases (r : BindingRow) :
    (∃ (ip : IPv4) (created updated : Instant), r.address = ip.render ∧ r.Timed ∧
      r.read = .ok ⟨r.portId, r.subnetId, ip, r.macAddress, r.serverId, r.bindingId, created,
        updated⟩) ∨
    (∃ (ip : IPv4) (text : String), r.address = ip.render ∧ ¬ r.Timed ∧
      r.read = .error (.badTimestamp .bindings text)) ∨
    (∀ ip : IPv4, r.address ≠ ip.render) ∧ r.read = .error (.badAddress r.address) := by
  rw [read, Timed, readTime, readTime]
  cases address : IPv4.parse? r.address with
  | none => exact Or.inr (Or.inr ⟨IPv4.parse?_eq_none_iff.mp address, rfl⟩)
  | some ip =>
      have spelled := IPv4.parse?_eq_some_iff.mp address
      cases Instant.parse? r.createdAt with
      | none => exact Or.inr (Or.inl ⟨ip, _, spelled, by simp, rfl⟩)
      | some created =>
          cases Instant.parse? r.updatedAt with
          | none => exact Or.inr (Or.inl ⟨ip, _, spelled, by simp, rfl⟩)
          | some updated => exact Or.inl ⟨ip, created, updated, spelled, ⟨rfl, rfl⟩, rfl⟩

/-- A row is read as a binding of an address exactly if it spells the address in its one form and
its times can be read. -/
theorem BindingRow.exists_read_iff {r : BindingRow} {ip : IPv4} :
    (∃ b, r.read = .ok b ∧ b.address = ip) ↔ r.address = ip.render ∧ r.Timed := by
  rcases r.read_cases with ⟨ip', created, updated, spelled, timed, read⟩ |
    ⟨ip', text, spelled, untimed, read⟩ | ⟨unspelled, read⟩
  · rw [read, spelled]
    constructor
    · rintro ⟨b, same, rfl⟩
      rw [← Except.ok.inj same]
      exact ⟨rfl, timed⟩
    · rintro ⟨same, -⟩
      exact ⟨_, rfl, IPv4.render_inj same⟩
  · rw [read]
    exact ⟨fun ⟨_, ok, _⟩ => (nomatch ok), fun h => absurd h.2 untimed⟩
  · rw [read]
    exact ⟨fun ⟨_, ok, _⟩ => (nomatch ok), fun h => absurd h.1 (unspelled ip)⟩

/-- A row's address is refused exactly if it is no address in its one form. -/
theorem BindingRow.read_eq_badAddress_iff {r : BindingRow} {text : String} :
    r.read = .error (.badAddress text) ↔
      text = r.address ∧ ∀ ip : IPv4, r.address ≠ ip.render := by
  rcases r.read_cases with ⟨ip', created, updated, spelled, timed, read⟩ |
    ⟨ip', text', spelled, untimed, read⟩ | ⟨unspelled, read⟩
  · rw [read]
    exact ⟨fun refused => (nomatch refused), fun h => absurd spelled (h.2 ip')⟩
  · rw [read]
    exact ⟨fun refused => (nomatch refused), fun h => absurd spelled (h.2 ip')⟩
  · rw [read]
    constructor
    · intro refused
      exact ⟨(Error.badAddress.inj (Except.error.inj refused)).symm, unspelled⟩
    · rintro ⟨rfl, -⟩
      rfl

/-- All rows that were written are read back, in their order. -/
theorem mapM_read_toRow {rows : List Binding} (h : ∀ b ∈ rows, b.Legible) :
    (rows.map Binding.toRow).mapM BindingRow.read = .ok rows := by
  induction rows with
  | nil => rfl
  | cons b rest ih =>
      obtain ⟨here, there⟩ := List.forall_mem_cons.mp h
      rw [List.map_cons, List.mapM_cons, read_toRow here, ih there]
      rfl

/-- Written rows have the same key as the bindings they spell. -/
theorem key_toRow_iff (portId : String) (ip : IPv4) (b : Binding) :
    b.toRow.key = (portId, ip.render) ↔ b.key = (portId, ip) := by
  rw [BindingRow.key, Binding.toRow, Binding.key, Prod.mk.injEq, Prod.mk.injEq]
  exact and_congr_right fun _ => ⟨IPv4.render_inj, congrArg IPv4.render⟩

/-- Looking up a written row finds the row of the binding that is looked up. -/
theorem find?_toRow (portId : String) (ip : IPv4) (rows : List Binding) :
    Table.find? BindingRow.key (portId, ip.render) (rows.map Binding.toRow)
      = (Table.find? Binding.key (portId, ip) rows).map Binding.toRow :=
  Table.find?_map fun b _ => key_toRow_iff portId ip b

/-- A binding that takes the place of a row keeps its key. -/
theorem key_inPlace (rows : List Binding) (b : Binding) : (b.inPlace rows).key = b.key := by
  rw [Binding.inPlace]
  split <;> rfl

/-- A binding that was put is found under its key, and under another key what was there. -/
theorem find?_putBinding (b : Binding) (rows : List Binding) (k : String × IPv4) :
    Table.find? Binding.key k (putBinding b rows)
      = if k = b.key then some (b.inPlace rows) else Table.find? Binding.key k rows := by
  rw [putBinding, Table.find?_put, key_inPlace]

/-- What takes the place of a legible row is legible. -/
theorem legible_inPlace {rows : List Binding} {b : Binding} (h : b.Legible)
    (hr : ∀ c ∈ rows, c.Legible) : (b.inPlace rows).Legible := by
  rw [Binding.inPlace]
  split
  · next old found => exact ⟨(hr old (Table.mem_of_find? found).1).1, h.2⟩
  · exact h

/-- Putting a written row writes the binding that is put. -/
theorem putRow_toRow (b : Binding) (rows : List Binding) :
    putRow b.toRow (rows.map Binding.toRow) = (putBinding b rows).map Binding.toRow := by
  have put : Table.put BindingRow.key (b.inPlace rows).toRow (rows.map Binding.toRow) = _ :=
    Table.put_map fun c _ => key_toRow_iff (b.inPlace rows).portId (b.inPlace rows).address c
  have row := find?_toRow b.portId b.address rows
  rw [putBinding, ← put, putRow, Binding.inPlace,
    show b.toRow.key = (b.portId, b.address.render) from rfl, row,
    show b.key = (b.portId, b.address) from rfl]
  cases found : Table.find? Binding.key (b.portId, b.address) rows with
  | none =>
      refine (Table.put_of_absent fun r hr => ?_).symm
      obtain ⟨c, hc, rfl⟩ := List.mem_map.mp hr
      exact fun same => Table.find?_eq_none_iff.mp found c hc ((key_toRow_iff _ _ c).mp same)
  | some old => rfl

/-- A row moves where no other row has its new key. -/
theorem moveRow_of_free {portId old : String} {moved : BindingRow → BindingRow}
    {rows : List BindingRow} {r : BindingRow}
    (row : Table.find? BindingRow.key (portId, old) rows = some r)
    (free : (Table.find? BindingRow.key (moved r).key rows).isSome = true →
      (moved r).key = r.key) :
    moveRow portId old moved rows
      = (.ok true, Table.modify BindingRow.key (portId, old) moved rows) := by
  rw [moveRow, row]
  exact if_neg fun ⟨other, taken⟩ => other (free taken)

/-- A row cannot move onto the key of another row, and nothing changes then. -/
theorem moveRow_of_taken {portId old : String} {moved : BindingRow → BindingRow}
    {rows : List BindingRow} {r : BindingRow}
    (row : Table.find? BindingRow.key (portId, old) rows = some r)
    (other : (moved r).key ≠ r.key)
    (taken : (Table.find? BindingRow.key (moved r).key rows).isSome = true) :
    moveRow portId old moved rows = (.error .database, rows) := by
  rw [moveRow, row]
  exact if_pos ⟨other, taken⟩

/-- The row of a binding among others. -/
theorem row_of_mem {bindings : List Binding} {b : Binding} (hb : b ∈ bindings)
    (keyed : Table.Keyed Binding.key bindings) :
    Table.find? BindingRow.key (b.portId, b.address.render) (bindings.map Binding.toRow)
      = some b.toRow := by
  rw [find?_toRow, show (b.portId, b.address) = b.key from rfl, keyed.find? hb]
  rfl

/-- A row is moved to a key that no other row has. -/
theorem moveRow_free {bindings : List Binding} {b : Binding}
    (keyed : Table.Keyed Binding.key bindings) (hb : b ∈ bindings) (subnetId : String) {ip : IPv4}
    (macAddress : String) (time : Instant)
    (free : ∀ c ∈ bindings, c.key = (b.portId, ip) → c = b) :
    moveRow b.portId b.address.render
      (fun r => { r with
        subnetId, address := ip.render, macAddress, updatedAt := time.render })
      (bindings.map Binding.toRow)
      = (.ok true, (Table.modify Binding.key b.key (.moved subnetId ip macAddress time)
          bindings).map Binding.toRow) := by
  rw [moveRow_of_free (row_of_mem hb keyed),
    Table.modify_map (g := .moved subnetId ip macAddress time)
      (fun c _ => key_toRow_iff b.portId b.address c) fun _ _ => rfl]
  · rfl
  · intro taken
    obtain ⟨r, found⟩ := Option.isSome_iff_exists.mp taken
    obtain ⟨hr, same⟩ := Table.mem_of_find? found
    obtain ⟨c, hc, rfl⟩ := List.mem_map.mp hr
    have itself := free c hc ((key_toRow_iff b.portId ip c).mp same)
    subst itself
    exact same.symm

/-- A row is not moved to the key of another one. -/
theorem moveRow_taken {bindings : List Binding} {b c : Binding}
    (keyed : Table.Keyed Binding.key bindings) (hb : b ∈ bindings) (hc : c ∈ bindings)
    (subnetId : String) {ip : IPv4} (macAddress : String) (time : Instant)
    (taken : c.key = (b.portId, ip)) (other : c ≠ b) :
    moveRow b.portId b.address.render
      (fun r => { r with
        subnetId, address := ip.render, macAddress, updatedAt := time.render })
      (bindings.map Binding.toRow) = (.error .database, bindings.map Binding.toRow) := by
  refine moveRow_of_taken (row_of_mem hb keyed) ?_ ?_
  · intro same
    have key : b.key = (b.portId, ip) := (key_toRow_iff b.portId ip b).mp same.symm
    exact other (keyed.eq_of_key hc hb (taken.trans key.symm))
  · show (Table.find? BindingRow.key (b.portId, ip.render) _).isSome = true
    rw [find?_toRow, ← taken, keyed.find? hc]
    rfl

/-- Removing a written row removes the binding it spells. -/
theorem removeRow_toRow (portId : String) (ip : IPv4) (bindings : List Binding) :
    Table.remove BindingRow.key (portId, ip.render) (bindings.map Binding.toRow)
      = (Table.remove Binding.key (portId, ip) bindings).map Binding.toRow :=
  Table.remove_map fun b _ => key_toRow_iff portId ip b

/-! ## One lemma for each statement -/

section Statements

variable {s : Store} {services : List Service} {bindings : List Binding}

/-- What the tables say is read back, so they say one thing only. -/
theorem Holds.bindings_unique {services' : List Service} {bindings' : List Binding}
    (h : s.Holds services bindings) (h' : s.Holds services' bindings') : bindings = bindings' := by
  have same : bindings.map Binding.toRow = bindings'.map Binding.toRow :=
    Option.some.inj (h.bindings_eq.symm.trans h'.bindings_eq)
  have read := mapM_read_toRow h.bindings_legible
  rw [same, mapM_read_toRow h'.bindings_legible] at read
  exact (Except.ok.inj read).symm

/-- A service is looked up by its network. -/
theorem Holds.getService (h : s.Holds services bindings) (networkId : String) :
    s.execute (.getService networkId)
      = (.ok (Table.find? Service.networkId networkId services), s) := by
  have found : Table.find? ServiceRow.networkId networkId (services.map Service.toRow)
      = (Table.find? Service.networkId networkId services).map Service.toRow :=
    Table.find?_map fun _ _ => Iff.rfl
  rw [execute, h.services_eq, readTable, found]
  cases here : Table.find? Service.networkId networkId services with
  | none => rfl
  | some x =>
      have legible := h.services_legible x (Table.mem_of_find? here).1
      show ((x.toRow.read.map some, s) : Except Error (Option Service) × Store) = _
      rw [read_toRow_service legible]
      rfl

/-- A service for a network without one is put behind the others. -/
theorem Holds.putService (h : s.Holds services bindings) {x : Service}
    (legible : x.createdAt.Legible) (new : ∀ y ∈ services, y.networkId ≠ x.networkId) :
    (s.execute (.putService x)).1 = .ok () ∧
      (s.execute (.putService x)).2.Holds (services ++ [x]) bindings := by
  have put : Table.put ServiceRow.networkId x.toRow (services.map Service.toRow)
      = (services ++ [x]).map Service.toRow := by
    rw [← Table.put_of_absent new]
    exact Table.put_map fun _ _ => Iff.rfl
  rw [execute, h.services_eq, onTable]
  refine ⟨rfl, congrArg some put, h.bindings_eq, ?_, h.bindings_legible⟩
  intro y hy
  rcases List.mem_append.mp hy with old | new
  · exact h.services_legible y old
  · rw [List.mem_singleton.mp new]
    exact legible

/-- A service is deleted by its network. -/
theorem Holds.deleteService (h : s.Holds services bindings) (networkId : String) :
    (∃ found, (s.execute (.deleteService networkId)).1 = .ok found) ∧
      (s.execute (.deleteService networkId)).2.Holds
        (Table.remove Service.networkId networkId services) bindings := by
  have removed : Table.remove ServiceRow.networkId networkId (services.map Service.toRow)
      = (Table.remove Service.networkId networkId services).map Service.toRow :=
    Table.remove_map fun _ _ => Iff.rfl
  rw [execute, h.services_eq, onTable]
  refine ⟨⟨_, rfl⟩, congrArg some removed, h.bindings_eq, ?_, h.bindings_legible⟩
  intro y hy
  exact h.services_legible y (Table.mem_remove.mp hy).1

/-! ### Bindings -/

/-- The rows of a store that holds services and rows. -/
theorem Holds.toBindings (h : s.Holds services bindings) : s.HoldsBindings bindings :=
  ⟨h.bindings_eq, h.bindings_legible⟩

/-- Only the table of bindings has changed. -/
theorem Holds.withBindings {s' : Store} {bindings' : List Binding} (h : s.Holds services bindings)
    (services_eq : s'.services = s.services) (h' : s'.HoldsBindings bindings') :
    s'.Holds services bindings' :=
  ⟨services_eq.trans h.services_eq, h'.bindings_eq, h.services_legible, h'.legible⟩

namespace HoldsBindings

/-- The rows of a port are listed. -/
theorem bindingsOf (h : s.HoldsBindings bindings) (portId : String) :
    s.execute (.bindingsOf portId) = (.ok (ofPort portId bindings), s) := by
  have rows : byCreation ((bindings.map Binding.toRow).filter (·.portId = portId))
      = (ofPort portId bindings).map Binding.toRow := by
    rw [byCreation, List.filter_map, ofPort]
    exact (List.map_mergeSort (f := Binding.toRow) fun _ _ _ _ => rfl).symm
  have legible : ∀ b ∈ ofPort portId bindings, b.Legible := fun b hb =>
    h.legible b (mem_ofPort.mp hb).1
  rw [execute, h.bindings_eq, readTable, rows, mapM_read_toRow legible]

/-- The rows under a server are listed. -/
theorem bindingsUnder (h : s.HoldsBindings bindings) (serverId : String) :
    s.execute (.bindingsUnder serverId) = (.ok (underServer serverId bindings), s) := by
  have rows : byPort ((bindings.map Binding.toRow).filter (·.serverId = serverId))
      = (underServer serverId bindings).map Binding.toRow := by
    rw [byPort, List.filter_map, underServer]
    exact (List.map_mergeSort (f := Binding.toRow) fun _ _ _ _ => rfl).symm
  have legible : ∀ b ∈ underServer serverId bindings, b.Legible := fun b hb =>
    h.legible b (mem_underServer.mp hb).1
  rw [execute, h.bindings_eq, readTable, rows, mapM_read_toRow legible]

/-- All rows are listed in the order of their creation. -/
theorem allBindings (h : s.HoldsBindings bindings) :
    s.execute .allBindings = (.ok (inOrder bindings), s) := by
  have rows : byPort (bindings.map Binding.toRow) = (inOrder bindings).map Binding.toRow := by
    rw [byPort, inOrder]
    exact (List.map_mergeSort (f := Binding.toRow) fun _ _ _ _ => rfl).symm
  have legible : ∀ b ∈ inOrder bindings, b.Legible := fun b hb =>
    h.legible b (List.mem_mergeSort.mp hb)
  rw [execute, h.bindings_eq, readTable, rows, mapM_read_toRow legible]

/-- A row is put, and keeps the time of creation of the row whose place it takes. -/
theorem putBinding (h : s.HoldsBindings bindings) {b : Binding} (legible : b.Legible) :
    (s.execute (.putBinding b)).1 = .ok () ∧
      (s.execute (.putBinding b)).2.HoldsBindings (Store.putBinding b bindings) := by
  rw [execute, h.bindings_eq, onTable, putRow_toRow]
  refine ⟨rfl, rfl, ?_⟩
  intro c hc
  rcases Table.eq_or_mem_of_mem_put hc with rfl | old
  · exact legible_inPlace legible h.legible
  · exact h.legible c old

/-- A binding is moved to a key that no other one has. -/
theorem moveBinding (h : s.HoldsBindings bindings) (keyed : Table.Keyed Binding.key bindings)
    {b : Binding} (hb : b ∈ bindings) (subnetId : String) (ip : IPv4) (macAddress : String)
    {time : Instant} (legible : time.Legible)
    (free : ∀ c ∈ bindings, c.key = (b.portId, ip) → c = b) :
    (s.execute (.moveBinding b.portId b.address subnetId ip macAddress time)).1 = .ok true ∧
      (s.execute (.moveBinding b.portId b.address subnetId ip macAddress time)).2.HoldsBindings
        (Table.modify Binding.key b.key (.moved subnetId ip macAddress time) bindings) := by
  have step := moveRow_free keyed hb subnetId macAddress time free
  rw [execute, h.bindings_eq, onTable]
  dsimp only
  rw [step]
  refine ⟨rfl, rfl, ?_⟩
  intro c hc
  rcases Table.mem_or_eq_of_mem_modify hc with old | ⟨a, ha, rfl⟩
  · exact h.legible c old
  · exact ⟨(h.legible a ha).1, legible⟩

/-- A binding is not moved to the key of another one. -/
theorem moveBinding_taken (h : s.HoldsBindings bindings)
    (keyed : Table.Keyed Binding.key bindings) {b c : Binding} (hb : b ∈ bindings)
    (hc : c ∈ bindings) (subnetId : String) {ip : IPv4} (macAddress : String) (time : Instant)
    (taken : c.key = (b.portId, ip)) (other : c ≠ b) :
    s.execute (.moveBinding b.portId b.address subnetId ip macAddress time)
      = (.error .database, s) := by
  have step := moveRow_taken keyed hb hc subnetId macAddress time taken other
  rw [execute, h.bindings_eq, onTable]
  dsimp only
  rw [step, ← h.bindings_eq]

/-- No binding is moved from a key that there is not. -/
theorem moveBinding_missing (h : s.HoldsBindings bindings) {portId : String} {old : IPv4}
    (missing : Table.find? Binding.key (portId, old) bindings = none) (subnetId : String)
    (ip : IPv4) (macAddress : String) (time : Instant) :
    s.execute (.moveBinding portId old subnetId ip macAddress time) = (.ok false, s) := by
  have none : Table.find? BindingRow.key (portId, old.render) (bindings.map Binding.toRow)
      = none := by
    rw [find?_toRow, missing]
    rfl
  rw [execute, h.bindings_eq, onTable]
  dsimp only
  rw [moveRow, none, ← h.bindings_eq]

/-- A row is deleted by its key, and the answer says whether there was one. -/
theorem deleteBinding (h : s.HoldsBindings bindings) (portId : String) (ip : IPv4) :
    (s.execute (.deleteBinding portId ip)).1
        = .ok (Table.find? Binding.key (portId, ip) bindings).isSome ∧
      (s.execute (.deleteBinding portId ip)).2.HoldsBindings
        (Table.remove Binding.key (portId, ip) bindings) := by
  have removed := removeRow_toRow portId ip bindings
  have found : (bindings.map Binding.toRow).any (·.key = (portId, ip.render))
      = (Table.find? Binding.key (portId, ip) bindings).isSome := by
    rw [← List.isSome_find?]
    show (Table.find? BindingRow.key (portId, ip.render) _).isSome = _
    rw [find?_toRow, Option.isSome_map]
  rw [execute, h.bindings_eq, onTable]
  refine ⟨congrArg Except.ok found, congrArg some removed, ?_⟩
  intro b hb
  exact h.legible b (Table.mem_remove.mp hb).1

end HoldsBindings

/-- The rows of a port are listed, and services do not matter. -/
theorem Holds.bindingsOf (h : s.Holds services bindings) (portId : String) :
    s.execute (.bindingsOf portId) = (.ok (ofPort portId bindings), s) :=
  h.toBindings.bindingsOf portId

/-- The rows under a server are listed, and services do not matter. -/
theorem Holds.bindingsUnder (h : s.Holds services bindings) (serverId : String) :
    s.execute (.bindingsUnder serverId) = (.ok (underServer serverId bindings), s) :=
  h.toBindings.bindingsUnder serverId

/-- Putting a row leaves the services as they are. -/
theorem Holds.putBinding (h : s.Holds services bindings) {b : Binding} (legible : b.Legible) :
    (s.execute (.putBinding b)).1 = .ok () ∧
      (s.execute (.putBinding b)).2.Holds services (Store.putBinding b bindings) :=
  (h.toBindings.putBinding legible).imp_right (h.withBindings rfl)

/-- A binding is moved to a key that no other one has. -/
theorem Holds.moveBinding (h : s.Holds services bindings)
    (keyed : Table.Keyed Binding.key bindings) {b : Binding} (hb : b ∈ bindings)
    (subnetId : String) (ip : IPv4) (macAddress : String) {time : Instant}
    (legible : time.Legible) (free : ∀ c ∈ bindings, c.key = (b.portId, ip) → c = b) :
    (s.execute (.moveBinding b.portId b.address subnetId ip macAddress time)).1 = .ok true ∧
      (s.execute (.moveBinding b.portId b.address subnetId ip macAddress time)).2.Holds services
        (Table.modify Binding.key b.key (.moved subnetId ip macAddress time) bindings) :=
  (h.toBindings.moveBinding keyed hb subnetId ip macAddress legible free).imp_right
    (h.withBindings rfl)

/-- A binding is not moved to the key of another one. -/
theorem Holds.moveBinding_taken (h : s.Holds services bindings)
    (keyed : Table.Keyed Binding.key bindings) {b c : Binding} (hb : b ∈ bindings)
    (hc : c ∈ bindings) (subnetId : String) {ip : IPv4} (macAddress : String) (time : Instant)
    (taken : c.key = (b.portId, ip)) (other : c ≠ b) :
    s.execute (.moveBinding b.portId b.address subnetId ip macAddress time)
      = (.error .database, s) :=
  h.toBindings.moveBinding_taken keyed hb hc subnetId macAddress time taken other

/-- Deleting a row leaves the services as they are. -/
theorem Holds.deleteBinding (h : s.Holds services bindings) (portId : String) (ip : IPv4) :
    (∃ found, (s.execute (.deleteBinding portId ip)).1 = .ok found) ∧
      (s.execute (.deleteBinding portId ip)).2.Holds services
        (Table.remove Binding.key (portId, ip) bindings) :=
  (h.toBindings.deleteBinding portId ip).imp (fun answer => ⟨_, answer⟩) (h.withBindings rfl)

end Statements

end Overlay.Store
