import Overlay.Store.Record
import Overlay.Table

/-!
# The mapping store

Four tables with primary keys: services by network, bindings by port and address text, mappings by
network and by port. A table may be gone; until the store is opened again, every statement on it is
an error of the database. Listings are sorted by the text of their columns, character by character,
and the first row that cannot be read is the error of the whole listing.
-/

namespace Overlay

/-- The tables of the store; a table that is gone is `none`. -/
structure Store where
  services : Option (List Store.ServiceRow)
  bindings : Option (List Store.BindingRow)
  networks : Option (List Store.NetworkMapping)
  ports : Option (List Store.PortMapping)
  deriving DecidableEq, Repr

namespace Store

/-- The primary key of a binding. -/
def BindingRow.key (r : BindingRow) : String × String := (r.portId, r.address)

/-- A new store, with all tables empty. -/
def empty : Store := ⟨some [], some [], some [], some []⟩

/-- The store as it is found when it is opened: missing tables are made anew. -/
def reopen (s : Store) : Store :=
  ⟨some (s.services.getD []), some (s.bindings.getD []), some (s.networks.getD []),
    some (s.ports.getD [])⟩

/-- The store without one of its tables. -/
def dropTable (s : Store) : TableName → Store
  | .services => { s with services := none }
  | .bindings => { s with bindings := none }
  | .networks => { s with networks := none }
  | .ports => { s with ports := none }

/-- Puts a row of text among the services. -/
def putServiceRow (s : Store) (r : ServiceRow) : Store :=
  { s with services := s.services.map (Table.put ServiceRow.networkId r) }

/-- Puts a row of text among the bindings. -/
def putBindingRow (s : Store) (r : BindingRow) : Store :=
  { s with bindings := s.bindings.map (Table.put BindingRow.key r) }

/-! ## Statements -/

/-- A statement on the store. -/
inductive Statement where
  /-- Adds the service of a network, or replaces it. -/
  | putService (service : Service)
  | getService (networkId : String)
  | deleteService (networkId : String)
  /-- Adds a binding, or replaces all of the one for its port and address but its creation time. -/
  | putBinding (binding : Binding)
  /-- Moves a binding to another address, subnet and MAC address, and says when. -/
  | moveBinding (portId : String) (old : IPv4) (subnetId : String) (new : IPv4)
      (macAddress : String) (time : Instant)
  /-- The bindings of a port by creation time, then address. -/
  | bindingsOf (portId : String)
  /-- The bindings under a server by port, then address. -/
  | bindingsUnder (serverId : String)
  /-- All bindings by port, then address. -/
  | allBindings
  | deleteBinding (portId : String) (address : IPv4)
  | putNetwork (mapping : NetworkMapping)
  | getSwitch (networkId : String)
  | putPort (mapping : PortMapping)
  | getPort (portId : String)
  deriving DecidableEq, Repr

/-- The type of the answer to a statement. Changes and removals answer whether there was a row. -/
abbrev Statement.Answer : Statement → Type
  | .putService _ => Unit
  | .getService _ => Option Service
  | .deleteService _ => Bool
  | .putBinding _ => Unit
  | .moveBinding .. => Bool
  | .bindingsOf _ => List Binding
  | .bindingsUnder _ => List Binding
  | .allBindings => List Binding
  | .deleteBinding .. => Bool
  | .putNetwork _ => Unit
  | .getSwitch _ => Option String
  | .putPort _ => Unit
  | .getPort _ => Option PortMapping

/-- A pair of columns, in the order of the first and then the second. -/
def columnsLe (a b : String × String) : Bool := a.1 < b.1 || (a.1 == b.1 && a.2 ≤ b.2)

/-- Rows of bindings by port, then address. -/
def byPort (rows : List BindingRow) : List BindingRow :=
  rows.mergeSort fun a b => columnsLe (a.portId, a.address) (b.portId, b.address)

/-- Rows of bindings by creation time, then address. -/
def byCreation (rows : List BindingRow) : List BindingRow :=
  rows.mergeSort fun a b => columnsLe (a.createdAt, a.address) (b.createdAt, b.address)

/-- The row that takes the place of another one of its key: the creation time stays. -/
def BindingRow.keepCreation (old new : BindingRow) : BindingRow :=
  { new with createdAt := old.createdAt }

/-- The rows with a binding added or replaced. -/
def putRow (r : BindingRow) (rows : List BindingRow) : List BindingRow :=
  match Table.find? BindingRow.key r.key rows with
  | some old => Table.put BindingRow.key (old.keepCreation r) rows
  | none => rows ++ [r]

/-- The answer to a statement on a table, and what it leaves of the table. A missing table is an
error of the database and stays missing. -/
def onTable {ρ α : Type} (table : Option (List ρ)) (f : List ρ → Except Error α × List ρ) :
    Except Error α × Option (List ρ) :=
  match table with
  | none => (.error .database, none)
  | some rows => let (a, rows) := f rows; (a, some rows)

/-- The answer to a statement that only reads a table. -/
def readTable {ρ α : Type} (table : Option (List ρ)) (f : List ρ → Except Error α) :
    Except Error α :=
  match table with
  | none => .error .database
  | some rows => f rows

/-- Moves the row at one key to another. The new key must not be taken by another row. -/
def moveRow (portId old : String) (moved : BindingRow → BindingRow) (rows : List BindingRow) :
    Except Error Bool × List BindingRow :=
  match Table.find? BindingRow.key (portId, old) rows with
  | none => (.ok false, rows)
  | some row =>
    let target := (moved row).key
    if target ≠ row.key ∧ (Table.find? BindingRow.key target rows).isSome then
      (.error .database, rows)
    else (.ok true, Table.modify BindingRow.key (portId, old) moved rows)

/-- The answer to a statement, and what it leaves. -/
def execute (s : Store) : (st : Statement) → Except Error st.Answer × Store
  | .putService service =>
    let (a, t) := onTable s.services fun rows =>
      (.ok (), Table.put ServiceRow.networkId service.toRow rows)
    (a, { s with services := t })
  | .getService networkId =>
    (readTable s.services fun rows =>
      match Table.find? ServiceRow.networkId networkId rows with
      | none => .ok none
      | some r => r.read.map some, s)
  | .deleteService networkId =>
    let (a, t) := onTable s.services fun rows =>
      (.ok (rows.any (·.networkId = networkId)),
        Table.remove ServiceRow.networkId networkId rows)
    (a, { s with services := t })
  | .putBinding b =>
    let (a, t) := onTable s.bindings fun rows => (.ok (), putRow b.toRow rows)
    (a, { s with bindings := t })
  | .moveBinding portId old subnetId new macAddress time =>
    let (a, t) := onTable s.bindings
      (moveRow portId old.render fun r =>
        { r with subnetId, address := new.render, macAddress, updatedAt := time.render })
    (a, { s with bindings := t })
  | .bindingsOf portId =>
    (readTable s.bindings fun rows =>
      (byCreation (rows.filter (·.portId = portId))).mapM BindingRow.read, s)
  | .bindingsUnder serverId =>
    (readTable s.bindings fun rows =>
      (byPort (rows.filter (·.serverId = serverId))).mapM BindingRow.read, s)
  | .allBindings => (readTable s.bindings fun rows => (byPort rows).mapM BindingRow.read, s)
  | .deleteBinding portId address =>
    let key := (portId, address.render)
    let (a, t) := onTable s.bindings fun rows =>
      (.ok (rows.any (·.key = key)), Table.remove BindingRow.key key rows)
    (a, { s with bindings := t })
  | .putNetwork m =>
    let (a, t) := onTable s.networks fun rows =>
      (.ok (), Table.put NetworkMapping.networkId m rows)
    (a, { s with networks := t })
  | .getSwitch networkId =>
    (readTable s.networks fun rows =>
      .ok ((Table.find? NetworkMapping.networkId networkId rows).map (·.switchId)), s)
  | .putPort m =>
    let (a, t) := onTable s.ports fun rows => (.ok (), Table.put PortMapping.portId m rows)
    (a, { s with ports := t })
  | .getPort portId =>
    (readTable s.ports fun rows => .ok (Table.find? PortMapping.portId portId rows), s)

end Store

end Overlay
