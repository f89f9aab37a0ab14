import Overlay.Address.IPv4
import Overlay.Time.Timestamp

/-!
# Records of the mapping store

What is remembered between events: the DHCP server of a network, the static bindings of a port, and
the controller's switches and switch ports behind tenant networks and ports. The first two are kept
as rows of text, so they are read back with a check: the address must be an IPv4 address and every
time a timestamp.
-/

namespace Overlay.Store

/-- The tables of the store. -/
inductive TableName where
  | services
  | bindings
  | networks
  | ports
  deriving DecidableEq, Repr

/-- Why a statement has no answer. -/
inductive Error where
  /-- The database does not carry out the statement. -/
  | database
  /-- A row's address is none of IPv4. -/
  | badAddress (text : String)
  /-- A row's time is no timestamp. -/
  | badTimestamp (table : TableName) (text : String)
  deriving DecidableEq, Repr

/-- The name of a table in the database. -/
def TableName.text : TableName → String
  | .services => "dhcp_service_bindings"
  | .bindings => "dhcp_bindings"
  | .networks => "network_mappings"
  | .ports => "port_mappings"

/-- The wording of an error. -/
def Error.message : Error → String
  | .database => "database error"
  | .badAddress text =>
    s!"invalid record in {TableName.text .bindings}: bad IPv4 address '" ++ text ++ "'"
  | .badTimestamp table text =>
    s!"invalid record in {table.text}: bad timestamp '" ++ text ++ "'"

/-- The DHCP server of a network, and the DHCP port it was made for. -/
structure Service where
  networkId : String
  portId : String
  serverId : String
  createdAt : Instant
  deriving DecidableEq, Repr

/-- A static binding of one address of a port. -/
structure Binding where
  portId : String
  subnetId : String
  address : IPv4
  macAddress : String
  serverId : String
  bindingId : String
  createdAt : Instant
  updatedAt : Instant
  deriving DecidableEq, Repr

/-- The switch behind a network. -/
structure NetworkMapping where
  networkId : String
  switchId : String
  deriving DecidableEq, Repr

/-- The switch and switch port behind a port. -/
structure PortMapping where
  portId : String
  switchId : String
  switchPortId : String
  deriving DecidableEq, Repr

/-- A service as it is kept. -/
structure ServiceRow where
  networkId : String
  portId : String
  serverId : String
  createdAt : String
  deriving DecidableEq, Repr

/-- A binding as it is kept. -/
structure BindingRow where
  portId : String
  subnetId : String
  address : String
  macAddress : String
  serverId : String
  bindingId : String
  createdAt : String
  updatedAt : String
  deriving DecidableEq, Repr

/-- What a service is kept as. -/
def Service.toRow (s : Service) : ServiceRow :=
  ⟨s.networkId, s.portId, s.serverId, s.createdAt.render⟩

/-- What a binding is kept as. -/
def Binding.toRow (b : Binding) : BindingRow :=
  ⟨b.portId, b.subnetId, b.address.render, b.macAddress, b.serverId, b.bindingId,
    b.createdAt.render, b.updatedAt.render⟩

/-- The time that a text in a table spells. -/
def readTime (table : TableName) (text : String) : Except Error Instant :=
  match Instant.parse? text with
  | some t => .ok t
  | none => .error (.badTimestamp table text)

/-- The service that a row keeps. -/
def ServiceRow.read (r : ServiceRow) : Except Error Service := do
  let createdAt ← readTime .services r.createdAt
  return ⟨r.networkId, r.portId, r.serverId, createdAt⟩

/-- The binding that a row keeps; the address is checked first, then the two times. -/
def BindingRow.read (r : BindingRow) : Except Error Binding := do
  let address ← match IPv4.parse? r.address with
    | some ip => pure ip
    | none => throw (.badAddress r.address)
  let createdAt ← readTime .bindings r.createdAt
  let updatedAt ← readTime .bindings r.updatedAt
  return ⟨r.portId, r.subnetId, address, r.macAddress, r.serverId, r.bindingId, createdAt,
    updatedAt⟩

end Overlay.Store
