import Overlay.Table
import Overlay.Tenant.Basic

/-!
# The catalog

Where the tenant framework's current networks, subnets and ports are looked up. Listings keep the
order in which records first came. The catalog may be out of reach; then a look-up has an error for
an answer.
-/

namespace Overlay

/-- The tenant records of the moment. -/
structure Catalog where
  networks : List Network
  subnets : List Subnet
  ports : List Port
  deriving DecidableEq, Repr

namespace Catalog

/-- Why a look-up has no answer. -/
inductive Error where
  | unavailable (detail : String)
  deriving DecidableEq, Repr

/-- The wording of an error. -/
def Error.message : Error → String
  | .unavailable detail => "catalog unavailable: " ++ detail

/-- What a look-up asks for, without its arguments. -/
inductive Topic where
  | network
  | subnet
  | port
  | subnetsOf
  | ports
  deriving DecidableEq, Repr

/-- A look-up. -/
inductive Query where
  | network (id : String)
  | subnet (id : String)
  | port (id : String)
  | subnetsOf (networkId : String)
  | ports
  deriving DecidableEq, Repr

/-- What a look-up asks for. -/
def Query.topic : Query → Topic
  | .network _ => .network
  | .subnet _ => .subnet
  | .port _ => .port
  | .subnetsOf _ => .subnetsOf
  | .ports => .ports

/-- The type of the answer to a look-up. -/
abbrev Query.Answer : Query → Type
  | .network _ => Option Network
  | .subnet _ => Option Subnet
  | .port _ => Option Port
  | .subnetsOf _ => List Subnet
  | .ports => List Port

/-- The catalog without any records. -/
def empty : Catalog := ⟨[], [], []⟩

/-- Adds or replaces a network. -/
def addNetwork (c : Catalog) (n : Network) : Catalog :=
  { c with networks := Table.put Network.id n c.networks }

/-- Adds or replaces a subnet. -/
def addSubnet (c : Catalog) (s : Subnet) : Catalog :=
  { c with subnets := Table.put Subnet.id s c.subnets }

/-- Adds or replaces a port. -/
def addPort (c : Catalog) (p : Port) : Catalog :=
  { c with ports := Table.put Port.id p c.ports }

/-- Removes a subnet. -/
def removeSubnet (c : Catalog) (id : String) : Catalog :=
  { c with subnets := Table.remove Subnet.id id c.subnets }

/-- Removes a port. -/
def removePort (c : Catalog) (id : String) : Catalog :=
  { c with ports := Table.remove Port.id id c.ports }

/-- The answer to a look-up. -/
def answer (c : Catalog) : (q : Query) → q.Answer
  | .network id => Table.find? Network.id id c.networks
  | .subnet id => Table.find? Subnet.id id c.subnets
  | .port id => Table.find? Port.id id c.ports
  | .subnetsOf networkId => c.subnets.filter (·.networkId = networkId)
  | .ports => c.ports

end Catalog

end Overlay
