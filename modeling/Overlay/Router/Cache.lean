import Overlay.Table

/-!
# Validated tier-0 routers

What is known of a tier-0 router once it has been validated, and the memory of such validations. An
entry stays until the memory is cleared as a whole.
-/

namespace Overlay

/-- A tier-0 router that can host links, with its edge cluster and the cluster's members. -/
structure Tier0 where
  id : String
  clusterId : String
  members : List UInt32
  deriving DecidableEq, Repr

/-- The tier-0 routers that have been validated. -/
structure Tier0Cache where
  entries : List Tier0
  deriving DecidableEq, Repr

namespace Tier0Cache

/-- The memory of nothing. -/
def empty : Tier0Cache := ⟨[]⟩

/-- What is remembered of a router. -/
def get? (c : Tier0Cache) (id : String) : Option Tier0 := Table.find? Tier0.id id c.entries

/-- Remembers a validated router. -/
def insert (c : Tier0Cache) (t : Tier0) : Tier0Cache := ⟨Table.put Tier0.id t c.entries⟩

/-- How many routers are remembered. -/
def size (c : Tier0Cache) : Nat := c.entries.length

theorem get?_insert_self (c : Tier0Cache) (t : Tier0) : (c.insert t).get? t.id = some t :=
  Table.find?_put_self Tier0.id t c.entries

theorem get?_insert_of_ne (c : Tier0Cache) {t : Tier0} {id : String} (h : t.id ≠ id) :
    (c.insert t).get? id = c.get? id :=
  Table.find?_put_of_ne Tier0.id h c.entries

end Tier0Cache

end Overlay
