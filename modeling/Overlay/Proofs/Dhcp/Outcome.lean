import Overlay.Proofs.Dhcp.Agreement
import Overlay.Proofs.Dhcp.Strays

/-!
# What plain acts come to

An act is plain if it makes a server or binds an address and meets no fault. A path of plain acts
from a ledger without rows comes to a ledger that the acts determine but for times and the names of
bindings: servers are named in the order in which they are made, the row of a key is that of the
last binding for it, and beside what the controller held before it holds one binding for each row.

So two paths of plain acts come to the same if they make the same servers and if for every port they
bind the same addresses in the same order, however the ports take turns.

Main statement: `alike_of_plain`.
-/

namespace Overlay.Dhcp

open Overlay.Controller (HeldServer HeldBinding)

/-- The act makes a server or binds an address, and no fault is met. -/
def Act.Plain : Act → Prop
  | serve .. => True
  | bind _ _ _ _ missing => missing = none
  | _ => False

theorem Act.Plain.builds {a : Act} (plain : a.Plain) : a.Builds := by
  cases a <;> trivial

theorem Act.Plain.clean {a : Act} (plain : a.Plain) : a.fault? = none := by
  cases a with
  | bind x portId d time missing =>
      cases show missing = none from plain
      rfl
  | serve _ _ _ _ => rfl
  | _ => exact plain.elim

variable {l l' : Ledger} {acts : List Act}

/-! ## Servers -/

/-- The owners of servers that are made after `m` others. -/
def madeServices (m : Nat) :
    List (String × String × DhcpServerConfig) → List (String × String × String)
  | [] => []
  | (networkId, portId, _) :: rest =>
    (networkId, portId, Controller.State.serverName (m + 1)) :: madeServices (m + 1) rest

/-- Servers that are made after `m` others. -/
def madeServers (m : Nat) : List (String × String × DhcpServerConfig) → List HeldServer
  | [] => []
  | (_, _, config) :: rest =>
    ⟨Controller.State.serverName (m + 1), config⟩ :: madeServers (m + 1) rest

/-- A service without its time. -/
def owner (x : Store.Service) : String × String × String := (x.networkId, x.portId, x.serverId)

theorem Path.servers_eq (path : Path l acts l') (plain : ∀ a ∈ acts, a.Plain) :
    l'.services.map owner
        = l.services.map owner ++ madeServices l.serversMade (acts.filterMap Act.served?) ∧
      l'.servers = l.servers ++ madeServers l.serversMade (acts.filterMap Act.served?) := by
  induction path with
  | nil l => exact ⟨(List.append_nil _).symm, (List.append_nil _).symm⟩
  | @cons l l' a acts fits rest ih =>
      obtain ⟨here, there⟩ := List.forall_mem_cons.mp plain
      obtain ⟨services, servers⟩ := ih there
      rw [services, servers]
      cases a with
      | serve networkId portId config time =>
          constructor
          · show (l.services ++ [_]).map _ ++ _ = _
            rw [List.map_append, List.append_assoc]
            rfl
          · show (l.servers ++ [_]) ++ _ = _
            rw [List.append_assoc]
            rfl
      | bind x portId d time m =>
          obtain ⟨held, eq, -⟩ := (l.create x d).supersede_eq (l.row? portId d.address) m
          rw [Act.apply, eq]
          exact ⟨rfl, rfl⟩
      | _ => exact here.elim

/-! ## Rows -/

/-- A row without times and without the name of its binding: server, port and address. -/
def entry (b : Store.Binding) : String × String × Desired :=
  (b.serverId, b.portId, ⟨b.subnetId, b.address, b.macAddress⟩)

/-- The port and address that an entry is for. -/
def place (e : String × String × Desired) : String × IPv4 := (e.2.1, e.2.2.address)

theorem entry_inPlace (rows : List Store.Binding) (b : Store.Binding) :
    entry (b.inPlace rows) = entry b := by
  rw [Store.Binding.inPlace]
  split <;> rfl

/-- What an act writes into the row of its address. -/
def Act.wrote? (a : Act) : Option (String × String × Desired) :=
  a.bound?.map fun b => (b.1.serverId, b.2)

/-- The last entry for a port and address. -/
def lastAt (k : String × IPv4) :
    List (String × String × Desired) → Option (String × String × Desired)
  | [] => none
  | e :: rest => (lastAt k rest).or (if place e = k then some e else none)

/-- Where there is an entry, there is a last one. -/
theorem lastAt_isSome {e : String × String × Desired} {entries : List (String × String × Desired)}
    (he : e ∈ entries) : (lastAt (place e) entries).isSome = true := by
  induction entries with
  | nil => cases he
  | cons f rest ih =>
      rw [lastAt, Option.isSome_or, Bool.or_eq_true]
      rcases List.mem_cons.mp he with rfl | later
      · exact Or.inr (by rw [if_pos rfl]; rfl)
      · exact Or.inl (ih later)

/-- Only entries of the port matter. -/
theorem lastAt_filter (k : String × IPv4) (entries : List (String × String × Desired)) :
    lastAt k (entries.filter fun e => e.2.1 = k.1) = lastAt k entries := by
  induction entries with
  | nil => rfl
  | cons e rest ih =>
      by_cases mine : e.2.1 = k.1
      · rw [List.filter_cons_of_pos (by simpa using mine), lastAt, lastAt, ih]
      · have other : place e ≠ k := fun same => mine (congrArg Prod.fst same)
        rw [List.filter_cons_of_neg (by simpa using mine), lastAt, ih, if_neg other, Option.or_none]

/-- The row of a key is that of the last binding for it. -/
theorem Path.row_eq (path : Path l acts l') (plain : ∀ a ∈ acts, a.Plain) (k : String × IPv4) :
    (Table.find? Store.Binding.key k l'.rows).map entry
      = (lastAt k (acts.filterMap Act.wrote?)).or
          ((Table.find? Store.Binding.key k l.rows).map entry) := by
  induction path with
  | nil l => rfl
  | @cons l l' a acts fits rest ih =>
      obtain ⟨here, there⟩ := List.forall_mem_cons.mp plain
      rw [ih there]
      cases a with
      | serve networkId portId config time => rfl
      | bind x portId d time m =>
          have wrote : (Act.bind x portId d time m :: acts).filterMap Act.wrote?
              = (x.serverId, portId, d) :: acts.filterMap Act.wrote? := rfl
          have rows : ((Act.bind x portId d time m).apply l).rows
              = Store.putBinding (l.newRow x portId d time) l.rows := rfl
          rw [wrote, lastAt, Option.or_assoc, rows, Store.find?_putBinding]
          congr 1
          by_cases same : k = (l.newRow x portId d time).key
          · rw [if_pos same, if_pos (show place (x.serverId, portId, d) = k from same.symm),
              Option.map_some, entry_inPlace]
            rfl
          · rw [if_neg same, if_neg fun here => same here.symm]
            rfl
      | _ => exact here.elim

/-! ## Bindings at the controller -/

/-- A binding without its own name. -/
def content (h : HeldBinding) : String × String × IPv4 × String :=
  (h.serverId, h.macAddress, h.address, h.hostName)

/-- What the controller holds for a row, without its name. -/
def contentOf (e : String × String × Desired) : String × String × IPv4 × String :=
  (e.1, e.2.2.macAddress, e.2.2.address, hostName e.2.2.address)

theorem Path.plain_kept (path : Path l acts l') (plain : ∀ a ∈ acts, a.Plain) (linked : l.Linked)
    (agreed : l.Agreed) : l'.Agreed ∧ ∀ h, l'.Stray h ↔ l.Stray h := by
  have kept : l'.Linked ∧ l'.Agreed ∧ ∀ h, l'.Stray h ↔ l.Stray h := by
    refine path.keeps (P := fun m => m.Linked ∧ m.Agreed ∧ ∀ h, m.Stray h ↔ l.Stray h)
      ⟨linked, agreed, fun _ => Iff.rfl⟩ ?_
    rintro a ha m fits ⟨linked, agreed, strays⟩
    have here := plain a ha
    refine ⟨linked.apply fits, agreed.apply linked fits ?_, fun h => ?_⟩
    · rintro b c d rfl
      exact here.elim
    · rw [← strays h]
      exact ⟨fun stray => stray.of_apply linked fits here.clean,
        fun stray => stray.apply linked here.builds⟩
  exact kept.2

theorem keyed_heldFor (linked : l.Linked) : Table.Keyed heldFor l.rows :=
  linked.names_keyed.of_key fun _ _ _ _ same => congrArg HeldBinding.id same

/-- The controller holds one binding for each row, and strays. -/
theorem perm_held (linked : l.Linked) (agreed : l.Agreed) {strays : List HeldBinding}
    (distinct : strays.Nodup) (all : ∀ h, l.Stray h ↔ h ∈ strays) :
    l.held.Perm (l.rows.map heldFor ++ strays) := by
  refine (List.perm_ext_iff_of_nodup linked.held_keyed.nodup ?_).mpr fun h => ?_
  · refine List.nodup_append.mpr ⟨keyed_heldFor linked, distinct, ?_⟩
    rintro g hg h hh rfl
    obtain ⟨b, hb, rfl⟩ := List.mem_map.mp hg
    exact ((all _).mpr hh).2 b hb rfl
  · rw [List.mem_append, ← all]
    constructor
    · intro hh
      by_cases named : ∃ b ∈ l.rows, b.name = h.key
      · obtain ⟨b, hb, name⟩ := named
        refine Or.inl (List.mem_map.mpr ⟨b, hb, ?_⟩)
        exact linked.held_keys.eq_of_key (agreed b hb) hh name
      · exact Or.inr ⟨hh, fun b hb same => named ⟨b, hb, same⟩⟩
    · rintro (row | stray)
      · obtain ⟨b, hb, rfl⟩ := List.mem_map.mp row
        exact agreed b hb
      · exact stray.1

/-- The same as far as names of bindings do not matter. -/
theorem perm_content (linked : l.Linked) (agreed : l.Agreed) {strays : List HeldBinding}
    (distinct : strays.Nodup) (all : ∀ h, l.Stray h ↔ h ∈ strays) :
    (l.held.map content).Perm ((l.rows.map entry).map contentOf ++ strays.map content) := by
  have contents := (perm_held linked agreed distinct all).map content
  rw [List.map_append, List.map_map] at contents
  rw [List.map_map]
  exact contents

/-! ## Two paths -/

/-- Two ledgers are the same but for times, names of bindings and the order of rows and bindings. -/
structure Alike (l l' : Ledger) : Prop where
  services : l.services.map owner = l'.services.map owner
  servers : l.servers = l'.servers
  rows : (l.rows.map entry).Perm (l'.rows.map entry)
  held : (l.held.map content).Perm (l'.held.map content)

/-- Paths of plain acts from a ledger without rows come to the same if they make the same servers
and bind the same addresses of each port. -/
theorem alike_of_plain {l₁ l₂ : Ledger} {acts₁ acts₂ : List Act} (linked : l.Linked)
    (rows : l.rows = []) (path₁ : Path l acts₁ l₁) (path₂ : Path l acts₂ l₂)
    (plain₁ : ∀ a ∈ acts₁, a.Plain) (plain₂ : ∀ a ∈ acts₂, a.Plain)
    (servers : acts₁.filterMap Act.served? = acts₂.filterMap Act.served?)
    (binds : ∀ portId, (acts₁.filterMap Act.wrote?).filter (fun e => e.2.1 = portId)
      = (acts₂.filterMap Act.wrote?).filter fun e => e.2.1 = portId) : Alike l₁ l₂ := by
  have agreed : l.Agreed := fun b hb => nomatch rows ▸ hb
  have strays : ∀ h, l.Stray h ↔ h ∈ l.held := fun h =>
    ⟨fun stray => stray.1, fun hh => ⟨hh, fun b hb => nomatch rows ▸ hb⟩⟩
  have distinct := linked.held_keyed.nodup
  have linked₁ := path₁.linked linked
  have linked₂ := path₂.linked linked
  -- a row depends only on what was written for its own port
  have found : ∀ k, (Table.find? Store.Binding.key k l₁.rows).map entry
      = (Table.find? Store.Binding.key k l₂.rows).map entry := by
    intro k
    rw [path₁.row_eq plain₁, path₂.row_eq plain₂, ← lastAt_filter k (acts₁.filterMap _),
      ← lastAt_filter k (acts₂.filterMap _), binds k.1]
  have perm : (l₁.rows.map entry).Perm (l₂.rows.map entry) :=
    linked₁.rows_keyed.map_perm linked₂.rows_keyed
      (fun b c same => congrArg place same) found
  -- the controller holds what rows name and what it held before
  have held : ∀ {m : Ledger} {acts : List Act}, m.Linked → Path l acts m → (∀ a ∈ acts, a.Plain) →
      (m.held.map content).Perm ((m.rows.map entry).map contentOf ++ l.held.map content) := by
    intro m acts linked' path plain
    obtain ⟨agreed', strays'⟩ := path.plain_kept plain linked agreed
    exact perm_content linked' agreed' distinct fun h => (strays' h).trans (strays h)
  refine ⟨?_, ?_, perm, ?_⟩
  · rw [(path₁.servers_eq plain₁).1, (path₂.servers_eq plain₂).1, servers]
  · rw [(path₁.servers_eq plain₁).2, (path₂.servers_eq plain₂).2, servers]
  · exact (held linked₁ path₁ plain₁).trans
      (((perm.map contentOf).append_right _).trans (held linked₂ path₂ plain₂).symm)

end Overlay.Dhcp
