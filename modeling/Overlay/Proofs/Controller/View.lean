import Overlay.Controller.State
import Overlay.Proofs.Table
import Overlay.Proofs.Text.Numerals

/-!
# Servers and bindings at the controller

The part of the controller that serves DHCP: its servers, the bindings under them, and how many of
both it has made, which is what new ones are named by.

For each call on servers and bindings there is one lemma: what it answers and what the controller
holds after it.
-/

namespace Overlay.Controller

/-- A binding is known by its server and its own name. -/
def HeldBinding.key (b : HeldBinding) : String × String := (b.serverId, b.id)

/-- A binding is at a place exactly if this is its key. -/
theorem HeldBinding.isAt_iff {serverId id : String} {b : HeldBinding} :
    b.isAt serverId id = true ↔ b.key = (serverId, id) := by
  rw [isAt, key, Bool.and_eq_true, decide_eq_true_iff, decide_eq_true_iff, Prod.mk.injEq]

namespace State

/-- The name of the server with this number. -/
def serverName (n : Nat) : String := s!"dhcp-{n}"

/-- The name of the binding with this number. -/
def bindingName (n : Nat) : String := s!"binding-{n}"

/-- No two servers are given one name. -/
theorem serverName_inj {m n : Nat} (h : serverName m = serverName n) : m = n :=
  Text.append_toString_inj h

/-- No two bindings are given one name. -/
theorem bindingName_inj {m n : Nat} (h : bindingName m = bindingName n) : m = n :=
  Text.append_toString_inj h

/-- The controller's servers and bindings, and how many it has made of each. -/
structure Holds (s : State) (servers : List HeldServer) (bindings : List HeldBinding)
    (m n : Nat) : Prop where
  servers_eq : s.servers = servers
  bindings_eq : s.bindings = bindings
  servers_made : s.made.servers = m
  bindings_made : s.made.bindings = n

/-- What a call does not touch does not matter. -/
theorem Holds.congr {s s' : State} {servers : List HeldServer} {bindings : List HeldBinding}
    {m n : Nat} (h : s.Holds servers bindings m n) (servers_eq : s'.servers = s.servers)
    (bindings_eq : s'.bindings = s.bindings) (servers_made : s'.made.servers = s.made.servers)
    (bindings_made : s'.made.bindings = s.made.bindings) : s'.Holds servers bindings m n :=
  ⟨servers_eq.trans h.servers_eq, bindings_eq.trans h.bindings_eq,
    servers_made.trans h.servers_made, bindings_made.trans h.bindings_made⟩

/-- A server at another address. -/
def readdressed (ip : Address) (x : HeldServer) : HeldServer :=
  { x with
    config := { x.config with
      serverIp := (Cidr.of? ip x.config.serverIp.length).getD x.config.serverIp } }

section Calls

variable {s : State} {servers : List HeldServer} {bindings : List HeldBinding} {m n : Nat}

/-- A server that is held is found by its name. -/
theorem Holds.server? (h : s.Holds servers bindings m n) {x : HeldServer} (hx : x ∈ servers)
    (keyed : Table.Keyed HeldServer.id servers) : s.server? x.id = some x := by
  rw [State.server?, h.servers_eq]
  exact keyed.find? hx

/-- A server that is made comes last, under the next name. -/
theorem Holds.createServer (h : s.Holds servers bindings m n) (config : DhcpServerConfig) :
    (s.createServer config).1 = serverName (m + 1) ∧
      (s.createServer config).2.Holds (servers ++ [⟨serverName (m + 1), config⟩]) bindings
        (m + 1) n := by
  have name : (s.createServer config).1 = serverName (m + 1) := by
    rw [← h.servers_made]
    rfl
  refine ⟨name, ?_, h.bindings_eq, congrArg (· + 1) h.servers_made, h.bindings_made⟩
  rw [← name, ← h.servers_eq]
  rfl

/-- A server that is held gets the address. -/
theorem Holds.setServerIp (h : s.Holds servers bindings m n) {x : HeldServer} (hx : x ∈ servers)
    (keyed : Table.Keyed HeldServer.id servers) (ip : Address) :
    (s.setServerIp x.id ip).1 = .ok () ∧
      (s.setServerIp x.id ip).2.Holds
        (Table.modify HeldServer.id x.id (readdressed ip) servers) bindings m n := by
  rw [State.setServerIp, h.server? hx keyed]
  exact ⟨rfl, congrArg (Table.modify HeldServer.id x.id (readdressed ip)) h.servers_eq,
    h.bindings_eq, h.servers_made, h.bindings_made⟩

/-- Where removals of servers are refused, nothing is changed. -/
theorem deleteServer_refused (h : s.refusals.serverDeletes = true) (serverId : String) :
    ∃ e, s.deleteServer serverId = (.error e, s) ∧ e.kind = .request := by
  rw [deleteServer, if_pos h]
  exact ⟨_, rfl, rfl⟩

/-- A server that is held goes with all bindings under it, unless removals are refused. -/
theorem Holds.deleteServer (h : s.Holds servers bindings m n)
    (accepted : s.refusals.serverDeletes = false) {x : HeldServer} (hx : x ∈ servers)
    (keyed : Table.Keyed HeldServer.id servers) :
    (s.deleteServer x.id).1 = .ok () ∧
      (s.deleteServer x.id).2.Holds (Table.remove HeldServer.id x.id servers)
        (Table.remove HeldBinding.serverId x.id bindings) m n := by
  rw [State.deleteServer, accepted, h.server? hx keyed]
  exact ⟨rfl, congrArg (Table.remove HeldServer.id x.id) h.servers_eq,
    congrArg (Table.remove HeldBinding.serverId x.id) h.bindings_eq, h.servers_made,
    h.bindings_made⟩

/-- A binding for a refused address is not made, and nothing is changed. -/
theorem createBinding_refused {r : BindingRequest} (h : r.address ∈ s.refusals.addresses)
    (serverId : String) : ∃ e, s.createBinding serverId r = (.error e, s) := by
  rw [createBinding, if_pos h]
  exact ⟨_, rfl⟩

/-- A binding under a server that is held comes last, under the next name, unless its address is
refused. -/
theorem Holds.createBinding (h : s.Holds servers bindings m n) {r : BindingRequest}
    (accepted : r.address ∉ s.refusals.addresses) {x : HeldServer} (hx : x ∈ servers)
    (keyed : Table.Keyed HeldServer.id servers) :
    (s.createBinding x.id r).1 = .ok (bindingName (n + 1)) ∧
      (s.createBinding x.id r).2.Holds servers
        (bindings ++ [⟨bindingName (n + 1), x.id, r.macAddress, r.address, r.hostName⟩])
        m (n + 1) := by
  rw [State.createBinding, if_neg accepted, h.server? hx keyed, ← h.bindings_made]
  exact ⟨rfl, h.servers_eq, congrArg (· ++ [_]) h.bindings_eq, h.servers_made, rfl⟩

/-- A binding that is held is seen when it is looked for. -/
theorem any_isAt {serverId bindingId : String}
    (held : ∃ b ∈ s.bindings, b.key = (serverId, bindingId)) :
    s.bindings.any (HeldBinding.isAt serverId bindingId) = true := by
  rw [List.any_eq_true]
  obtain ⟨b, hb, key⟩ := held
  exact ⟨b, hb, HeldBinding.isAt_iff.mpr key⟩

/-- A binding that is held is updated. -/
theorem Holds.updateBinding (h : s.Holds servers bindings m n) {serverId bindingId : String}
    (held : ∃ b ∈ bindings, b.key = (serverId, bindingId)) (u : BindingUpdate) :
    (s.updateBinding serverId bindingId u).1 = .ok () ∧
      (s.updateBinding serverId bindingId u).2.Holds servers
        (Table.modify HeldBinding.key (serverId, bindingId) (HeldBinding.updated · u)
          bindings) m n := by
  rw [State.updateBinding, if_pos (any_isAt (h.bindings_eq ▸ held))]
  exact ⟨rfl, h.servers_eq,
    congrArg (Table.modify HeldBinding.key (serverId, bindingId) _) h.bindings_eq,
    h.servers_made, h.bindings_made⟩

/-- A binding that is held is removed, and nothing else is touched. -/
theorem deleteBinding_held {serverId bindingId : String}
    (held : ∃ b ∈ s.bindings, b.key = (serverId, bindingId)) :
    s.deleteBinding serverId bindingId = (.ok (), { s with
      bindings := Table.remove HeldBinding.key (serverId, bindingId) s.bindings }) := by
  have rest : s.bindings.filter (!HeldBinding.isAt serverId bindingId ·)
      = Table.remove HeldBinding.key (serverId, bindingId) s.bindings := by
    rw [Table.remove]
    refine List.filter_congr fun b _ => ?_
    by_cases key : b.key = (serverId, bindingId)
    · rw [HeldBinding.isAt_iff.mpr key, key]
      simp
    · rw [Bool.eq_false_iff.mpr (mt HeldBinding.isAt_iff.mp key), decide_eq_true key]
      rfl
  rw [State.deleteBinding, if_pos (any_isAt held), rest]

/-- A binding that is held is removed. -/
theorem Holds.deleteBinding (h : s.Holds servers bindings m n) {serverId bindingId : String}
    (held : ∃ b ∈ bindings, b.key = (serverId, bindingId)) :
    (s.deleteBinding serverId bindingId).1 = .ok () ∧
      (s.deleteBinding serverId bindingId).2.Holds servers
        (Table.remove HeldBinding.key (serverId, bindingId) bindings) m n := by
  rw [deleteBinding_held (h.bindings_eq ▸ held)]
  exact ⟨rfl, h.servers_eq, congrArg (Table.remove HeldBinding.key _) h.bindings_eq,
    h.servers_made, h.bindings_made⟩

end Calls

end State

end Overlay.Controller
