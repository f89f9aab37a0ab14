import Overlay.Proofs.Dhcp.Runs

/-!
# Rows and bindings agree

A row of the store stands for a binding at the controller: it names it, and says which addresses the
binding has. The two are changed one after the other, so what is to be shown is that no event stops
in between with a row that says something else.

Only one act comes in between, `Act.clash`: the controller has changed a binding whose row cannot
follow. If an address of a port is always listed under the same subnet, no row is ever in the way of
another one, and there is no such act.

Main statement: `rows_agree_after_run`.
-/

namespace Overlay.Dhcp

open Overlay.Controller (HeldServer HeldBinding)

/-! ## What becomes of rows and bindings in an act -/

section Acts

variable {l : Ledger} {a : Act}

/-- Where a row comes from. -/
theorem Act.row_cases (linked : l.Linked) (fits : a.Fits l) {b : Store.Binding}
    (hb : b ∈ (a.apply l).rows) :
    b ∈ l.rows ∨
    (∃ x portId d time m, a = .bind x portId d time m ∧
      b = (l.newRow x portId d time).inPlace l.rows) ∨
    ∃ c d time, a = .move c d time ∧ c ∈ l.rows ∧
      b = c.moved d.subnetId d.address d.macAddress time := by
  cases a with
  | serve networkId portId config time => exact Or.inl hb
  | readdress serverId ip => exact Or.inl hb
  | retire x m => exact Or.inl (Table.mem_remove.mp hb).1
  | bind x portId d time m =>
      rcases Table.eq_or_mem_of_mem_put hb with new | old
      · exact Or.inr (Or.inl ⟨x, portId, d, time, m, rfl, new⟩)
      · exact Or.inl old
  | leak x portId d e => exact Or.inl hb
  | move c d time =>
      rcases (Table.mem_modify linked.rows_keyed fits.1 _).mp hb with new | ⟨old, -⟩
      · exact Or.inr (Or.inr ⟨c, d, time, rfl, fits.1, new⟩)
      · exact Or.inl old
  | clash b c d => exact Or.inl hb
  | release c m => exact Or.inl (Table.mem_remove.mp hb).1
  | stay c e => exact Or.inl hb

/-- A row goes on standing for the same binding when it takes over a creation time. -/
theorem heldFor_inPlace (rows : List Store.Binding) (b : Store.Binding) :
    heldFor (b.inPlace rows) = heldFor b := by
  rw [Store.Binding.inPlace]
  split <;> rfl

theorem ite_ne {α β : Type} [DecidableEq α] (f : α → β) (x y : α) :
    (if x ≠ y then f y else f x) = f y := by
  split
  · rfl
  · next same => rw [Decidable.not_not.mp same]

/-- The binding of a row changes as the row does. -/
theorem amend_heldFor (b : Store.Binding) (d : Desired) (time : Instant) :
    Act.amend b d (heldFor b) = heldFor (b.moved d.subnetId d.address d.macAddress time) := by
  show HeldBinding.mk _ _ (if _ then _ else b.macAddress) (if _ then _ else b.address)
    (if _ then _ else hostName b.address) = _
  have mac := ite_ne id b.macAddress d.macAddress
  have address := ite_ne id b.address d.address
  have host := ite_ne hostName b.address d.address
  rw [id, id] at mac address
  rw [mac, address, host]
  rfl

end Acts

/-! ## The invariant -/

/-- The controller holds for every row the binding that the row says. -/
def Ledger.Agreed (l : Ledger) : Prop := ∀ b ∈ l.rows, heldFor b ∈ l.held

section Agreed

variable {l : Ledger}

/-- Letting go the binding of one row leaves those of others. -/
theorem heldFor_mem_supersede (linked : l.Linked) {old : Option Store.Binding}
    (there : ∀ c ∈ old, c ∈ l.rows) {b : Store.Binding} (hb : b ∈ l.rows)
    (other : ∀ c ∈ old, b.key ≠ c.key) {l' : Ledger} (hh : heldFor b ∈ l'.held)
    (m : Option Controller.Error) : heldFor b ∈ (l'.supersede old m).held := by
  refine Ledger.mem_supersede m hh fun c hc same => other c hc ?_
  exact congrArg _ (linked.eq_of_name hb (there c hc) same)

/-- A service that goes leaves no row behind, so no row misses a binding that its server takes
along. -/
theorem Ledger.Agreed.retire (agreed : l.Agreed) (x : Store.Service)
    (m : Option Controller.Error) : ((Act.retire x m).apply l).Agreed := by
  intro b hb
  obtain ⟨old, other⟩ := Table.mem_remove.mp hb
  show heldFor b ∈ (if _ then _ else _ : List HeldBinding)
  split
  · exact agreed b old
  · exact Table.mem_remove.mpr ⟨agreed b old, other⟩

/-- A new binding is that of its row; the one it supersedes was that of the same row. -/
theorem Ledger.Agreed.bind (agreed : l.Agreed) (linked : l.Linked) (x : Store.Service)
    (portId : String) (d : Desired) (time : Instant) (m : Option Controller.Error) :
    ((Act.bind x portId d time m).apply l).Agreed := by
  have found : ∀ c ∈ l.row? portId d.address, c ∈ l.rows ∧ c.key = (portId, d.address) :=
    fun c hc => row?_mem hc
  intro b hb
  show heldFor b ∈ ((l.create x d).supersede (l.row? portId d.address) m).held
  rcases (Table.mem_put linked.rows_keyed).mp hb with rfl | ⟨old, other⟩
  · rw [heldFor_inPlace]
    refine Ledger.mem_supersede m (List.mem_append_right _ (List.mem_singleton_self _)) ?_
    exact fun c hc => linked.name_ne (found c hc).1 x
  · rw [Store.key_inPlace] at other
    refine heldFor_mem_supersede linked (fun c hc => (found c hc).1) old (fun c hc same => other ?_)
      (List.mem_append_left _ (agreed b old)) m
    rw [same, (found c hc).2]
    rfl

/-- A binding that is moved is that of the moved row, and no other row names it. -/
theorem Ledger.Agreed.move (agreed : l.Agreed) (linked : l.Linked) {c : Store.Binding}
    (hc : c ∈ l.rows) (d : Desired) (time : Instant) : ((Act.move c d time).apply l).Agreed := by
  have mem : ∀ h, h ∈ ((Act.move c d time).apply l).held ↔
      h = Act.amend c d (heldFor c) ∨ (h ∈ l.held ∧ h.key ≠ c.name) := fun h =>
    Table.mem_modify linked.held_keys (agreed c hc) _
  intro b hb
  rw [mem]
  rcases (Table.mem_modify linked.rows_keyed hc _).mp hb with rfl | ⟨old, other⟩
  · exact Or.inl (amend_heldFor c d time).symm
  · refine Or.inr ⟨agreed b old, fun same => other ?_⟩
    exact congrArg _ (linked.eq_of_name old hc same)

/-- A row that goes leaves the bindings of the others. -/
theorem Ledger.Agreed.release (agreed : l.Agreed) (linked : l.Linked) {c : Store.Binding}
    (hc : c ∈ l.rows) (m : Option Controller.Error) : ((Act.release c m).apply l).Agreed := by
  intro b hb
  obtain ⟨old, other⟩ := Table.mem_remove.mp hb
  show heldFor b ∈ (l.supersede (some c) m).held
  have itself : ∀ c' ∈ some c, c' = c := fun c' hc' => (Option.some.inj hc').symm
  exact heldFor_mem_supersede linked (fun c' hc' => itself c' hc' ▸ hc) old
    (fun c' hc' => itself c' hc' ▸ other) (agreed b old) m

/-- All acts but one keep rows and bindings in agreement. -/
theorem Ledger.Agreed.apply (agreed : l.Agreed) (linked : l.Linked) {a : Act} (fits : a.Fits l)
    (free : ∀ b c d, a ≠ .clash b c d) : (a.apply l).Agreed := by
  cases a with
  | serve networkId portId config time => exact agreed
  | readdress serverId ip => exact agreed
  | retire x m => exact agreed.retire x m
  | bind x portId d time m => exact agreed.bind linked x portId d time m
  | leak x portId d e => exact fun b hb => List.mem_append_left _ (agreed b hb)
  | move c d time => exact agreed.move linked fits.1 d time
  | clash b c d => exact absurd rfl (free b c d)
  | release c m => exact agreed.release linked fits.1 m
  | stay c e => exact agreed

/-- A path on which all rows can follow keeps rows and bindings in agreement. -/
theorem Path.agreed_of_free {l' : Ledger} {acts : List Act} (path : Path l acts l')
    (linked : l.Linked) (free : ∀ a ∈ acts, ∀ b c d, a ≠ .clash b c d) (agreed : l.Agreed) :
    l'.Agreed := by
  have kept : l'.Linked ∧ l'.Agreed := by
    refine path.keeps (P := fun l => l.Linked ∧ l.Agreed) ⟨linked, agreed⟩ ?_
    rintro a ha l fits ⟨linked, agreed⟩
    exact ⟨linked.apply fits, agreed.apply linked fits (free a ha)⟩
  exact kept.2

end Agreed

/-! ## Addresses that stay under their subnets -/

/-- The port lists no address twice, and each under the subnet that is its home for this port. -/
structure Homed (home : String → IPv4 → String) (p : Port) : Prop where
  distinct : (p.ipv4s.map (·.2)).Nodup
  subnet : ∀ f ∈ p.ipv4s, f.1 = home p.id f.2

/-- All rows are under the homes of their addresses. -/
def Ledger.AtHome (l : Ledger) (home : String → IPv4 → String) : Prop :=
  ∀ b ∈ l.rows, b.subnetId = home b.portId b.address

section Homed

variable {l : Ledger} {home : String → IPv4 → String} {ports : List Port}
  {switch? : String → Option String}

theorem Homed.of_desired {p : Port} (homed : Homed home p) {d : Desired} (own : d.Of p) :
    d.subnetId = home p.id d.address :=
  homed.subnet _ own.1

/-- Rows are written for addresses of known ports only, so they stay under their homes. -/
theorem Ledger.AtHome.apply (rows : l.AtHome home) (linked : l.Linked)
    (homed : ∀ p ∈ ports, Homed home p) {a : Act} (fits : a.Fits l)
    (sourced : a.Sourced ports switch?) : (a.apply l).AtHome home := by
  intro b hb
  rcases Act.row_cases linked fits hb with old | ⟨x, portId, d, time, m, rfl, rfl⟩ |
    ⟨c, d, time, rfl, -, rfl⟩
  · exact rows b old
  · obtain ⟨p, hp, rfl, own, -⟩ := sourced
    have here := (homed p hp).of_desired own
    rw [Store.Binding.inPlace]
    split <;> exact here
  · obtain ⟨p, hp, id, own⟩ := sourced
    exact id ▸ (homed p hp).of_desired own

/-- No row is in the way of another one. -/
theorem Ledger.AtHome.no_clash (rows : l.AtHome home) (homed : ∀ p ∈ ports, Homed home p) {a : Act}
    (fits : a.Fits l) (sourced : a.Sourced ports switch?) : ∀ b c d, a ≠ .clash b c d := by
  rintro b c d rfl
  obtain ⟨-, hc, key, -⟩ := fits
  obtain ⟨p, hp, id, own, apart⟩ := sourced
  refine apart (homed p hp).distinct ?_
  have port : c.portId = b.portId := congrArg Prod.fst key
  have address : c.address = d.address := congrArg Prod.snd key
  rw [rows c hc, port, address, (homed p hp).of_desired own, id]

/-- A path that gives ports only their own addresses keeps rows and bindings in agreement. -/
theorem Path.agreed {l' : Ledger} {acts : List Act} (path : Path l acts l') (linked : l.Linked)
    (homed : ∀ p ∈ ports, Homed home p) (sourced : ∀ a ∈ acts, a.Sourced ports switch?)
    (rows : l.AtHome home) (agreed : l.Agreed) : l'.AtHome home ∧ l'.Agreed := by
  have kept : l'.Linked ∧ l'.AtHome home ∧ l'.Agreed := by
    refine path.keeps (P := fun l => l.Linked ∧ l.AtHome home ∧ l.Agreed) ⟨linked, rows, agreed⟩ ?_
    rintro a ha l fits ⟨linked, rows, agreed⟩
    have here := sourced a ha
    exact ⟨linked.apply fits, rows.apply linked homed fits here,
      agreed.apply linked fits (rows.no_clash homed fits here)⟩
  exact kept.2

end Homed

/-! ## All runs -/

/-- What surroundings have as rows, as services and at the controller agrees. -/
structure Agrees (w : World) (services : List Store.Service) (rows : List Store.Binding) :
    Prop where
  /-- The tables of the store are these services and rows. -/
  store : w.store.Holds services rows
  /-- What a row names is held by the controller, with the row's addresses and their host name. -/
  bound : ∀ b ∈ rows, ⟨b.bindingId, b.serverId, b.macAddress, b.address, hostName b.address⟩
    ∈ w.controller.bindings
  /-- Different rows name different bindings. -/
  distinct : (rows.map fun b => (b.serverId, b.bindingId)).Nodup
  /-- The server of a row is that of a service. -/
  owned : ∀ b ∈ rows, ∃ x ∈ services, x.serverId = b.serverId
  /-- The server of a service is there. -/
  served : ∀ x ∈ services, ∃ v ∈ w.controller.servers, v.id = x.serverId

/-- A ledger in agreement shows it in the world. -/
theorem Ledger.Agreed.agrees {l : Ledger} {w : World} (agreed : l.Agreed) (linked : l.Linked)
    (shows : w.Shows l) : Agrees w l.services l.rows where
  store := shows.store
  bound := by
    rw [shows.controller.bindings_eq]
    exact agreed
  distinct := linked.row_names
  owned := linked.service_of_row
  served := by
    rw [shows.controller.servers_eq]
    exact linked.server_of_service

/-- Agreement in the world is agreement of the ledger that is shown. -/
theorem Agrees.agreed {l : Ledger} {w : World} {services : List Store.Service}
    {rows : List Store.Binding} (agrees : Agrees w services rows) (shows : w.Shows l) :
    l.Agreed := by
  have same : l.rows = rows := shows.store.bindings_unique agrees.store
  intro b hb
  rw [← shows.controller.bindings_eq]
  exact agrees.bound b (same ▸ hb)

/-- After every event of every run in which each address of a port stays under its subnet, whatever
fails and whatever is changed between events, rows and bindings agree. -/
theorem rows_agree_after_run {home : String → IPv4 → String} {ds : List Delivery} {w : World}
    (run : Run (fun d => ∀ p ∈ d.ports, Homed home p) ds w) :
    ∃ services rows, Agrees w services rows := by
  obtain ⟨l, shows, linked, -, agreed⟩ := run.invariant (P := fun l => l.AtHome home ∧ l.Agreed)
    ⟨fun b hb => (nomatch hb), fun b hb => (nomatch hb)⟩ (fun _ _ _ h => h)
    fun d l acts l' homed linked h leads =>
      leads.path.agreed linked homed leads.changed.sourced h.1 h.2
  exact ⟨l.services, l.rows, agreed.agrees linked shows⟩

/-- After the first run there is a row, and it agrees with the controller. -/
theorem first_row_agrees : Sample.bound.after.store.bindings.map List.length = some 1 ∧
    ∃ services rows, Agrees Sample.bound.after services rows := by
  obtain ⟨first, second⟩ := Sample.ports (P := Homed fun _ _ => "subnet")
    ⟨by decide, by decide⟩ ⟨by decide, by decide⟩
  exact ⟨by decide +kernel, rows_agree_after_run (Sample.run first second)⟩

end Overlay.Dhcp
