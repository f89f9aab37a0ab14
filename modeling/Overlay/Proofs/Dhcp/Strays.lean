import Overlay.Proofs.Dhcp.Runs

/-!
# What the controller holds and no row names

A binding that the controller holds under a name that no row has is a *stray*: nothing will ever
change or remove it but the end of its server. Strays come from faults only. They come of an act
that loses the removal of a binding (`Act.fault?`) or takes the word of the controller that a server
is missing, and of no other act (`Stray.of_apply`). An act that makes something leaves all strays
where they are (`Stray.apply`).

Main statement: `no_strays_after_run`.
-/

namespace Overlay.Dhcp

open Overlay.Controller (HeldServer HeldBinding)

/-- The controller holds a binding that no row names. -/
def Ledger.Stray (l : Ledger) (h : HeldBinding) : Prop :=
  h ∈ l.held ∧ ∀ b ∈ l.rows, b.name ≠ h.key

namespace Ledger.Stray

variable {l : Ledger} {h : HeldBinding}

/-! ## Where strays come from -/

theorem of_retire {x : Store.Service} (stray : ((Act.retire x none).apply l).Stray h) :
    l.Stray h := by
  obtain ⟨hh, unnamed⟩ := stray
  obtain ⟨hh, outside⟩ := Table.mem_remove.mp hh
  refine ⟨hh, fun b hb same => ?_⟩
  by_cases under : b.serverId = x.serverId
  · exact outside ((congrArg Prod.fst same).symm.trans under)
  · exact unnamed b (Table.mem_remove.mpr ⟨hb, under⟩) same

theorem of_bind (linked : l.Linked) {x : Store.Service} {portId : String} {d : Desired}
    {time : Instant} (stray : ((Act.bind x portId d time none).apply l).Stray h) : l.Stray h := by
  obtain ⟨hh, unnamed⟩ := stray
  have rows : ∀ b, b ∈ ((Act.bind x portId d time none).apply l).rows ↔
      b = (l.newRow x portId d time).inPlace l.rows ∨
        (b ∈ l.rows ∧ b.key ≠ ((l.newRow x portId d time).inPlace l.rows).key) :=
    fun b => Table.mem_put linked.rows_keyed
  -- the binding of the old row of this key has been let go
  have made : h ∈ (l.create x d).held ∧ ∀ b ∈ l.rows, b.key = (portId, d.address) →
      h.key ≠ b.name := by
    replace hh : h ∈ ((l.create x d).supersede (l.row? portId d.address) none).held := hh
    cases row : l.row? portId d.address with
    | none =>
        rw [row] at hh
        exact ⟨hh, fun b hb key => absurd key (Table.find?_eq_none_iff.mp row b hb)⟩
    | some c =>
        rw [row] at hh
        obtain ⟨hh, gone⟩ := Table.mem_remove.mp hh
        obtain ⟨hc, key'⟩ := row?_mem row
        refine ⟨hh, fun b hb key => ?_⟩
        rw [linked.rows_keyed.eq_of_key hb hc (key.trans key'.symm)]
        exact gone
  refine ⟨?_, fun b hb same => ?_⟩
  -- the new binding is named by the new row
  · refine (List.mem_append.mp made.1).resolve_right fun new => ?_
    refine unnamed _ ((rows _).mpr (Or.inl rfl)) ?_
    rw [Store.Binding.name_inPlace, List.mem_singleton.mp new]
    rfl
  · by_cases key : b.key = (portId, d.address)
    · exact made.2 b hb key same.symm
    · refine unnamed b ((rows b).mpr (Or.inr ⟨hb, ?_⟩)) same
      rw [Store.key_inPlace]
      exact key

/-- A binding that has changed at the controller is that of the row. -/
theorem of_amend (linked : l.Linked) {b : Store.Binding} (hb : b ∈ l.rows) {d : Desired}
    (hh : h ∈ Table.modify HeldBinding.key b.name (Act.amend b d) l.held)
    (other : h.key ≠ b.name) : h ∈ l.held := by
  obtain ⟨g, hg, key⟩ := linked.held_of_row b hb
  rw [← key] at hh
  rcases (Table.mem_modify linked.held_keys hg _).mp hh with rfl | ⟨old, -⟩
  · exact absurd key other
  · exact old

theorem of_move (linked : l.Linked) {b : Store.Binding} (hb : b ∈ l.rows) {d : Desired}
    {time : Instant} (stray : ((Act.move b d time).apply l).Stray h) : l.Stray h := by
  obtain ⟨hh, unnamed⟩ := stray
  have rows : ∀ c, c ∈ ((Act.move b d time).apply l).rows ↔
      c = b.moved d.subnetId d.address d.macAddress time ∨ (c ∈ l.rows ∧ c.key ≠ b.key) :=
    fun c => Table.mem_modify linked.rows_keyed hb _
  have other : b.name ≠ h.key :=
    unnamed (b.moved d.subnetId d.address d.macAddress time) ((rows _).mpr (Or.inl rfl))
  refine ⟨of_amend linked hb hh other.symm, fun c hc same => ?_⟩
  by_cases key : c.key = b.key
  · exact other (linked.rows_keyed.eq_of_key hc hb key ▸ same)
  · exact unnamed c ((rows c).mpr (Or.inr ⟨hc, key⟩)) same

theorem of_release (linked : l.Linked) {b : Store.Binding} (hb : b ∈ l.rows)
    (stray : ((Act.release b none).apply l).Stray h) : l.Stray h := by
  obtain ⟨hh, unnamed⟩ := stray
  obtain ⟨hh, other⟩ := Table.mem_remove.mp hh
  refine ⟨hh, fun c hc same => ?_⟩
  by_cases key : c.key = b.key
  · rw [linked.rows_keyed.eq_of_key hc hb key] at same
    exact other same.symm
  · exact unnamed c (Table.mem_remove.mpr ⟨hc, key⟩) same

/-- Without faults, an act makes no strays. -/
theorem of_apply (linked : l.Linked) {a : Act} (fits : a.Fits l) (clean : a.fault? = none)
    (stray : (a.apply l).Stray h) : l.Stray h := by
  cases a with
  | serve networkId portId config time => exact stray
  | readdress serverId ip => exact stray
  | retire x m =>
      cases m with
      | none => exact of_retire stray
      | some e => exact nomatch clean
  | bind x portId d time m =>
      cases m with
      | none => exact of_bind linked stray
      | some e => exact nomatch clean
  | leak x portId d e => exact nomatch clean
  | move b d time => exact of_move linked fits.1 stray
  | clash b c d =>
      obtain ⟨hh, unnamed⟩ := stray
      exact ⟨of_amend linked fits.1 hh (unnamed b fits.1).symm, unnamed⟩
  | release b m =>
      cases m with
      | none => exact of_release linked fits.1 stray
      | some e => exact nomatch clean
  | stay b e => exact nomatch clean

/-! ## Where strays stay -/

/-- An act that makes something leaves strays alone, whatever fails. -/
theorem apply (linked : l.Linked) {a : Act} (builds : a.Builds) (stray : l.Stray h) :
    (a.apply l).Stray h := by
  obtain ⟨hh, unnamed⟩ := stray
  cases a with
  | serve networkId portId config time => exact ⟨hh, unnamed⟩
  | readdress serverId ip => exact ⟨hh, unnamed⟩
  | bind x portId d time m =>
      constructor
      · refine Ledger.mem_supersede m (List.mem_append_left _ hh) fun b row => ?_
        exact (unnamed b (row?_mem row).1).symm
      · intro b hb same
        rcases (Table.mem_put linked.rows_keyed).mp hb with rfl | ⟨old, -⟩
        · rw [Store.Binding.name_inPlace] at same
          exact linked.held_new _ (Nat.lt_succ_self _) h hh (congrArg Prod.snd same).symm
        · exact unnamed b old same
  | leak x portId d e => exact ⟨List.mem_append_left _ hh, unnamed⟩
  | retire _ _ => exact builds.elim
  | move _ _ _ => exact builds.elim
  | clash _ _ _ => exact builds.elim
  | release _ _ => exact builds.elim
  | stay _ _ => exact builds.elim

end Ledger.Stray

/-! ## Servers -/

/-- Every server is that of a service. -/
def Ledger.Owned (l : Ledger) : Prop := ∀ v ∈ l.servers, ∃ x ∈ l.services, x.serverId = v.id

theorem Ledger.Owned.apply {l : Ledger} (owned : l.Owned) (linked : l.Linked) {a : Act}
    (fits : a.Fits l) (clean : a.fault? = none) : (a.apply l).Owned := by
  cases a with
  | serve networkId portId config time =>
      intro v hv
      rcases List.mem_append.mp hv with old | new
      · obtain ⟨x, hx, id⟩ := owned v old
        exact ⟨x, List.mem_append_left _ hx, id⟩
      · exact ⟨_, List.mem_append_right _ (List.mem_singleton_self _),
          List.mem_singleton.mp new ▸ rfl⟩
  | readdress serverId ip =>
      intro v hv
      rcases Table.mem_or_eq_of_mem_modify hv with old | ⟨u, hu, rfl⟩
      · exact owned v old
      · exact owned u hu
  | retire x m =>
      cases m with
      | some e => exact nomatch clean
      | none =>
          intro v hv
          obtain ⟨hv, other⟩ := Table.mem_remove.mp hv
          obtain ⟨y, hy, id⟩ := owned v hv
          refine ⟨y, Table.mem_remove.mpr ⟨hy, fun same => other ?_⟩, id⟩
          rw [← id, linked.services_keyed.eq_of_key hy fits.1 same]
  | bind x portId d time m =>
      obtain ⟨held, eq, -⟩ := (l.create x d).supersede_eq (l.row? portId d.address) m
      rw [Act.apply, eq]
      exact owned
  | leak x portId d e => exact owned
  | move b d time => exact owned
  | clash b c d => exact owned
  | release b m => cases m <;> exact owned
  | stay b e => exact owned

/-! ## All runs -/

/-- No removal of a binding is lost in the event, and no server is reported missing by a fault. -/
structure Delivery.Removes (d : Delivery) : Prop where
  bindings : ∀ e, ¬ d.world.Lost d.after .deleteBinding e
  servers : ∀ e, d.world.Lost d.after .deleteServer e → e.kind ≠ .notFound

/-- Then no act on the way tells of a fault. -/
theorem Delivery.Removes.clean {d : Delivery} (removes : d.Removes) {l l' : Ledger}
    {acts : List Act} (leads : d.Leads l acts l') : ∀ a ∈ acts, a.fault? = none := by
  intro a ha
  obtain ⟨m, fits⟩ := leads.path.fits a ha
  have bindings : ∀ e, a.fault? ≠ some (.deleteBinding, e) := fun e hit =>
    removes.bindings e ((leads.accounts.bindings e).mpr ⟨a, ha, hit⟩)
  have servers : ∀ e, a.fault? = some (.deleteServer, e) → e.kind ≠ .notFound := fun e hit =>
    removes.servers e (leads.accounts.servers a ha e hit)
  cases a with
  | retire x missing =>
      cases missing with
      | none => rfl
      | some e => exact absurd (fits.2.1 e rfl) (servers e rfl)
  | bind x portId d time missing =>
      cases missing with
      | none => rfl
      | some e => exact absurd rfl (bindings e)
  | leak x portId d e => exact absurd rfl (bindings e)
  | release b missing =>
      cases missing with
      | none => rfl
      | some e => exact absurd rfl (bindings e)
  | stay b e => exact absurd rfl (bindings e)
  | serve _ _ _ _ => rfl
  | readdress _ _ => rfl
  | move _ _ _ => rfl
  | clash _ _ _ => rfl

/-- Without faults, everything at the controller stays named. -/
theorem Path.named {l l' : Ledger} {acts : List Act} (path : Path l acts l') (linked : l.Linked)
    (clean : ∀ a ∈ acts, a.fault? = none) (named : ∀ h, ¬ l.Stray h) (owned : l.Owned) :
    (∀ h, ¬ l'.Stray h) ∧ l'.Owned := by
  have kept : l'.Linked ∧ (∀ h, ¬ l'.Stray h) ∧ l'.Owned := by
    refine path.keeps (P := fun l => l.Linked ∧ (∀ h, ¬ l.Stray h) ∧ l.Owned)
      ⟨linked, named, owned⟩ ?_
    rintro a ha l fits ⟨linked, named, owned⟩
    exact ⟨linked.apply fits, fun h stray => named h (stray.of_apply linked fits (clean a ha)),
      owned.apply linked fits (clean a ha)⟩
  exact kept.2

/-- What the controller has for services and rows: as many servers and bindings, each of them named
once. -/
structure Kept (w : World) (services : List Store.Service) (rows : List Store.Binding) : Prop where
  /-- The tables of the store are these services and rows. -/
  store : w.store.Holds services rows
  /-- A binding is named by exactly one row. -/
  bindings : ∀ h ∈ w.controller.bindings,
    rows.countP (fun b => (b.serverId, b.bindingId) = (h.serverId, h.id)) = 1
  /-- A server is named by exactly one service. -/
  servers : ∀ v ∈ w.controller.servers, services.countP (·.serverId = v.id) = 1
  as_many_bindings : rows.length = w.controller.bindings.length
  as_many_servers : services.length = w.controller.servers.length

/-- After every event of every run in which no removal of a binding is lost and no server is
reported missing by a fault, whatever else fails, nothing is left at the controller that the store
does not name. -/
theorem no_strays_after_run {ds : List Delivery} {w : World} (run : Run Delivery.Removes ds w) :
    ∃ services rows, Kept w services rows := by
  obtain ⟨l, shows, linked, named, owned⟩ := run.invariant
    (P := fun l => (∀ h, ¬ l.Stray h) ∧ l.Owned)
    ⟨fun h stray => (nomatch stray.1), fun v hv => (nomatch hv)⟩ (fun _ _ _ h => h)
    fun d l acts l' removes linked kept leads =>
      leads.path.named linked (removes.clean leads) kept.1 kept.2
  have name : ∀ h ∈ l.held, ∃ b ∈ l.rows, b.name = h.key := fun h hh =>
    Classical.byContradiction fun none => named h ⟨hh, fun b hb same => none ⟨b, hb, same⟩⟩
  refine ⟨l.services, l.rows, shows.store, ?_, ?_, ?_, ?_⟩
  · rw [shows.controller.bindings_eq]
    intro h hh
    obtain ⟨b, hb, same⟩ := name h hh
    rw [show (h.serverId, h.id) = b.name from same.symm]
    exact linked.row_names.countP hb
  · rw [shows.controller.servers_eq]
    intro v hv
    obtain ⟨x, hx, same⟩ := owned v hv
    rw [← same]
    exact linked.owners_keyed.countP hx
  · rw [shows.controller.bindings_eq]
    exact linked.row_names.length_eq linked.held_keys linked.held_of_row name
  · rw [shows.controller.servers_eq]
    exact linked.owners_keyed.length_eq linked.servers_keyed linked.server_of_service owned

/-- After the first run there are a server and a binding, and both are named. -/
theorem first_binding_kept : Sample.bound.after.controller.servers.length = 1 ∧
    Sample.bound.after.controller.bindings.length = 1 ∧
      ∃ services rows, Kept Sample.bound.after services rows := by
  have calm := Sample.calm.follows Sample.follows_served
  refine ⟨by decide +kernel, by decide +kernel, no_strays_after_run (Sample.run ?_ ?_)⟩
  · exact ⟨fun e => Sample.calm.not_lost _ e, fun e lost => absurd lost (Sample.calm.not_lost _ e)⟩
  · exact ⟨fun e => calm.not_lost _ e, fun e lost => absurd lost (calm.not_lost _ e)⟩

end Overlay.Dhcp
