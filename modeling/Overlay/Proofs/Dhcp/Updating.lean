import Overlay.Proofs.Dhcp.Coherent
import Overlay.Proofs.Dhcp.Execution

/-!
# What an update of a port comes to

An update that succeeds leaves one row for each address that the port should have, whatever rows
earlier attempts have left and whatever the controller holds: no change of its plan was skipped, as
the first one that fails ends it. Only the store is looked at here. A row that stays in its place
keeps its binding, its server and its creation time; rows of other ports and services are not
touched.

Main statement: `update_comes_to_wanted`.
-/

namespace Overlay

namespace Store

/-- The tables of services and of bindings are these records, written down, legible or not. -/
structure Spells (s : Store) (services : List Service) (rows : List Binding) : Prop where
  services_eq : s.services = some (services.map Service.toRow)
  bindings_eq : s.bindings = some (rows.map Binding.toRow)

variable {s : Store} {services : List Service} {rows : List Binding}

/-- A store that holds services and rows spells them. -/
theorem Holds.spells (h : s.Holds services rows) : s.Spells services rows :=
  ⟨h.services_eq, h.bindings_eq⟩

namespace Spells

/-- Putting a row is spelled, whether or not its times can be read back. -/
theorem putBinding (h : s.Spells services rows) (b : Binding) :
    (s.execute (.putBinding b)).2.Spells services (Store.putBinding b rows) := by
  refine ⟨h.services_eq, ?_⟩
  rw [execute, h.bindings_eq, onTable, putRow_toRow]

/-- Deleting a row is spelled. -/
theorem deleteBinding (h : s.Spells services rows) (portId : String) (ip : IPv4) :
    (s.execute (.deleteBinding portId ip)).2.Spells services
      (Table.remove Binding.key (portId, ip) rows) := by
  refine ⟨h.services_eq, ?_⟩
  rw [execute, h.bindings_eq, onTable, removeRow_toRow]

/-- A row that could be moved was in nobody's way. -/
theorem moveBinding (h : s.Spells services rows) (keyed : Table.Keyed Binding.key rows)
    {b : Binding} (hb : b ∈ rows) {subnetId : String} {ip : IPv4} {macAddress : String}
    {time : Instant} {found : Bool}
    (ok : (s.execute (.moveBinding b.portId b.address subnetId ip macAddress time)).1 = .ok found) :
    (∀ c ∈ rows, c.key = (b.portId, ip) → c = b) ∧
      (s.execute (.moveBinding b.portId b.address subnetId ip macAddress time)).2.Spells services
        (Table.modify Binding.key b.key (.moved subnetId ip macAddress time) rows) := by
  by_cases free : ∀ c ∈ rows, c.key = (b.portId, ip) → c = b
  · refine ⟨free, h.services_eq, ?_⟩
    rw [execute, h.bindings_eq, onTable]
    dsimp only
    rw [moveRow_free keyed hb subnetId macAddress time free]
  · obtain ⟨c, hc, taken, other⟩ : ∃ c ∈ rows, c.key = (b.portId, ip) ∧ c ≠ b := by
      simpa using free
    rw [execute, h.bindings_eq, onTable] at ok
    dsimp only at ok
    rw [moveRow_taken keyed hb hc subnetId macAddress time taken other] at ok
    cases ok

end Spells

end Store

namespace Handler

variable {α β : Type}

/-- If the handler succeeds, `Q` holds of its result and of the rows in the store then, and the
services are the same. -/
def Turns (h : Handler α) (w : World) (services : List Store.Service)
    (Q : α → List Store.Binding → Prop) : Prop :=
  h.Leaves w fun r w' => ∀ a, r = .ok a → ∃ rows, w'.store.Spells services rows ∧ Q a rows

/-- The handler does not write to the store. -/
def Reads (h : Handler α) (w : World) (P : α → Prop) : Prop :=
  h.Leaves w fun r w' => w'.store = w.store ∧ ∀ a, r = .ok a → P a

section Turns

variable {h : Handler α} {f : α → Handler β} {w : World} {services : List Store.Service}
  {rows : List Store.Binding} {P : α → List Store.Binding → Prop}
  {R : β → List Store.Binding → Prop}

/-- Two handlers in turn turn the rows into what the second makes of what the first leaves. -/
theorem Turns.bind (first : h.Turns w services P)
    (next : ∀ a w' rows', w.Follows w' → w'.store.Spells services rows' → P a rows' →
      (f a).Turns w' services R) : (h >>= f).Turns w services R := by
  refine Leaves.bind first (fun a w' follows here => ?_) fun e w' _ _ a ok => nomatch ok
  obtain ⟨rows', spells, here⟩ := here a rfl
  exact next a w' rows' follows spells here

/-- What is shown of the rows may be weakened. -/
theorem Turns.mono {Q : α → List Store.Binding → Prop} (hP : h.Turns w services P)
    (weaker : ∀ a rows', P a rows' → Q a rows') : h.Turns w services Q := by
  refine Leaves.mono hP fun r w' _ here a ok => ?_
  obtain ⟨rows', spells, here⟩ := here a ok
  exact ⟨rows', spells, weaker a rows' here⟩

/-- To answer leaves the rows as they are. -/
theorem Turns.pure {a : α} (spells : w.store.Spells services rows) (here : P a rows) :
    Turns (Pure.pure a) w services P :=
  Leaves.pure fun _ ok => ⟨rows, spells, Except.ok.inj ok ▸ here⟩

/-- A handler that fails has nothing to show. -/
theorem Turns.throw (e : Error) : Turns (throw e) w services P :=
  Leaves.throw fun _ ok => nomatch ok

/-- A first part that does not write. -/
theorem Turns.reads {T : α → Prop} (first : h.Reads w T)
    (next : ∀ a w', w.Follows w' → w'.store = w.store → T a → (f a).Turns w' services R) :
    (h >>= f).Turns w services R :=
  Leaves.bind first (fun a w' follows here => next a w' follows here.1 (here.2 a rfl))
    fun _ _ _ _ _ ok => nomatch ok

/-- Two handlers that only read, in turn, only read. -/
theorem Reads.bind {T : α → Prop} {U : β → Prop} (first : h.Reads w T)
    (next : ∀ a w', w.Follows w' → T a → (f a).Reads w' U) : (h >>= f).Reads w U := by
  refine Leaves.bind first (fun a w' follows here => ?_) fun e w' _ here =>
    ⟨here.1, fun a ok => nomatch ok⟩
  refine Leaves.mono (next a w' follows (here.2 a rfl)) fun r w'' _ there => ?_
  exact ⟨there.1.trans here.1, there.2⟩

/-- To answer only reads. -/
theorem Reads.pure {a : α} {T : α → Prop} (here : T a) : Reads (Pure.pure a) w T :=
  Leaves.pure ⟨rfl, fun _ ok => Except.ok.inj ok ▸ here⟩

/-- A handler that fails only reads. -/
theorem Reads.throw (e : Error) {T : α → Prop} : Reads (throw e) w T :=
  Leaves.throw ⟨rfl, fun _ ok => nomatch ok⟩

/-- A call does not touch the store, however it is answered. -/
theorem reads_tryCall (w : World) (c : Controller.Call) :
    (tryCall c).Reads w fun _ => True :=
  Leaves.tryCall (fun _ _ => ⟨rfl, fun _ _ => trivial⟩) fun _ => ⟨rfl, fun _ _ => trivial⟩

/-- A call does not touch the store. -/
theorem reads_call (w : World) (c : Controller.Call) : (call c).Reads w fun _ => True :=
  Leaves.call (fun _ _ => ⟨rfl, fun _ _ => trivial⟩) fun _ => ⟨rfl, fun _ _ => trivial⟩

/-- A look-up that succeeds finds what the catalog has. -/
theorem reads_query (w : World) (q : Catalog.Query) :
    (query q).Reads w fun a => a = w.catalog.answer q :=
  Leaves.query (fun _ => ⟨rfl, fun _ ok => (Except.ok.inj ok).symm⟩)
    fun _ _ _ => ⟨rfl, fun _ ok => nomatch ok⟩

/-- Reading the clock does not touch the store. -/
theorem reads_now (w : World) : now.Reads w fun _ => True :=
  Leaves.now ⟨rfl, fun _ _ => trivial⟩

/-- A record for the audit trail does not touch the store. -/
theorem reads_report (w : World) (e : Audit.Event) : (report e).Reads w fun _ => True :=
  Leaves.report (fun _ => ⟨rfl, fun _ _ => trivial⟩) fun _ => ⟨rfl, fun _ _ => trivial⟩

/-- Renaming errors makes no answer of an error. -/
theorem ok_of_mapError {ε ε' : Type} {r : Except ε α} {g : ε → ε'} {a : α}
    (ok : r.mapError g = .ok a) : r = .ok a := by
  cases r with
  | ok a' => exact congrArg Except.ok (Except.ok.inj ok)
  | error e => exact nomatch ok

/-- A statement that leaves the store as it is. -/
theorem reads_execute {w : World} {st : Store.Statement} (same : (w.store.execute st).2 = w.store) :
    (execute st).Reads w fun a => (w.store.execute st).1 = .ok a :=
  Leaves.execute ⟨same, fun _ => ok_of_mapError⟩

/-- A statement that is carried out. -/
theorem Turns.execute {st : Store.Statement} {Q : st.Answer → List Store.Binding → Prop}
    (after : ∀ a, (w.store.execute st).1 = .ok a →
      ∃ rows', (w.store.execute st).2.Spells services rows' ∧ Q a rows') :
    (execute st).Turns w services Q :=
  Leaves.execute fun a ok => after a (ok_of_mapError ok)

/-- What was done is put on the audit trail, and stays as it is. -/
theorem Turns.reported {Q : List Store.Binding → Prop} (first : h.Turns w services fun _ => Q)
    (e : Audit.Event) : (h >>= fun _ => report e).Turns w services fun _ => Q := by
  refine Turns.bind first fun _ w' rows' _ spells here => ?_
  refine Leaves.mono (reads_report w' e) fun r w'' _ quiet _ _ => ⟨rows', ?_, here⟩
  rw [quiet.1]
  exact spells

end Turns

end Handler

namespace Dhcp

open Handler

variable {w : World} {services : List Store.Service} {rows : List Store.Binding}

/-! ## The rows of one port -/

/-- The rows of all ports but one. -/
def besides (portId : String) (rows : List Store.Binding) : List Store.Binding :=
  rows.filter (·.portId ≠ portId)

/-- Taking an answer for done does not touch the store. -/
theorem reads_settle (w : World) (r : Except Controller.Error Unit) :
    (settle r).Reads w fun _ => True := by
  cases r with
  | ok a => exact Reads.pure trivial
  | error e =>
      rw [settle]
      split
      · exact Reads.pure trivial
      · exact Reads.throw _

/-- Removing a superseded binding does not touch the store. -/
theorem reads_releaseSuperseded (w : World) (portId : String) (ip : IPv4) (newId : String) :
    (releaseSuperseded portId ip newId).Reads w fun _ => True := by
  refine Reads.bind (reads_execute rfl) fun found w' _ _ => ?_
  cases found.find? fun b => b.address = ip && b.bindingId ≠ newId with
  | none => exact Reads.pure trivial
  | some stale => exact Reads.bind (reads_tryCall w' _) fun answer w'' _ _ => reads_settle w'' answer

/-- A row that is let go is gone. -/
theorem turns_releaseAddress (spells : w.store.Spells services rows) {portId : String}
    {b : Store.Binding} (port : b.portId = portId) :
    (releaseAddress portId b).Turns w services fun _ rows' =>
      rows' = Table.remove Store.Binding.key b.key rows := by
  subst port
  refine Turns.reads (reads_tryCall w _) fun answer w1 _ same1 _ => ?_
  refine Turns.reads (reads_settle w1 answer) fun _ w2 _ same2 _ => ?_
  rw [← same1, ← same2] at spells
  refine Turns.reported (Turns.execute fun _ _ => ?_) _
  exact ⟨_, spells.deleteBinding b.portId b.address, rfl⟩

/-- A row that is moved has the new address, which no other row has. -/
theorem turns_moveAddress (spells : w.store.Spells services rows)
    (keyed : Table.Keyed Store.Binding.key rows) {b : Store.Binding} (hb : b ∈ rows) {portId : String}
    (port : b.portId = portId) (d : Desired) (u : BindingUpdate) :
    (moveAddress portId b d u).Turns w services fun _ rows' =>
      (∀ c ∈ rows, c.key = (b.portId, d.address) → c = b) ∧
        ∃ time, rows' = Table.modify Store.Binding.key b.key
          (.moved d.subnetId d.address d.macAddress time) rows := by
  subst port
  refine Turns.reads (reads_call w _) fun _ w1 _ same1 _ => ?_
  refine Turns.reads (reads_now w1) fun time w2 _ same2 _ => ?_
  rw [← same1, ← same2] at spells
  refine Turns.reported (Turns.execute fun found ok => ?_) _
  obtain ⟨free, after⟩ := spells.moveBinding keyed hb ok
  exact ⟨_, after, free, time, rfl⟩

/-- An address that is bound has a row. -/
theorem turns_bindAddress (spells : w.store.Spells services rows) (settings : Settings)
    (portId : String) (d : Desired) (x : Store.Service) :
    (bindAddress settings portId d x).Turns w services fun _ rows' =>
      ∃ s : Supply, s.portId = portId ∧ rows' = Store.putBinding (s.row d) rows := by
  refine Turns.reads (reads_call w _) fun bindingId w1 _ same1 _ => ?_
  refine Turns.reads (reads_releaseSuperseded w1 portId d.address bindingId)
    fun _ w2 _ same2 _ => ?_
  refine Turns.reads (reads_now w2) fun time w3 _ same3 _ => ?_
  rw [← same1, ← same2, ← same3] at spells
  refine Turns.reported (Turns.execute fun _ _ => ?_) _
  exact ⟨_, spells.putBinding _, ⟨portId, x.serverId, bindingId, time⟩, rfl, rfl⟩

/-- A row that has got an address, the same or another one, under the same names. -/
structure Renewed (b : Store.Binding) (d : Desired) (c : Store.Binding) : Prop where
  desired : asDesired c = d
  portId : c.portId = b.portId
  serverId : c.serverId = b.serverId
  bindingId : c.bindingId = b.bindingId
  createdAt : c.createdAt = b.createdAt

/-- The rows that the fates of a port's rows have come to. -/
inductive Renewals : List Fate → List Store.Binding → Prop
  | nil : Renewals [] []
  | given {b c : Store.Binding} {d : Desired} {fates : List Fate} {made : List Store.Binding}
      (here : Renewed b d c) (rest : Renewals fates made) : Renewals ((b, some d) :: fates) (c :: made)
  | dropped {b : Store.Binding} {fates : List Fate} {made : List Store.Binding}
      (rest : Renewals fates made) : Renewals ((b, none) :: fates) made

namespace Renewals

variable {fates : List Fate} {made : List Store.Binding}

/-- The renewed rows have what their old rows were to have. -/
theorem desired (h : Renewals fates made) : made.map asDesired = fates.filterMap (·.2) := by
  induction h with
  | nil => rfl
  | given here rest ih => rw [List.map_cons, here.desired, ih]; rfl
  | dropped rest ih => exact ih

/-- A row that is to have something has its renewed row. -/
theorem exists_of_mem (h : Renewals fates made) {b : Store.Binding} {d : Desired}
    (hf : (b, some d) ∈ fates) : ∃ c ∈ made, Renewed b d c := by
  induction h with
  | nil => exact nomatch hf
  | @given b' c d' fates made here rest ih =>
      rcases List.mem_cons.mp hf with same | later
      · cases same
        exact ⟨c, List.mem_cons_self, here⟩
      · obtain ⟨c', hc, there⟩ := ih later
        exact ⟨c', List.mem_cons_of_mem _ hc, there⟩
  | dropped rest ih =>
      rcases List.mem_cons.mp hf with same | later
      · exact nomatch (Prod.mk.inj same).2
      · exact ih later

/-- Renewed rows belong to the same port. -/
theorem portId (h : Renewals fates made) {portId : String}
    (own : ∀ f ∈ fates, f.1.portId = portId) : ∀ c ∈ made, c.portId = portId := by
  induction h with
  | nil => exact fun c hc => nomatch hc
  | given here rest ih =>
      obtain ⟨first, others⟩ := List.forall_mem_cons.mp own
      exact List.forall_mem_cons.mpr ⟨here.portId.trans first, ih others⟩
  | dropped rest ih => exact ih (List.forall_mem_cons.mp own).2

end Renewals

/-- The rows that are there are taken one by one; the others stay as they are. -/
theorem turns_edits (settings : Settings) (p : Port) (service : Option Store.Service)
    (t : Template) {fates : List Fate} {rest : List Store.Binding}
    (spells : w.store.Spells services rows) (keyed : Table.Keyed Store.Binding.key rows)
    (shared : rows.Perm (fates.map (·.1) ++ rest)) (own : ∀ f ∈ fates, f.1.portId = p.id)
    (subnet : ∀ b d, (b, some d) ∈ fates → b.subnetId = d.subnetId) :
    ((edits fates t).forM (applyChange settings p.id service)).Turns w services fun _ rows' =>
      Table.Keyed Store.Binding.key rows' ∧ besides p.id rows' = besides p.id rows ∧
        ∃ made, Renewals fates made ∧ rows'.Perm (made ++ rest) := by
  induction fates generalizing w rows rest with
  | nil => exact Turns.pure spells ⟨keyed, rfl, [], .nil, shared⟩
  | cons f fates ih =>
      obtain ⟨b, d⟩ := f
      obtain ⟨port, owns⟩ := List.forall_mem_cons.mp own
      have subnets : ∀ b' d', (b', some d') ∈ fates → b'.subnetId = d'.subnetId :=
        fun b' d' later => subnet b' d' (List.mem_cons_of_mem _ later)
      have hb : b ∈ rows := shared.mem_iff.mpr List.mem_cons_self
      have hidden : ∀ c ∈ rows, c.key = b.key → decide (c.portId ≠ p.id) = false := by
        intro c _ same
        have portId : c.portId = p.id := (congrArg Prod.fst same).trans port
        simpa using portId
      rw [edits_cons]
      cases d with
      | none =>
          rw [if_neg (by exact nofun)]
          show ((releaseAddress p.id b >>= fun _ => _).Turns _ _ _)
          refine Turns.bind (turns_releaseAddress spells port) ?_
          rintro _ w' _ - spells' rfl
          refine Turns.mono (ih spells' (keyed.remove _ _) (keyed.remove_perm shared) owns
            subnets) ?_
          rintro _ rows' ⟨keyed', others, made, come, perm⟩
          exact ⟨keyed', others.trans (Table.remove_hidden hidden), made, .dropped come, perm⟩
      | some d =>
          by_cases keep : transition (some b) (some d) t = .keep
          -- a row that is as it should be is passed over
          · obtain ⟨mac, address⟩ := transition_keep_iff.mp keep
            have stays : asDesired b = d := by
              rw [asDesired, subnet b d List.mem_cons_self, mac, address]
            rw [if_pos keep]
            refine Turns.mono (ih spells keyed (shared.trans List.perm_middle.symm) owns subnets) ?_
            rintro _ rows' ⟨keyed', others, made, come, perm⟩
            exact ⟨keyed', others, b :: made, .given ⟨stays, rfl, rfl, rfl, rfl⟩ come,
              perm.trans List.perm_middle⟩
          · have update : transition (some b) (some d) t = .update b d (updateFor b d t) :=
              if_neg fun empty => keep (if_pos empty)
            rw [if_neg keep, update]
            show ((moveAddress p.id b d (updateFor b d t) >>= fun _ => _).Turns _ _ _)
            refine Turns.bind (turns_moveAddress spells keyed hb port d _) ?_
            rintro _ w' _ - spells' ⟨free, time, rfl⟩
            have moved := (Table.modify_perm keyed hb
              (.moved d.subnetId d.address d.macAddress time)).trans
              ((keyed.remove_perm shared).cons _)
            refine Turns.mono (ih spells' (keyed.modify hb free)
              (moved.trans List.perm_middle.symm) owns subnets) ?_
            rintro _ rows' ⟨keyed', others, made, come, perm⟩
            refine ⟨keyed', others.trans (Table.modify_hidden fun c hc same => ?_),
              b.moved d.subnetId d.address d.macAddress time :: made,
              .given ⟨rfl, rfl, rfl, rfl, rfl⟩ come, perm.trans List.perm_middle⟩
            exact ⟨hidden c hc same, hidden c hc same⟩

/-- New addresses get new rows. -/
theorem turns_binds (settings : Settings) (p : Port) (service : Option Store.Service)
    {news : List Desired} (spells : w.store.Spells services rows)
    (free : ∀ d ∈ news, ∀ c ∈ rows, c.key ≠ (p.id, d.address))
    (distinct : Table.Keyed Desired.address news) :
    ((news.map Change.create).forM (applyChange settings p.id service)).Turns w services
      fun _ rows' => ∃ made, rows' = rows ++ made ∧ made.map asDesired = news ∧
        ∀ c ∈ made, c.portId = p.id := by
  induction news generalizing w rows with
  | nil => exact Turns.pure spells ⟨[], (List.append_nil rows).symm, rfl, fun c hc => nomatch hc⟩
  | cons d news ih =>
      obtain ⟨others, distinct'⟩ := Table.keyed_cons.mp distinct
      show ((applyChange settings p.id service (.create d) >>= fun _ => _).Turns _ _ _)
      cases service with
      | none =>
          exact Turns.bind (P := fun _ _ => False) (Turns.throw _) fun _ _ _ _ _ never => never.elim
      | some x =>
          refine Turns.bind (turns_bindAddress spells settings p.id d x) ?_
          rintro _ w' _ - spells' ⟨s, port, rfl⟩
          have key : (s.row d).key = (p.id, d.address) := Prod.ext port rfl
          -- the address is free, so the row comes last
          have absent : ∀ c ∈ rows, c.key ≠ (s.row d).key := fun c hc => by
            rw [key]
            exact free d List.mem_cons_self c hc
          have in_place : (s.row d).inPlace rows = s.row d := by
            rw [Store.Binding.inPlace, Table.find?_eq_none_iff.mpr absent]
          have put : Store.putBinding (s.row d) rows = rows ++ [s.row d] := by
            rw [Store.putBinding, in_place, Table.put_of_absent absent]
          rw [put] at spells'
          refine Turns.mono (ih spells' ?_ distinct') ?_
          -- and the addresses that follow are still free, since they are distinct
          · intro d' hd' c hc
            rcases List.mem_append.mp hc with old | new
            · exact free d' (List.mem_cons_of_mem _ hd') c old
            · rw [List.mem_singleton.mp new, key]
              exact fun same => others d' hd' (Prod.mk.inj same).2.symm
          · rintro _ _ ⟨made, rfl, desired, own⟩
            refine ⟨s.row d :: made, List.append_assoc _ _ _, ?_, ?_⟩
            · rw [List.map_cons, desired, asDesired_row]
            · exact List.forall_mem_cons.mpr ⟨port, own⟩

/-! ## All rows of a port -/

/-- What the rows have become when those of a port are what they should be. -/
structure Converged (p : Port) (desired : List Desired) (rows rows' : List Store.Binding) :
    Prop where
  /-- There is one row for each address. -/
  wanted : ((Store.ofPort p.id rows').map asDesired).Perm desired
  /-- A row that stays in its place names the binding that it named, and dates from when it did. -/
  kept : ∀ b ∈ rows, b.portId = p.id → ∀ d ∈ desired, wantedAt d = heldAt b →
    ∃ c ∈ rows', Renewed b d c
  others : besides p.id rows' = besides p.id rows

/-- The rows of a port are listed in another order. -/
theorem perm_ofPort (portId : String) (rows : List Store.Binding) :
    (Store.ofPort portId rows).Perm (rows.filter (·.portId = portId)) :=
  List.mergeSort_perm _ _

/-- All rows are those of the port and those besides. -/
theorem perm_ofPort_besides (portId : String) (rows : List Store.Binding) :
    rows.Perm (Store.ofPort portId rows ++ besides portId rows) := by
  have parted := List.filter_append_perm (fun b : Store.Binding => b.portId = portId) rows
  refine parted.symm.trans (List.Perm.append (perm_ofPort portId rows).symm ?_)
  exact List.Perm.of_eq (List.filter_congr fun b _ => by simp)

/-- Rows of one port among those of others. -/
theorem ofPort_perm {portId : String} {rows made : List Store.Binding}
    (own : ∀ c ∈ made, c.portId = portId) {others : List Store.Binding}
    (perm : rows.Perm (made ++ besides portId others)) :
    (Store.ofPort portId rows).Perm made := by
  have mine : made.filter (·.portId = portId) = made :=
    List.filter_eq_self.mpr fun c hc => by simpa using own c hc
  have none : (besides portId others).filter (·.portId = portId) = [] := by
    refine List.filter_eq_nil_iff.mpr fun c hc => ?_
    simpa using (List.mem_filter.mp hc).2
  have filtered := perm.filter (·.portId = portId)
  rw [List.filter_append, mine, none, List.append_nil] at filtered
  exact (perm_ofPort portId rows).trans filtered

/-- The addresses of a port's rows are distinct. -/
theorem keyed_address_ofPort (keyed : Table.Keyed Store.Binding.key rows) (portId : String) :
    Table.Keyed Store.Binding.address (Store.ofPort portId rows) := by
  have own : Table.Keyed Store.Binding.key (Store.ofPort portId rows) :=
    Table.Keyed.perm (keyed.sublist (List.filter_sublist.map _)) (perm_ofPort portId rows).symm
  refine own.of_key fun b hb c hc same => ?_
  have port : b.portId = c.portId :=
    (Store.mem_ofPort.mp hb).2.trans (Store.mem_ofPort.mp hc).2.symm
  exact Prod.ext port same

section Parts

variable {p : Port} {desired news : List Desired} {fates : List Fate}
  {edited made bound : List Store.Binding}

/-- Rows that have got their addresses leave room for the new ones. -/
theorem Renewals.room (renewed : Renewals fates made)
    (apart : ∀ a ∈ (fates.filterMap (·.2)).map Desired.address,
      ∀ a' ∈ news.map Desired.address, a ≠ a')
    (perm : edited.Perm (made ++ besides p.id rows)) :
    ∀ d ∈ news, ∀ c ∈ edited, c.key ≠ (p.id, d.address) := by
  intro d hd c hc same
  rcases List.mem_append.mp (perm.subset hc) with mine | other
  · have given : asDesired c ∈ fates.filterMap (·.2) :=
      renewed.desired ▸ List.mem_map_of_mem mine
    exact apart _ (List.mem_map_of_mem given) _ (List.mem_map_of_mem hd) (congrArg Prod.snd same)
  · have foreign : c.portId ≠ p.id := by simpa using (List.mem_filter.mp other).2
    exact foreign (congrArg Prod.fst same)

/-- Rows that have got their addresses and rows for the new ones are what was wanted. -/
theorem Converged.of_renewals (keyed : Table.Keyed Store.Binding.key rows)
    (distinct : Table.Keyed Desired.address desired)
    (addresses : (fates.filterMap (·.2) ++ news).Perm desired)
    (pairs : pairBindings (Store.ofPort p.id rows) desired
      = fates.map (fun f => (some f.1, f.2)) ++ news.map fun d => (none, some d))
    (renewed : Renewals fates made) (own_made : ∀ c ∈ made, c.portId = p.id)
    (perm : edited.Perm (made ++ besides p.id rows))
    (others : besides p.id edited = besides p.id rows)
    (desired_bound : bound.map asDesired = news) (own_bound : ∀ c ∈ bound, c.portId = p.id) :
    Converged p desired rows (edited ++ bound) where
  wanted := by
    -- the rows are the renewed ones and the new ones of the port, and those besides
    have all : (edited ++ bound).Perm ((made ++ bound) ++ besides p.id rows) := by
      refine (perm.append_right bound).trans ?_
      rw [List.append_assoc, List.append_assoc]
      exact List.perm_append_comm.append_left made
    have mine := ofPort_perm (List.forall_mem_append.mpr ⟨own_made, own_bound⟩) all
    refine (mine.map asDesired).trans ?_
    rw [List.map_append, renewed.desired, desired_bound]
    exact addresses
  kept := by
    intro b hb port d hd same
    have fate : (b, some d) ∈ fates := (paired_iff_fate pairs).mp
      (paired_of_wantedAt (keyed_address_ofPort keyed p.id) distinct
        (Store.mem_ofPort.mpr ⟨hb, port⟩) hd same)
    obtain ⟨c, hc, here⟩ := renewed.exists_of_mem fate
    exact ⟨c, List.mem_append_left _ (perm.symm.subset (List.mem_append_left _ hc)), here⟩
  others := by
    have none_bound : besides p.id bound = [] :=
      List.filter_eq_nil_iff.mpr fun c hc => by simpa using own_bound c hc
    rw [besides, List.filter_append]
    show besides p.id edited ++ besides p.id bound = _
    rw [none_bound, List.append_nil, others]

end Parts

/-- A plan that is carried out to its end has turned a port's rows into what was wanted. -/
theorem turns_plan (settings : Settings) (p : Port) (service : Option Store.Service) (t : Template)
    {desired : List Desired} (spells : w.store.Spells services rows)
    (keyed : Table.Keyed Store.Binding.key rows)
    (distinct : Table.Keyed Desired.address desired) :
    ((plan (Store.ofPort p.id rows) desired t).forM (applyChange settings p.id service)).Turns w
      services fun _ rows' => Converged p desired rows rows' := by
  obtain ⟨fates, news, parts, pairs⟩ := exists_pairs (Store.ofPort p.id rows) desired
  have own : ∀ f ∈ fates, f.1.portId = p.id := fun f hf =>
    (Store.mem_ofPort.mp (parts.bindings.subset (List.mem_map_of_mem hf))).2
  have shared : rows.Perm (fates.map (·.1) ++ besides p.id rows) :=
    (perm_ofPort_besides p.id rows).trans (parts.bindings.symm.append_right _)
  have addresses := (parts.addresses.map Desired.address).symm.nodup distinct
  rw [List.map_append, List.nodup_append] at addresses
  obtain ⟨-, new_distinct, apart⟩ := addresses
  -- the rows are edited before anything is created
  have parted : (plan (Store.ofPort p.id rows) desired t).forM (applyChange settings p.id service)
      = (do
        (edits fates t).forM (applyChange settings p.id service)
        (news.map Change.create).forM (applyChange settings p.id service)) := by
    rw [plan_of_pairs pairs]
    exact List.forM_append
  rw [parted]
  refine Turns.bind (turns_edits settings p service t spells keyed shared own
    fun b d hf => subnet_of_paired ((paired_iff_fate pairs).mpr hf)) ?_
  rintro _ w' edited - spells' ⟨keyed', others, made, renewed, perm⟩
  refine Turns.mono (turns_binds settings p service spells' (renewed.room apart perm)
    new_distinct) ?_
  rintro _ _ ⟨bound, rfl, desired_bound, own_bound⟩
  exact .of_renewals keyed distinct parts.addresses pairs renewed (renewed.portId own) perm others
    desired_bound own_bound

/-- The served subnets are read off the catalog. -/
theorem reads_servedSubnets (w : World) (networkId : String) :
    (servedSubnets networkId).Reads w fun ids =>
      ids = ((w.catalog.subnets.filter (·.networkId = networkId)).filter (·.servesDhcp)).map
        (·.id) := by
  refine Reads.bind (reads_query w (.subnetsOf networkId)) ?_
  rintro subnets w' - rfl
  exact Reads.pure rfl

/-- Finding the service that changes need does not touch the store. -/
theorem reads_serviceFor (w : World) (p : Port) (changes : List Change) :
    (serviceFor p changes).Reads w fun _ => True := by
  rw [serviceFor]
  split
  · refine Reads.bind (reads_execute rfl) fun service w' _ _ => ?_
    cases service with
    | none => exact Reads.throw _
    | some x => exact Reads.pure trivial
  · exact Reads.pure trivial

/-- Converging an instance port turns its rows into those it should have. -/
theorem turns_converge (settings : Settings) {p : Port} (compute : p.isCompute = true)
    (distinct : (p.ipv4s.map (·.2)).Nodup) (spells : w.store.Spells services rows)
    (keyed : Table.Keyed Store.Binding.key rows) :
    (converge settings p (Store.ofPort p.id rows)).Turns w services fun _ rows' =>
      Converged p (wantedBindings w.catalog p) rows rows' := by
  rw [converge, if_pos compute]
  refine Turns.reads (reads_servedSubnets w p.networkId) ?_
  rintro _ w1 - same1 rfl
  rw [pure_bind]
  refine Turns.reads (reads_serviceFor w1 p _) fun service w2 _ same2 _ => ?_
  rw [← same1, ← same2] at spells
  exact turns_plan settings p service _ spells keyed (nodup_wanted w.catalog distinct)

/-- The update of an instance port that was not a DHCP port. -/
theorem portUpdated_eq {settings : Settings} (native : settings.nativeDhcp = true) {old new : Port}
    (differ : sameBindings old new = false) (compute : new.role = .compute)
    (other : old.role ≠ .dhcp) :
    portUpdated settings old new = lockedPort new (do
      match ← query (.port new.id) with
      | none => return
      | some _ =>
        let current ← execute (.bindingsOf new.id)
        converge settings new current) := by
  rw [portUpdated, native, differ]
  show lockedPort new _ = _
  congr 1
  refine bind_congr fun found => ?_
  cases found with
  | none => rfl
  | some p =>
      dsimp only
      rw [if_neg fun h => other h.1]
      refine bind_congr fun current => ?_
      rw [compute, if_neg nofun]
      exact bind_pure_unit

/-- An update of an instance port that succeeds leaves the port the rows it should have. -/
theorem turns_portUpdated {settings : Settings} (native : settings.nativeDhcp = true)
    {old new : Port} (differ : sameBindings old new = false) (compute : new.role = .compute)
    (other : old.role ≠ .dhcp) (known : ∃ p ∈ w.catalog.ports, p.id = new.id)
    (distinct : (new.ipv4s.map (·.2)).Nodup) (holds : w.store.Holds services rows)
    (keyed : Table.Keyed Store.Binding.key rows) :
    (portUpdated settings old new).Turns w services fun _ rows' =>
      Converged new (wantedBindings w.catalog new) rows rows' := by
  rw [portUpdated_eq native differ compute other]
  refine Leaves.locked (Leaves.locked ?_)
  refine Turns.reads (reads_query w (.port new.id)) ?_
  rintro found w1 follows1 same1 here
  cases found with
  | none =>
      obtain ⟨p, hp, same⟩ := known
      exact absurd same (Table.find?_eq_none_iff.mp here.symm p hp)
  | some p =>
      rw [← same1] at holds
      refine Turns.reads (reads_execute (by rw [holds.bindingsOf])) ?_
      rintro current w2 follows2 same2 read
      rw [holds.bindingsOf] at read
      rw [← Except.ok.inj read, ← (follows1.trans follows2).catalog]
      rw [← same2] at holds
      exact turns_converge settings (by rw [Port.isCompute, compute]; rfl) distinct holds.spells
        keyed

/-! ## Without a server -/

/-- A look-up that goes through. -/
theorem leaves_query {q : Catalog.Query} (through : w.queryFaults.next q.topic = none) :
    (query q).Leaves w fun r w' => r = .ok (w.catalog.answer q) ∧
      w' = { w with queryFaults := w.queryFaults.count q.topic } := by
  unfold Leaves
  rw [runIn_query, World.query, through]
  exact ⟨rfl, rfl⟩

/-- Counting look-ups of one kind leaves the faults of the others as they are. -/
theorem next_count_of_ne {t t' : Catalog.Topic} (other : t' ≠ t)
    (f : Faults Catalog.Topic Catalog.Error) : (f.count t).next t' = f.next t' := by
  simp only [Faults.next, Faults.count, Faults.set, if_neg other]

/-- A statement that only reads. -/
theorem leaves_read {st : Store.Statement} {a : st.Answer}
    (answer : w.store.execute st = (.ok a, w.store)) :
    (execute st).Leaves w fun r w' => r = .ok a ∧ w' = w := by
  refine Leaves.execute ?_
  rw [answer]
  exact ⟨rfl, rfl⟩

/-- The served subnets are found if the look-up is not lost, and only the look-up is counted. -/
theorem leaves_servedSubnets {networkId : String}
    (through : w.queryFaults.next .subnetsOf = none) :
    (servedSubnets networkId).Leaves w fun r w' =>
      r = .ok (((w.catalog.subnets.filter (·.networkId = networkId)).filter (·.servesDhcp)).map
        (·.id)) ∧ w' = { w with queryFaults := w.queryFaults.count .subnetsOf } := by
  refine Leaves.bind (leaves_query (q := .subnetsOf networkId) through) ?_
    fun e w' _ answer => nomatch answer.1
  rintro subnets _ - ⟨listed, rfl⟩
  cases Except.ok.inj listed
  exact Leaves.pure ⟨rfl, rfl⟩

/-- Changes that make a binding ask for a service, and without one they are refused before anything
is done. -/
theorem leaves_serviceFor {p : Port} {changes : List Change} (holds : w.store.Holds services rows)
    (creates : changes.any (·.isCreate) = true)
    (unserved : ∀ x ∈ services, x.networkId ≠ p.networkId) :
    (serviceFor p changes).Leaves w fun r w' =>
      r = .error (.notFound (.server p.networkId p.id)) ∧ w' = w := by
  have no_server : w.store.execute (.getService p.networkId) = (.ok none, w.store) := by
    rw [holds.getService, Table.find?_eq_none_iff.mpr unserved]
  rw [serviceFor, if_pos creates]
  refine Leaves.bind (leaves_read no_server) ?_ ?_
  · rintro service _ - ⟨none, rfl⟩
    cases Except.ok.inj none
    exact Leaves.throw ⟨rfl, rfl⟩
  · rintro e w' - ⟨answer, -⟩
    cases answer

/-- If something is to be bound and the network has no server, nothing is done. -/
theorem leaves_converge (settings : Settings) {p : Port} (compute : p.isCompute = true)
    (holds : w.store.Holds services rows) (through : w.queryFaults.next .subnetsOf = none)
    (creates : (plan (Store.ofPort p.id rows) (wantedBindings w.catalog p)
      (Template.ofSettings settings)).any (·.isCreate) = true)
    (unserved : ∀ x ∈ services, x.networkId ≠ p.networkId) :
    (converge settings p (Store.ofPort p.id rows)).Leaves w fun r w' =>
      r = .error (.notFound (.server p.networkId p.id)) ∧ w'.store = w.store ∧
        w'.controller = w.controller := by
  rw [converge, if_pos compute]
  refine Leaves.bind (leaves_servedSubnets through) ?_ fun e w' _ answer => nomatch answer.1
  rintro ids _ - ⟨served, rfl⟩
  cases Except.ok.inj served
  show ((serviceFor p (plan (Store.ofPort p.id rows) (wantedBindings w.catalog p)
    (Template.ofSettings settings)) >>= _).Leaves _ _)
  refine Leaves.bind (leaves_serviceFor holds creates unserved)
    (fun service w' _ found => nomatch found.1) ?_
  rintro e _ - ⟨missing, rfl⟩
  exact ⟨congrArg _ (Except.error.inj missing), rfl, rfl⟩

/-- An update that would make a binding on a network without a service is refused, and neither the
store nor the controller is touched. -/
theorem leaves_portUpdated {settings : Settings} (native : settings.nativeDhcp = true)
    {old new : Port} (differ : sameBindings old new = false) (compute : new.role = .compute)
    (other : old.role ≠ .dhcp) (known : ∃ p ∈ w.catalog.ports, p.id = new.id)
    (holds : w.store.Holds services rows) (through : ∀ t, w.queryFaults.next t = none)
    (creates : (plan (Store.ofPort new.id rows) (wantedBindings w.catalog new)
      (Template.ofSettings settings)).any (·.isCreate) = true)
    (unserved : ∀ x ∈ services, x.networkId ≠ new.networkId) :
    (portUpdated settings old new).Leaves w fun r w' =>
      r = .error (.notFound (.server new.networkId new.id)) ∧ w'.store = w.store ∧
        w'.controller = w.controller := by
  rw [portUpdated_eq native differ compute other]
  refine Leaves.locked (Leaves.locked ?_)
  refine Leaves.bind (leaves_query (q := .port new.id) (through _)) ?_
    fun e w' _ answer => nomatch answer.1
  rintro found _ - ⟨here, rfl⟩
  cases there : w.catalog.answer (.port new.id) with
  | none =>
      obtain ⟨p, hp, same⟩ := known
      exact absurd same (Table.find?_eq_none_iff.mp there p hp)
  | some p =>
      rw [there] at here
      cases Except.ok.inj here
      refine Leaves.bind (leaves_read (holds.bindingsOf new.id)) ?_
        fun e w' _ answer => nomatch answer.1
      rintro current _ - ⟨read, rfl⟩
      cases Except.ok.inj read
      exact leaves_converge (w := { w with queryFaults := _ }) settings
        (by rw [Port.isCompute, compute]; rfl) holds
        ((next_count_of_ne (show Catalog.Topic.subnetsOf ≠ .port by decide) _).trans (through _))
        creates unserved

/-- The update of an instance port comes to one row for each address that the port should have,
whatever rows there were for it and whatever fails, if it succeeds at all; a port of a network
without a server is left as it is if something is to be bound for it. -/
theorem update_comes_to_wanted {settings : Settings} (native : settings.nativeDhcp = true)
    {old new : Port} (differ : sameBindings old new = false) (compute : new.role = .compute)
    (other : old.role ≠ .dhcp) (known : ∃ p ∈ w.catalog.ports, p.id = new.id)
    (distinct : (new.ipv4s.map (·.2)).Nodup) (holds : w.store.Holds services rows)
    (keyed : (rows.map fun b => (b.portId, b.address)).Nodup) :
    (((portUpdated settings old new).runIn w).1 = .ok () →
      ∃ rows', ((portUpdated settings old new).runIn w).2.store.Spells services rows' ∧
        Converged new (wantedBindings w.catalog new) rows rows') ∧
    ((∀ t, w.queryFaults.next t = none) →
      (plan (Store.ofPort new.id rows) (wantedBindings w.catalog new)
        (Template.ofSettings settings)).any (·.isCreate) = true →
      (∀ x ∈ services, x.networkId ≠ new.networkId) →
      ((portUpdated settings old new).runIn w).1
          = .error (.notFound (.server new.networkId new.id)) ∧
        ((portUpdated settings old new).runIn w).2.store = w.store ∧
        ((portUpdated settings old new).runIn w).2.controller = w.controller) :=
  ⟨turns_portUpdated native differ compute other known distinct holds keyed (),
    leaves_portUpdated native differ compute other known holds⟩

namespace Sample

/-- The instance's port has got another MAC address and a second address. -/
def readdressedPort : Port :=
  { instancePort with
    macAddress := "fa:16:3e:00:00:07"
    fixedIps := [⟨"subnet", .v4 ⟨10, 0, 0, 5⟩⟩, ⟨"subnet", .v4 ⟨10, 0, 0, 6⟩⟩] }

/-- The first network has neither services nor rows. -/
theorem holds_world : world.store.Holds [] [] :=
  ⟨rfl, rfl, fun _ h => (nomatch h), fun _ h => (nomatch h)⟩

end Sample

/-- The update succeeds where the network has a server, and is refused where it has none. -/
theorem update_comes_to_wanted_readdressed :
    (∃ services rows rows', Sample.bound.after.store.Holds services rows ∧
      ((portUpdated Sample.settings Sample.instancePort Sample.readdressedPort).runIn
        Sample.bound.after).2.store.Spells services rows' ∧
      Converged Sample.readdressedPort
        (wantedBindings Sample.bound.after.catalog Sample.readdressedPort) rows rows') ∧
    ((portUpdated Sample.settings Sample.instancePort Sample.readdressedPort).runIn
      Sample.world).1 = .error (.notFound (.server "net" "instance-port")) := by
  have differ : sameBindings Sample.instancePort Sample.readdressedPort = false := by
    decide +kernel
  have native : Sample.settings.nativeDhcp = true := rfl
  obtain ⟨services, rows, coherent⟩ := Coherent.of_homed_run Sample.homed_run
  obtain ⟨rows', spells, converged⟩ := (update_comes_to_wanted (w := Sample.bound.after) native
    differ (by decide +kernel) (by decide +kernel) (by decide +kernel) (by decide +kernel)
    coherent.store coherent.rows_once).1 (by decide +kernel)
  refine ⟨⟨services, rows, rows', coherent.store, spells, converged⟩, ?_⟩
  exact ((update_comes_to_wanted (w := Sample.world) native differ (by decide +kernel)
    (by decide +kernel) (by decide +kernel) (by decide +kernel) Sample.holds_world
    List.nodup_nil).2 (fun _ => rfl) (by decide +kernel) fun _ h => nomatch h).1

end Dhcp

end Overlay
