import Overlay.Proofs.Dhcp.Arrivals
import Overlay.Proofs.Dhcp.Coherent
import Overlay.Proofs.Dhcp.Serial

/-!
# Late events of a port that is gone

Events of one port may be delivered late and in any order. If the port is an instance's and the
catalog does not know it any more, its updates are dropped, and its deletion lets go everything that
its rows name. Its creation, however, does not look the port up: it binds the port's addresses. So
what is left in the end depends on the order, and `gone_iff` says how.

What happens in between is confined to the port: the rows of other ports stay as they are, and no
binding is left behind without a row (`Confined`).
-/

namespace Overlay.Dhcp

open Overlay.Handler
open Overlay.Controller (HeldServer HeldBinding)

variable {w : World} {l : Ledger} {p : Port}

/-! ## Acts on the rows of one port -/

/-- The act is one on the port's rows, and it is not interrupted. -/
def Act.Whole (portId : String) : Act → Prop
  | bind _ q _ _ _ => q = portId
  | release b _ => b.portId = portId
  | serve .. | readdress .. | retire .. | leak .. | move .. | clash .. | stay .. => False

/-- The ledger has a row of the port. -/
def Ledger.HasRow (l : Ledger) (portId : String) : Prop := ∃ b ∈ l.rows, b.portId = portId

/-- From `l` to `l'` only rows of the port and what they name have changed. -/
structure Confined (portId : String) (l l' : Ledger) : Prop where
  linked : l'.Linked
  agreed : l'.Agreed
  others : ∀ b, b.portId ≠ portId → (b ∈ l'.rows ↔ b ∈ l.rows)
  strays : ∀ h, l'.Stray h → l.Stray h

namespace Confined

variable {portId : String} {l' l'' : Ledger}

/-- Where nothing is done, everything is as it was. -/
theorem refl (linked : l.Linked) (agreed : l.Agreed) : Confined portId l l :=
  ⟨linked, agreed, fun _ _ => Iff.rfl, fun _ h => h⟩

/-- What is confined to the port twice is confined to it. -/
theorem trans (h : Confined portId l l') (h' : Confined portId l' l'') : Confined portId l l'' :=
  ⟨h'.linked, h'.agreed, fun b other => (h'.others b other).trans (h.others b other),
    fun g stray => h.strays g (h'.strays g stray)⟩

/-- A whole act on a row of the port is confined to it. -/
theorem apply (linked : l.Linked) (agreed : l.Agreed) {a : Act} (fits : a.Fits l)
    (whole : a.Whole portId) (clean : a.fault? = none) : Confined portId l (a.apply l) := by
  refine ⟨linked.apply fits, agreed.apply linked fits ?_, fun b other => ?_,
    fun h stray => stray.of_apply linked fits clean⟩
  · rintro b c d rfl
    exact whole.elim
  · cases a with
    | bind x q d time m =>
        cases show q = portId from whole
        show b ∈ Store.putBinding _ _ ↔ _
        have key := Store.key_inPlace l.rows (l.newRow x portId d time)
        rw [Store.putBinding, Table.mem_put linked.rows_keyed, key]
        constructor
        · rintro (rfl | ⟨old, -⟩)
          · exact absurd (congrArg Prod.fst key) other
          · exact old
        · exact fun old => Or.inr ⟨old, fun same => other (congrArg Prod.fst same)⟩
    | release c m =>
        show b ∈ Table.remove _ _ _ ↔ _
        rw [Table.mem_remove]
        exact and_iff_left fun same => other ((congrArg Prod.fst same).trans whole)
    | _ => exact whole.elim

/-- A path of such acts, none of which tells of a fault. -/
theorem of_path {acts : List Act} (path : Path l acts l') (linked : l.Linked) (agreed : l.Agreed)
    (whole : ∀ a ∈ acts, a.Whole portId) (clean : ∀ a ∈ acts, a.fault? = none) :
    Confined portId l l' :=
  path.keeps (P := Confined portId l) (refl linked agreed) fun a ha _ fits sofar =>
    sofar.trans (apply sofar.linked sofar.agreed fits (whole a ha) (clean a ha))

/-- If no row of the port is left, then of the bindings only those are left that were there before
and were not named by a row of the port. -/
theorem held (h : Confined portId l l') (linked : l.Linked) (agreed : l.Agreed)
    (none : ¬ l'.HasRow portId) {g : HeldBinding} (hg : g ∈ l'.held) :
    g ∈ l.held ∧ ∀ b ∈ l.rows, b.portId = portId → b.name ≠ g.key := by
  by_cases named : ∃ c ∈ l'.rows, c.name = g.key
  · obtain ⟨c, hc, name⟩ := named
    have other : c.portId ≠ portId := fun same => none ⟨c, hc, same⟩
    have old : c ∈ l.rows := (h.others c other).mp hc
    have same : heldFor c = g := h.linked.held_keys.eq_of_key (h.agreed c hc) hg name
    refine ⟨same ▸ agreed c old, fun b hb mine taken => other ?_⟩
    rw [← linked.eq_of_name hb old (taken.trans name.symm)]
    exact mine
  · have stray : l.Stray g := h.strays g ⟨hg, fun c hc same => named ⟨c, hc, same⟩⟩
    exact ⟨stray.1, fun b hb _ => stray.2 b hb⟩

end Confined

/-! ## Handlers -/

/-- The rows of a port are let go one by one. -/
theorem goes_releaseEach {portId : String} (rows : List Store.Binding) (shows : w.Shows l)
    (linked : l.Linked) (there : ∀ b ∈ rows, b ∈ l.rows ∧ b.portId = portId)
    (once : Table.Keyed Store.Binding.key rows) :
    (rows.forM (releaseAddress portId)).Goes w l fun r acts l' => ∀ u, r = .ok u →
      (∀ a ∈ acts, a.Whole portId) ∧
        ∀ c, c ∈ l'.rows ↔ c ∈ l.rows ∧ ∀ b ∈ rows, c.key ≠ b.key := by
  -- releasing one row leaves the others there, since no two have the same key
  induction rows generalizing w l with
  | nil =>
      refine Goes.pure shows fun _ _ => ⟨fun a ha => (nomatch ha), fun c => ?_⟩
      exact (and_iff_left fun b hb => nomatch hb).symm
  | cons b rest ih =>
      obtain ⟨⟨hb, port⟩, others⟩ := List.forall_mem_cons.mp there
      obtain ⟨apart, once'⟩ := Table.keyed_cons.mp once
      subst port
      show ((releaseAddress b.portId b >>= fun _ => _).Goes _ _ _)
      refine Goes.bind linked (goes_releaseAddress shows linked hb) ?_ fun e acts l' _ _ u none =>
        nomatch none
      rintro u acts l' w1 - shows1 linked1 path ⟨m, rfl⟩
      cases path with
      | cons fits done =>
          cases done
          have left : ∀ c, c ∈ ((Act.release b m).apply l).rows ↔ c ∈ l.rows ∧ c.key ≠ b.key :=
            fun c => Table.mem_remove
          have there' : ∀ c ∈ rest, c ∈ ((Act.release b m).apply l).rows ∧ c.portId = b.portId :=
            fun c hc => ⟨(left c).mpr ⟨(others c hc).1, apart c hc⟩, (others c hc).2⟩
          refine Goes.mono (ih shows1 linked1 there' once') ?_
          intro r more l'' _ done u ok
          obtain ⟨whole, rows⟩ := done u ok
          refine ⟨List.forall_mem_cons.mpr ⟨rfl, whole⟩, fun c => ?_⟩
          rw [rows, left, List.forall_mem_cons, and_assoc]

/-- An instance port is deleted: no row of it is left. -/
theorem goes_portDeleted_compute (shows : w.Shows l) (linked : l.Linked)
    (compute : p.role = .compute) :
    (portDeleted p).Goes w l fun r acts l' => ∀ u, r = .ok u →
      (∀ a ∈ acts, a.Whole p.id) ∧ ¬ l'.HasRow p.id := by
  refine Goes.locked (Goes.locked ?_)
  refine Goes.quiet (quiet_bindingsOf shows p.id) ?_ fun e none => nomatch none
  rintro rows w1 - shows1 answer
  rw [Except.ok.inj answer]
  refine Goes.bind linked (goes_releaseEach _ shows1 linked (fun b => Store.mem_ofPort.mp)
    (keyed_ofPort l p.id linked)) ?_ fun e acts l' _ _ u none => nomatch none
  rintro u acts l' w2 - shows2 - - done
  refine Goes.ite (fun dhcp => nomatch compute.symm.trans dhcp) fun _ => ?_
  refine Goes.pure shows2 fun _ _ => ?_
  obtain ⟨whole, left⟩ := done u rfl
  rw [List.append_nil]
  refine ⟨whole, fun ⟨c, hc, mine⟩ => ?_⟩
  obtain ⟨old, other⟩ := (left c).mp hc
  exact other c (Store.mem_ofPort.mpr ⟨old, mine⟩) rfl

/-- A port that the catalog does not know is not updated. -/
theorem goes_portUpdated_absent (shows : w.Shows l) (settings : Settings) (old : Port)
    (absent : w.catalog.answer (.port p.id) = none) :
    (portUpdated settings old p).Goes w l fun _ acts _ => acts = [] := by
  refine Goes.ite (fun _ => Goes.pure shows rfl) fun _ => ?_
  refine Goes.locked (Goes.locked ?_)
  refine Goes.quiet (quiet_query shows (.port p.id)) ?_ fun e _ => rfl
  rintro found w1 - shows1 answer
  rw [show found = none from answer.trans absent]
  exact Goes.pure shows1 rfl

/-- Binding an address of a port makes a row of it. -/
theorem hasRow_bind (linked : l.Linked) (x : Store.Service) (portId : String) (d : Desired)
    (time : Instant) (m : Option Controller.Error) :
    ((Act.bind x portId d time m).apply l).HasRow portId :=
  ⟨_, (Table.mem_put linked.rows_keyed).mpr (Or.inl rfl),
    congrArg Prod.fst (Store.key_inPlace l.rows (l.newRow x portId d time))⟩

/-- Addresses of a port are bound, and nothing else happens: if there is any, the port has a row. -/
theorem Path.hasRow_binds {l' : Ledger} {acts : List Act} (path : Path l acts l')
    (linked : l.Linked) {portId : String}
    (binds : ∀ a ∈ acts, ∃ x d time m, a = .bind x portId d time m) :
    l'.HasRow portId ↔ acts ≠ [] ∨ l.HasRow portId := by
  induction path with
  | nil l => exact (or_iff_right fun h => h rfl).symm
  | @cons l l' a acts fits rest ih =>
      obtain ⟨⟨x, d, time, m, rfl⟩, more⟩ := List.forall_mem_cons.mp binds
      rw [ih (linked.apply fits) more]
      have here := hasRow_bind linked x portId d time m
      exact iff_of_true (Or.inr here) (Or.inl (List.cons_ne_nil _ acts))

/-- What is bound for a port is tagged with it. -/
theorem mem_portBinds {services : List Store.Service} {c : Catalog}
    {b : Store.Service × String × Desired} (h : b ∈ portBinds services c p) : b.2.1 = p.id := by
  rw [portBinds] at h
  split at h
  · obtain ⟨d, -, rfl⟩ := List.mem_map.mp h
    rfl
  · cases h

/-- An instance port is created: it has a row then if it had one or has an address to bind, whether
the catalog knows it or not. -/
theorem goes_portCreated_late (shows : w.Shows l) (linked : l.Linked)
    (settings : Settings) (compute : p.role = .compute) :
    (portCreated settings p).Goes w l fun r acts l' => ∀ u, r = .ok u →
      (∀ a ∈ acts, a.Whole p.id) ∧ (l'.HasRow p.id ↔
        (settings.nativeDhcp = true ∧ wantedBindings w.catalog p ≠ []) ∨ l.HasRow p.id) := by
  by_cases native : settings.nativeDhcp = true
  · refine Goes.mono (goes_portCreated_compute shows linked native compute) ?_
    rintro r acts l' path ⟨-, gets⟩ u ok
    obtain ⟨each, many⟩ := gets u ok
    -- all acts are bindings of the port, so it has a row as soon as there is an act
    have binds : ∀ a ∈ acts, ∃ x d time m, a = .bind x p.id d time m := by
      intro a ha
      have bound : a.bound? ∈ (portBinds l.services w.catalog p).map some :=
        each ▸ List.mem_map_of_mem ha
      obtain ⟨⟨x, q, d⟩, hb, same⟩ := List.mem_map.mp bound
      cases a with
      | bind x' q' d' time m =>
          cases same
          cases mem_portBinds hb
          exact ⟨x, d, time, m, rfl⟩
      | _ => exact nomatch same
    have some_bound : acts ≠ [] ↔ wantedBindings w.catalog p ≠ [] := by
      have lengths := congrArg List.length each
      rw [List.length_map, List.length_map, many] at lengths
      rw [← List.length_pos_iff, ← List.length_pos_iff, lengths]
    refine ⟨fun a ha => ?_, ?_⟩
    · obtain ⟨x, d, time, m, rfl⟩ := binds a ha
      rfl
    · rw [path.hasRow_binds linked binds, some_bound]
      simp only [native, true_and]
  · rw [portCreated, if_neg native]
    refine Goes.pure shows fun _ _ => ⟨List.forall_mem_nil _, ?_⟩
    exact (or_iff_right fun h => native h.1).symm

/-! ## Events one after the other -/

/-- The event is one of those of this port. -/
def Event.Concerns (p : Port) (e : Event) : Prop :=
  e = .portCreated p ∨ (∃ old, e = .portUpdated old p) ∨ e = .portDeleted p

/-- No fault says of a binding that it is missing. -/
def Truthful (w : World) : Prop :=
  ∀ n e, (w.callFaults.pattern .deleteBinding).failing n = some e → e.kind ≠ .notFound

/-- Surroundings stay truthful. -/
theorem Truthful.follows {w' : World} (truthful : Truthful w) (f : w.Follows w') :
    Truthful w' := by
  intro n e fails
  rw [f.failing] at fails
  exact truthful n e fails

/-- Then acts that are not interrupted tell of no fault. -/
theorem Truthful.clean {w' : World} (truthful : Truthful w) {acts : List Act} {l' : Ledger}
    (path : Path l acts l') (accounts : w.Accounts acts w') {portId : String}
    (whole : ∀ a ∈ acts, a.Whole portId) : ∀ a ∈ acts, a.fault? = none := by
  intro a ha
  obtain ⟨m, fits⟩ := path.fits a ha
  have never : ∀ e, a.fault? = some (.deleteBinding, e) → e.kind ≠ .notFound := by
    intro e hit
    obtain ⟨n, -, -, fails⟩ := (accounts.bindings e).mpr ⟨a, ha, hit⟩
    exact truthful n e fails
  cases a with
  | bind x q d time missing =>
      cases missing with
      | none => rfl
      | some e => exact absurd (fits.2 e rfl) (never e rfl)
  | release b missing =>
      cases missing with
      | none => rfl
      | some e => exact absurd (fits.2 e rfl) (never e rfl)
  | _ => exact (whole _ ha).elim

/-- Whether the port has a row after one of its events, if it had one before or not. -/
def Event.leavesRow (wanted present : Prop) : Event → Prop
  | .portCreated _ => wanted ∨ present
  | .portDeleted _ => False
  | _ => present

/-- One late event that is answered without an error. -/
theorem goes_late (settings : Settings) (shows : w.Shows l) (linked : l.Linked)
    (compute : p.role = .compute) (absent : w.catalog.answer (.port p.id) = none) {e : Event}
    (concerns : e.Concerns p) :
    (e.handler settings).Goes w l fun r acts l' => ∀ u, r = .ok u →
      (∀ a ∈ acts, a.Whole p.id) ∧ (l'.HasRow p.id ↔ e.leavesRow
        (settings.nativeDhcp = true ∧ wantedBindings w.catalog p ≠ []) (l.HasRow p.id)) := by
  rcases concerns with rfl | ⟨old, rfl⟩ | rfl
  · exact goes_portCreated_late shows linked settings compute
  · refine Goes.mono (goes_portUpdated_absent shows settings old absent) ?_
    rintro r acts l' path rfl u -
    cases path
    exact ⟨fun a ha => (nomatch ha), Iff.rfl⟩
  · refine Goes.mono (goes_portDeleted_compute shows linked compute) ?_
    intro r acts l' _ done u ok
    obtain ⟨whole, gone⟩ := done u ok
    exact ⟨whole, iff_of_false gone id⟩

/-- Whatever events come in turn, the surroundings go on. -/
theorem follows_inTurn (settings : Settings) (events : List Event) (w : World) :
    w.Follows (inTurn settings events w).2 := by
  induction events generalizing w with
  | nil => exact .refl w
  | cons e rest ih => exact (follows_runIn _ w).trans (ih _)

theorem exists_ok {α : Type} {r : Except Error α} (h : r.isOk = true) : ∃ u, r = .ok u := by
  cases r with
  | ok u => exact ⟨u, rfl⟩
  | error e => exact nomatch h

/-- All late events, each answered without an error. -/
theorem late_events {settings : Settings} (compute : p.role = .compute) {events : List Event}
    (concern : ∀ e ∈ events, e.Concerns p) (absent : w.catalog.answer (.port p.id) = none)
    (truthful : Truthful w) (shows : w.Shows l) (linked : l.Linked) (agreed : l.Agreed)
    (timely : (inTurn settings events w).2.clock.Legible)
    (answered : ∀ a ∈ (inTurn settings events w).1, a.answer.isOk = true) :
    ∃ l', (inTurn settings events w).2.Shows l' ∧ Confined p.id l l' ∧
      (l'.HasRow p.id ↔ events.foldl (fun present e => e.leavesRow
        (settings.nativeDhcp = true ∧ wantedBindings w.catalog p ≠ []) present)
          (l.HasRow p.id)) := by
  -- no event changes the catalog, so the port stays unknown
  induction events generalizing w l with
  | nil => exact ⟨l, shows, .refl linked agreed, Iff.rfl⟩
  | cons e rest ih =>
      obtain ⟨here, later⟩ := List.forall_mem_cons.mp concern
      obtain ⟨ok, answered'⟩ := List.forall_mem_cons.mp answered
      obtain ⟨u, ok⟩ := exists_ok ok
      have follows := follows_runIn (e.handler settings) w
      have early := timely.earlier (follows_inTurn settings rest _).clock
      obtain ⟨acts, l', path, shows', accounts, done⟩ :=
        goes_late settings shows linked compute absent here early
      obtain ⟨whole, row⟩ := done u ok
      have confined : Confined p.id l l' := .of_path path linked agreed whole
        (truthful.clean path accounts whole)
      have same := follows.catalog
      obtain ⟨l'', shows'', confined', rows⟩ := ih later (by rw [same]; exact absent)
        (truthful.follows follows) shows' confined.linked confined.agreed timely answered'
      refine ⟨l'', shows'', confined.trans confined', ?_⟩
      rw [same] at rows
      rw [rows, List.foldl_cons, row]

/-! ## What is left -/

/-- Some creation of the port comes after all its deletions. -/
def Recreated (p : Port) (events : List Event) : Prop :=
  ∃ front back, events = front ++ .portCreated p :: back ∧ .portDeleted p ∉ back

/-- Without events nothing is created again. -/
theorem not_recreated_nil : ¬ Recreated p [] := by
  rintro ⟨front, back, same, -⟩
  cases front <;> exact nomatch same

/-- A port is created again by the first event or by a later one. -/
theorem recreated_cons {e : Event} {rest : List Event} :
    Recreated p (e :: rest) ↔ (e = .portCreated p ∧ .portDeleted p ∉ rest) ∨ Recreated p rest := by
  constructor
  · rintro ⟨front, back, same, last⟩
    cases front with
    | nil =>
        cases same
        exact Or.inl ⟨rfl, last⟩
    | cons f front =>
        cases same
        exact Or.inr ⟨front, back, rfl, last⟩
  · rintro (⟨rfl, last⟩ | ⟨front, back, rfl, last⟩)
    · exact ⟨[], rest, rfl, last⟩
    · exact ⟨e :: front, back, rfl, last⟩

/-- A port has a row in the end if it has an address to bind and is created after all deletions, or
if it had one and is never deleted. -/
theorem foldl_leavesRow {events : List Event} (concern : ∀ e ∈ events, e.Concerns p)
    (wanted present : Prop) :
    events.foldl (fun present e => e.leavesRow wanted present) present ↔
      (wanted ∧ Recreated p events) ∨ (present ∧ .portDeleted p ∉ events) := by
  -- `present` says whether there is a row when the events that are left come
  induction events generalizing present with
  | nil => simp [not_recreated_nil]
  | cons e rest ih =>
      obtain ⟨here, later⟩ := List.forall_mem_cons.mp concern
      rw [List.foldl_cons, ih later, recreated_cons, List.mem_cons]
      rcases here with rfl | ⟨old, rfl⟩ | rfl
      · simp only [Event.leavesRow, reduceCtorEq, false_or, true_and]
        grind
      · simp [Event.leavesRow]
      · simp [Event.leavesRow]

/-- Nothing is left in `w'` of what belonged to the port in `w` or came up since: there is no row of
the port, and every binding was there in `w` and was not named by a row of the port. -/
structure Gone (portId : String) (w : World) (rows : List Store.Binding) (w' : World)
    (rows' : List Store.Binding) : Prop where
  no_row : ∀ b ∈ rows', b.portId ≠ portId
  bindings : ∀ h ∈ w'.controller.bindings, h ∈ w.controller.bindings ∧
    ∀ b ∈ rows, b.portId = portId → (b.serverId, b.bindingId) ≠ (h.serverId, h.id)

/-- After what is confined to the port, it is gone exactly if it has no row. -/
theorem Confined.gone_iff {portId : String} {l' : Ledger} {w' : World}
    (confined : Confined portId l l') (linked : l.Linked) (agreed : l.Agreed) (shows : w.Shows l)
    (shows' : w'.Shows l') : Gone portId w l.rows w' l'.rows ↔ ¬ l'.HasRow portId := by
  constructor
  · rintro gone ⟨b, hb, mine⟩
    exact gone.no_row b hb mine
  · intro none
    refine ⟨fun b hb mine => none ⟨b, hb, mine⟩, ?_⟩
    rw [shows'.controller.bindings_eq, shows.controller.bindings_eq]
    exact fun h hh => confined.held linked agreed none hh

/-- An instance port that the catalog does not know any more is deleted, and other events of it come
late, in any order and each answered without an error. Then nothing is left of it if and only if
native DHCP is off, or the port has no address to bind, or no creation comes after all deletions. -/
theorem gone_iff_not_recreated {services : List Store.Service} {rows : List Store.Binding}
    (coherent : Coherent w services rows) (truthful : Truthful w) (compute : p.role = .compute)
    (absent : w.catalog.answer (.port p.id) = none) {settings : Settings} {events : List Event}
    (concern : ∀ e ∈ events, e.Concerns p) (deleted : .portDeleted p ∈ events)
    (answered : ∀ a ∈ (inTurn settings events w).1, a.answer.isOk = true)
    (timely : (inTurn settings events w).2.clock.Legible) :
    ∃ services' rows', Coherent (inTurn settings events w).2 services' rows' ∧
      (Gone p.id w rows (inTurn settings events w).2 rows' ↔
        ¬ (settings.nativeDhcp = true ∧ wantedBindings w.catalog p ≠ [] ∧
          Recreated p events)) := by
  obtain ⟨l', shows', confined, row⟩ := late_events compute concern absent truthful
    coherent.shows coherent.linked coherent.agreed timely answered
  refine ⟨l'.services, l'.rows, .of_ledger shows' confined.linked confined.agreed, ?_⟩
  refine (confined.gone_iff coherent.linked coherent.agreed coherent.shows shows').trans ?_
  rw [row, foldl_leavesRow concern]
  simp only [deleted, not_true_eq_false, and_false, or_false, and_assoc]

/-! ## A port that is gone before it is created

The network of the first run has its server, and the instance's port is not in the catalog any more
when its events come.
-/

namespace Sample

def departed : World := { served.after with catalog := catalog.removePort "instance-port" }

/-- Rows and controller agree when the port has gone from the catalog. -/
theorem coherent_departed : ∃ services rows, Coherent departed services rows := by
  obtain ⟨before, run, -⟩ := homed_run.split (d := bound)
    (List.mem_cons_of_mem _ (List.mem_singleton_self _))
  have untouched : served.after.Untouched departed := ⟨rfl, rfl, rfl, rfl, rfl, rfl⟩
  exact Coherent.of_homed_run (.change run untouched)

/-- Nothing was said to be gone that is not. -/
theorem truthful_departed : Truthful departed := by
  intro n e fails
  exact nomatch ((calm.follows follows_served).calls .deleteBinding n).symm.trans fails

/-- The port is created, deleted and updated. -/
def deletedLast : List Event :=
  [.portCreated instancePort, .portDeleted instancePort, .portUpdated dhcpPort instancePort]

/-- The port is created once more after it was deleted. -/
def createdLast : List Event := [.portDeleted instancePort, .portCreated instancePort]

end Sample

/-- A port that is not created again leaves nothing. -/
theorem departed_port_gone : ∃ services rows services' rows',
    Coherent Sample.departed services rows ∧
    Coherent (inTurn Sample.settings Sample.deletedLast Sample.departed).2 services' rows' ∧
    Gone "instance-port" Sample.departed rows
      (inTurn Sample.settings Sample.deletedLast Sample.departed).2 rows' := by
  obtain ⟨services, rows, coherent⟩ := Sample.coherent_departed
  have concern : ∀ e ∈ Sample.deletedLast, e.Concerns Sample.instancePort := by
    simp [Sample.deletedLast, Event.Concerns]
  have answered : ∀ a ∈ (inTurn Sample.settings Sample.deletedLast Sample.departed).1,
      a.answer.isOk = true := by decide +kernel
  have timely :
      (inTurn Sample.settings Sample.deletedLast Sample.departed).2.clock.Legible := by
    show Clock.Legible _
    decide +kernel
  obtain ⟨services', rows', coherent', gone⟩ := gone_iff_not_recreated coherent
    Sample.truthful_departed rfl (by decide +kernel) concern (by simp [Sample.deletedLast])
    answered timely
  refine ⟨services, rows, services', rows', coherent, coherent', gone.mpr ?_⟩
  rintro ⟨-, -, recreated⟩
  simp [Sample.deletedLast, recreated_cons, not_recreated_nil] at recreated

/-- A port that is created late, after it was deleted, has a row and a binding in the end, though
every event was answered without an error and nothing failed. -/
theorem departed_port_recreated : (∃ services rows, Coherent Sample.departed services rows) ∧
    Sample.departed.catalog.answer (.port "instance-port") = none ∧
    (∀ e ∈ Sample.createdLast, e.Concerns Sample.instancePort) ∧
    .portDeleted Sample.instancePort ∈ Sample.createdLast ∧
    (∀ a ∈ (inTurn Sample.settings Sample.createdLast Sample.departed).1,
      a.answer.isOk = true) ∧
    (inTurn Sample.settings Sample.createdLast Sample.departed).2.store.bindings.map
      (·.map (·.portId)) = some ["instance-port"] ∧
    (inTurn Sample.settings Sample.createdLast Sample.departed).2.controller.bindings.length = 1 ∧
    ∀ rows services' rows',
      Coherent (inTurn Sample.settings Sample.createdLast Sample.departed).2 services' rows' →
      ¬ Gone "instance-port" Sample.departed rows
        (inTurn Sample.settings Sample.createdLast Sample.departed).2 rows' := by
  have left : (inTurn Sample.settings Sample.createdLast Sample.departed).2.store.bindings.map
      (·.map (·.portId)) = some ["instance-port"] := by decide +kernel
  refine ⟨Sample.coherent_departed, by decide +kernel,
    by simp [Sample.createdLast, Event.Concerns], by simp [Sample.createdLast],
    by decide +kernel, left, by decide +kernel, ?_⟩
  intro rows services' rows' coherent' gone
  rw [coherent'.store.bindings_eq, Option.map_some, List.map_map] at left
  have mine : "instance-port" ∈ rows'.map (Store.BindingRow.portId ∘ Store.Binding.toRow) := by
    rw [Option.some.inj left]
    exact List.mem_singleton_self _
  obtain ⟨b, hb, port⟩ := List.mem_map.mp mine
  exact gone.no_row b hb port

end Overlay.Dhcp
