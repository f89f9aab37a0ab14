import Overlay.Proofs.Dhcp.Events

/-!
# Runs

A run starts with nothing and delivers events one after the other, each with settings of its own.
Between events everything may be changed from outside, the catalog, the faults, the clock and the
mappings of networks and ports among it, but for services, bindings and servers: these records, at
the store and at the controller, are left to the events.

A row whose times have a year of more than four digits can be written but not be read back, which is
a failure of the store. So an event is part of a run only if the clock has shown nothing but years
of four digits when it ends.

`Run.invariant`: what no fitting act and no change of mappings breaks holds of the ledger shown
after every run. `Run.split`: every event of a run was met by surroundings that a run had led to.
-/

namespace Overlay

/-- Services, bindings and servers are the same, at the store and at the controller. -/
structure World.Untouched (w w' : World) : Prop where
  services : w'.store.services = w.store.services
  bindings : w'.store.bindings = w.store.bindings
  servers : w'.controller.servers = w.controller.servers
  held : w'.controller.bindings = w.controller.bindings
  serversMade : w'.controller.made.servers = w.controller.made.servers
  bindingsMade : w'.controller.made.bindings = w.controller.made.bindings

/-- Records that were left alone twice were left alone. -/
theorem World.Untouched.trans {w w' w'' : World} (h : w.Untouched w') (h' : w'.Untouched w'') :
    w.Untouched w'' where
  services := h'.services.trans h.services
  bindings := h'.bindings.trans h.bindings
  servers := h'.servers.trans h.servers
  held := h'.held.trans h.held
  serversMade := h'.serversMade.trans h.serversMade
  bindingsMade := h'.bindingsMade.trans h.bindingsMade

namespace Dhcp

/-- An event, with the settings in force and the surroundings that it meets. -/
structure Delivery where
  settings : Settings
  event : Event
  world : World

namespace Delivery

/-- The answer to the event. -/
def answer (d : Delivery) : Except Error d.event.Answer :=
  ((d.event.handler d.settings).runIn d.world).1

/-- The surroundings that the event leaves. -/
def after (d : Delivery) : World := ((d.event.handler d.settings).runIn d.world).2

/-- The ports that the event tells of or that it finds in the catalog. -/
def ports (d : Delivery) : List Port := d.event.ports ++ d.world.catalog.ports

/-- The clock has shown nothing but years of four digits when the event is over. -/
def Timely (d : Delivery) : Prop := d.after.clock.Legible

/-- The event leads from one ledger to another by these acts. -/
structure Leads (d : Delivery) (l : Ledger) (acts : List Act) (l' : Ledger) : Prop where
  before : d.world.Shows l
  path : Path l acts l'
  after : d.after.Shows l'
  accounts : d.world.Accounts acts d.after
  changed : Changed d.ports l d.answer acts

/-- A delivery on a legible clock leads from ledger to ledger. -/
theorem leads {d : Delivery} (timely : d.Timely) {l : Ledger} (shows : d.world.Shows l)
    (proper : l.Proper) : ∃ acts l', d.Leads l acts l' := by
  obtain ⟨acts, l', path, shows', accounts, changed⟩ :=
    goes_event d.settings shows proper d.event timely
  exact ⟨acts, l', shows, path, shows', accounts, changed⟩

end Delivery

/-- A run that delivers these events, each of which is allowed, first to last, and ends with these
surroundings. -/
inductive Run (allowed : Delivery → Prop) : List Delivery → World → Prop
  | start (auditing : Bool) (clock : Clock) : Run allowed [] (.empty auditing clock)
  | change {ds : List Delivery} {w w' : World} (run : Run allowed ds w)
      (untouched : w.Untouched w') : Run allowed ds w'
  | event {ds : List Delivery} (d : Delivery) (run : Run allowed ds d.world) (timely : d.Timely)
      (fits : allowed d) : Run allowed (ds ++ [d]) d.after

namespace Ledger

/-- The ledger without any records. -/
def empty : Ledger := ⟨[], [], [], [], 0, 0, some [], some []⟩

/-- Empty surroundings show the empty ledger. -/
theorem shows_empty (auditing : Bool) (clock : Clock) :
    (World.empty auditing clock).Shows empty where
  store := ⟨rfl, rfl, fun _ h => (nomatch h), fun _ h => (nomatch h)⟩
  controller := ⟨rfl, rfl, rfl, rfl⟩
  networks := rfl
  ports := rfl

/-- The empty ledger is proper. -/
theorem proper_empty : empty.Proper where
  services_keyed := Table.keyed_nil _
  owners_keyed := Table.keyed_nil _
  rows_keyed := Table.keyed_nil _
  names_keyed := Table.keyed_nil _
  servers_keyed := Table.keyed_nil _
  held_keyed := Table.keyed_nil _
  servers_new _ _ _ h := nomatch h
  held_new _ _ _ h := nomatch h
  server_of_service _ h := nomatch h
  service_of_row _ h := nomatch h
  held_of_row _ h := nomatch h

/-- The ledger with other mappings of networks and ports. -/
def mapped (l : Ledger) (networks : Option (List Store.NetworkMapping))
    (ports : Option (List Store.PortMapping)) : Ledger :=
  { l with networks, ports }

/-- A ledger stays proper when mappings change. -/
theorem Proper.mapped {l : Ledger} (proper : l.Proper)
    (networks : Option (List Store.NetworkMapping)) (ports : Option (List Store.PortMapping)) :
    (l.mapped networks ports).Proper := { proper with }

/-- After a change from outside, the ledger is shown with the mappings that there are now. -/
theorem shows_mapped {l : Ledger} {w w' : World} (shows : w.Shows l) (h : w.Untouched w') :
    w'.Shows (l.mapped w'.store.networks w'.store.ports) where
  store := ⟨h.services.trans shows.store.services_eq, h.bindings.trans shows.store.bindings_eq,
    shows.store.services_legible, shows.store.bindings_legible⟩
  controller := shows.controller.congr h.servers h.held h.serversMade h.bindingsMade
  networks := rfl
  ports := rfl

end Ledger

namespace Run

variable {allowed : Delivery → Prop} {ds : List Delivery} {w : World}

/-- What holds at the start and is kept by every change of mappings and by every allowed event
holds after every run. -/
theorem invariant {P : Ledger → Prop} (start : P .empty)
    (change : ∀ l networks ports, P l → P (l.mapped networks ports))
    (event : ∀ d l acts l', allowed d → l.Proper → P l → d.Leads l acts l' → P l')
    (run : Run allowed ds w) : ∃ l, w.Shows l ∧ l.Proper ∧ P l := by
  induction run with
  | start auditing clock =>
      exact ⟨.empty, Ledger.shows_empty auditing clock, Ledger.proper_empty, start⟩
  | change run untouched ih =>
      obtain ⟨l, shows, proper, here⟩ := ih
      exact ⟨_, Ledger.shows_mapped shows untouched, proper.mapped _ _, change l _ _ here⟩
  | event d run timely fits ih =>
      obtain ⟨l, shows, proper, here⟩ := ih
      obtain ⟨acts, l', leads⟩ := d.leads timely shows proper
      exact ⟨l', leads.after, leads.path.proper proper, event d l acts l' fits proper here leads⟩

/-- A run is one of a narrower kind if all its events are. -/
theorem narrow {Q : Delivery → Prop} (run : Run allowed ds w) (all : ∀ d ∈ ds, Q d) :
    Run (fun d => allowed d ∧ Q d) ds w := by
  induction run with
  | start auditing clock => exact .start auditing clock
  | change run untouched ih => exact .change (ih all) untouched
  | event d run timely fits ih =>
      have here : Q d := all d (List.mem_append_right _ (List.mem_singleton_self d))
      exact .event d (ih fun d' h => all d' (List.mem_append_left _ h)) timely ⟨fits, here⟩

/-- The part of a run before one of its events. -/
theorem split {d : Delivery} (run : Run allowed ds w) (hd : d ∈ ds) :
    ∃ before, Run allowed before d.world ∧ d.Timely ∧ allowed d ∧ ∀ d' ∈ before, d' ∈ ds := by
  induction run with
  | start => exact nomatch hd
  | change run untouched ih => exact ih hd
  | @event ds d' run timely fits ih =>
      have older : ∀ d ∈ ds, d ∈ ds ++ [d'] := fun d => List.mem_append_left _
      rcases List.mem_append.mp hd with early | late
      · obtain ⟨before, run', timely', fits', sub⟩ := ih early
        exact ⟨before, run', timely', fits', fun d h => older d (sub d h)⟩
      · cases List.mem_singleton.mp late
        exact ⟨ds, run, timely, fits, older⟩

end Run

/-! ## A first run

A network with one subnet, to which the DHCP port comes first and then the port of an instance.
-/

namespace Sample

def dhcpPort : Port :=
  ⟨"dhcp-port", "net", "", "fa:16:3e:00:00:02", "network:dhcp",
    [⟨"subnet", .v4 ⟨10, 0, 0, 2⟩⟩]⟩

def instancePort : Port :=
  ⟨"instance-port", "net", "", "fa:16:3e:00:00:05", "compute:nova",
    [⟨"subnet", .v4 ⟨10, 0, 0, 5⟩⟩]⟩

def catalog : Catalog where
  networks := [⟨"net", "net", "tenant"⟩]
  subnets := [⟨"subnet", "net", .v4 ⟨⟨10, 0, 0, 0⟩, 24, by decide⟩, true, none, [], []⟩]
  ports := [dhcpPort, instancePort]

/-- The block of this address and 24 bits. -/
def block (address : IPv4) : Cidr4 := ⟨address, 24, by decide⟩

/-- The network is known and has a switch, and nothing else has been done. -/
def world : World :=
  { World.empty false Clock.counting with
    catalog
    store := { Store.empty with networks := some [⟨"net", "switch"⟩] } }

def settings : Settings := .native "profile" "proxy"

/-- The DHCP port comes. -/
def served : Delivery := ⟨settings, .portCreated dhcpPort, world⟩

/-- The instance's port comes. -/
def bound : Delivery := ⟨settings, .portCreated instancePort, served.after⟩

/-- Both deliveries are a run, if they are allowed. -/
theorem run {allowed : Delivery → Prop} (first : allowed served) (second : allowed bound) :
    Run allowed [served, bound] bound.after := by
  have start : Run allowed [] world :=
    .change (.start false Clock.counting) ⟨rfl, rfl, rfl, rfl, rfl, rfl⟩
  have timely : served.Timely := by
    show Clock.Legible _
    decide +kernel
  have timely' : bound.Timely := by
    show Clock.Legible _
    decide +kernel
  exact .event bound (.event served start timely first) timely' second

/-- Nothing fails. -/
theorem calm : world.Calm := ⟨fun _ _ => rfl, fun _ _ => rfl, rfl, rfl⟩

theorem follows_served : world.Follows served.after := Handler.follows_runIn _ _

/-- Both events find the same ports. -/
theorem ports {P : Port → Prop} (dhcp : P dhcpPort) (compute : P instancePort) :
    (∀ p ∈ served.ports, P p) ∧ ∀ p ∈ bound.ports, P p := by
  have found : bound.world.catalog = catalog := follows_served.catalog
  constructor
  · show ∀ p ∈ [dhcpPort] ++ catalog.ports, P p
    refine List.forall_mem_cons.mpr ⟨dhcp, List.forall_mem_cons.mpr ⟨dhcp, ?_⟩⟩
    exact List.forall_mem_singleton.mpr compute
  · show ∀ p ∈ [instancePort] ++ bound.world.catalog.ports, P p
    rw [found]
    refine List.forall_mem_cons.mpr ⟨compute, List.forall_mem_cons.mpr ⟨dhcp, ?_⟩⟩
    exact List.forall_mem_singleton.mpr compute

/-- One row in the mapping table gives no switch to two networks. -/
theorem separate {w : World} (networks : w.store.networks = some [⟨"net", "switch"⟩]) :
    ∀ m n s, w.switch? m = some s → w.switch? n = some s → m = n := by
  have only : ∀ m s, w.switch? m = some s → m = "net" := by
    intro m s here
    rw [World.switch?, networks, Option.bind_some] at here
    obtain ⟨row, found, -⟩ := Option.map_eq_some_iff.mp here
    obtain ⟨hr, rfl⟩ := Table.mem_of_find? found
    rw [List.mem_singleton.mp hr]
  exact fun m n s here there => (only m s here).trans (only n s there).symm

end Sample

end Dhcp

end Overlay
