import Overlay.Proofs.Dhcp.Calls
import Overlay.Proofs.Dhcp.Runs

/-!
# Attachments over a run

The call that attaches a server is made in one event of a run, the one that made the server, right
after the server was remembered. If this call is lost, the event fails, but the service stays; and
no later event, be it the same one once more, a change of the port or a rebuilding of everything,
makes the call again.

Main statement: `attached_iff_call_arrived`.
-/

namespace Overlay.Dhcp

open Overlay.Handler

/-! ## What an event calls -/

namespace Delivery

/-- The event makes the call. -/
def Issues (d : Delivery) (c : Controller.Call) : Prop :=
  c ∈ d.after.issued.drop d.world.issued.length

/-- The event makes the call, and it gets through to the controller. -/
def Delivers (d : Delivery) (c : Controller.Call) : Prop :=
  c ∈ d.after.controller.calls.drop d.world.controller.calls.length

instance (d : Delivery) (c : Controller.Call) : Decidable (d.Delivers c) :=
  inferInstanceAs (Decidable (c ∈ _))

/-- How many servers had been given a name when the event came, and when it was over. -/
def madeBefore (d : Delivery) : Nat := d.world.controller.made.servers

def madeAfter (d : Delivery) : Nat := d.after.controller.made.servers

theorem tells (d : Delivery) : ∃ made arrived, d.world.Tells made arrived d.after ∧
    (∀ c, d.Issues c ↔ c ∈ made) ∧ ∀ c, d.Delivers c ↔ c ∈ arrived := by
  obtain ⟨made, arrived, tells⟩ := attends_event d.settings d.event d.world
  refine ⟨made, arrived, tells, fun c => ?_, fun c => ?_⟩
  · have issued : d.after.issued = d.world.issued ++ made := tells.issued
    rw [Issues, issued, List.drop_left]
  · have calls : d.after.controller.calls = d.world.controller.calls ++ arrived := tells.calls
    rw [Delivers, calls, List.drop_left]

theorem issues_of_delivers (d : Delivery) {c : Controller.Call} (h : d.Delivers c) :
    d.Issues c := by
  obtain ⟨made, arrived, tells, issues, delivers⟩ := d.tells
  exact (issues c).mpr (tells.arrived_made ((delivers c).mp h))

theorem madeBefore_le (d : Delivery) : d.madeBefore ≤ d.madeAfter := by
  obtain ⟨made, arrived, tells, -⟩ := d.tells
  exact tells.servers

/-- Only the event in which a server gets its name tries to attach it. -/
theorem names_of_issues (d : Delivery) {switchPortId serverId : String}
    {kind : AttachmentKind} (h : d.Issues (.setAttachment switchPortId serverId kind)) :
    d.world.Names d.after serverId := by
  obtain ⟨made, arrived, tells, issues, -⟩ := d.tells
  exact tells.attached _ _ _ ((issues _).mp h)

end Delivery

/-! ## Runs -/

variable {allowed : Delivery → Prop} {ds : List Delivery} {w : World}

/-- Names are given one after the other all along a run. -/
theorem Run.ordered (run : Run allowed ds w) :
    ds.Pairwise (fun e d => e.madeAfter ≤ d.madeBefore) ∧
      ∀ d ∈ ds, d.madeAfter ≤ w.controller.made.servers := by
  induction run with
  | start => exact ⟨.nil, fun _ h => nomatch h⟩
  | change run untouched ih => exact untouched.serversMade ▸ ih
  | event d run timely fits ih =>
      obtain ⟨ordered, last⟩ := ih
      refine ⟨List.pairwise_append.mpr ⟨ordered, List.pairwise_singleton _ _, ?_⟩, ?_⟩
      · intro e he d' hd
        cases List.mem_singleton.mp hd
        exact last e he
      · intro e he
        rcases List.mem_append.mp he with early | late
        · exact Nat.le_trans (last e early) d.madeBefore_le
        · cases List.mem_singleton.mp late
          exact Nat.le_refl _

/-- No two events of a run give the same name. -/
theorem named_once {before after : List Delivery} {d : Delivery}
    (run : Run allowed (before ++ d :: after) w) {serverId : String}
    (named : d.world.Names d.after serverId) {e : Delivery} (he : e ∈ before ++ after) :
    ¬ e.world.Names e.after serverId := by
  rintro ⟨k, new, given, same⟩
  obtain ⟨j, new', given', rfl⟩ := named
  cases Controller.State.serverName_inj same
  obtain ⟨-, ordered, across⟩ := List.pairwise_append.mp run.ordered.1
  rcases List.mem_append.mp he with early | late
  · have : e.madeAfter ≤ d.madeBefore := across e early d List.mem_cons_self
    exact Nat.lt_irrefl _ (Nat.lt_of_lt_of_le new' (Nat.le_trans given this))
  · have : d.madeAfter ≤ e.madeBefore := (List.pairwise_cons.mp ordered).1 e late
    exact Nat.lt_irrefl _ (Nat.lt_of_lt_of_le new (Nat.le_trans given' this))

/-- Every service was remembered in the event that made its server, and if its port was mapped then,
this event tried to attach the server. -/
theorem Run.maker (run : Run allowed ds w) : ∀ r ∈ w.serviceRows,
    ∃ before d after, ds = before ++ d :: after ∧ d.world.Names d.after r.serverId ∧
      ∀ switchPortId ∈ d.world.switchPort? r.portId,
        d.Issues (.setAttachment switchPortId r.serverId .dhcp) := by
  induction run with
  | start => exact fun r hr => nomatch hr
  | change run untouched ih =>
      intro r hr
      rw [World.serviceRows, untouched.services] at hr
      exact ih r hr
  | @event ds d run timely fits ih =>
      intro r hr
      obtain ⟨made, arrived, tells, issues, -⟩ := d.tells
      rcases tells.services r hr with old | ⟨named, attached⟩
      · obtain ⟨before, e, after, rfl, rest⟩ := ih r old
        exact ⟨before, e, after ++ [d], by rw [List.append_assoc, List.cons_append], rest⟩
      · exact ⟨ds, d, [], rfl, named, fun switchPortId here =>
          (issues _).mpr (attached switchPortId here)⟩

/-- Whatever fails in a run, the server of a service whose port was mapped all the time is attached
by a call that one event makes and no other: the one in which the server got its name. So the call
has got through if and only if it did so then. -/
theorem attached_iff_call_arrived (run : Run allowed ds w) {portId switchPortId : String}
    (mapped : ∀ d ∈ ds, d.world.switchPort? portId = some switchPortId) :
    ∃ services rows, w.store.Holds services rows ∧ ∀ x ∈ services, x.portId = portId →
      ∃ before d after, ds = before ++ d :: after ∧ d.world.Names d.after x.serverId ∧
        d.Issues (.setAttachment switchPortId x.serverId .dhcp) ∧
        (∀ e ∈ before ++ after, ¬ e.Issues (.setAttachment switchPortId x.serverId .dhcp)) ∧
        ((∃ e ∈ ds, e.Delivers (.setAttachment switchPortId x.serverId .dhcp)) ↔
          d.Delivers (.setAttachment switchPortId x.serverId .dhcp)) := by
  obtain ⟨l, shows, -, -⟩ := run.invariant (P := fun _ => True) trivial (fun _ _ _ h => h)
    fun _ _ _ _ _ _ h _ => h
  refine ⟨l.services, l.rows, shows.store, ?_⟩
  rintro x hx rfl
  have row : x.toRow ∈ w.serviceRows := by
    rw [World.serviceRows, shows.store.services_eq]
    exact List.mem_map.mpr ⟨x, hx, rfl⟩
  obtain ⟨before, d, after, rfl, named, attached⟩ := run.maker _ row
  have mem : ∀ e, e ∈ before ++ d :: after ↔ e = d ∨ e ∈ before ++ after := fun e =>
    List.perm_middle.mem_iff.trans List.mem_cons
  have once : ∀ e ∈ before ++ after,
      ¬ e.Issues (.setAttachment switchPortId x.serverId .dhcp) := fun e he issues =>
    named_once run named he (e.names_of_issues issues)
  have hd := (mem d).mpr (Or.inl rfl)
  refine ⟨before, d, after, rfl, named, attached _ (mapped d hd), once, ?_, ?_⟩
  · rintro ⟨e, he, delivers⟩
    rcases (mem e).mp he with rfl | other
    · exact delivers
    · exact absurd (e.issues_of_delivers delivers) (once e other)
  · exact fun delivers => ⟨d, hd, delivers⟩

/-! ## A call that is lost -/

namespace Sample

/-- The DHCP port is mapped. -/
def mappedWorld : World :=
  { world with store := { world.store with ports := some [⟨"dhcp-port", "switch", "switch-port"⟩] } }

/-- The DHCP port comes, and nothing fails. -/
def attached : Delivery := ⟨settings, .portCreated dhcpPort, mappedWorld⟩

/-- The DHCP port comes, and the call that attaches the server is lost. -/
def unattached : Delivery :=
  ⟨settings, .portCreated dhcpPort, { mappedWorld with
    callFaults := Faults.none.set .setAttachment (.window ⟨.request, "unavailable"⟩ 0 (some 1)) }⟩

/-- Everything is rebuilt then. -/
def rebuilt : Delivery := ⟨settings, .resync none, unattached.after⟩

/-- At last the event is delivered once more. -/
def retried : Delivery := ⟨settings, .portCreated dhcpPort, rebuilt.after⟩

end Sample

/-- If nothing fails, the server is attached. -/
theorem first_server_attached :
    Sample.attached.after.store.services.map (·.map (·.portId)) = some ["dhcp-port"] ∧
    ∃ services rows, Sample.attached.after.store.Holds services rows ∧ ∀ x ∈ services,
      x.portId = "dhcp-port" → ∃ e ∈ [Sample.attached],
        e.Delivers (.setAttachment "switch-port" x.serverId .dhcp) := by
  have timely : Sample.attached.Timely := by
    show Clock.Legible _
    decide +kernel
  have run : Run (fun d => d.settings.nativeDhcp = true) [Sample.attached] Sample.attached.after :=
    .event Sample.attached (.change (.start false Clock.counting) ⟨rfl, rfl, rfl, rfl, rfl, rfl⟩)
      timely rfl
  have mapped : ∀ d ∈ [Sample.attached],
      d.world.switchPort? "dhcp-port" = some "switch-port" := List.forall_mem_singleton.mpr rfl
  obtain ⟨services, rows, holds, all⟩ := attached_iff_call_arrived run mapped
  refine ⟨by decide +kernel, services, rows, holds, fun x hx port => ?_⟩
  obtain ⟨before, d, after, only, -, issues, -, arrived⟩ := all x hx port
  have here : d ∈ [Sample.attached] := only ▸ List.mem_append_right _ List.mem_cons_self
  cases List.mem_singleton.mp here
  -- no call was lost
  have through : Sample.attached.after.controller.calls.drop
      Sample.attached.world.controller.calls.length
        = Sample.attached.after.issued.drop Sample.attached.world.issued.length := by
    decide +kernel
  refine arrived.mpr ?_
  rw [Delivery.Delivers, through]
  exact issues

/-- If the call is lost, the server stays unattached: neither a rebuilding of everything nor the
same event once more, both of which succeed, make the call again. -/
theorem retries_leave_unattached :
    Run (fun d => d.settings.nativeDhcp = true)
      [Sample.unattached, Sample.rebuilt, Sample.retried] Sample.retried.after ∧
    (∀ d ∈ [Sample.unattached, Sample.rebuilt, Sample.retried],
      d.world.switchPort? "dhcp-port" = some "switch-port") ∧
    Sample.unattached.answer.isOk = false ∧ Sample.rebuilt.answer.isOk = true ∧
    Sample.retried.event = .portCreated Sample.dhcpPort ∧ Sample.retried.answer.isOk = true ∧
    Sample.retried.after.store.services.map (·.map fun x => (x.networkId, x.portId, x.serverId))
      = some [("net", "dhcp-port", "dhcp-1")] ∧
    ∀ d ∈ [Sample.unattached, Sample.rebuilt, Sample.retried],
      ¬ d.Delivers (.setAttachment "switch-port" "dhcp-1" .dhcp) := by
  have timely : Sample.unattached.Timely ∧ Sample.rebuilt.Timely ∧ Sample.retried.Timely := by
    show Clock.Legible _ ∧ Clock.Legible _ ∧ Clock.Legible _
    decide +kernel
  have start : Run (fun d => d.settings.nativeDhcp = true) [] Sample.unattached.world :=
    .change (.start false Clock.counting) ⟨rfl, rfl, rfl, rfl, rfl, rfl⟩
  have first := Run.event Sample.unattached start timely.1 rfl
  have second := Run.event Sample.rebuilt first timely.2.1 rfl
  exact ⟨.event Sample.retried second timely.2.2 rfl, by decide +kernel, by decide +kernel,
    by decide +kernel, rfl, by decide +kernel, by decide +kernel, by decide +kernel⟩

end Overlay.Dhcp
