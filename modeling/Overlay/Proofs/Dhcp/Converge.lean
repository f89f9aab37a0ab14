import Overlay.Proofs.Dhcp.Handlers
import Overlay.Proofs.Dhcp.Plan

/-!
# What becomes of a port's bindings

`converge` first takes the rows of a port one by one and then binds addresses anew. The rows that
are still to be taken are not touched by what was done before, and if the addresses of the port are
distinct, none of them is moved onto an address that another row has in the same subnet.

Main statement: `goes_converge`.
-/

namespace Overlay.Dhcp

open Overlay.Handler

/-! ## Kinds of acts -/

namespace Act

/-- The act takes nothing away. -/
def Builds : Act → Prop
  | serve .. | readdress .. | bind .. | leak .. => True
  | retire .. | move .. | clash .. | release .. | stay .. => False

/-- The act concerns a row that is there already. -/
def OnRow : Act → Prop
  | move .. | clash .. | release .. | stay .. => True
  | serve .. | readdress .. | retire .. | bind .. | leak .. => False

/-- The handler has stopped at the act: a binding could not be let go, or a row could not follow. -/
def Stops : Act → Prop
  | clash .. | stay .. => True
  | serve .. | readdress .. | retire .. | bind .. | leak .. | move .. | release .. => False

/-- The server, the port and the address of a binding that is made, with a row or without. -/
def aim? : Act → Option (Store.Service × String × Desired)
  | bind x portId d _ _ => some (x, portId, d)
  | leak x portId d _ => some (x, portId, d)
  | _ => none

/-- The server, the port and the address of a binding that is made with its row. -/
def bound? : Act → Option (Store.Service × String × Desired)
  | bind x portId d _ _ => some (x, portId, d)
  | _ => none

/-- An act that aims at an address builds. -/
theorem Builds.of_aim {a : Act} {x : Store.Service × String × Desired} (h : a.aim? = some x) :
    a.Builds := by
  cases a <;> trivial

/-- An act on a row does not build. -/
theorem OnRow.not_builds {a : Act} (h : a.OnRow) : ¬ a.Builds := by
  cases a <;> first | exact h.elim | exact id

/-- An act that builds does not stop the event. -/
theorem Builds.not_stops {a : Act} (h : a.Builds) : ¬ a.Stops := by
  cases a <;> first | exact h.elim | exact id

end Act

/-- The address is one of the port's. -/
def Desired.Of (p : Port) (d : Desired) : Prop :=
  (d.subnetId, d.address) ∈ p.ipv4s ∧ d.macAddress = p.macAddress

/-- The act gives one of these ports one of its own addresses: on the server of the port's network
or of a network with the same switch, and, if the addresses of the port are distinct, not in the way
of a row in the same subnet. -/
def Act.Sourced (ports : List Port) (switch? : String → Option String) : Act → Prop
  | bind x portId d _ _ | leak x portId d _ => ∃ p ∈ ports, p.id = portId ∧ d.Of p ∧
    (x.networkId = p.networkId ∨
      ∃ switchId, switch? x.networkId = some switchId ∧ switch? p.networkId = some switchId)
  | move b d _ => ∃ p ∈ ports, p.id = b.portId ∧ d.Of p
  | clash b c d => ∃ p ∈ ports, p.id = b.portId ∧ d.Of p ∧
    ((p.ipv4s.map (·.2)).Nodup → c.subnetId ≠ d.subnetId)
  | serve .. | readdress .. | retire .. | release .. | stay .. => True

/-- An act that aims at an address is sourced if the address is one of a port behind the server. -/
theorem Act.Sourced.of_aim {ports : List Port} {switch? : String → Option String} {a : Act}
    {x : Store.Service} {portId : String} {d : Desired} (aim : a.aim? = some (x, portId, d))
    (h : ∃ p ∈ ports, p.id = portId ∧ d.Of p ∧ (x.networkId = p.networkId ∨
      ∃ switchId, switch? x.networkId = some switchId ∧ switch? p.networkId = some switchId)) :
    a.Sourced ports switch? := by
  cases a <;> cases aim <;> exact h

/-- The same services and servers, and as many servers made. -/
structure Ledger.ServesAs (l l' : Ledger) : Prop where
  services : l'.services = l.services
  servers : l'.servers = l.servers
  made : l'.serversMade = l.serversMade

theorem Ledger.ServesAs.refl (l : Ledger) : l.ServesAs l := ⟨rfl, rfl, rfl⟩

/-- Acts on rows and bindings that are made leave services and servers alone. -/
theorem Path.servesAs {l l' : Ledger} {acts : List Act} (h : Path l acts l')
    (aside : ∀ a ∈ acts, a.OnRow ∨ ∃ b, a.aim? = some b) : l.ServesAs l' := by
  refine h.keeps (P := l.ServesAs) (.refl l) fun a ha m _ same => ?_
  have other : ∀ b : Act, ¬ b.OnRow → b.aim? = none → a ≠ b := by
    rintro b off none rfl
    rcases aside a ha with onRow | ⟨x, aim⟩
    · exact off onRow
    · exact nomatch none.symm.trans aim
  cases a with
  | bind x portId d time missing =>
      obtain ⟨held, eq, -⟩ := (m.create x d).supersede_eq (m.row? portId d.address) missing
      rw [Act.apply, eq]
      exact { same with }
  | release b missing => cases missing <;> exact { same with }
  | serve _ _ _ _ => exact absurd rfl (other _ id rfl)
  | retire _ _ => exact absurd rfl (other _ id rfl)
  | readdress _ _ => exact absurd rfl (other _ id rfl)
  | leak _ _ _ _ => exact { same with }
  | move _ _ _ => exact { same with }
  | clash _ _ _ => exact { same with }
  | stay _ _ => exact same

/-- Acts on rows and acts that aim at addresses leave the services as they are. -/
theorem Path.services_eq {l l' : Ledger} {acts : List Act} (h : Path l acts l')
    (aside : ∀ a ∈ acts, a.OnRow ∨ ∃ b, a.aim? = some b) : l'.services = l.services :=
  (h.servesAs aside).services

/-- Acts that build keep all services. -/
theorem Path.mem_services {l l' : Ledger} {acts : List Act} (h : Path l acts l')
    (builds : ∀ a ∈ acts, a.Builds) {x : Store.Service} (hx : x ∈ l.services) :
    x ∈ l'.services := by
  refine h.keeps (P := fun m => x ∈ m.services) hx fun a ha m _ hx => ?_
  cases a with
  | serve networkId portId config time => exact List.mem_append_left _ hx
  | readdress serverId ip => exact hx
  | bind y portId d time missing =>
      obtain ⟨held, eq, -⟩ := (m.create y d).supersede_eq (m.row? portId d.address) missing
      rw [Act.apply, eq]
      exact hx
  | leak y portId d e => exact hx
  | retire _ _ => exact (builds _ ha).elim
  | move _ _ _ => exact (builds _ ha).elim
  | clash _ _ _ => exact (builds _ ha).elim
  | release _ _ => exact (builds _ ha).elim
  | stay _ _ => exact (builds _ ha).elim

/-- Names that were given to servers stay given. -/
theorem Path.serversMade_le {l l' : Ledger} {acts : List Act} (h : Path l acts l') :
    l.serversMade ≤ l'.serversMade := by
  refine h.keeps (P := fun m => l.serversMade ≤ m.serversMade) (Nat.le_refl _)
    fun a _ m _ made => ?_
  cases a with
  | serve networkId portId config time => exact Nat.le_succ_of_le made
  | bind y portId d time missing =>
      obtain ⟨held, eq, -⟩ := (m.create y d).supersede_eq (m.row? portId d.address) missing
      rw [Act.apply, eq]
      exact made
  | release b missing => cases missing <;> exact made
  | _ => exact made

/-- No act changes what is known of networks and ports. -/
theorem Path.mappings_eq {l l' : Ledger} {acts : List Act} (h : Path l acts l') :
    l'.networks = l.networks ∧ l'.ports = l.ports := by
  refine h.keeps (P := fun m => m.networks = l.networks ∧ m.ports = l.ports) ⟨rfl, rfl⟩
    fun a _ m _ same => ?_
  cases a with
  | bind y portId d time missing =>
      obtain ⟨held, eq, -⟩ := (m.create y d).supersede_eq (m.row? portId d.address) missing
      rw [Act.apply, eq]
      exact same
  | release b missing => cases missing <;> exact same
  | _ => exact same

/-- No act touches the mapping of networks to switches. -/
theorem Path.switch?_eq {l l' : Ledger} {acts : List Act} (h : Path l acts l') :
    l'.switch? = l.switch? := by
  funext networkId
  rw [Ledger.switch?, Ledger.switch?, h.mappings_eq.1]

/-! ## Orderly acts -/

/-- Only making follows making, and nothing follows an act at which the handler has stopped. -/
def Orderly (acts : List Act) : Prop :=
  acts.Pairwise fun a b => ¬ a.Stops ∧ (a.Builds → b.Builds)

/-- In orderly acts nothing before an act has stopped the handler, and only making follows making. -/
theorem Orderly.split {acts : List Act} (h : Orderly acts) {a : Act} (ha : a ∈ acts) :
    ∃ front back, acts = front ++ a :: back ∧ (∀ b ∈ front, ¬ b.Stops ∧ (b.Builds → a.Builds)) ∧
      ∀ b ∈ back, ¬ a.Stops ∧ (a.Builds → b.Builds) := by
  obtain ⟨front, back, rfl⟩ := List.append_of_mem ha
  obtain ⟨-, later, across⟩ := List.pairwise_append.mp h
  exact ⟨front, back, rfl, fun b hb => across b hb a List.mem_cons_self,
    fun b hb => List.rel_of_pairwise_cons later hb⟩

/-- Where something is made, the handler has not stopped. -/
theorem Orderly.not_stops {acts : List Act} (h : Orderly acts) {a b : Act} (ha : a ∈ acts)
    (hb : b ∈ acts) (builds : b.Builds) : ¬ a.Stops := by
  intro stops
  obtain ⟨front, back, rfl, before, after⟩ := h.split ha
  rcases List.mem_append.mp hb with early | late
  · exact ((before b early).2 builds).not_stops stops
  · rcases List.mem_cons.mp late with rfl | late
    · exact builds.not_stops stops
    · exact (after b late).1 stops

/-- What comes of changes that give only these ports addresses, and only their own. -/
structure Changed (ports : List Port) (l : Ledger) {α : Type} (r : Except Error α)
    (acts : List Act) : Prop where
  orderly : Orderly acts
  sourced : ∀ a ∈ acts, a.Sourced ports l.switch?
  stopped : ∀ u, r = .ok u → ∀ a ∈ acts, ¬ a.Stops

namespace Changed

variable {α : Type} {ports : List Port} {l : Ledger} {r : Except Error α} {acts : List Act}

/-- An event without acts is in order, whatever it answers. -/
theorem nothing (ports : List Port) (l : Ledger) (r : Except Error α) : Changed ports l r [] where
  orderly := .nil
  sourced _ ha := nomatch ha
  stopped _ _ _ ha := nomatch ha

/-- One act is in order, if its event fails where the act stops it. -/
theorem single {a : Act} (sourced : a.Sourced ports l.switch?)
    (stopped : ∀ u, r = .ok u → ¬ a.Stops) : Changed ports l r [a] where
  orderly := List.pairwise_singleton _ a
  sourced _ ha := List.mem_singleton.mp ha ▸ sourced
  stopped u ok _ ha := List.mem_singleton.mp ha ▸ stopped u ok

/-- Acts that make something. -/
theorem of_builds (builds : ∀ a ∈ acts, a.Builds ∧ a.Sourced ports l.switch?) :
    Changed ports l r acts where
  orderly := List.pairwise_of_forall_mem_list fun a ha b hb =>
    ⟨(builds a ha).1.not_stops, fun _ => (builds b hb).1⟩
  sourced a ha := (builds a ha).2
  stopped _ _ a ha := (builds a ha).1.not_stops

/-- The first acts are done and the handler goes on with the others. -/
theorem append {β : Type} {u : β} {first more : List Act} {l' : Ledger}
    (done : Changed ports l (.ok u) first) (path : Path l first l')
    (rest : Changed ports l' r more)
    (apart : (∀ a ∈ first, ¬ a.Builds) ∨ ∀ a ∈ more, a.Builds) :
    Changed ports l r (first ++ more) where
  orderly := by
    refine List.pairwise_append.mpr ⟨done.orderly, rest.orderly, fun a ha b hb => ?_⟩
    refine ⟨done.stopped u rfl a ha, fun builds => ?_⟩
    rcases apart with takes | makes
    · exact absurd builds (takes a ha)
    · exact makes b hb
  sourced a ha := by
    rcases List.mem_append.mp ha with early | late
    · exact done.sourced a early
    · rw [← path.switch?_eq]
      exact rest.sourced a late
  stopped v ok a ha := by
    rcases List.mem_append.mp ha with early | late
    · exact done.stopped u rfl a early
    · exact rest.stopped v ok a late

end Changed

/-! ## The rows of a port, one by one -/

section Edits

variable {w : World} {l : Ledger} {p : Port}

/-- The rows still to be taken are there, each once; and if the port's addresses are distinct, those
that rows are to get are distinct and not taken by a row in the same subnet. -/
structure Ready (p : Port) (l : Ledger) (fates : List Fate) : Prop where
  rows : ∀ f ∈ fates, f.1 ∈ l.rows ∧ f.1.portId = p.id
  once : Table.Keyed (fun f : Fate => f.1.key) fates
  own : ∀ b d, (b, some d) ∈ fates → d.Of p
  apart : (p.ipv4s.map (·.2)).Nodup →
    ((fates.filterMap (·.2)).map (·.address)).Nodup ∧
      ∀ b d, (b, some d) ∈ fates → b.address ≠ d.address →
        ∀ c ∈ l.rows, c.key = (p.id, d.address) → c.subnetId ≠ d.subnetId

/-- The port stays ready when the first of its rows has been left out. -/
theorem Ready.tail {f : Fate} {fates : List Fate} (ready : Ready p l (f :: fates)) :
    Ready p l fates where
  rows g hg := ready.rows g (List.mem_cons_of_mem _ hg)
  once := (Table.keyed_cons.mp ready.once).2
  own b d h := ready.own b d (List.mem_cons_of_mem _ h)
  apart distinct := by
    obtain ⟨addresses, free⟩ := ready.apart distinct
    refine ⟨?_, fun b d h => free b d (List.mem_cons_of_mem _ h)⟩
    refine addresses.sublist (List.Sublist.map _ (List.Sublist.filterMap _ ?_))
    exact List.sublist_cons_self f fates

/-- The other rows of a port have other keys. -/
theorem Ready.other {f : Fate} {fates : List Fate} (ready : Ready p l (f :: fates)) {g : Fate}
    (hg : g ∈ fates) : g.1.key ≠ f.1.key :=
  (Table.keyed_cons.mp ready.once).1 g hg

/-- When the first row has been moved, the port is ready for the others. -/
theorem Ready.move {b : Store.Binding} {d : Desired} {fates : List Fate} (linked : l.Linked)
    (ready : Ready p l ((b, some d) :: fates)) (time : Instant) :
    Ready p ((Act.move b d time).apply l) fates := by
  obtain ⟨hb, port⟩ := ready.rows _ List.mem_cons_self
  have mem : ∀ c, c ∈ ((Act.move b d time).apply l).rows ↔
      c = b.moved d.subnetId d.address d.macAddress time ∨ (c ∈ l.rows ∧ c.key ≠ b.key) :=
    fun c => Table.mem_modify linked.rows_keyed hb _
  refine { ready.tail with rows := ?_, apart := ?_ }
  · intro g hg
    obtain ⟨there, own⟩ := ready.tail.rows g hg
    exact ⟨(mem g.1).mpr (Or.inr ⟨there, ready.other hg⟩), own⟩
  · intro distinct
    obtain ⟨addresses, free⟩ := ready.tail.apart distinct
    refine ⟨addresses, fun b' d' h moves c hc key => ?_⟩
    rcases (mem c).mp hc with rfl | ⟨old, -⟩
    · -- the moved row has an address that no other one is to get
      have taken : d.address ∉ (fates.filterMap (·.2)).map (·.address) :=
        (List.nodup_cons.mp (ready.apart distinct).1).1
      have same : d.address = d'.address := congrArg Prod.snd key
      refine absurd (List.mem_map.mpr ⟨d', ?_, same.symm⟩) taken
      exact List.mem_filterMap.mpr ⟨(b', some d'), h, rfl⟩
    · exact free b' d' h moves c old key

/-- When the first row has been released, the port is ready for the others. -/
theorem Ready.release {b : Store.Binding} {fates : List Fate}
    (ready : Ready p l ((b, none) :: fates)) (missing : Option Controller.Error) :
    Ready p ((Act.release b missing).apply l) fates := by
  have mem : ∀ c, c ∈ ((Act.release b missing).apply l).rows ↔ c ∈ l.rows ∧ c.key ≠ b.key :=
    fun c => Table.mem_remove
  refine { ready.tail with rows := ?_, apart := ?_ }
  · intro g hg
    obtain ⟨there, own⟩ := ready.tail.rows g hg
    exact ⟨(mem g.1).mpr ⟨there, ready.other hg⟩, own⟩
  · intro distinct
    obtain ⟨addresses, free⟩ := ready.tail.apart distinct
    exact ⟨addresses, fun b' d' h moves c hc => free b' d' h moves c ((mem c).mp hc).1⟩

/-- What editing rows comes to: acts on rows, and the port's own addresses. -/
structure Edited (p : Port) (l : Ledger) (r : Except Error Unit) (acts : List Act) : Prop
    extends Changed [p] l r acts where
  onRow : ∀ a ∈ acts, a.OnRow

/-- To do nothing is an edit. -/
theorem Edited.nothing (r : Except Error Unit) : Edited p l r [] where
  toChanged := .nothing [p] l r
  onRow _ ha := nomatch ha

/-- One act on a row is an edit, if the handler fails where it has stopped. -/
theorem Edited.single {a : Act} {r : Except Error Unit} (onRow : a.OnRow)
    (sourced : a.Sourced [p] l.switch?) (stopped : ∀ u, r = .ok u → ¬ a.Stops) :
    Edited p l r [a] where
  toChanged := .single sourced stopped
  onRow _ ha := List.mem_singleton.mp ha ▸ onRow

/-- One edit may follow another that has succeeded. -/
theorem Edited.append {l' : Ledger} {first more : List Act} {r : Except Error Unit}
    (done : Edited p l (.ok ()) first) (path : Path l first l') (rest : Edited p l' r more) :
    Edited p l r (first ++ more) where
  toChanged := done.toChanged.append path rest.toChanged
    (Or.inl fun a ha => (done.onRow a ha).not_builds)
  onRow a ha := (List.mem_append.mp ha).elim (done.onRow a) (rest.onRow a)

/-- What moving an address comes to is an edit. -/
theorem Moved.edited {fates : List Fate} {b : Store.Binding} {d : Desired}
    (linked : l.Linked) (ready : Ready p l ((b, some d) :: fates)) {l' : Ledger}
    {r : Except Error Unit} {acts : List Act} (path : Path l acts l') (moved : Moved w b d r acts) :
    Edited p l r acts := by
  obtain ⟨hb, port⟩ := ready.rows _ List.mem_cons_self
  have own := ready.own b d List.mem_cons_self
  cases r with
  | ok u =>
      obtain ⟨time, rfl⟩ := moved
      exact .single trivial ⟨p, List.mem_singleton_self p, port.symm, own⟩ fun _ _ => id
  | error e =>
      rcases moved with ⟨rfl, -⟩ | ⟨-, c, rfl⟩
      · exact .nothing _
      · cases path with
        | cons fits rest =>
            obtain ⟨-, hc, key, other⟩ := fits
            refine .single trivial ⟨p, List.mem_singleton_self p, port.symm, own, ?_⟩
              fun u ok => nomatch ok
            intro distinct
            refine (ready.apart distinct).2 b d List.mem_cons_self (fun same => other ?_) c hc ?_
            · exact linked.rows_keyed.eq_of_key hc hb (key.trans (Prod.ext rfl same.symm))
            · rw [key, port]

/-- The rows of a port are taken one by one. -/
theorem goes_edits (settings : Settings) (service : Option Store.Service) (t : Template)
    (fates : List Fate) (shows : w.Shows l) (linked : l.Linked) (ready : Ready p l fates) :
    ((edits fates t).forM (applyChange settings p.id service)).Goes w l fun r acts _ =>
      Edited p l r acts := by
  induction fates generalizing w l with
  | nil =>
      exact Goes.pure shows (.nothing _)
  | cons f rest ih =>
      obtain ⟨b, d⟩ := f
      obtain ⟨hb, port⟩ := ready.rows _ List.mem_cons_self
      rw [edits_cons]
      cases d with
      | none =>
          -- the row goes
          rw [if_neg (by exact nofun)]
          have release := goes_releaseAddress shows linked hb
          rw [port] at release
          refine Goes.bind linked release ?_ ?_
          · rintro u acts l' w1 - shows1 linked1 path ⟨m, rfl⟩
            cases path with
            | cons fits done =>
                cases done
                refine Goes.mono (ih shows1 linked1 (ready.release m)) ?_
                rintro r more l'' - edited
                exact Edited.append (.single trivial trivial fun _ _ => id) (.single fits) edited
          · rintro e acts l' - ⟨e', rfl⟩
            exact .single trivial trivial fun u ok => nomatch ok
      | some d =>
          -- a row that is as it should be is passed over
          by_cases same : (updateFor b d t).isEmpty = true
          · have keep : transition (some b) (some d) t = .keep := if_pos same
            rw [if_pos keep]
            exact ih shows linked ready.tail
          · have update : transition (some b) (some d) t = .update b d (updateFor b d t) :=
              if_neg same
            rw [if_neg (by rw [update]; exact nofun), update]
            have move := goes_moveAddress shows linked hb d t
            rw [port] at move
            refine Goes.bind linked move ?_ ?_
            · rintro u acts l' w1 - shows1 linked1 path moved
              have edited := moved.edited linked ready path
              obtain ⟨time, rfl⟩ := moved
              cases path with
              | cons fits done =>
                  cases done
                  refine Goes.mono (ih shows1 linked1 (ready.move linked time)) ?_
                  rintro r more l'' - more_edited
                  exact edited.append (.single fits) more_edited
            · rintro e acts l' path moved
              exact moved.edited linked ready path

end Edits

/-! ## New addresses -/

section Binds

variable {w : World} {l : Ledger} {p : Port}

/-- What binding addresses comes to: bindings on the server of `x`, and unless something failed one
with its row for each address and nothing else. -/
def BoundAll (w : World) (x : Store.Service) (portId : String) (news : List Desired)
    (r : Except Error Unit) (acts : List Act) : Prop :=
  (∀ a ∈ acts, ∃ d ∈ news, a.aim? = some (x, portId, d)) ∧
    match r with
    | .ok _ => acts.map Act.bound? = news.map fun d => some (x, portId, d)
    | .error _ => ¬ w.Calm

/-- One address that is bound, as a list of one. -/
theorem Bound.single {x : Store.Service} {portId : String} {d : Desired} {r : Except Error Unit}
    {acts : List Act} (bound : Bound w x portId d r acts) : BoundAll w x portId [d] r acts := by
  have aimed : ∀ (a : Act), a.aim? = some (x, portId, d) → ∀ b ∈ [a],
      ∃ d' ∈ [d], b.aim? = some (x, portId, d') := fun a aim b hb =>
    ⟨d, List.mem_singleton_self d, List.mem_singleton.mp hb ▸ aim⟩
  cases r with
  | ok u =>
      obtain ⟨time, m, rfl⟩ := bound
      exact ⟨aimed _ rfl, rfl⟩
  | error e =>
      obtain ⟨rough, rfl | ⟨e, rfl⟩⟩ := bound
      · exact ⟨fun a ha => (nomatch ha), rough⟩
      · exact ⟨aimed _ rfl, rough⟩

/-- Addresses bound after others, all of which were bound. -/
theorem BoundAll.append {w' : World} {x : Store.Service} {portId : String}
    {first second : List Desired} {done more : List Act} {r : Except Error Unit}
    (f : w.Follows w') (h : BoundAll w x portId first (.ok ()) done)
    (h' : BoundAll w' x portId second r more) :
    BoundAll w x portId (first ++ second) r (done ++ more) := by
  constructor
  · intro a ha
    rcases List.mem_append.mp ha with early | late
    · obtain ⟨d, hd, aim⟩ := h.1 a early
      exact ⟨d, List.mem_append_left _ hd, aim⟩
    · obtain ⟨d, hd, aim⟩ := h'.1 a late
      exact ⟨d, List.mem_append_right _ hd, aim⟩
  · cases r with
    | ok u =>
        show (done ++ more).map Act.bound? = (first ++ second).map _
        rw [List.map_append, List.map_append, h.2, h'.2]
    | error e => exact fun calm => h'.2 (calm.follows f)

/-- All addresses are bound in turn, unless something fails. -/
theorem goes_binds (settings : Settings) {x : Store.Service} (news : List Desired)
    (shows : w.Shows l) (linked : l.Linked) (hx : x ∈ l.services) :
    ((news.map Change.create).forM (applyChange settings p.id (some x))).Goes w l fun r acts _ =>
      BoundAll w x p.id news r acts := by
  induction news generalizing w l with
  | nil =>
      refine Goes.pure shows ?_
      exact ⟨fun a ha => (nomatch ha), rfl⟩
  | cons d rest ih =>
      show ((bindAddress settings p.id d x >>= fun _ => _).Goes _ _ _)
      refine Goes.bind linked (goes_bindAddress shows linked hx settings p.id d) ?_ ?_
      · rintro u acts l' w1 follows1 shows1 linked1 path bound
        have first := bound.single
        have builds : ∀ a ∈ acts, a.Builds := by
          intro a ha
          obtain ⟨d', -, aim⟩ := first.1 a ha
          exact .of_aim aim
        refine Goes.mono (ih shows1 linked1 (path.mem_services builds hx)) ?_
        rintro r more l'' - more_bound
        exact first.append follows1 more_bound
      · rintro e acts l' - bound
        have first := bound.single
        refine ⟨fun a ha => ?_, first.2⟩
        obtain ⟨d', hd, aim⟩ := first.1 a ha
        exact ⟨d, List.mem_cons_self, List.mem_singleton.mp hd ▸ aim⟩

end Binds

/-! ## All changes of a port -/

section Converge

variable {w : World} {l : Ledger} {p : Port}

/-- The addresses that a port should have bound. -/
def wantedBindings (c : Catalog) (p : Port) : List Desired :=
  desiredBindings p
    (((c.subnets.filter (·.networkId = p.networkId)).filter (·.servesDhcp)).map (·.id))

/-- An address that a port should have is one of its own. -/
theorem of_mem_wanted {c : Catalog} {d : Desired} (h : d ∈ wantedBindings c p) : d.Of p := by
  rw [wantedBindings, desiredBindings] at h
  split at h
  · obtain ⟨f, hf, rfl⟩ := List.mem_map.mp h
    exact ⟨(List.mem_filter.mp hf).1, rfl⟩
  · exact nomatch h

/-- A port whose addresses are distinct should have each once. -/
theorem nodup_wanted (c : Catalog) (distinct : (p.ipv4s.map (·.2)).Nodup) :
    ((wantedBindings c p).map (·.address)).Nodup := by
  rw [wantedBindings, desiredBindings]
  split
  · rw [List.map_map]
    exact distinct.sublist (List.filter_sublist.map _)
  · exact List.nodup_nil

/-- The served subnets are looked up, and nothing is changed. -/
theorem quiet_servedSubnets (shows : w.Shows l) (networkId : String) :
    (servedSubnets networkId).Quiet w l fun r =>
      match r with
      | .ok ids => ids = ((w.catalog.subnets.filter (·.networkId = networkId)).filter
          (·.servesDhcp)).map (·.id)
      | .error _ => ¬ w.Calm := by
  refine Ends.bind (quiet_query shows (.subnetsOf networkId)) ?_ fun e w' _ h => h
  rintro subnets w1 - ⟨shows1, loses1, rfl⟩
  exact Ends.pure ⟨shows1, loses1, rfl⟩

/-- The service for changes on a port: the network's, which must be there if something is to be
bound. -/
def neededService (p : Port) (service : Option Store.Service) (changes : List Change) :
    Except Error (Option Store.Service) :=
  if changes.any (·.isCreate) then
    match service with
    | some x => .ok (some x)
    | none => .error (.notFound (.server p.networkId p.id))
  else .ok none

/-- Changes that make a binding have a service, unless the needed one is missing. -/
theorem neededService_found {p : Port} {service needed : Option Store.Service}
    {changes : List Change} (h : neededService p service changes = .ok needed)
    (creates : changes.any (·.isCreate) = true) : ∃ x, needed = some x ∧ service = some x := by
  rw [neededService.eq_def, if_pos creates] at h
  cases service with
  | none => exact nomatch h
  | some x => exact ⟨x, (Except.ok.inj h).symm, rfl⟩

/-- The needed service is the one that was found. -/
theorem of_neededService {p : Port} {service needed : Option Store.Service}
    {changes : List Change} (h : neededService p service changes = .ok needed) :
    ∀ x ∈ needed, service = some x := by
  rw [neededService.eq_def] at h
  split at h
  · cases service with
    | none => exact nomatch h
    | some x => exact fun y hy => Except.ok.inj h ▸ hy
  · exact fun y hy => nomatch Except.ok.inj h ▸ hy

/-- Finding the service for changes changes nothing. -/
theorem quiet_serviceFor (shows : w.Shows l) (p : Port) (changes : List Change) :
    (serviceFor p changes).Quiet w l fun r =>
      r = neededService p (Table.find? Store.Service.networkId p.networkId l.services) changes := by
  rw [serviceFor]
  by_cases creates : changes.any (·.isCreate) = true
  · rw [if_pos creates, neededService.eq_def, if_pos creates]
    refine Ends.bind (quiet_getService shows p.networkId) ?_ fun e w1 _ h => nomatch h.2.2
    rintro service w1 - ⟨shows1, loses1, answer⟩
    rw [← Except.ok.inj answer]
    cases service with
    | none => exact Ends.throw ⟨shows1, loses1, rfl⟩
    | some x => exact Ends.pure ⟨shows1, loses1, rfl⟩
  · rw [if_neg creates]
    exact Ends.pure ⟨shows, World.loses_none rfl, (if_neg creates).symm⟩

/-- The rows that are found for a port are ready to be taken. -/
theorem Parts.ready {current : List Store.Binding} {desired news : List Desired}
    {fates : List Fate} (parts : Parts current desired fates news)
    (rows : ∀ b ∈ current, b ∈ l.rows ∧ b.portId = p.id)
    (once : Table.Keyed Store.Binding.key current)
    (all : ∀ b ∈ current, ∀ c ∈ l.rows, c.portId = b.portId → c ∈ current)
    (own : ∀ d ∈ desired, d.Of p)
    (distinct : (p.ipv4s.map (·.2)).Nodup → (desired.map (·.address)).Nodup) :
    Ready p l fates where
  rows f hf := rows f.1 (parts.bindings.subset (List.mem_map.mpr ⟨f, hf, rfl⟩))
  once := by
    have keys := (parts.bindings.map Store.Binding.key).symm.nodup once
    rwa [List.map_map] at keys
  own b d h := by
    refine own d (parts.addresses.subset (List.mem_append_left _ ?_))
    exact List.mem_filterMap.mpr ⟨(b, some d), h, rfl⟩
  apart h := by
    have addresses := (parts.addresses.map (·.address)).symm.nodup (distinct h)
    rw [List.map_append] at addresses
    refine ⟨(List.nodup_append.mp addresses).1, fun b d hf moves c hc key same => ?_⟩
    have hb := parts.bindings.subset (List.mem_map.mpr ⟨_, hf, rfl⟩)
    have port : c.portId = b.portId := (congrArg Prod.fst key).trans (rows b hb).2.symm
    refine parts.apart (distinct h) b d hf moves c (all b hb c hc port) ?_
    exact sameAddress_iff.mpr ⟨same.symm, (congrArg Prod.snd key).symm⟩

/-- All changes of a port go in turn: its rows first, then its new addresses. -/
theorem goes_changes (settings : Settings) (shows : w.Shows l) (linked : l.Linked)
    {current : List Store.Binding} {desired : List Desired} (t : Template)
    (rows : ∀ b ∈ current, b ∈ l.rows ∧ b.portId = p.id)
    (once : Table.Keyed Store.Binding.key current)
    (all : ∀ b ∈ current, ∀ c ∈ l.rows, c.portId = b.portId → c ∈ current)
    (own : ∀ d ∈ desired, d.Of p)
    (distinct : (p.ipv4s.map (·.2)).Nodup → (desired.map (·.address)).Nodup) :
    Goes (do
      let service ← serviceFor p (plan current desired t)
      (plan current desired t).forM (applyChange settings p.id service)) w l
        fun r acts _ => Changed [p] l r acts := by
  obtain ⟨fates, news, parts, eq⟩ := exists_parts current desired t
  refine Goes.quiet (quiet_serviceFor shows p _) ?_ fun e _ => .nothing _ _ _
  rintro service w1 - shows1 needed
  rw [eq] at needed ⊢
  -- a plan edits rows first and binds new addresses then, so the loop falls into two
  have parted : (edits fates t ++ news.map Change.create).forM (applyChange settings p.id service)
      = (do
        (edits fates t).forM (applyChange settings p.id service)
        (news.map Change.create).forM (applyChange settings p.id service)) := List.forM_append
  rw [parted]
  refine Goes.bind linked (goes_edits settings service t fates shows1 linked
    (parts.ready rows once all own distinct)) ?_ fun e acts l' _ edited => edited.toChanged
  rintro u acts l' w2 - shows2 linked2 path edited
  cases news with
  | nil =>
      refine Goes.pure shows2 ?_
      show Changed [p] l (.ok ()) (acts ++ [])
      rw [List.append_nil]
      exact edited.toChanged
  | cons d rest =>
      -- something is to be bound, so the server was looked up
      obtain ⟨x, rfl, here⟩ := neededService_found needed.symm
        (List.any_eq_true.mpr ⟨.create d, by simp, rfl⟩)
      obtain ⟨hx, network⟩ := Table.mem_of_find? here
      rw [← path.services_eq fun a ha => Or.inl (edited.onRow a ha)] at hx
      refine Goes.mono (goes_binds settings (d :: rest) shows2 linked2 hx) ?_
      rintro r more l'' - ⟨built, -⟩
      have builds : ∀ a ∈ more, a.Builds ∧ a.Sourced [p] l'.switch? := by
        intro a ha
        obtain ⟨d, hd, aim⟩ := built a ha
        have wanted := own d (parts.addresses.subset (List.mem_append_right _ hd))
        exact ⟨.of_aim aim,
          .of_aim aim ⟨p, List.mem_singleton_self p, rfl, wanted, Or.inl network⟩⟩
      exact edited.toChanged.append path (.of_builds builds) (Or.inr fun a ha => (builds a ha).1)

/-- The rows of a port become what they should be. -/
theorem goes_converge (settings : Settings) (shows : w.Shows l) (linked : l.Linked)
    {current : List Store.Binding} (rows : ∀ b ∈ current, b ∈ l.rows ∧ b.portId = p.id)
    (once : Table.Keyed Store.Binding.key current)
    (all : ∀ b ∈ current, ∀ c ∈ l.rows, c.portId = b.portId → c ∈ current) :
    (converge settings p current).Goes w l fun r acts _ => Changed [p] l r acts := by
  refine Goes.ite (fun compute => ?_) fun _ => ?_
  · refine Goes.quiet (quiet_servedSubnets shows p.networkId) ?_ fun e _ => .nothing _ _ _
    rintro ids w1 - shows1 rfl
    have wanted : desiredBindings p _ = wantedBindings w.catalog p := rfl
    rw [pure_bind, wanted]
    exact goes_changes settings shows1 linked _ rows once all (fun d => of_mem_wanted)
      (nodup_wanted w.catalog)
  · rw [pure_bind]
    exact goes_changes settings shows linked _ rows once all (fun d h => nomatch h)
      fun _ => List.nodup_nil

end Converge

end Overlay.Dhcp
