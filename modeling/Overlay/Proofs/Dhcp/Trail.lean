import Overlay.Proofs.Dhcp.Keeps
import Overlay.Proofs.Dhcp.Runs
import Overlay.Proofs.Table

/-!
# The audit trail tells which servers there are

Whoever reads the audit trail from the start, takes down a network with its server wherever one was
made and crosses it out wherever it was taken down, ends up with the services that the store has. A
server is put on the trail right after its row was put into the table or taken out of it, so this
holds after every event, whatever fails: in between nothing can stop the event.

`Audit.Faithful` is the invariant of a trail. `World.Still` is what everything else keeps.

Main statement: `Dhcp.trail_replays`.
-/

namespace Overlay

namespace Audit

/-! ## Reading a trail -/

/-- What an event says of a server. -/
inductive Mark where
  | created
  | deleted
  deriving DecidableEq, Repr

/-- What an event says of which network's server, going by its wording and its objects. -/
def Event.mark? (e : Event) : Option (Mark × String × String) :=
  match e.objects with
  | [networkId, serverId] =>
    if e.message = "Logical DHCP server created" then some (.created, networkId, serverId)
    else if e.message = "Logical DHCP server deleted" then some (.deleted, networkId, serverId)
    else none
  | _ => none

/-- What an event says of the server of this network. -/
def Event.markOf? (networkId : String) (e : Event) : Option Mark :=
  e.mark?.bind fun m => if m.2.1 = networkId then some m.1 else none

/-- Networks with their servers after one more event. -/
def Event.next (pairs : List (String × String)) (e : Event) : List (String × String) :=
  match e.mark? with
  | some (.created, pair) => pairs ++ [pair]
  | some (.deleted, pair) => pairs.filter (· ≠ pair)
  | none => pairs

/-- The networks with their servers that are left at the end of a trail. -/
def replay (trail : List Event) : List (String × String) := trail.foldl Event.next []

/-- What a trail says of the servers of a network, first to last. -/
def marks (networkId : String) (trail : List Event) : List Mark :=
  trail.filterMap (Event.markOf? networkId)

/-- Creation and deletion by turns, starting with a creation. -/
def Alternates (marks : List Mark) : Prop :=
  ∀ i mark, marks[i]? = some mark → (mark = .created ↔ i % 2 = 0)

/-- The record of a server that was made is a mark of creation. -/
theorem mark?_created (networkId serverId : String) :
    (Event.serverCreated networkId serverId).mark? = some (.created, networkId, serverId) := by
  rw [Event.mark?, Event.objects]
  exact if_pos rfl

/-- The record of a server that was taken down is a mark of deletion. -/
theorem mark?_deleted (networkId serverId : String) :
    (Event.serverDeleted networkId serverId).mark? = some (.deleted, networkId, serverId) := by
  have other : "Logical DHCP server deleted" ≠ "Logical DHCP server created" := by decide
  rw [Event.mark?, Event.objects]
  exact (if_neg other).trans (if_pos rfl)

/-- Records with other texts are no marks. -/
theorem mark?_of_message {e : Event} (text : String) (worded : e.message = text)
    (created : text ≠ "Logical DHCP server created")
    (deleted : text ≠ "Logical DHCP server deleted") : e.mark? = none := by
  rw [Event.mark?, worded]
  split
  · rw [if_neg created, if_neg deleted]
  · rfl

/-- All other events are worded differently, or name no pair of objects. -/
theorem mark?_silent {e : Event} (silent : Request.Silent (.report e)) : e.mark? = none := by
  cases e with
  | serverCreated networkId serverId => exact silent.elim
  | serverDeleted networkId serverId => exact silent.elim
  | linkPortsRemoved tier1Id tier0Id =>
      exact mark?_of_message "Router link port pair removed" rfl (by decide) (by decide)
  | bindingUpdated portId bindingId =>
      exact mark?_of_message "DHCP binding updated" rfl (by decide) (by decide)
  | bindingDeleted portId bindingId =>
      exact mark?_of_message "DHCP binding deleted" rfl (by decide) (by decide)
  | metadataProxyAttached networkId portId =>
      exact mark?_of_message "Metadata proxy port created" rfl (by decide) (by decide)
  | _ => rfl

/-- One more record is replayed after the others. -/
theorem replay_concat (trail : List Event) (e : Event) :
    replay (trail ++ [e]) = e.next (replay trail) := by
  rw [replay, List.foldl_append]
  rfl

/-- One more record adds at most one mark for a network. -/
theorem marks_concat (networkId : String) (trail : List Event) (e : Event) :
    marks networkId (trail ++ [e]) = marks networkId trail ++ (e.markOf? networkId).toList := by
  rw [marks, List.filterMap_append]
  cases here : e.markOf? networkId <;> simp [marks, here]

/-- A mark may follow when it is its turn. -/
theorem Alternates.concat {marks : List Mark} (h : Alternates marks) {mark : Mark}
    (turn : mark = .created ↔ marks.length % 2 = 0) : Alternates (marks ++ [mark]) := by
  intro i other here
  rw [List.getElem?_append] at here
  split at here
  · exact h i other here
  · next beyond =>
    obtain ⟨bound, rfl⟩ := List.getElem?_eq_some_iff.mp here
    have last : i = marks.length := by
      rw [List.length_singleton] at bound
      omega
    simp only [last, Nat.sub_self, List.getElem_cons_zero]
    exact turn

/-- A trail tells of these servers: they are what it replays to, each network has at most one, and
the last mark of a network is a creation if it has one. -/
structure Faithful (trail : List Event) (pairs : List (String × String)) : Prop where
  replayed : replay trail = pairs
  keyed : Table.Keyed Prod.fst pairs
  alternate : ∀ networkId, Alternates (marks networkId trail)
  served : ∀ networkId, (marks networkId trail).length % 2 = 1 ↔ ∃ p ∈ pairs, p.1 = networkId

namespace Faithful

variable {trail : List Event} {pairs : List (String × String)}

/-- The empty trail tells of no servers. -/
theorem start : Faithful [] [] where
  replayed := rfl
  keyed := Table.keyed_nil _
  alternate _ _ _ none := nomatch none
  served _ := ⟨nofun, fun ⟨_, here, _⟩ => nomatch here⟩

/-- An event about something else. -/
theorem other (h : Faithful trail pairs) {e : Event} (unmarked : e.mark? = none) :
    Faithful (trail ++ [e]) pairs := by
  have same : ∀ networkId, marks networkId (trail ++ [e]) = marks networkId trail := by
    intro networkId
    rw [marks_concat, Event.markOf?, unmarked]
    exact List.append_nil _
  refine ⟨?_, h.keyed, fun networkId => same networkId ▸ h.alternate networkId,
    fun networkId => same networkId ▸ h.served networkId⟩
  rw [replay_concat, Event.next, unmarked]
  exact h.replayed

/-- A server is made for a network that has none. -/
theorem created (h : Faithful trail pairs) {networkId : String} (serverId : String)
    (new : ∀ p ∈ pairs, p.1 ≠ networkId) :
    Faithful (trail ++ [.serverCreated networkId serverId]) (pairs ++ [(networkId, serverId)]) := by
  -- the network has no server, so its last mark, if any, was a deletion
  have even : (marks networkId trail).length % 2 = 0 := by
    have none : ¬ (marks networkId trail).length % 2 = 1 := fun odd => by
      obtain ⟨p, hp, same⟩ := (h.served networkId).mp odd
      exact new p hp same
    omega
  -- only this network gets another mark
  have marked : ∀ other, marks other (trail ++ [.serverCreated networkId serverId])
      = marks other trail ++ if networkId = other then [.created] else [] := by
    intro other
    rw [marks_concat, Event.markOf?, mark?_created, Option.bind_some]
    split <;> rfl
  refine ⟨?_, h.keyed.concat new, fun other => ?_, fun other => ?_⟩
  · rw [replay_concat, Event.next, mark?_created, h.replayed]
  · rw [marked]
    split
    · next same =>
      subst same
      exact (h.alternate networkId).concat (iff_of_true rfl even)
    · rw [List.append_nil]
      exact h.alternate other
  · rw [marked]
    split
    · next same =>
      subst same
      rw [List.length_append, List.length_singleton]
      exact iff_of_true (by omega) ⟨_, List.mem_concat_self, rfl⟩
    · next apart =>
      rw [List.append_nil, h.served]
      refine ⟨fun ⟨p, hp, same⟩ => ⟨p, List.mem_append_left _ hp, same⟩, fun ⟨p, hp, same⟩ => ?_⟩
      rcases List.mem_append.mp hp with old | added
      · exact ⟨p, old, same⟩
      · cases List.mem_singleton.mp added
        exact absurd same apart

/-- The server of a network is taken down. -/
theorem deleted (h : Faithful trail pairs) {networkId serverId : String}
    (here : (networkId, serverId) ∈ pairs) :
    Faithful (trail ++ [.serverDeleted networkId serverId])
      (Table.remove Prod.fst networkId pairs) := by
  -- the network has a server, so its last mark was a creation
  have odd : (marks networkId trail).length % 2 = 1 := (h.served networkId).mpr ⟨_, here, rfl⟩
  have marked : ∀ other, marks other (trail ++ [.serverDeleted networkId serverId])
      = marks other trail ++ if networkId = other then [.deleted] else [] := by
    intro other
    rw [marks_concat, Event.markOf?, mark?_deleted, Option.bind_some]
    split <;> rfl
  refine ⟨?_, h.keyed.remove _ _, fun other => ?_, fun other => ?_⟩
  · rw [replay_concat, Event.next, mark?_deleted, h.replayed]
    refine List.filter_congr fun p hp => ?_
    rw [decide_eq_decide]
    exact not_congr ⟨fun same => same ▸ rfl, fun same => h.keyed.eq_of_key hp here same⟩
  · rw [marked]
    split
    · next same =>
      subst same
      exact (h.alternate networkId).concat (iff_of_false nofun (by omega))
    · rw [List.append_nil]
      exact h.alternate other
  · rw [marked]
    split
    · next same =>
      subst same
      rw [List.length_append, List.length_singleton]
      refine iff_of_false (by omega) ?_
      rintro ⟨p, hp, same⟩
      exact (Table.mem_remove.mp hp).2 same
    · next apart =>
      rw [List.append_nil, h.served]
      refine exists_congr fun p => ?_
      rw [Table.mem_remove, and_assoc]
      refine and_congr_right fun _ => ⟨fun same => ⟨fun own => apart (own.symm.trans same), same⟩,
        And.right⟩

end Faithful

end Audit

/-- The request leaves services alone and says nothing of servers. -/
def Request.Aside : Request → Prop
  | .execute (.putService _) => False
  | r => r.Silent

/-- A plain and silent request leaves services alone and says nothing of servers. -/
theorem Request.aside_of_plain {r : Request} (plain : r.Plain) (silent : r.Silent) : r.Aside := by
  cases r with
  | execute st => cases st <;> first | exact plain.elim | exact silent
  | _ => exact silent

/-- A network with its server, as a row of the store has them. -/
def Store.ServiceRow.pair (r : ServiceRow) : String × String := (r.networkId, r.serverId)

/-- A row that can be read names the server that it is read with. -/
theorem Store.ServiceRow.pair_of_read {r : ServiceRow} {x : Service} (h : r.read = .ok x) :
    r.pair = (r.networkId, x.serverId) := by
  rw [read] at h
  cases time : readTime .services r.createdAt with
  | error e =>
      rw [time] at h
      cases h
  | ok t =>
      rw [time] at h
      cases h
      rfl

namespace World

/-- An audit trail is kept that tells of these servers, and the store has these services. -/
structure Books (w : World) (pairs : List (String × String)) (rows : List Store.ServiceRow) :
    Prop where
  auditing : w.auditing = true
  services : w.store.services = some rows
  faithful : Audit.Faithful w.trail pairs

/-- The audit trail tells of the servers of all services, and of no others. -/
def Balanced (w : World) : Prop := ∃ rows, w.Books (rows.map (·.pair)) rows

/-- Nothing happened to services, and nothing was said of servers. -/
structure Still (w w' : World) : Prop where
  auditing : w'.auditing = w.auditing
  services : w'.store.services = w.store.services
  trail : ∀ pairs, Audit.Faithful w.trail pairs → Audit.Faithful w'.trail pairs

variable {w w' : World} {pairs : List (String × String)} {rows : List Store.ServiceRow}

/-- Books stay as they are where nothing happens to services. -/
theorem Books.still (books : w.Books pairs rows) (still : w.Still w') : w'.Books pairs rows :=
  ⟨still.auditing.trans books.auditing, still.services.trans books.services,
    still.trail pairs books.faithful⟩

namespace Still

/-- Nothing happens where nothing is done. -/
theorem refl (w : World) : w.Still w := ⟨rfl, rfl, fun _ => id⟩

instance : IsPreorder World Still where
  refl := refl
  trans _ _ _ h h' := ⟨h'.auditing.trans h.auditing, h'.services.trans h.services,
    fun pairs faithful => h'.trail pairs (h.trail pairs faithful)⟩

/-- A request that is aside does nothing to services and servers. -/
theorem answer {r : Request} (aside : r.Aside) (w : World) : w.Still (w.answer r).2 := by
  cases r with
  | call c =>
      show w.Still (w.call c).2
      cases fate : w.callFaults.next c.operation with
      | some e =>
          rw [call_lost fate]
          exact ⟨rfl, rfl, fun _ => id⟩
      | none =>
          rw [call_arrived fate]
          exact ⟨rfl, rfl, fun _ => id⟩
  | query q =>
      show w.Still (w.query q).2
      rw [World.query]
      split <;> exact ⟨rfl, rfl, fun _ => id⟩
  -- only two statements concern services, and neither of them is aside
  | execute st =>
      refine ⟨rfl, ?_, fun _ => id⟩
      cases st with
      | putService x => exact aside.elim
      | deleteService networkId => exact aside.elim
      | _ => rfl
  | report e =>
      rw [World.answer]
      split
      · exact ⟨rfl, rfl, fun _ faithful => faithful.other (Audit.mark?_silent aside)⟩
      · exact refl w
  | remember t => exact ⟨rfl, rfl, fun _ => id⟩
  | now => exact ⟨rfl, rfl, fun _ => id⟩
  | acquire key => exact refl w
  | release key => exact refl w
  | validated id => exact refl w

end Still

/-- What holds before holds after. -/
def StaysBalanced (w w' : World) : Prop := w.Balanced → w'.Balanced

instance : IsPreorder World StaysBalanced where
  refl _ := id
  trans _ _ _ h h' := h' ∘ h

/-- Where nothing happens to services, the balance stays. -/
theorem Still.staysBalanced (still : w.Still w') : w.StaysBalanced w' :=
  fun ⟨rows, books⟩ => ⟨rows, books.still still⟩

end World

namespace Dhcp

open Overlay.Handler

variable {settings : Settings} {p : Port} {w : World} {rows : List Store.ServiceRow}

/-! ## Where servers are made and taken down -/

/-- What is done aside before something else. -/
theorem balanced_of_aside {α β : Type} {h : Handler α} {f : α → Handler β}
    (aside : h.Within Request.Aside) (books : w.Books (rows.map (·.pair)) rows)
    (rest : ∀ a w', w'.Books (rows.map (·.pair)) rows →
      (f a).Leaves w' fun _ w'' => w''.Balanced) :
    (h >>= f).Leaves w fun _ w' => w'.Balanced := by
  have still : h.Keeps World.Still := .of_within aside fun _ => World.Still.answer
  exact Leaves.bind (still w) (fun a w' _ still => rest a w' (books.still still))
    fun e w' _ still => ⟨rows, books.still still⟩

/-- A service is read from a row, and where none is found there is no row. -/
theorem leaves_getService (books : w.Books (rows.map (·.pair)) rows) (networkId : String) :
    (Handler.execute (.getService networkId)).Leaves w fun r w' => w' = w ∧
      (r = .ok none → ∀ row ∈ rows, row.networkId ≠ networkId) ∧
      ∀ x, r = .ok (some x) → (networkId, x.serverId) ∈ rows.map (·.pair) := by
  refine Leaves.execute ⟨rfl, ?_⟩
  simp only [Store.execute, Store.readTable, books.services]
  cases here : Table.find? Store.ServiceRow.networkId networkId rows with
  | none =>
      refine ⟨fun _ => Table.find?_eq_none_iff.mp here, fun x found => ?_⟩
      cases found
  | some row =>
      obtain ⟨hr, rfl⟩ := Table.mem_of_find? here
      cases read : row.read with
      | error e =>
          simp only [read]
          refine ⟨fun absent => ?_, fun x found => ?_⟩
          · cases absent
          · cases found
      | ok x =>
          simp only [read]
          refine ⟨fun absent => ?_, fun y found => ?_⟩
          · cases absent
          · cases found
            exact List.mem_map.mpr ⟨row, hr, Store.ServiceRow.pair_of_read read⟩

/-- The service of a network is looked up before something else. -/
theorem balanced_of_getService {α : Type} {f : Option Store.Service → Handler α}
    {networkId : String} (books : w.Books (rows.map (·.pair)) rows)
    (absent : (∀ row ∈ rows, row.networkId ≠ networkId) →
      (f none).Leaves w fun _ w' => w'.Balanced)
    (found : ∀ x, (networkId, x.serverId) ∈ rows.map (·.pair) →
      (f (some x)).Leaves w fun _ w' => w'.Balanced) :
    (Handler.execute (.getService networkId) >>= f).Leaves w fun _ w' => w'.Balanced := by
  refine Leaves.bind (leaves_getService books networkId) ?_ ?_
  · rintro service w' - ⟨rfl, none, some⟩
    cases service with
    | none => exact absent (none rfl)
    | some x => exact found x (some x rfl)
  · rintro e w' - ⟨rfl, -⟩
    exact ⟨rows, books⟩

/-- A network is looked up before something else, and if it is found, it is the one with this
identifier. -/
theorem balanced_of_network {α : Type} {f : Option Network → Handler α} {networkId : String}
    (books : w.Books (rows.map (·.pair)) rows)
    (absent : ∀ w', w'.Balanced → (f none).Leaves w' fun _ w'' => w''.Balanced)
    (found : ∀ n w', n.id = networkId → w'.Books (rows.map (·.pair)) rows →
      (f (some n)).Leaves w' fun _ w'' => w''.Balanced) :
    (Handler.query (.network networkId) >>= f).Leaves w fun _ w' => w'.Balanced := by
  have answer : (Handler.query (.network networkId)).Leaves w fun r w' =>
      w'.Books (rows.map (·.pair)) rows ∧ ∀ n, r = .ok (some n) → n.id = networkId := by
    refine Leaves.query (fun faults => ⟨{ books with }, fun n found => ?_⟩)
      fun e faults _ => ⟨{ books with }, fun n found => ?_⟩
    · exact (Table.mem_of_find? (Except.ok.inj found)).2
    · cases found
  refine Leaves.bind answer (fun network w' _ h => ?_) fun e w' _ h => ⟨rows, h.1⟩
  cases network with
  | none => exact absent w' ⟨rows, h.1⟩
  | some n => exact found n w' (h.2 n rfl) h.1

/-- A service is entered for a network without one. -/
theorem leaves_putService (books : w.Books (rows.map (·.pair)) rows) {x : Store.Service}
    (new : ∀ row ∈ rows, row.networkId ≠ x.networkId) :
    (Handler.execute (.putService x)).Leaves w fun r w' =>
      r = .ok () ∧ w'.Books (rows.map (·.pair)) (rows ++ [x.toRow]) := by
  refine Leaves.execute ?_
  simp only [Store.execute, Store.onTable, books.services]
  exact ⟨rfl, books.auditing, congrArg some (Table.put_of_absent new), books.faithful⟩

/-- A service is struck out by its network. -/
theorem leaves_deleteService (books : w.Books (rows.map (·.pair)) rows) (networkId : String) :
    (Handler.execute (.deleteService networkId)).Leaves w fun r w' => (∃ found, r = .ok found) ∧
      w'.Books (rows.map (·.pair)) (Table.remove Store.ServiceRow.networkId networkId rows) := by
  refine Leaves.execute ?_
  simp only [Store.execute, Store.onTable, books.services]
  exact ⟨⟨_, rfl⟩, books.auditing, rfl, books.faithful⟩

/-- The change of the table is put on the trail. -/
theorem balanced_report {pairs : List (String × String)} (books : w.Books pairs rows)
    {e : Audit.Event} (told : Audit.Faithful (w.trail ++ [e]) (rows.map (·.pair))) :
    (Handler.report e).Leaves w fun _ w' => w'.Balanced :=
  Leaves.report (fun _ => ⟨rows, books.auditing, books.services, told⟩)
    fun off => Bool.noConfusion (books.auditing.symm.trans off)

/-- What is done aside keeps the balance. -/
theorem balanced_aside {α : Type} {h : Handler α} (aside : h.Within Request.Aside)
    (balanced : w.Balanced) : h.Leaves w fun _ w' => w'.Balanced := by
  have still : h.Keeps World.Still := .of_within aside fun _ => World.Still.answer
  exact Leaves.mono (still w) fun _ _ _ still => still.staysBalanced balanced

/-- A row goes into the table and the server on the trail, and nothing can come in between. -/
theorem balanced_createService {n : Network} {s : Subnet}
    (books : w.Books (rows.map (·.pair)) rows) (new : ∀ row ∈ rows, row.networkId ≠ n.id) :
    (createService settings n s p).Leaves w fun _ w' => w'.Balanced := by
  rw [createService]
  cases serverConfig n s p settings with
  | error e => exact Leaves.throw ⟨rows, books⟩
  | ok config =>
      dsimp only
      rw [pure_bind]
      refine balanced_of_aside (.call trivial) books fun serverId w1 books => ?_
      refine balanced_of_aside (.now trivial) books fun time w2 books => ?_
      refine Leaves.bind (leaves_putService books new) ?_ ?_
      rotate_left
      · rintro e w3 - ⟨none, -⟩
        cases none
      rintro _ w3 - ⟨-, books⟩
      have told : Audit.Faithful (w3.trail ++ [.serverCreated n.id serverId])
          ((rows ++ [Store.Service.toRow ⟨n.id, p.id, serverId, time⟩]).map (·.pair)) := by
        rw [List.map_append]
        exact books.faithful.created serverId (List.forall_mem_map.mpr new)
      refine Leaves.bind (balanced_report books told) (fun _ w4 _ balanced => ?_) fun _ _ _ => id
      -- whether the server is attached or not is not on the trail
      refine balanced_aside (.bind (.execute trivial) fun found => ?_) balanced
      cases found with
      | none => exact .pure _
      | some m => exact .bind (.call trivial) fun _ => .pure _

/-- Making the server of a network that has none keeps the balance. -/
theorem keeps_createServiceFor (settings : Settings) (p : Port) :
    (createServiceFor settings p).Keeps World.StaysBalanced := by
  rintro w ⟨rows, books⟩
  show (createServiceFor settings p).Leaves w fun _ w' => w'.Balanced
  refine balanced_of_getService books (fun new => ?_) fun x _ => Leaves.pure ⟨rows, books⟩
  refine balanced_of_aside (within_valid _) books fun address w1 books => ?_
  cases address with
  | none => exact Leaves.pure ⟨rows, books⟩
  | some f =>
      refine balanced_of_aside (.query trivial) books fun subnet w2 books => ?_
      cases subnet with
      | none => exact Leaves.throw ⟨rows, books⟩
      | some s =>
          dsimp only
          split
          · refine balanced_of_network books (fun _ balanced => Leaves.throw balanced)
              fun n w3 named books => ?_
            exact Leaves.bind (balanced_createService books (named ▸ new))
              (fun _ _ _ balanced => Leaves.pure balanced) fun _ _ _ => id
          · exact Leaves.pure ⟨rows, books⟩

/-- Finding the server of a network or making it keeps the balance. -/
theorem keeps_ensureService (settings : Settings) (s : Subnet) (p : Port) :
    (ensureService settings s p).Keeps World.StaysBalanced := by
  rintro w ⟨rows, books⟩
  show (ensureService settings s p).Leaves w fun _ w' => w'.Balanced
  refine Leaves.locked (balanced_of_getService books (fun new => ?_) fun x _ =>
    Leaves.pure ⟨rows, books⟩)
  refine balanced_of_network books (fun _ balanced => Leaves.throw balanced)
    fun n w1 named books => ?_
  exact Leaves.bind (balanced_createService books (named ▸ new))
    (fun _ _ _ balanced => Leaves.pure balanced) fun _ _ _ => id

/-- A row goes out of the table and its server is crossed out on the trail, and nothing can come in
between. -/
theorem keeps_teardown (networkId : String) (owner : Option String) :
    (teardown networkId owner).Keeps World.StaysBalanced := by
  rintro w ⟨rows, books⟩
  show (teardown networkId owner).Leaves w fun _ w' => w'.Balanced
  refine balanced_of_getService books (fun _ => Leaves.pure ⟨rows, books⟩) fun x here => ?_
  dsimp only
  split
  · exact Leaves.pure ⟨rows, books⟩
  refine balanced_of_aside (.tryCall trivial) books fun answer w1 books => ?_
  refine balanced_of_aside (within_settle answer) books fun _ w2 books => ?_
  refine balanced_of_aside (.execute trivial) books fun orphans w3 books => ?_
  refine balanced_of_aside (.forM (fun b => ?_) orphans) books fun _ w4 books => ?_
  · exact .bind (.execute trivial) fun _ => .pure ()
  refine Leaves.bind (leaves_deleteService books networkId) ?_ fun e w5 _ h =>
    nomatch h.1.choose_spec
  rintro _ w5 - ⟨-, books⟩
  have told := books.faithful.deleted here
  rw [Table.remove_map fun row _ => Iff.rfl] at told
  exact balanced_report books told

/-- Whatever the event is and whatever fails. -/
theorem keeps_balance (settings : Settings) (e : Event) :
    (e.handler settings).Keeps World.StaysBalanced :=
  Upheld.event
    { request := fun _ plain silent w =>
        (World.Still.answer (Request.aside_of_plain plain silent) w).staysBalanced
      create := keeps_createServiceFor
      ensure := keeps_ensureService
      teardown := keeps_teardown }
    settings e

/-! ## Runs -/

/-- Surroundings to which events lead from nothing, with an audit trail from the start. Between
events everything may be changed from outside but the services and the trail. -/
inductive Recorded : World → Prop
  | start (clock : Clock) : Recorded (.empty true clock)
  | change {w w' : World} (before : Recorded w) (services : w'.store.services = w.store.services)
      (auditing : w'.auditing = w.auditing) (trail : w'.trail = w.trail) : Recorded w'
  | event {w : World} (before : Recorded w) (settings : Settings) (e : Event) :
      Recorded ((e.handler settings).runIn w).2

/-- After every event the audit trail replays to the networks and servers of the services, and for
each network creation and deletion take turns, beginning with a creation. -/
theorem trail_replays (h : Recorded w) : ∃ rows, w.store.services = some rows ∧
    Audit.replay w.trail = rows.map (fun r => (r.networkId, r.serverId)) ∧
      ∀ networkId, Audit.Alternates (Audit.marks networkId w.trail) := by
  have balanced : w.Balanced := by
    induction h with
    | start clock => exact ⟨[], rfl, rfl, Audit.Faithful.start⟩
    | change _ services auditing trail ih =>
        exact ih.imp fun _ books => books.still ⟨auditing, services, fun _ => trail ▸ id⟩
    | event _ settings e ih => exact keeps_balance settings e _ ih
  obtain ⟨rows, books⟩ := balanced
  exact ⟨rows, books.services, books.faithful.replayed, books.faithful.alternate⟩

namespace Sample

/-- The DHCP port has a switch port. Its server cannot be attached the first time, and the first
attempt to take a server down is lost. -/
def audited : World :=
  let lost : Controller.Error := ⟨.request, "unavailable"⟩
  { world with
    auditing := true
    store := { world.store with ports := some [⟨"dhcp-port", "switch", "switch-port"⟩] }
    callFaults := (Faults.none.set .setAttachment (.window lost 0 (some 1))).set .deleteServer
      (.window lost 0 (some 1)) }

/-- The DHCP port comes, the network goes, which takes two attempts, and the port comes again. -/
def comeAndGo : World :=
  [Event.portCreated dhcpPort, .networkDeleted "net", .networkDeleted "net",
    .portCreated dhcpPort].foldl (fun w e => ((e.handler Sample.settings).runIn w).2) audited

end Sample

/-- The server that was not attached is on the trail, and the attempt that was lost is not. -/
theorem trail_replays_come_and_go : Recorded Sample.comeAndGo ∧
    (∃ rows, Sample.comeAndGo.store.services = some rows ∧
      Audit.replay Sample.comeAndGo.trail = rows.map (fun r => (r.networkId, r.serverId)) ∧
        ∀ networkId, Audit.Alternates (Audit.marks networkId Sample.comeAndGo.trail)) ∧
    Audit.marks "net" Sample.comeAndGo.trail = [.created, .deleted, .created] ∧
    Audit.replay Sample.comeAndGo.trail = [("net", "dhcp-2")] := by
  have audited : Recorded Sample.audited := .change (.start Clock.counting) rfl rfl rfl
  have recorded : Recorded Sample.comeAndGo :=
    .event (.event (.event (.event audited _ _) _ _) _ _) _ _
  exact ⟨recorded, trail_replays recorded, by decide +kernel, by decide +kernel⟩

end Dhcp

end Overlay
