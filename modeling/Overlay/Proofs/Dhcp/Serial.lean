import Overlay.Proofs.Dhcp.Frames
import Overlay.Proofs.Dhcp.Runs

/-!
# Events of one network side by side

An event asks for nothing before it holds the lock of its network, or else it is answered without
any request; a port's lock is taken inside the network's, and both are given back at the end and not
before. So events of one network that come at the same time are answered, and leave the world, as if
they had come one after the other in the order in which they were granted the lock.

Main statement: `events_serialise`.
-/

namespace Overlay

open Program (Guarded)

namespace Dhcp

open Overlay.Handler

variable (settings : Settings)

/-- Whatever is done about an event is done under the lock of its network. -/
theorem guarded_event {e : Event} {networkId : String} (h : e.networkId? = some networkId) :
    Guarded (.network networkId) (e.handler settings).run :=
  (framed_event settings h).guarded

/-! ## Events side by side -/

/-- An event with an answer to it. -/
structure Answered where
  event : Event
  answer : Except Error event.Answer

/-- What is done about an event, answered together with it. -/
def Event.program (e : Event) : Program Answered :=
  (fun answer => ⟨e, answer⟩) <$> (e.handler settings).run

/-- The answers to events that are delivered one after the other, and what they leave. -/
def inTurn : List Event → World → List Answered × World
  | [], w => ([], w)
  | e :: rest, w =>
    let (answer, w) := (e.handler settings).runIn w
    let (answers, w) := inTurn rest w
    (⟨e, answer⟩ :: answers, w)

theorem run_program (e : Event) (w : World) :
    (e.program settings).run w =
      (⟨e, ((e.handler settings).runIn w).1⟩, ((e.handler settings).runIn w).2) := by
  rw [Event.program, map_eq_pure_bind, Program.run_bind]
  rfl

theorem runAll_programs (events : List Event) (w : World) :
    Program.runAll (events.map (Event.program settings)) w = inTurn settings events w := by
  induction events generalizing w with
  | nil => rfl
  | cons e rest ih => simp only [List.map_cons, Program.runAll, inTurn, run_program, ih]

/-- Events that were delivered side by side have been answered, and have left the world, as they are
when those numbered in `order` come one after the other. The answers to all others were there from
the start: they are the same in every world and change nothing. -/
structure Serialised (events : List Event) (w : World) (order : List Nat)
    (c : Concurrent Answered) : Prop where
  nodup : order.Nodup
  world : c.world = (inTurn settings (order.filterMap (events[·]?)) w).2
  answers : order.map (c.threads[·]?) =
    (inTurn settings (order.filterMap (events[·]?)) w).1.map fun a => some (.done a)
  early : ∀ i e, events[i]? = some e → i ∉ order → ∃ answer,
    c.threads[i]? = some (.done ⟨e, answer⟩) ∧ ∀ w', (e.handler settings).runIn w' = (answer, w')

/-- However the turns of events of one network are interleaved: once no event can take a turn, all
have been answered, and all is as it is when they come one after the other, in the order in which
they were granted the network's lock. -/
theorem events_serialise {settings : Settings} {networkId : String} {events : List Event}
    (one : ∀ e ∈ events, e.networkId? = some networkId) {w : World} {schedule : List Nat}
    {c : Concurrent Answered}
    (run : (Concurrent.start (events.map (Event.program settings)) w).run? schedule = some c)
    (final : c.Final) :
    c.Ended ∧ Serialised settings events w
      ((Concurrent.start (events.map (Event.program settings)) w).granted (.network networkId)
        schedule) c := by
  have guarded : ∀ p ∈ events.map (Event.program settings), p.Guarded (.network networkId) := by
    intro p hp
    obtain ⟨e, he, rfl⟩ := List.mem_map.mp hp
    exact (guarded_event settings (one e he)).map _
  obtain ⟨ended, ran⟩ := Concurrent.ran_of_final guarded run final
  refine ⟨ended, ?_⟩
  -- from here on nothing matters about the order but that `ran` holds of it
  generalize Concurrent.granted _ _ schedule = order at ran ⊢
  have listed : order.filterMap ((events.map (Event.program settings))[·]?) =
      (order.filterMap (events[·]?)).map (Event.program settings) := by
    rw [List.map_filterMap]
    simp only [List.getElem?_map]
  have total := runAll_programs settings (order.filterMap (events[·]?)) w
  rw [← listed] at total
  refine ⟨ran.nodup, ?_, ?_, ?_⟩
  · rw [← total, ran.leaves]
  · rw [← total, ran.answers]
  · intro i e here new
    have whole : c.threads[i]? = some (e.program settings) := by
      rw [ran.others i new, List.getElem?_map, here]
      rfl
    obtain ⟨a, done⟩ := ended _ (List.mem_of_getElem? whole)
    cases answered : (e.handler settings).run with
    | ask r k =>
        rw [Event.program, answered] at done
        exact nomatch done
    | done answer =>
        refine ⟨answer, ?_, fun w' => ?_⟩
        · rw [whole, Event.program, answered]
          rfl
        · rw [Handler.runIn, answered]
          rfl

/-- A network goes while one of its ports, which the catalog does not know any more, changes. -/
def Sample.racing : List Event :=
  [.networkDeleted "net", .portUpdated dhcpPort { instancePort with id := "gone" }]

/-- The change of the port is granted the lock first. -/
theorem racing_events_serialise :
    (∀ e ∈ Sample.racing, e.networkId? = some "net") ∧ ∃ c,
      (Concurrent.start (Sample.racing.map (Event.program Sample.settings)) Sample.world).run?
        [1, 1, 1, 1, 1, 0, 0, 0] = some c ∧ c.Final ∧ c.Ended ∧
      Serialised Sample.settings Sample.racing Sample.world [1, 0] c := by
  have one : ∀ e ∈ Sample.racing, e.networkId? = some "net" := by decide
  obtain ⟨c, run⟩ : ∃ c, (Concurrent.start (Sample.racing.map (Event.program Sample.settings))
      Sample.world).run? [1, 1, 1, 1, 1, 0, 0, 0] = some c := ⟨_, rfl⟩
  have final : c.Final := by
    cases run
    rintro (_ | _ | i) <;> rfl
  obtain ⟨ended, serial⟩ := events_serialise one run final
  exact ⟨one, c, run, final, ended, serial⟩

end Dhcp

end Overlay
