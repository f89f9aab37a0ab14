import Overlay.Proofs.Schedule

/-!
# Programs that take locks in order

Networks come before ports. A program takes its locks in order if every lock that it asks for comes
after all locks that it holds, and if it gives its locks back, the last one first, before it ends.
However the turns of such programs are interleaved, and whatever the surroundings do in between, the
programs do not end up waiting for each other: who waits for a lock waits for a program that can
only wait for a later one.

The invariant is `Stacked`: each program holds a stack of locks, later ones above earlier ones.

Main statement: `Concurrent.Reached.goes_on`.
-/

namespace Overlay

/-- The place of a lock in the order in which locks are taken. -/
def LockKey.rank (key : LockKey) : Nat :=
  match key.scope with
  | .network => 0
  | .port => 1

/-- There are two ranks. -/
theorem LockKey.rank_lt (key : LockKey) : key.rank < 2 := by
  rw [rank]
  split <;> decide

/-- Locks of networks come before locks of ports. -/
theorem LockKey.network_lt_port (networkId portId : String) :
    (LockKey.network networkId).rank < (LockKey.port portId).rank := Nat.zero_lt_one

/-- What is left of a program that holds these locks, the last one that was taken first. It takes
only later ones, gives all of them back in turn, and ends without any. -/
inductive Program.Climbs {α : Type} : List LockKey → Program α → Prop
  | done (a : α) : Climbs [] (.done a)
  | acquire {key : LockKey} {held : List LockKey} {k : Unit → Program α}
      (later : ∀ other ∈ held, other.rank < key.rank) (rest : Climbs (key :: held) (k ())) :
      Climbs held (.ask (.acquire key) k)
  | release {key : LockKey} {held : List LockKey} {k : Unit → Program α}
      (rest : Climbs held (k ())) : Climbs (key :: held) (.ask (.release key) k)
  | free {held : List LockKey} {r : Request} {k : r.Answer → Program α} (free : r.Free)
      (rest : ∀ a, Climbs held (k a)) : Climbs held (.ask r k)

namespace Program.Climbs

variable {α β : Type} {held : List LockKey} {p : Program α} {f : α → Program β}

/-- A lock that is taken comes after those that are held. -/
theorem later {key : LockKey} {k : Unit → Program α} (h : Climbs held (.ask (.acquire key) k)) :
    ∀ other ∈ held, other.rank < key.rank := by
  cases h with
  | acquire later _ => exact later
  | free free _ => exact free.elim

/-- A program ends without a lock. -/
theorem eq_nil {a : α} (h : Climbs held (.done a)) : held = [] := by
  cases h
  rfl

/-- What is about no lock may come before anything else. -/
theorem bind_free (hp : p.Within Request.Free) (hf : ∀ a, (f a).Climbs held) :
    (p >>= f).Climbs held := by
  induction p with
  | done a => exact hf a
  | ask r k ih => exact .free hp.1 fun a => ih a (hp.2 a)

/-- A program without locks may come after one that gives all of its locks back. -/
theorem bind (hp : p.Climbs held) (hf : ∀ a, (f a).Climbs []) : (p >>= f).Climbs held := by
  induction hp with
  | done a => exact hf a
  | acquire later _ ih => exact .acquire later ih
  | release _ ih => exact .release ih
  | free free _ ih => exact .free free ih

/-- A change of the result does not matter to the locks. -/
theorem map (hp : p.Climbs held) (g : α → β) : (g <$> p).Climbs held :=
  hp.bind fun a => .done (g a)

end Program.Climbs

namespace Handler

/-- The handler takes its locks in order. -/
def Climbs {α : Type} (h : Handler α) : Prop := Program.Climbs [] h.run

namespace Climbs

variable {α β : Type} {h body : Handler α}

/-- A handler that is about no lock takes its locks in order. -/
theorem free (hh : h.Within Request.Free) : h.Climbs := by
  have all := Program.Climbs.bind_free (f := .done) hh .done
  rwa [show h.run >>= .done = h.run from Program.bind_done h.run] at all

theorem pure (a : α) : Climbs (Pure.pure a) := .done _

/-- Two handlers in turn take their locks in order if each of them does. -/
theorem bind {f : α → Handler β} (first : h.Climbs) (rest : ∀ a, (f a).Climbs) :
    (h >>= f).Climbs := by
  refine Program.Climbs.bind first fun result => ?_
  cases result with
  | ok a => exact rest a
  | error e => exact .done _

/-- An attempt takes its locks as its body does. -/
theorem attempt (hb : body.Climbs) : (Handler.attempt body).Climbs :=
  Program.Climbs.bind hb fun _ => .done _

/-- A loop takes its locks in order if each round does. -/
theorem foldlM {σ : Type} {step : σ → α → Handler σ} (each : ∀ s a, (step s a).Climbs)
    (as : List α) (s : σ) : Climbs (as.foldlM step s) := by
  induction as generalizing s with
  | nil => exact pure s
  | cons a rest ih =>
      rw [List.foldlM_cons]
      exact bind (each s a) ih

/-- One lock around a handler that takes none. -/
theorem locked (key : LockKey) (hb : body.Within Request.Free) :
    (Handler.locked key body).Climbs :=
  .acquire nofun (Program.Climbs.bind_free (p := body.run) hb fun _ => .release (.done _))

/-- Two locks, the later one inside, around a handler that takes none. -/
theorem locked_locked {outer inner : LockKey} (later : outer.rank < inner.rank)
    (hb : body.Within Request.Free) :
    (Handler.locked outer (Handler.locked inner body)).Climbs := by
  refine .acquire nofun (.acquire (fun other here => ?_) ?_)
  · rwa [List.mem_singleton.mp here]
  · show Program.Climbs _ ((body.run >>= fun result => .ask (.release inner) fun _ => .done result)
      >>= fun result => .ask (.release outer) fun _ => .done result)
    rw [bind_assoc]
    exact Program.Climbs.bind_free hb fun _ => .release (.release (.done _))

end Climbs

end Handler

namespace Concurrent

variable {α : Type}

/-! ## The invariant -/

/-- A program takes its turn with a request. -/
theorem ask_of_step? {c c' : Concurrent α} {i : Nat} (step : c.step? i = some c') :
    ∃ r k, c.threads[i]? = some (.ask r k) ∧ c.grant? i r k = some c' := by
  rw [step?] at step
  split at step
  · cases step
  · cases step
  · next r k here => exact ⟨r, k, here, step⟩

/-- A lock is granted where nobody holds it, and the program goes on with it. -/
theorem grant?_acquire {c c' : Concurrent α} {i : Nat} {key : LockKey} {k : Unit → Program α}
    (turn : c.grant? i (.acquire key) k = some c') :
    c.holder key = none ∧ c' = (c.setHolder key (some i)).advance i (k ()) := by
  rw [grant?] at turn
  split at turn
  · next nobody => exact ⟨Option.isNone_iff_eq_none.mp nobody, (Option.some.inj turn).symm⟩
  · cases turn

/-- Each program holds a stack of locks, later ones above earlier ones, and what is left of it
goes on from there. -/
structure Stacked (held : Nat → List LockKey) (c : Concurrent α) : Prop where
  climbs : ∀ i p, c.threads[i]? = some p → Program.Climbs (held i) p
  holder : ∀ key i, c.holder key = some i ↔ key ∈ held i
  ordered : ∀ i, (held i).Pairwise fun above below => below.rank < above.rank
  present : ∀ i, c.threads[i]? = none → held i = []

namespace Stacked

variable {held : Nat → List LockKey} {c c' : Concurrent α} {i : Nat}

/-- At the start no program holds a lock. -/
theorem start {programs : List (Program α)} (ordered : ∀ p ∈ programs, p.Climbs []) (w : World) :
    Stacked (fun _ => []) (start programs w) where
  climbs _ p here := ordered p (List.mem_of_getElem? here)
  holder _ _ := ⟨nofun, nofun⟩
  ordered _ := List.Pairwise.nil
  present _ _ := rfl

/-- A turn of one program changes what it holds and what is left of it. -/
theorem advance (h : Stacked held c) {p rest : Program α} (here : c.threads[i]? = some p)
    {held' : List LockKey} (climbs : rest.Climbs held') {holder : LockKey → Option Nat}
    (own : ∀ key, holder key = some i ↔ key ∈ held')
    (others : ∀ key j, j ≠ i → (holder key = some j ↔ c.holder key = some j))
    (ordered : held'.Pairwise fun above below => below.rank < above.rank) (world : World) :
    Stacked (fun j => if j = i then held' else held j)
      ⟨c.threads.set i rest, world, holder⟩ := by
  have bound : i < c.threads.length := (List.getElem?_eq_some_iff.mp here).1
  refine ⟨fun j q there => ?_, fun key j => ?_, fun j => ?_, fun j none => ?_⟩
  all_goals by_cases same : j = i
  all_goals simp only [same, if_true, if_false]
  · subst same
    rw [List.getElem?_set_self bound] at there
    cases there
    exact climbs
  · rw [List.getElem?_set_ne (Ne.symm same)] at there
    exact h.climbs j q there
  · exact own key
  · rw [others key j same, h.holder]
  · exact ordered
  · exact h.ordered j
  · subst same
    rw [List.getElem?_set_self bound] at none
    exact nomatch none
  · rw [List.getElem?_set_ne (Ne.symm same)] at none
    exact h.present j none

/-- After a turn each program still holds a stack of locks. -/
theorem step (h : Stacked held c) (step : c.step? i = some c') : ∃ held', Stacked held' c' := by
  obtain ⟨r, k, here, turn⟩ := ask_of_step? step
  have left := h.climbs i _ here
  generalize stack : held i = locks at left
  cases left with
  -- the lock goes onto the stack of the program that takes it
  | @acquire key _ _ later rest =>
      obtain ⟨nobody, rfl⟩ := grant?_acquire turn
      refine ⟨_, h.advance here rest (fun other => ?_) (fun other j apart => ?_)
        (List.pairwise_cons.mpr ⟨later, stack ▸ h.ordered i⟩) c.world⟩
      · show (if other = key then some i else c.holder other) = some i ↔ _
        rw [List.mem_cons, ← stack, ← h.holder]
        by_cases same : other = key <;> simp [same]
      · show (if other = key then some i else c.holder other) = some j ↔ _
        by_cases same : other = key
        · simp [same, nobody, Ne.symm apart]
        · rw [if_neg same]
  -- the lock is the topmost one of the program, and leaves its stack
  | @release key locks _ rest =>
      cases turn
      obtain ⟨below, ordered⟩ := List.pairwise_cons.mp (stack ▸ h.ordered i)
      have mine : c.holder key = some i := (h.holder key i).mpr (stack ▸ List.mem_cons_self)
      refine ⟨_, h.advance here rest (fun other => ?_) (fun other j apart => ?_) ordered c.world⟩
      · show (if other = key then none else c.holder other) = some i ↔ _
        by_cases same : other = key
        · have gone : key ∉ locks := fun again => Nat.lt_irrefl _ (below key again)
          simp [same, gone]
        · rw [if_neg same, h.holder, stack, List.mem_cons, or_iff_right same]
      · show (if other = key then none else c.holder other) = some j ↔ _
        by_cases same : other = key
        · simp [same, mine, Ne.symm apart]
        · rw [if_neg same]
  | @free _ _ _ free rest =>
      cases (grant?_free free).symm.trans turn
      exact ⟨_, h.advance here (rest _) (fun other => stack ▸ h.holder other i)
        (fun _ _ _ => Iff.rfl) (stack ▸ h.ordered i) _⟩

end Stacked

/-! ## Waiting for each other -/

/-- The states that programs come to which start side by side. -/
inductive Reached (programs : List (Program α)) : Concurrent α → Prop
  | start (w : World) : Reached programs (Concurrent.start programs w)
  | turn {c c' : Concurrent α} {i : Nat} (before : Reached programs c)
      (step : c.step? i = some c') : Reached programs c'
  /-- The surroundings change by themselves. -/
  | change {c : Concurrent α} (before : Reached programs c) (world : World) :
      Reached programs { c with world }

/-- Program `i` waits for a lock that program `j` holds. -/
def WaitsFor (c : Concurrent α) (i j : Nat) : Prop :=
  ∃ key k, c.threads[i]? = some (.ask (.acquire key) k) ∧ c.holder key = some j

/-- As long as a program waits, not all have ended. -/
theorem WaitsFor.not_ended {c : Concurrent α} {i j : Nat} (waits : c.WaitsFor i j) :
    ¬ c.Ended := by
  intro ended
  obtain ⟨key, k, here, -⟩ := waits
  obtain ⟨a, done⟩ := ended _ (List.mem_of_getElem? here)
  exact nomatch done

/-- Some programs, at least one, that all wait for one of them. -/
def Circle (c : Concurrent α) (some : Nat → Prop) : Prop :=
  (∃ i, some i) ∧ ∀ i, some i → ∃ j, some j ∧ c.WaitsFor i j

/-- Programs that hold their locks in order never wait for each other in a circle. -/
theorem Stacked.no_circle {held : Nat → List LockKey} {c : Concurrent α} (h : Stacked held c)
    (some : Nat → Prop) : ¬ c.Circle some := by
  rintro ⟨⟨i, hi⟩, waits⟩
  -- going round, locks come later and later in the order
  have later : ∀ n, ∃ i key k, some i ∧ c.threads[i]? = .some (.ask (.acquire key) k) ∧
      n ≤ key.rank := by
    intro n
    induction n with
    | zero =>
        obtain ⟨j, -, key, k, here, -⟩ := waits i hi
        exact ⟨i, key, k, hi, here, Nat.zero_le _⟩
    | succ n ih =>
        obtain ⟨i, key, k, hi, here, bound⟩ := ih
        obtain ⟨j, hj, key', k', here', taken⟩ := waits i hi
        cases here.symm.trans here'
        obtain ⟨-, -, other, k'', there, -⟩ := waits j hj
        -- whoever is waited for waits for a later lock than the one it holds
        have above := (h.climbs j _ there).later key ((h.holder key j).mp taken)
        exact ⟨j, other, k'', hj, there, Nat.lt_of_le_of_lt bound above⟩
  obtain ⟨-, key, -, -, -, bound⟩ := later 2
  exact Nat.lt_irrefl _ (Nat.lt_of_lt_of_le key.rank_lt bound)

/-- As long as a program has not ended, one of them can take a turn. -/
theorem Stacked.step_of_not_ended {held : Nat → List LockKey} {c : Concurrent α}
    (h : Stacked held c) (going : ¬ c.Ended) : ∃ i c', c.step? i = some c' := by
  -- otherwise all programs that have not ended wait for each other
  refine Classical.byContradiction fun stuck => ?_
  have waiting : ∀ i p, c.threads[i]? = some p → (∀ a, p ≠ .done a) → c.Waiting i := by
    intro i p here unfinished
    obtain ⟨bound, rfl⟩ := List.getElem?_eq_some_iff.mp here
    have none : c.step? i = none := by
      cases turn : c.step? i with
      | none => rfl
      | some c' => exact absurd ⟨i, c', turn⟩ stuck
    rcases (c.step?_eq_none_iff i bound).mp none with ⟨a, done⟩ | waits
    · exact absurd done (unfinished a)
    · exact waits
  refine h.no_circle (fun i => ∃ p, c.threads[i]? = some p ∧ ∀ a, p ≠ .done a) ⟨?_, ?_⟩
  · refine Classical.byContradiction fun none => going fun p hp => ?_
    obtain ⟨i, here⟩ := List.getElem?_of_mem hp
    exact Classical.byContradiction fun unfinished =>
      none ⟨i, p, here, fun a done => unfinished ⟨a, done⟩⟩
  · rintro i ⟨p, here, unfinished⟩
    obtain ⟨key, k, asks, taken⟩ := waiting i p here unfinished
    obtain ⟨j, holder⟩ := Option.ne_none_iff_exists'.mp taken
    have held := (h.holder key j).mp holder
    refine ⟨j, ?_, key, k, asks, holder⟩
    cases there : c.threads[j]? with
    | none => exact absurd (h.present j there ▸ held) List.not_mem_nil
    | some q =>
        refine ⟨q, there, ?_⟩
        rintro a rfl
        exact absurd ((h.climbs j _ there).eq_nil ▸ held) List.not_mem_nil

namespace Reached

variable {programs : List (Program α)} {c c' : Concurrent α}

/-- The turns of a schedule. -/
theorem run (before : Reached programs c) {schedule : List Nat}
    (run : c.run? schedule = some c') : Reached programs c' := by
  induction schedule generalizing c with
  | nil =>
      cases run
      exact before
  | cons i rest ih =>
      rw [run?, List.foldlM_cons] at run
      obtain ⟨next, step, run⟩ := Option.bind_eq_some_iff.mp run
      exact ih (before.turn step) run

/-- However far programs have come, they hold their locks in order. -/
theorem stacked (h : Reached programs c) (ordered : ∀ p ∈ programs, p.Climbs []) :
    ∃ held, Stacked held c := by
  induction h with
  | start w => exact ⟨_, Stacked.start ordered w⟩
  | turn _ step ih =>
      obtain ⟨held, stacked⟩ := ih
      exact stacked.step step
  | change _ world ih =>
      obtain ⟨held, stacked⟩ := ih
      exact ⟨held, stacked.climbs, stacked.holder, stacked.ordered, stacked.present⟩

/-- Programs that take their locks in order never wait for each other, and as long as one of them
has not ended, one of them can go on. -/
theorem goes_on (h : Reached programs c) (ordered : ∀ p ∈ programs, p.Climbs []) :
    (∀ some, ¬ c.Circle some) ∧ (¬ c.Ended → ∃ i c', c.step? i = some c') := by
  obtain ⟨held, stacked⟩ := h.stacked ordered
  exact ⟨stacked.no_circle, stacked.step_of_not_ended⟩

end Reached

end Concurrent

end Overlay
