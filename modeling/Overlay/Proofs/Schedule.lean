import Overlay.Proofs.Requests
import Overlay.Schedule

/-!
# Programs under one lock

A program is guarded by a lock if it asks for nothing before it holds the lock, takes further locks
only inside it, and ends as soon as it has given it back. However the turns of such programs are
interleaved, what they answer and leave is what they would answer and leave one after the other, in
the order in which they were granted the lock.

The invariant is `Progress`. Between two grants nobody holds a lock, and the programs that were
granted the lock so far have run in turn. While a program holds the lock nobody else can do
anything, and what is left of it leads, in the world as it is now, to where all of it would have led
in the world that it was granted the lock in.

Main statement: `Concurrent.ran_of_final`.
-/

namespace Overlay

namespace Program

variable {α β : Type}

/-- What is left of a program that holds these locks, the last one that was taken first. It takes
others only inside them, gives all of them back in turn, and ends with the last one. -/
inductive Holding : List LockKey → Program α → Prop
  | done (a : α) : Holding [] (.done a)
  | acquire {key other : LockKey} {held : List LockKey} {k : Unit → Program α}
      (fresh : other ∉ key :: held) (rest : Holding (other :: key :: held) (k ())) :
      Holding (key :: held) (.ask (.acquire other) k)
  | release {key : LockKey} {held : List LockKey} {k : Unit → Program α}
      (rest : Holding held (k ())) : Holding (key :: held) (.ask (.release key) k)
  | free {key : LockKey} {held : List LockKey} {r : Request} {k : r.Answer → Program α}
      (free : r.Free) (rest : ∀ a, Holding (key :: held) (k a)) :
      Holding (key :: held) (.ask r k)

/-- What is done under a lock may come before what is left of a program that holds it. -/
theorem Holding.bind {key : LockKey} {held : List LockKey} {p : Program α}
    {f : α → Program β} (hp : p.Within Request.Free) (hf : ∀ a, Holding (key :: held) (f a)) :
    Holding (key :: held) (p >>= f) := by
  induction p with
  | done a => exact hf a
  | ask r k ih => exact .free hp.1 fun a => ih a (hp.2 a)

theorem Holding.map {held : List LockKey} {p : Program α} (h : Holding held p) (f : α → β) :
    Holding held (f <$> p) := by
  induction h with
  | done a => exact .done (f a)
  | acquire fresh rest ih => exact .acquire fresh ih
  | release rest ih => exact .release ih
  | free free rest ih => exact .free free ih

/-- The program asks for the lock before anything else and gives it back as its last request, or it
asks for nothing at all. -/
def Guarded (key : LockKey) (p : Program α) : Prop :=
  (∃ a, p = .done a) ∨ ∃ k, p = .ask (.acquire key) k ∧ Holding [key] (k ())

theorem Guarded.map {key : LockKey} {p : Program α} (h : p.Guarded key) (f : α → β) :
    (f <$> p).Guarded key := by
  rcases h with ⟨a, rfl⟩ | ⟨k, rfl, rest⟩
  · exact Or.inl ⟨f a, rfl⟩
  · exact Or.inr ⟨fun a => f <$> k a, rfl, rest.map f⟩

/-- The answers of programs that run one after the other, and what they leave. -/
def runAll : List (Program α) → World → List α × World
  | [], w => ([], w)
  | p :: rest, w =>
    let (a, w) := p.run w
    let (answers, w) := runAll rest w
    (a :: answers, w)

theorem runAll_concat (ps : List (Program α)) (p : Program α) (w : World) :
    runAll (ps ++ [p]) w =
      let (answers, w) := runAll ps w
      let (a, w) := p.run w
      (answers ++ [a], w) := by
  induction ps generalizing w with
  | nil => rfl
  | cons q rest ih => simp only [List.cons_append, runAll, ih]

end Program

namespace Concurrent

open Program (Holding Guarded runAll)

variable {α : Type}

/-! ## Turns -/

/-- Whether program `i` asks for the lock next. -/
def asksFor (c : Concurrent α) (key : LockKey) (i : Nat) : Bool :=
  match c.threads[i]? with
  | some (.ask (.acquire other) _) => other = key
  | _ => false

/-- The programs that are granted the lock in the course of a schedule, in this order. -/
def granted (key : LockKey) : Concurrent α → List Nat → List Nat
  | _, [] => []
  | c, i :: rest =>
    match c.step? i with
    | none => []
    | some c' => if c.asksFor key i then i :: granted key c' rest else granted key c' rest

/-- No program can take a turn. -/
def Final (c : Concurrent α) : Prop := ∀ i, c.step? i = none

/-- A turn that is about no lock is one step of the world. -/
theorem grant?_free {c : Concurrent α} {i : Nat} {r : Request} {k : r.Answer → Program α}
    (free : r.Free) :
    c.grant? i r k =
      some { c.advance i (k (c.world.answer r).1) with world := (c.world.answer r).2 } := by
  cases r <;> first | exact free.elim | rfl

theorem asksFor_free {c : Concurrent α} {key : LockKey} {i : Nat} {r : Request}
    {k : r.Answer → Program α} (free : r.Free) (here : c.threads[i]? = some (.ask r k)) :
    c.asksFor key i = false := by
  rw [asksFor, here]
  cases r <;> first | exact free.elim | rfl

/-! ## The invariant -/

/-- The programs numbered in `order` have run one after the other from `w`, have left `w'` and are
at their end. The others have not started. -/
structure Ran (programs : List (Program α)) (w : World) (order : List Nat)
    (threads : List (Program α)) (w' : World) : Prop where
  nodup : order.Nodup
  leaves : (runAll (order.filterMap (programs[·]?)) w).2 = w'
  answers : order.map (threads[·]?) =
    (runAll (order.filterMap (programs[·]?)) w).1.map fun a => some (.done a)
  others : ∀ i, i ∉ order → threads[i]? = programs[i]?

namespace Ran

variable {programs threads : List (Program α)} {w w' : World} {order : List Nat}

theorem start : Ran programs w [] programs w := ⟨List.nodup_nil, rfl, rfl, fun _ _ => rfl⟩

/-- A program whose turn has come is at its end. -/
theorem done (h : Ran programs w order threads w') {i : Nat} (hi : i ∈ order) :
    ∃ a, threads[i]? = some (.done a) := by
  have mem : threads[i]? ∈ order.map (threads[·]?) := List.mem_map_of_mem hi
  rw [h.answers] at mem
  obtain ⟨a, -, here⟩ := List.mem_map.mp mem
  exact ⟨a, here.symm⟩

/-- A program that runs from start to end after the others comes next in the order. -/
theorem next (h : Ran programs w order threads w') {i : Nat} {p : Program α} {a : α} {w'' : World}
    (fresh : i ∉ order) (here : programs[i]? = some p) (run : p.run w' = (a, w'')) :
    Ran programs w (order ++ [i]) (threads.set i (.done a)) w'' := by
  have bound : i < threads.length := by
    obtain ⟨bound, -⟩ := List.getElem?_eq_some_iff.mp ((h.others i fresh).trans here)
    exact bound
  have listed : (order ++ [i]).filterMap (programs[·]?) =
      order.filterMap (programs[·]?) ++ [p] := by
    rw [List.filterMap_append, List.filterMap_cons_some here, List.filterMap_nil]
  -- in the order of the locks, the new program runs behind all others
  have total : runAll ((order ++ [i]).filterMap (programs[·]?)) w =
      ((runAll (order.filterMap (programs[·]?)) w).1 ++ [a], w'') := by
    rw [listed, Program.runAll_concat]
    simp only [h.leaves, run]
  have earlier : order.map ((threads.set i (.done a))[·]?) = order.map (threads[·]?) :=
    List.map_congr_left fun j hj => List.getElem?_set_ne fun same : i = j => fresh (same ▸ hj)
  refine ⟨?_, ?_, ?_, ?_⟩
  · refine List.nodup_append.mpr ⟨h.nodup, List.nodup_cons.mpr ⟨List.not_mem_nil, List.nodup_nil⟩,
      fun j hj k hk same => fresh ?_⟩
    rw [← List.mem_singleton.mp hk, ← same]
    exact hj
  · rw [total]
  · rw [total, List.map_append, List.map_append, earlier, h.answers]
    simp only [List.map_cons, List.map_nil, List.getElem?_set_self bound]
  · intro j hj
    have apart : i ≠ j := fun same =>
      hj (List.mem_append_right _ (List.mem_singleton.mpr same.symm))
    rw [List.getElem?_set_ne apart]
    exact h.others j fun old => hj (List.mem_append_left _ old)

end Ran

/-- Program `i` was granted a lock after those numbered in `order`; `p` is left of it, and it is the
only one to hold locks, namely these, of which `key` was taken first. -/
structure Holder (key : LockKey) (programs : List (Program α)) (w : World) (order : List Nat)
    (c : Concurrent α) (i : Nat) (p : Program α) (held : List LockKey) : Prop where
  fresh : i ∉ order
  /-- What is left of the program leads to where all of it would have led at its start. -/
  started : ∃ threads w' whole, Ran programs w order threads w' ∧ programs[i]? = some whole ∧
    c.threads = threads.set i p ∧ p.run c.world = whole.run w'
  holding : Holding held p
  nodup : held.Nodup
  first : ∀ last ∈ held.getLast?, last = key
  locks : ∀ other, c.holder other = if other ∈ held then some i else none

/-- How far programs have come that are guarded by the lock `key` and were granted it in this
order. -/
inductive Progress (key : LockKey) (programs : List (Program α)) (w : World) :
    List Nat → Concurrent α → Prop
  /-- Nobody holds a lock. -/
  | idle {order : List Nat} {c : Concurrent α} (ran : Ran programs w order c.threads c.world)
      (free : ∀ key, c.holder key = none) : Progress key programs w order c
  /-- The program that was granted the lock last still holds it. -/
  | busy {order : List Nat} {c : Concurrent α} {i : Nat} {p : Program α} {held : List LockKey}
      (holder : Holder key programs w order c i p held) (some_held : held ≠ []) :
      Progress key programs w (order ++ [i]) c

variable {key : LockKey} {programs : List (Program α)} {w : World} {order : List Nat}
  {c c' : Concurrent α} {i j : Nat} {p : Program α} {held : List LockKey}

namespace Holder

/-- A program that has given back all locks is at its end. -/
theorem progress (h : Holder key programs w order c i p held) :
    Progress key programs w (order ++ [i]) c := by
  by_cases some_held : held = []
  · subst some_held
    obtain ⟨threads, w', whole, ran, started, left, rest⟩ := h.started
    refine .idle ?_ fun other => by rw [h.locks, if_neg List.not_mem_nil]
    cases h.holding with
    | done a =>
        rw [left]
        exact ran.next h.fresh started rest.symm
  · exact .busy h some_held

theorem thread (h : Holder key programs w order c i p held) : c.threads[i]? = some p := by
  obtain ⟨threads, w', whole, ran, started, left, -⟩ := h.started
  obtain ⟨bound, -⟩ := List.getElem?_eq_some_iff.mp ((ran.others i h.fresh).trans started)
  rw [left, List.getElem?_set_self bound]

theorem key_mem (h : Holder key programs w order c i p held) (some_held : held ≠ []) :
    key ∈ held := by
  have last := h.first _ (List.getLast?_eq_some_getLast some_held)
  exact last ▸ List.getLast_mem some_held

/-- Nobody but the holder can take a turn. -/
theorem others (h : Holder key programs w order c i p held) (some_held : held ≠ [])
    (guarded : ∀ p ∈ programs, p.Guarded key) (other : j ≠ i) : c.step? j = none := by
  obtain ⟨threads, w', whole, ran, started, left, -⟩ := h.started
  have thread : c.threads[j]? = threads[j]? := by rw [left, List.getElem?_set_ne other.symm]
  -- another program is at its end, or it asks for `key`, which is taken
  by_cases old : j ∈ order
  · obtain ⟨a, done⟩ := ran.done old
    rw [step?, thread, done]
  · rw [step?, thread, ran.others j old]
    cases here : programs[j]? with
    | none => rfl
    | some q =>
        rcases guarded q (List.mem_of_getElem? here) with ⟨a, rfl⟩ | ⟨k, rfl, -⟩
        · rfl
        · have taken : c.holder key = some i := by
            rw [h.locks, if_pos (h.key_mem some_held)]
          simp only [grant?, taken, Option.isNone_some, Bool.false_eq_true, if_false]

/-- The holder after a turn, with other locks held and something else left of it. -/
theorem advance (h : Holder key programs w order c i p held) {q : Program α}
    {held' : List LockKey} {world : World} {holder : LockKey → Option Nat}
    (rest : q.run world = p.run c.world) (holding : Holding held' q) (nodup : held'.Nodup)
    (first : ∀ last ∈ held'.getLast?, last = key)
    (locks : ∀ other, holder other = if other ∈ held' then some i else none) :
    Holder key programs w order ⟨c.threads.set i q, world, holder⟩ i q held' := by
  obtain ⟨threads, w', whole, ran, started, left, run⟩ := h.started
  refine ⟨h.fresh, ⟨threads, w', whole, ran, started, ?_, rest.trans run⟩, holding, nodup, first,
    locks⟩
  show c.threads.set i q = _
  rw [left, List.set_set]

/-- The holder can take a turn; it does not ask for the lock that it holds, and goes on. -/
theorem step (h : Holder key programs w order c i p held) (some_held : held ≠ []) :
    c.asksFor key i = false ∧ ∃ c', c.step? i = some c' ∧
      Progress key programs w (order ++ [i]) c' := by
  have here := h.thread
  have locked := h.key_mem some_held
  rw [step?, here]
  -- its next request is one more lock, the lock it took last, or about no lock
  cases h.holding with
  | done a => exact absurd rfl some_held
  | @acquire top other held k fresh rest =>
      have free : c.holder other = none := by rw [h.locks, if_neg fresh]
      refine ⟨?_, _, if_pos (by rw [free]; rfl), ?_⟩
      · have apart : other ≠ key := fun same => fresh (same ▸ locked)
        simpa [asksFor, here] using apart
      · refine (h.advance (q := k ()) rfl rest (List.nodup_cons.mpr ⟨fresh, h.nodup⟩) h.first
          fun key' => ?_).progress
        show (if key' = other then some i else c.holder key') = _
        rw [h.locks]
        by_cases same : key' = other <;> simp [same]
  | @release top held k rest =>
      refine ⟨by simp [asksFor, here], _, rfl, ?_⟩
      have inner := List.nodup_cons.mp h.nodup
      refine (h.advance (q := k ()) rfl rest inner.2 (fun last hl => h.first last ?_)
        fun key' => ?_).progress
      · rw [List.getLast?_cons, Option.mem_def.mp hl]
        rfl
      · show (if key' = top then none else c.holder key') = _
        rw [h.locks]
        by_cases same : key' = top <;> simp [same, inner.1]
  | @free top held r k free rest =>
      refine ⟨asksFor_free free here, _, grant?_free free, ?_⟩
      exact (h.advance (q := k _) rfl (rest _) h.nodup h.first h.locks).progress

end Holder

namespace Progress

theorem start : Progress key programs w [] (start programs w) := .idle .start fun _ => rfl

/-- A program that can take a turn while nobody holds a lock is granted the lock. -/
theorem step_idle (guarded : ∀ p ∈ programs, p.Guarded key)
    (ran : Ran programs w order c.threads c.world) (free : ∀ key, c.holder key = none)
    (step : c.step? i = some c') :
    c.asksFor key i ∧ Progress key programs w (order ++ [i]) c' := by
  have fresh : i ∉ order := by
    intro old
    obtain ⟨a, done⟩ := ran.done old
    rw [step?, done] at step
    exact nomatch step
  -- it has not started, so what it asks for first is the lock
  cases here : c.threads[i]? with
  | none =>
      rw [step?, here] at step
      exact nomatch step
  | some p =>
      rw [step?, here] at step
      have started : programs[i]? = some p := (ran.others i fresh).symm.trans here
      rcases guarded p (List.mem_of_getElem? started) with ⟨a, rfl⟩ | ⟨k, rfl, holding⟩
      · exact nomatch step
      · simp only [grant?, free, Option.isNone_none, if_true, Option.some.injEq] at step
        subst step
        have holder : Holder key programs w order ((c.setHolder key (some i)).advance i (k ())) i
            (k ()) [key] := by
          refine ⟨fresh, ⟨c.threads, c.world, _, ran, started, rfl, rfl⟩, holding, ?_, ?_,
            fun other => ?_⟩
          · exact List.nodup_cons.mpr ⟨List.not_mem_nil, List.nodup_nil⟩
          · simp
          · show (if other = key then some i else c.holder other) = _
            simp [free]
        exact ⟨by simp [asksFor, here], .busy holder (List.cons_ne_nil key [])⟩

/-- A turn of any program. -/
theorem step (guarded : ∀ p ∈ programs, p.Guarded key) (h : Progress key programs w order c)
    (step : c.step? i = some c') :
    Progress key programs w (if c.asksFor key i then order ++ [i] else order) c' := by
  cases h with
  | idle ran free =>
      obtain ⟨asks, progress⟩ := step_idle guarded ran free step
      rwa [if_pos asks]
  | @busy order _ j p held holder some_held =>
      have same : i = j := by
        refine Decidable.byContradiction fun other => ?_
        exact nomatch (holder.others some_held guarded other).symm.trans step
      subst same
      obtain ⟨asks, c'', step', progress⟩ := holder.step some_held
      cases step'.symm.trans step
      rwa [asks, if_neg Bool.false_ne_true]

/-- All turns of a schedule. -/
theorem run (guarded : ∀ p ∈ programs, p.Guarded key) {schedule : List Nat}
    (h : Progress key programs w order c) (run : c.run? schedule = some c') :
    Progress key programs w (order ++ granted key c schedule) c' := by
  -- on the turns that are left, from wherever the programs have come
  induction schedule generalizing order c with
  | nil =>
      cases run
      rwa [granted, List.append_nil]
  | cons i rest ih =>
      cases step : c.step? i with
      | none =>
          rw [run?, List.foldlM_cons, step] at run
          exact nomatch run
      | some d =>
          rw [run?, List.foldlM_cons, step] at run
          have later := ih (h.step guarded step) run
          rw [granted, step]
          cases asks : c.asksFor key i with
          | false => simpa [asks] using later
          | true => simpa [asks] using later

end Progress

/-- Once nobody can take a turn any more, all programs are at their end, and what they have answered
and left is what they answer and leave one after the other, in the order in which they were granted
the lock. The others have never asked for anything. -/
theorem ran_of_final (guarded : ∀ p ∈ programs, p.Guarded key) {schedule : List Nat}
    (run : (start programs w).run? schedule = some c) (final : c.Final) :
    c.Ended ∧ Ran programs w (granted key (start programs w) schedule) c.threads c.world := by
  have progress := Progress.start.run guarded run
  rw [List.nil_append] at progress
  generalize granted key (start programs w) schedule = order at progress
  -- a holder could take a turn, so nobody holds a lock
  cases progress with
  | busy holder some_held =>
      obtain ⟨-, c', step, -⟩ := holder.step some_held
      exact nomatch (final _).symm.trans step
  | idle ran free =>
      refine ⟨fun p hp => ?_, ran⟩
      obtain ⟨i, here⟩ := List.mem_iff_getElem?.mp hp
      by_cases old : i ∈ order
      · obtain ⟨a, done⟩ := ran.done old
        exact ⟨a, Option.some.inj (here.symm.trans done)⟩
      · have started : programs[i]? = some p := (ran.others i old).symm.trans here
        rcases guarded p (List.mem_of_getElem? started) with ended | ⟨k, rfl, -⟩
        · exact ended
        · have stuck := final i
          rw [step?, here] at stuck
          simp [grant?, free] at stuck

end Concurrent

end Overlay
