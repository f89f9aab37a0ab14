import Mathlib.Data.List.Induction
import Overlay.Locks
import Overlay.Proofs.Table

/-!
# Keyed locks are exclusive and granted in turn

Requests come and are given up in any order. `lineFor` is the line of a key as it should be: the
requests for it that have not been given up, in the order in which they were made. If every single
mutex is exclusive and fair (`Mutex.Fair`), then whatever is taken off the register in between, each
key is held by the first in its line and by nobody else, and the others wait.

The invariant is `Serves`. A mutex that is on the register is referred to by the register once and
by every request in the line of its key, and its own line is this one. So a mutex that nothing else
refers to has an empty line, and no request of its key can miss it.

Main statement: `granted_in_turn`.
-/

namespace Overlay

variable {τ : Type} [DecidableEq τ]

/-! ## One mutex -/

namespace Mutex

/-- What happens to a mutex. -/
inductive Turn (τ : Type) where
  | ask (t : τ)
  /-- A request is given up. -/
  | leave (t : τ)
  deriving DecidableEq, Repr

/-- The request that is made, if one is. -/
def Turn.asked? : Turn τ → Option τ
  | ask t => some t
  | leave _ => none

/-- A line after one more turn. -/
def Turn.next (line : List τ) : Turn τ → List τ
  | ask t => line ++ [t]
  | leave t => line.filter (· ≠ t)

/-- The requests that have not been given up, in the order in which they were made. -/
def line (turns : List (Turn τ)) : List τ := turns.foldl Turn.next []

variable (M : Mutex τ)

/-- A mutex after a turn. -/
def turn (s : M.State) : Turn τ → M.State
  | .ask t => M.ask s t
  | .leave t => M.leave s t

/-- A mutex after these turns. -/
def after (turns : List (Turn τ)) : M.State := turns.foldl M.turn M.unused

/-- The mutex is exclusive, and granted in the order of the requests without those that have been
given up: as long as no request is made twice, the first in line holds it and the others wait. -/
def Fair : Prop := ∀ turns : List (Turn τ), (turns.filterMap Turn.asked?).Nodup → ∀ t,
  (M.holds (M.after turns) t = true ↔ (line turns).head? = some t) ∧
    (M.waits (M.after turns) t = true ↔ t ∈ (line turns).tail)

theorem line_concat (turns : List (Turn τ)) (turn : Turn τ) :
    line (turns ++ [turn]) = turn.next (line turns) := by
  rw [line, List.foldl_append]
  rfl

omit [DecidableEq τ] in
theorem after_concat (turns : List (Turn τ)) (turn : Turn τ) :
    M.after (turns ++ [turn]) = M.turn (M.after turns) turn := by
  rw [after, List.foldl_append]
  rfl

/-- A queue is its own line. -/
theorem fair_queue : (queue τ).Fair := by
  intro turns _ t
  have same : (queue τ).turn = Turn.next := by
    funext s turn
    cases turn <;> rfl
  rw [show (queue τ).after turns = line turns from congrArg (turns.foldl · []) same]
  exact ⟨decide_eq_true_iff, decide_eq_true_iff⟩

end Mutex

open Mutex (Turn)

/-! ## Lines -/

/-- What happens to locks. -/
inductive LockStep (τ : Type) where
  | request (key : LockKey) (t : τ)
  /-- A request is given up: its lock is given back, or it stops waiting. -/
  | giveUp (t : τ)
  deriving DecidableEq, Repr

namespace LockStep

/-- The request that is made, if one is. -/
def asked? : LockStep τ → Option τ
  | request _ t => some t
  | giveUp _ => none

/-- The line of a key after one more step. -/
def next (key : LockKey) (line : List τ) : LockStep τ → List τ
  | request other t => if other = key then line ++ [t] else line
  | giveUp t => line.filter (· ≠ t)

/-- Whether a step is about the lock of this key, as one of these steps. -/
def concerns (steps : List (LockStep τ)) (key : LockKey) : LockStep τ → Bool
  | request other _ => other = key
  | giveUp t => request key t ∈ steps

end LockStep

/-- The requests for a key that have not been given up, in the order in which they were made. -/
def lineFor (key : LockKey) (steps : List (LockStep τ)) : List τ :=
  steps.foldl (LockStep.next key) []

theorem lineFor_concat (key : LockKey) (steps : List (LockStep τ)) (step : LockStep τ) :
    lineFor key (steps ++ [step]) = step.next key (lineFor key steps) := by
  rw [lineFor, List.foldl_append]
  rfl

theorem lineFor_request (key : LockKey) (steps : List (LockStep τ)) (t : τ) :
    lineFor key (steps ++ [.request key t]) = lineFor key steps ++ [t] := by
  rw [lineFor_concat, LockStep.next, if_pos rfl]

theorem lineFor_request_of_ne {key other : LockKey} (apart : other ≠ key)
    (steps : List (LockStep τ)) (t : τ) :
    lineFor key (steps ++ [.request other t]) = lineFor key steps := by
  rw [lineFor_concat, LockStep.next, if_neg apart]

theorem lineFor_giveUp (key : LockKey) (steps : List (LockStep τ)) (t : τ) :
    lineFor key (steps ++ [.giveUp t]) = (lineFor key steps).filter (· ≠ t) :=
  lineFor_concat key steps _

theorem lineFor_giveUp_of_not_mem {key : LockKey} {steps : List (LockStep τ)} {t : τ}
    (away : t ∉ lineFor key steps) :
    lineFor key (steps ++ [.giveUp t]) = lineFor key steps := by
  rw [lineFor_giveUp]
  exact List.filter_eq_self.mpr fun u hu => decide_eq_true fun same => away (same ▸ hu)

/-- Who stands in line has asked for the key. -/
theorem request_of_mem_lineFor {key : LockKey} {steps : List (LockStep τ)} {t : τ}
    (h : t ∈ lineFor key steps) : .request key t ∈ steps := by
  induction steps using List.reverseRecOn with
  | nil => exact nomatch h
  | append_singleton steps step ih =>
      rw [lineFor_concat] at h
      cases step with
      | giveUp u => exact List.mem_append_left _ (ih (List.mem_filter.mp h).1)
      | request other u =>
          rw [LockStep.next] at h
          split at h
          · next same =>
            rcases List.mem_append.mp h with old | new
            · exact List.mem_append_left _ (ih old)
            · rw [List.mem_singleton.mp new, same]
              exact List.mem_concat_self
          · exact List.mem_append_left _ (ih h)

/-- What is about other keys does not change a line. -/
theorem lineFor_filter (key : LockKey) (steps : List (LockStep τ)) :
    lineFor key (steps.filter (LockStep.concerns steps key)) = lineFor key steps := by
  -- on the steps that are left, from a line of requests for the key
  have all : ∀ (rest : List (LockStep τ)) (line : List τ), rest ⊆ steps →
      (∀ t ∈ line, .request key t ∈ steps) →
      (rest.filter (LockStep.concerns steps key)).foldl (LockStep.next key) line
        = rest.foldl (LockStep.next key) line := by
    intro rest
    induction rest with
    | nil => exact fun line _ _ => rfl
    | cons step rest ih =>
        intro line sub asked
        obtain ⟨here, later⟩ := List.cons_subset.mp sub
        by_cases about : step.concerns steps key = true
        · rw [List.filter_cons_of_pos about, List.foldl_cons, List.foldl_cons]
          refine ih _ later fun t ht => ?_
          cases step with
          | request other u =>
              rw [LockStep.next, if_pos (of_decide_eq_true about)] at ht
              rcases List.mem_append.mp ht with old | new
              · exact asked t old
              · cases List.mem_singleton.mp new
                exact of_decide_eq_true about ▸ here
          | giveUp u => exact asked t (List.mem_filter.mp ht).1
        · rw [List.filter_cons_of_neg about, List.foldl_cons]
          have same : step.next key line = line := by
            cases step with
            | request other u => exact if_neg fun same => about (decide_eq_true same)
            | giveUp u =>
                refine List.filter_eq_self.mpr fun t ht => decide_eq_true ?_
                rintro rfl
                exact about (decide_eq_true (asked t ht))
          rw [same]
          exact ih line later asked
  exact all steps [] (List.Subset.refl _) fun t none => nomatch none

omit [DecidableEq τ] in
/-- A request that is made only once is made for one key. -/
theorem key_of_fresh {steps : List (LockStep τ)} (fresh : (steps.filterMap LockStep.asked?).Nodup)
    {key key' : LockKey} {t : τ} (h : .request key t ∈ steps) (h' : .request key' t ∈ steps) :
    key = key' := by
  induction steps with
  | nil => exact nomatch h
  | cons step rest ih =>
      have asked : ∀ key, LockStep.request key t ∈ rest → t ∈ rest.filterMap LockStep.asked? :=
        fun key later => List.mem_filterMap.mpr ⟨_, later, rfl⟩
      rcases List.mem_cons.mp h with rfl | later
      · rcases List.mem_cons.mp h' with same | later'
        · cases same
          rfl
        · exact absurd (asked key' later') (List.nodup_cons.mp fresh).1
      · rcases List.mem_cons.mp h' with rfl | later'
        · exact absurd (asked key later) (List.nodup_cons.mp fresh).1
        · exact ih (fresh.sublist ((List.sublist_cons_self step rest).filterMap _)) later later'

/-! ## The register -/

namespace LockRegister

variable {M : Mutex τ}

/-- The locks after a step. -/
def step (l : LockRegister M) : LockStep τ → LockRegister M
  | .request key t => l.request key t
  | .giveUp t => l.release t

variable (M) in
/-- The locks after these steps. -/
def after (steps : List (LockStep τ)) : LockRegister M := steps.foldl step empty

/-- The requests that have asked a mutex and are not given up, in the order in which they came. -/
def askers (l : LockRegister M) (mutex : Nat) : List τ :=
  (l.requests.filter (·.mutex = mutex)).map (·.request)

/-- After these steps the mutexes on the register are asked by those who stand in line for their
keys, and nobody else has asked a mutex. -/
structure Serves (steps : List (LockStep τ)) (l : LockRegister M) : Prop where
  keys_keyed : Table.Keyed LockEntry.key l.register
  mutexes_keyed : Table.Keyed LockEntry.mutex l.register
  requests_keyed : Table.Keyed LockRequest.request l.requests
  askers : ∀ e ∈ l.register, l.askers e.mutex = lineFor e.key steps
  /-- What has happened to a mutex since it was made. -/
  turns : ∀ e ∈ l.register, ∃ turns, l.mutexes[e.mutex]? = some (M.after turns) ∧
    Mutex.line turns = lineFor e.key steps ∧
    (turns.filterMap Turn.asked?).Sublist (steps.filterMap LockStep.asked?)
  registered : ∀ r ∈ l.requests, ∃ e ∈ l.register, e.mutex = r.mutex
  awaited : ∀ key, lineFor key steps ≠ [] → ∃ e ∈ l.register, e.key = key

namespace Serves

variable {steps : List (LockStep τ)} {l : LockRegister M}

theorem start : Serves [] (empty : LockRegister M) where
  keys_keyed := Table.keyed_nil _
  mutexes_keyed := Table.keyed_nil _
  requests_keyed := Table.keyed_nil _
  askers _ none := nomatch none
  turns _ none := nomatch none
  registered _ none := nomatch none
  awaited _ some := absurd rfl some

/-- The register refers to its mutexes once, and so does every request in line. -/
theorem references (h : Serves steps l) {e : LockEntry} (he : e ∈ l.register) :
    l.references e.mutex = 1 + (lineFor e.key steps).length := by
  rw [LockRegister.references, h.mutexes_keyed.countP he, ← h.askers e he,
    LockRegister.askers, List.length_map, List.countP_eq_length_filter]

/-- In line are those who have asked the mutex that is on the register. -/
theorem mem_lineFor_iff (h : Serves steps l) {key : LockKey} {t : τ} :
    t ∈ lineFor key steps ↔ ∃ e ∈ l.register, e.key = key ∧ ⟨t, e.mutex⟩ ∈ l.requests := by
  have of_entry : ∀ e ∈ l.register, t ∈ lineFor e.key steps ↔ ⟨t, e.mutex⟩ ∈ l.requests := by
    intro e he
    rw [← h.askers e he, LockRegister.askers, List.mem_map]
    constructor
    · rintro ⟨⟨u, mutex⟩, hr, rfl⟩
      obtain ⟨here, same⟩ := List.mem_filter.mp hr
      cases of_decide_eq_true same
      exact here
    · exact fun here => ⟨_, List.mem_filter.mpr ⟨here, decide_eq_true rfl⟩, rfl⟩
  constructor
  · intro some
    obtain ⟨e, he, rfl⟩ := h.awaited key (List.ne_nil_of_mem some)
    exact ⟨e, he, rfl, (of_entry e he).mp some⟩
  · rintro ⟨e, he, rfl, here⟩
    exact (of_entry e he).mpr here

/-- Whoever has asked a mutex and has not given up stands in line for some key. -/
theorem in_line (h : Serves steps l) {r : LockRequest τ} (hr : r ∈ l.requests) :
    ∃ e ∈ l.register, e.mutex = r.mutex ∧ r.request ∈ lineFor e.key steps := by
  obtain ⟨e, he, same⟩ := h.registered r hr
  exact ⟨e, he, same, h.mem_lineFor_iff.mpr ⟨e, he, rfl, same ▸ hr⟩⟩

/-- What is taken off the register is not awaited, and what stays is. -/
theorem prune (h : Serves steps l) :
    Serves steps l.prune ∧ ∀ e ∈ l.prune.register, lineFor e.key steps ≠ [] := by
  have kept : ∀ e, e ∈ l.prune.register ↔ e ∈ l.register ∧ lineFor e.key steps ≠ [] := by
    intro e
    rw [LockRegister.prune, List.mem_filter, decide_eq_true_iff]
    refine and_congr_right fun he => ?_
    rw [h.references he, ← List.length_pos_iff]
    omega
  have sub : l.prune.register.Sublist l.register := List.filter_sublist
  refine ⟨⟨h.keys_keyed.sublist (sub.map _), h.mutexes_keyed.sublist (sub.map _),
    h.requests_keyed, fun e he => h.askers e (sub.subset he), fun e he => h.turns e (sub.subset he),
    fun r hr => ?_, fun key some => ?_⟩, fun e he => ((kept e).mp he).2⟩
  · obtain ⟨e, he, same, here⟩ := h.in_line hr
    exact ⟨e, (kept e).mpr ⟨he, List.ne_nil_of_mem here⟩, same⟩
  · obtain ⟨e, he, rfl⟩ := h.awaited key some
    exact ⟨e, (kept e).mpr ⟨he, some⟩, rfl⟩

/-- A new mutex is put on the register for a key that is not there. -/
theorem add (h : Serves steps l) {key : LockKey} (new : ∀ e ∈ l.register, e.key ≠ key) :
    Serves steps (l.add key) := by
  have below : ∀ e ∈ l.register, e.mutex < l.mutexes.length := by
    intro e he
    obtain ⟨turns, here, -⟩ := h.turns e he
    exact (List.getElem?_eq_some_iff.mp here).1
  have idle : lineFor key steps = [] := by
    refine Decidable.byContradiction fun some => ?_
    obtain ⟨e, he, same⟩ := h.awaited key some
    exact new e he same
  refine ⟨h.keys_keyed.concat new, ?_, h.requests_keyed, fun e he => ?_, fun e he => ?_,
    fun r hr => ?_, fun key' some => ?_⟩
  · exact h.mutexes_keyed.concat fun e he => Nat.ne_of_lt (below e he)
  · rcases List.mem_append.mp he with old | added
    · exact h.askers e old
    · cases List.mem_singleton.mp added
      rw [idle]
      -- nobody has asked a mutex that is not on the register
      refine List.map_eq_nil_iff.mpr (List.filter_eq_nil_iff.mpr fun r hr same => ?_)
      obtain ⟨e, he, same'⟩ := h.registered r hr
      have := below e he
      rw [same', of_decide_eq_true same] at this
      exact Nat.lt_irrefl _ this
  · rcases List.mem_append.mp he with old | added
    · obtain ⟨turns, here, rest⟩ := h.turns e old
      refine ⟨turns, ?_, rest⟩
      rw [← here]
      exact List.getElem?_append_left (below e old)
    · cases List.mem_singleton.mp added
      refine ⟨[], ?_, idle.symm, List.nil_sublist _⟩
      exact List.getElem?_concat_length
  · obtain ⟨e, he, same⟩ := h.registered r hr
    exact ⟨e, List.mem_append_left _ he, same⟩
  · obtain ⟨e, he, same⟩ := h.awaited key' some
    exact ⟨e, List.mem_append_left _ he, same⟩

/-- The mutex of one key takes a turn, in which the line of this key changes as the step says, and
the lines of the other keys stay. -/
theorem turns_modify (h : Serves steps l) {e : LockEntry} (he : e ∈ l.register)
    {step : LockStep τ} (turn : Turn τ) (same : step.asked? = turn.asked?)
    (own : lineFor e.key (steps ++ [step]) = turn.next (lineFor e.key steps))
    (other : ∀ f ∈ l.register, f ≠ e → lineFor f.key (steps ++ [step]) = lineFor f.key steps) :
    ∀ f ∈ l.register, ∃ turns,
      (l.mutexes.modify e.mutex (M.turn · turn))[f.mutex]? = some (M.after turns) ∧
        Mutex.line turns = lineFor f.key (steps ++ [step]) ∧
        (turns.filterMap Turn.asked?).Sublist ((steps ++ [step]).filterMap LockStep.asked?) := by
  intro f hf
  obtain ⟨turns, here, line, sub⟩ := h.turns f hf
  -- only the mutex of this key has its turn
  have state : (l.mutexes.modify e.mutex (M.turn · turn))[f.mutex]?
      = some (if e.mutex = f.mutex then M.turn (M.after turns) turn else M.after turns) := by
    rw [List.getElem?_modify, here]
    rfl
  rw [state, List.filterMap_append]
  by_cases it : f = e
  · subst it
    refine ⟨turns ++ [turn], ?_, ?_, ?_⟩
    · rw [if_pos rfl, Mutex.after_concat]
    · rw [Mutex.line_concat, line, own]
    · rw [List.filterMap_append]
      refine sub.append ?_
      rw [List.filterMap_cons, List.filterMap_cons, same]
      exact List.Sublist.refl _
  · have mutexes : e.mutex ≠ f.mutex := fun same => it (h.mutexes_keyed.eq_of_key hf he same.symm)
    refine ⟨turns, ?_, ?_, sub.trans (List.sublist_append_left _ _)⟩
    · rw [if_neg mutexes]
    · rw [line, other f hf it]

/-- A new request asks the mutex of its key. -/
theorem join (h : Serves steps l) {e : LockEntry} (he : e ∈ l.register) {t : τ}
    (fresh : t ∉ steps.filterMap LockStep.asked?) :
    Serves (steps ++ [.request e.key t]) (l.join t e.mutex) := by
  have other : ∀ f ∈ l.register, f ≠ e →
      lineFor f.key (steps ++ [.request e.key t]) = lineFor f.key steps := fun f hf ne =>
    lineFor_request_of_ne (fun same => ne (h.keys_keyed.eq_of_key hf he same.symm)) steps t
  -- the request joins the askers of its own mutex, and of no other one
  have askers : ∀ mutex, (l.join t e.mutex).askers mutex
      = l.askers mutex ++ if e.mutex = mutex then [t] else [] := by
    intro mutex
    rw [LockRegister.askers, LockRegister.join, List.filter_append, List.map_append,
      LockRegister.askers]
    by_cases same : e.mutex = mutex <;> simp [same]
  refine ⟨h.keys_keyed, h.mutexes_keyed, h.requests_keyed.concat fun r hr same => ?_,
    fun f hf => ?_, h.turns_modify he (.ask t) rfl (lineFor_request _ _ _) other,
    fun r hr => ?_, fun key some => ?_⟩
  · obtain ⟨f, -, -, here⟩ := h.in_line hr
    rw [show r.request = t from same] at here
    exact fresh (List.mem_filterMap.mpr ⟨_, request_of_mem_lineFor here, rfl⟩)
  · rw [askers, h.askers f hf]
    by_cases it : f = e
    · rw [it, lineFor_request, if_pos rfl]
    · rw [other f hf it, if_neg fun same => it (h.mutexes_keyed.eq_of_key hf he same.symm),
        List.append_nil]
  · rcases List.mem_append.mp hr with old | new
    · exact h.registered r old
    · cases List.mem_singleton.mp new
      exact ⟨e, he, rfl⟩
  · by_cases same : e.key = key
    · exact ⟨e, he, same⟩
    · rw [lineFor_request_of_ne same] at some
      exact h.awaited key some

/-- A request goes by the register, and leaves only keys on it that are awaited. -/
theorem request (h : Serves steps l) (key : LockKey) {t : τ}
    (fresh : t ∉ steps.filterMap LockStep.asked?) :
    Serves (steps ++ [.request key t]) (l.request key t) ∧
      ∀ e ∈ (l.request key t).register, lineFor e.key (steps ++ [.request key t]) ≠ [] := by
  obtain ⟨pruned, awaited⟩ := h.prune
  have used : ∀ other, lineFor other steps ≠ [] ∨ key = other →
      lineFor other (steps ++ [.request key t]) ≠ [] := by
    intro other some
    rw [lineFor_concat, LockStep.next]
    split
    · exact List.append_ne_nil_of_right_ne_nil _ (List.cons_ne_nil t [])
    · next apart => exact some.resolve_right apart
  rw [LockRegister.request]
  cases found : Table.find? LockEntry.key key l.prune.register with
  | some e =>
      obtain ⟨he, rfl⟩ := Table.mem_of_find? found
      exact ⟨pruned.join he fresh, fun f hf => used f.key (Or.inl (awaited f hf))⟩
  | none =>
      have added := pruned.add (Table.find?_eq_none_iff.mp found)
      have he : ⟨key, l.prune.mutexes.length⟩ ∈ (l.prune.add key).register :=
        List.mem_append_right _ List.mem_cons_self
      refine ⟨added.join he fresh, fun f hf => used f.key ?_⟩
      rcases List.mem_append.mp hf with old | new
      · exact Or.inl (awaited f old)
      · cases List.mem_singleton.mp new
        exact Or.inr rfl

/-- A request has asked one mutex only, so it stands in no other line. -/
theorem not_mem_lineFor (h : Serves steps l) {r : LockRequest τ} (hr : r ∈ l.requests)
    {f : LockEntry} (hf : f ∈ l.register) (apart : f.mutex ≠ r.mutex) :
    r.request ∉ lineFor f.key steps := by
  intro elsewhere
  obtain ⟨g, hg, key, hr'⟩ := h.mem_lineFor_iff.mp elsewhere
  rw [h.requests_keyed.eq_of_key hr hr' rfl, ← h.keys_keyed.eq_of_key hg hf key] at apart
  exact apart rfl

/-- A request is given up. -/
theorem release (h : Serves steps l) (t : τ) : Serves (steps ++ [.giveUp t]) (l.release t) := by
  rw [LockRegister.release, LockRegister.mutex?]
  cases found : Table.find? LockRequest.request t l.requests with
  | none =>
      -- nothing was asked for by this request, so no line gets shorter
      have same : ∀ key, lineFor key (steps ++ [.giveUp t]) = lineFor key steps := by
        refine fun key => lineFor_giveUp_of_not_mem fun here => ?_
        obtain ⟨e, -, -, hr⟩ := h.mem_lineFor_iff.mp here
        exact Table.find?_eq_none_iff.mp found _ hr rfl
      refine ⟨h.keys_keyed, h.mutexes_keyed, h.requests_keyed, fun f hf => ?_, fun f hf => ?_,
        h.registered, fun key some => h.awaited key (same key ▸ some)⟩
      · rw [same]
        exact h.askers f hf
      · rw [same, List.filterMap_append]
        obtain ⟨turns, here, line, sub⟩ := h.turns f hf
        exact ⟨turns, here, line, sub.trans (List.sublist_append_left _ _)⟩
  | some r =>
      obtain ⟨hr, rfl⟩ := Table.mem_of_find? found
      obtain ⟨e, he, mutex, -⟩ := h.in_line hr
      rw [Option.map_some, ← mutex]
      -- a request waits in one line only
      have other : ∀ f ∈ l.register, f ≠ e →
          lineFor f.key (steps ++ [.giveUp r.request]) = lineFor f.key steps := fun f hf ne =>
        lineFor_giveUp_of_not_mem (h.not_mem_lineFor hr hf fun same =>
          ne (h.mutexes_keyed.eq_of_key hf he (same.trans mutex.symm)))
      refine ⟨h.keys_keyed, h.mutexes_keyed, h.requests_keyed.remove _ _, fun f hf => ?_,
        h.turns_modify he (.leave r.request) rfl (lineFor_giveUp _ _ _) other,
        fun r' hr' => h.registered r' (Table.mem_remove.mp hr').1,
        fun key some => h.awaited key fun none => some ?_⟩
      · rw [lineFor_giveUp, ← h.askers f hf, LockRegister.askers, LockRegister.askers,
          List.filter_map, List.filter_filter, Table.remove, List.filter_filter]
        exact congrArg _ (List.filter_congr fun r' _ => Bool.and_comm _ _)
      · rw [lineFor_giveUp, none]
        rfl

/-- One more step. -/
theorem step (h : Serves steps l) {step : LockStep τ}
    (fresh : ((steps ++ [step]).filterMap LockStep.asked?).Nodup) :
    Serves (steps ++ [step]) (l.step step) := by
  cases step with
  | request key t =>
      rw [List.filterMap_append] at fresh
      exact (h.request key fun before =>
        (List.nodup_append.mp fresh).2.2 t before t List.mem_cons_self rfl).1
  | giveUp t => exact h.release t

end Serves

theorem after_concat (steps : List (LockStep τ)) (step : LockStep τ) :
    after M (steps ++ [step]) = (after M steps).step step := by
  rw [after, List.foldl_append]
  rfl

variable (M) in
/-- Any steps, from no locks at all. -/
theorem serves_after {steps : List (LockStep τ)}
    (fresh : (steps.filterMap LockStep.asked?).Nodup) : Serves steps (after M steps) := by
  induction steps using List.reverseRecOn with
  | nil => exact Serves.start
  | append_singleton steps step ih =>
      rw [after_concat]
      exact (ih (fresh.sublist ((List.sublist_append_left _ _).filterMap _))).step fresh

/-! ## Grants -/

namespace Serves

variable {steps : List (LockStep τ)} {l : LockRegister M}

/-- A request in line has asked the mutex of its key, and only those in line have asked one. -/
theorem mutex?_eq (h : Serves steps l) (fresh : (steps.filterMap LockStep.asked?).Nodup)
    {key : LockKey} {t : τ} (asked : .request key t ∈ steps) :
    (∃ e ∈ l.register, e.key = key ∧ t ∈ lineFor key steps ∧ l.mutex? t = some e.mutex) ∨
      t ∉ lineFor key steps ∧ l.mutex? t = none := by
  rw [LockRegister.mutex?]
  cases found : Table.find? LockRequest.request t l.requests with
  | none =>
      refine Or.inr ⟨fun here => ?_, rfl⟩
      obtain ⟨e, -, -, hr⟩ := h.mem_lineFor_iff.mp here
      exact Table.find?_eq_none_iff.mp found _ hr rfl
  | some r =>
      obtain ⟨hr, rfl⟩ := Table.mem_of_find? found
      obtain ⟨e, he, mutex, here⟩ := h.in_line hr
      cases key_of_fresh fresh asked (request_of_mem_lineFor here)
      exact Or.inl ⟨e, he, rfl, here, congrArg some mutex.symm⟩

/-- The first in line holds the lock, and the others wait. -/
theorem granted (h : Serves steps l) (fair : M.Fair)
    (fresh : (steps.filterMap LockStep.asked?).Nodup) {key : LockKey} {t : τ}
    (asked : .request key t ∈ steps) :
    (l.holds t = true ↔ (lineFor key steps).head? = some t) ∧
      (l.waits t = true ↔ t ∈ (lineFor key steps).tail) := by
  rw [LockRegister.holds, LockRegister.waits]
  rcases h.mutex?_eq fresh asked with ⟨e, he, rfl, -, mutex⟩ | ⟨away, mutex⟩
  · obtain ⟨turns, state, line, sub⟩ := h.turns e he
    rw [mutex, Option.bind_some, state, ← line]
    exact fair turns (fresh.sublist sub) t
  · rw [mutex]
    exact ⟨⟨nofun, fun first => absurd (List.mem_of_mem_head? first) away⟩,
      ⟨nofun, fun behind => absurd (List.mem_of_mem_tail behind) away⟩⟩

/-- A request in line holds its lock or waits for it, and nobody else does. -/
theorem holds_or_waits_iff (h : Serves steps l) (fair : M.Fair)
    (fresh : (steps.filterMap LockStep.asked?).Nodup) {key : LockKey} {t : τ}
    (asked : .request key t ∈ steps) :
    l.holds t = true ∨ l.waits t = true ↔ t ∈ lineFor key steps := by
  obtain ⟨holds, waits⟩ := h.granted fair fresh asked
  rw [holds, waits]
  cases lineFor key steps with
  | nil => simp
  | cons first rest => simp [eq_comm]

/-- Whoever holds or awaits a key has asked the one mutex that is on the register for it. -/
theorem one_mutex (h : Serves steps l) (fair : M.Fair)
    (fresh : (steps.filterMap LockStep.asked?).Nodup) (key : LockKey) :
    ∃ mutex, ∀ t, .request key t ∈ steps → l.holds t = true ∨ l.waits t = true →
      l.mutex? t = some mutex ∧ ∀ e, e ∈ l.register ∧ e.key = key ↔ e = ⟨key, mutex⟩ := by
  by_cases some : ∃ e ∈ l.register, e.key = key
  · obtain ⟨e, he, rfl⟩ := some
    have only : ∀ f, f ∈ l.register ∧ f.key = e.key ↔ f = e := fun f => by
      refine ⟨fun ⟨hf, same⟩ => h.keys_keyed.eq_of_key hf he same, fun same => ?_⟩
      rw [same]
      exact ⟨he, rfl⟩
    refine ⟨e.mutex, fun t asked live => ⟨?_, only⟩⟩
    have here := (h.holds_or_waits_iff fair fresh asked).mp live
    rcases h.mutex?_eq fresh asked with ⟨f, hf, same, -, mutex⟩ | ⟨away, -⟩
    · rw [mutex, (only f).mp ⟨hf, same⟩]
    · exact absurd here away
  · refine ⟨0, fun t asked live => absurd (h.awaited key ?_) some⟩
    exact List.ne_nil_of_mem ((h.holds_or_waits_iff fair fresh asked).mp live)

/-- If only keys that are awaited are on the register, these are the ones that are held or awaited,
each of them once. -/
theorem mem_keys_iff (h : Serves steps l) (fair : M.Fair)
    (fresh : (steps.filterMap LockStep.asked?).Nodup)
    (awaited : ∀ e ∈ l.register, lineFor e.key steps ≠ []) (key : LockKey) :
    key ∈ l.keys ↔ ∃ t, .request key t ∈ steps ∧ (l.holds t = true ∨ l.waits t = true) := by
  constructor
  · intro hk
    obtain ⟨e, he, rfl⟩ := List.mem_map.mp hk
    obtain ⟨t, here⟩ := List.exists_mem_of_ne_nil _ (awaited e he)
    have asked := request_of_mem_lineFor here
    exact ⟨t, asked, (h.holds_or_waits_iff fair fresh asked).mpr here⟩
  · rintro ⟨t, asked, live⟩
    have here := (h.holds_or_waits_iff fair fresh asked).mp live
    obtain ⟨e, he, rfl⟩ := h.awaited key (List.ne_nil_of_mem here)
    exact List.mem_map_of_mem he

end Serves

variable (M) in
/-- Without what is about other keys, a request for this key is treated the same. -/
theorem after_filter_concerns (fair : M.Fair) {steps : List (LockStep τ)}
    (fresh : (steps.filterMap LockStep.asked?).Nodup) {key : LockKey} {t : τ}
    (asked : .request key t ∈ steps) :
    (after M steps).holds t = (after M (steps.filter (LockStep.concerns steps key))).holds t ∧
      (after M steps).waits t
        = (after M (steps.filter (LockStep.concerns steps key))).waits t := by
  have fresh' := fresh.sublist
    ((List.filter_sublist (p := LockStep.concerns steps key)).filterMap LockStep.asked?)
  have asked' : .request key t ∈ steps.filter (LockStep.concerns steps key) :=
    List.mem_filter.mpr ⟨asked, decide_eq_true rfl⟩
  obtain ⟨holds, waits⟩ := (serves_after M fresh).granted fair fresh asked
  obtain ⟨holds', waits'⟩ := (serves_after M fresh').granted fair fresh' asked'
  rw [lineFor_filter] at holds' waits'
  exact ⟨Bool.eq_iff_iff.mpr (holds.trans holds'.symm),
    Bool.eq_iff_iff.mpr (waits.trans waits'.symm)⟩

/-- Every lock is granted as it should be. -/
structure Orderly (steps : List (LockStep τ)) (l : LockRegister M) : Prop where
  /-- The first in the line of a key holds it, and the others wait. -/
  granted : ∀ key t, .request key t ∈ steps →
    (l.holds t = true ↔ (lineFor key steps).head? = some t) ∧
      (l.waits t = true ↔ t ∈ (lineFor key steps).tail)
  exclusive : ∀ key t t', .request key t ∈ steps → .request key t' ∈ steps →
    l.holds t = true → l.holds t' = true → t = t'
  held : ∀ key t, .request key t ∈ steps → l.waits t = true →
    ∃ t', .request key t' ∈ steps ∧ l.holds t' = true
  /-- Without what is about other keys nothing would have been different. -/
  apart : ∀ key t, .request key t ∈ steps →
    l.holds t = (after M (steps.filter (LockStep.concerns steps key))).holds t ∧
      l.waits t = (after M (steps.filter (LockStep.concerns steps key))).waits t
  /-- Whoever holds or awaits a key has asked the one mutex that is on the register for it. -/
  one_mutex : ∀ key, ∃ mutex, ∀ t, .request key t ∈ steps → l.holds t = true ∨ l.waits t = true →
    l.mutex? t = some mutex ∧ ∀ e, e ∈ l.register ∧ e.key = key ↔ e = ⟨key, mutex⟩
  /-- After a request the register has the keys that are held or awaited, each of them once. -/
  pruned : ∀ before key t, steps = before ++ [.request key t] → l.keys.Nodup ∧
    ∀ key', key' ∈ l.keys ↔
      ∃ t', .request key' t' ∈ steps ∧ (l.holds t' = true ∨ l.waits t' = true)

/-- Whatever is requested and given up, locks are exclusive and granted in turn, and no lock is
taken off the register as long as it is held or awaited. -/
theorem granted_in_turn (fair : M.Fair) {steps : List (LockStep τ)}
    (fresh : (steps.filterMap LockStep.asked?).Nodup) : Orderly steps (after M steps) := by
  have h := serves_after M fresh
  have granted : ∀ key t, .request key t ∈ steps → _ := fun key t => h.granted fair fresh
  refine ⟨granted, fun key t t' asked asked' holds holds' => ?_, fun key t asked waits => ?_,
    fun key t => after_filter_concerns M fair fresh, h.one_mutex fair fresh, ?_⟩
  · rw [(granted key t asked).1] at holds
    rw [(granted key t' asked').1, holds] at holds'
    exact Option.some.inj holds'
  · have behind := (granted key t asked).2.mp waits
    cases line : lineFor key steps with
    | nil => exact nomatch line ▸ behind
    | cons first rest =>
        have asked' : .request key first ∈ steps :=
          request_of_mem_lineFor (line ▸ List.mem_cons_self)
        exact ⟨first, asked', (granted key first asked').1.mpr (line ▸ rfl)⟩
  · rintro before key t rfl
    have asked : (before ++ [LockStep.request key t]).filterMap LockStep.asked?
        = before.filterMap LockStep.asked? ++ [t] := by
      rw [List.filterMap_append]
      rfl
    obtain ⟨earlier, -, new⟩ := List.nodup_append.mp (asked ▸ fresh)
    have awaited := ((serves_after M earlier).request key fun old =>
      new t old t List.mem_cons_self rfl).2
    have last := after_concat (M := M) before (.request key t)
    exact ⟨h.keys_keyed, h.mem_keys_iff fair fresh (last ▸ awaited)⟩

/-- Four requests for two ports and a network. The second stops waiting, and the first and the third
are given up before the last one is made. -/
def crowd : List (LockStep Nat) :=
  [.request (.port "a") 0, .request (.port "a") 1, .request (.network "a") 2,
    .request (.port "a") 3, .giveUp 1, .giveUp 0, .giveUp 2, .request (.port "b") 4]

/-- The one that stops waiting is skipped, and the lock of the network is taken off the register. -/
theorem granted_in_crowd :
    (crowd.filterMap LockStep.asked?).Nodup ∧ Orderly crowd (after (Mutex.queue Nat) crowd) ∧
      (after (Mutex.queue Nat) (crowd.take 4)).waits 3 = true ∧
      (after (Mutex.queue Nat) crowd).holds 3 = true ∧
      (after (Mutex.queue Nat) crowd).keys = [.port "a", .port "b"] :=
  ⟨by decide, granted_in_turn Mutex.fair_queue (by decide), by decide +kernel, by decide +kernel,
    by decide +kernel⟩

end LockRegister

end Overlay
