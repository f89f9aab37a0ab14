import Overlay.Proofs.Requests
import Overlay.World

/-!
# What passes between a program and its surroundings

A dialogue is the list of requests that a program makes, each with the answer it gets. Answers are
anybody's: a program that runs alone holds such a dialogue, and so does one that runs among others
or whose surroundings are not those of `World`. Each way of building a handler is taken apart here:
from a dialogue of the whole, dialogues of the parts.

Main statements: `Handler.Dialogue.of_bind`, `Handler.Dialogue.within`, and
`Program.dialogue_exchanges`, that a program that runs alone holds a dialogue.
-/

namespace Overlay

/-- A request with the answer that it got. -/
abbrev Exchange := (r : Request) × r.Answer

namespace Program

variable {α β : Type}

/-- The program may hold this dialogue and end with this result. -/
inductive Dialogue : Program α → List Exchange → α → Prop where
  | done (a : α) : Dialogue (.done a) [] a
  | ask {r : Request} {k : r.Answer → Program α} (answer : r.Answer) {xs : List Exchange} {a : α}
    (rest : Dialogue (k answer) xs a) : Dialogue (.ask r k) (⟨r, answer⟩ :: xs) a

/-- A dialogue of a program and the one that follows it falls into two. -/
theorem Dialogue.of_bind {p : Program α} {f : α → Program β} {xs : List Exchange} {b : β}
    (talk : (p >>= f).Dialogue xs b) :
    ∃ a ys zs, p.Dialogue ys a ∧ (f a).Dialogue zs b ∧ xs = ys ++ zs := by
  induction p generalizing xs with
  | done a => exact ⟨a, [], xs, .done a, talk, rfl⟩
  | ask r k ih =>
      cases talk with
      | ask answer rest =>
          obtain ⟨a, ys, zs, first, second, rfl⟩ := ih answer rest
          exact ⟨a, ⟨r, answer⟩ :: ys, zs, .ask answer first, second, rfl⟩

/-- Only requests of its kind come up. -/
theorem Dialogue.within {p : Program α} {xs : List Exchange} {a : α} (talk : p.Dialogue xs a)
    {P : Request → Prop} (within : p.Within P) : ∀ x ∈ xs, P x.1 := by
  induction talk with
  | done a => simp
  | ask answer _ ih =>
      rw [List.forall_mem_cons]
      exact ⟨within.1, ih (within.2 answer)⟩

/-- What passes between a program that runs alone and its surroundings. -/
def exchanges : Program α → World → List Exchange
  | .done _, _ => []
  | .ask r k, w => ⟨r, (w.answer r).1⟩ :: (k (w.answer r).1).exchanges (w.answer r).2

/-- What passes in a run is a dialogue that ends as the run does. -/
theorem dialogue_exchanges (p : Program α) (w : World) :
    p.Dialogue (p.exchanges w) (p.run w).1 := by
  induction p generalizing w with
  | done a => exact .done a
  | ask r k ih => exact .ask _ (ih _ _)

end Program

namespace Handler

variable {α β : Type} {xs : List Exchange}

/-- The handler may hold this dialogue and end with this result. -/
def Dialogue (h : Handler α) (xs : List Exchange) (result : Except Error α) : Prop :=
  Program.Dialogue h.run xs result

namespace Dialogue

variable {h : Handler α} {result : Except Error α}

theorem of_pure {a : α} (talk : (pure a : Handler α).Dialogue xs result) :
    xs = [] ∧ result = .ok a := by
  cases talk
  exact ⟨rfl, rfl⟩

theorem of_throw {e : Error} (talk : (throw e : Handler α).Dialogue xs result) :
    xs = [] ∧ result = .error e := by
  cases talk
  exact ⟨rfl, rfl⟩

/-- Either the first handler stops the whole, or the second one goes on with its result. -/
theorem of_bind {f : α → Handler β} {result : Except Error β}
    (talk : (h >>= f).Dialogue xs result) :
    (∃ e, h.Dialogue xs (.error e) ∧ result = .error e) ∨
      ∃ a ys zs, h.Dialogue ys (.ok a) ∧ (f a).Dialogue zs result ∧ xs = ys ++ zs := by
  obtain ⟨first, ys, zs, before, behind, rfl⟩ := Program.Dialogue.of_bind talk
  cases first with
  | ok a => exact Or.inr ⟨a, ys, zs, before, behind, rfl⟩
  | error e =>
      cases behind
      rw [List.append_nil]
      exact Or.inl ⟨e, before, rfl⟩

/-- A single request, whose answer may be reworded. -/
theorem of_map_request {r : Request} {f : r.Answer → Except Error α}
    (talk : (ExceptT.mk (f <$> Program.request r)).Dialogue xs result) :
    ∃ answer, xs = [⟨r, answer⟩] ∧ result = f answer := by
  cases talk with
  | ask answer rest =>
      cases rest
      exact ⟨answer, rfl, rfl⟩

/-- A look-up is one exchange. -/
theorem of_query {q : Catalog.Query} {result : Except Error q.Answer}
    (talk : (query q).Dialogue xs result) :
    ∃ answer, xs = [⟨.query q, answer⟩] ∧ result = answer.mapError .catalog :=
  of_map_request talk

/-- A call is one exchange. -/
theorem of_call {c : Controller.Call} {result : Except Error c.Answer}
    (talk : (call c).Dialogue xs result) :
    ∃ answer, xs = [⟨.call c, answer⟩] ∧ result = answer.mapError .controller :=
  of_map_request talk

/-- Under a lock stands the dialogue of the body. -/
theorem of_locked {key : LockKey} (talk : (locked key h).Dialogue xs result) :
    ∃ ys, h.Dialogue ys result ∧ xs = ⟨.acquire key, ()⟩ :: (ys ++ [⟨.release key, ()⟩]) := by
  have opened : Program.Dialogue (.ask (.acquire key) fun _ => h.run >>= fun inner =>
      .ask (.release key) fun _ => .done inner) xs result := talk
  cases opened with
  | ask answer rest =>
      obtain ⟨inner, ys, zs, body, released, rfl⟩ := Program.Dialogue.of_bind rest
      cases released with
      | ask answer rest =>
          cases rest
          exact ⟨ys, body, rfl⟩

/-- An attempt has the dialogue of its body. -/
theorem of_attempt {result : Except Error (Except Error α)}
    (talk : (attempt h).Dialogue xs result) : ∃ inner, h.Dialogue xs inner ∧ result = .ok inner := by
  obtain ⟨inner, ys, zs, body, behind, rfl⟩ := Program.Dialogue.of_bind talk
  cases behind
  rw [List.append_nil]
  exact ⟨inner, body, rfl⟩

/-- All requests of a dialogue are of the handler's kind. -/
theorem within (talk : h.Dialogue xs result) {P : Request → Prop} (within : h.Within P) :
    ∀ x ∈ xs, P x.1 :=
  Program.Dialogue.within talk within

end Dialogue

end Handler

end Overlay
