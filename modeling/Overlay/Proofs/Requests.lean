import Overlay.Program

/-!
# What a program asks for

Which requests a program makes, whatever the answers to them are. The rules for handlers lead from
the parts of a handler to the whole of it.
-/

namespace Overlay

/-- The request is about no lock. -/
def Request.Free : Request → Prop
  | .acquire _ => False
  | .release _ => False
  | _ => True

/-- Every request of the program is of this kind, whatever the answers are. -/
def Program.Within {α : Type} (P : Request → Prop) : Program α → Prop
  | .done _ => True
  | .ask r k => P r ∧ ∀ a, (k a).Within P

namespace Program.Within

variable {α β : Type} {P Q : Request → Prop}

/-- Two programs in turn make requests of a kind if both of them do. -/
theorem bind {p : Program α} {f : α → Program β} (hp : p.Within P)
    (hf : ∀ a, (f a).Within P) : (p >>= f).Within P := by
  induction p with
  | done a => exact hf a
  | ask r k ih => exact ⟨hp.1, fun a => ih a (hp.2 a)⟩

/-- Requests of a kind are requests of a wider kind. -/
theorem mono {p : Program α} (hp : p.Within P) (weaker : ∀ r, P r → Q r) : p.Within Q := by
  induction p with
  | done a => trivial
  | ask r k ih => exact ⟨weaker r hp.1, fun a => ih a (hp.2 a)⟩

end Program.Within

namespace Handler

/-- Every request of the handler is of this kind. -/
def Within {α : Type} (P : Request → Prop) (h : Handler α) : Prop := Program.Within P h.run

namespace Within

variable {α β : Type} {P Q : Request → Prop}

/-- A handler whose requests are of a kind makes requests of a wider kind. -/
theorem mono {h : Handler α} (hP : h.Within P) (weaker : ∀ r, P r → Q r) : h.Within Q :=
  Program.Within.mono hP weaker

theorem pure (a : α) : Within P (Pure.pure a) := trivial

theorem throw (e : Error) : Within (α := α) P (throw e) := trivial

/-- Two handlers in turn make requests of a kind if both of them do. -/
theorem bind {h : Handler α} {f : α → Handler β} (first : h.Within P)
    (rest : ∀ a, (f a).Within P) : (h >>= f).Within P := by
  refine Program.Within.bind first fun result => ?_
  cases result with
  | ok a => exact rest a
  | error e => exact trivial

theorem call {c : Controller.Call} (hc : P (.call c)) : (Handler.call c).Within P :=
  ⟨hc, fun _ => trivial⟩

theorem tryCall {c : Controller.Call} (hc : P (.call c)) : (Handler.tryCall c).Within P :=
  ⟨hc, fun _ => trivial⟩

theorem query {q : Catalog.Query} (hq : P (.query q)) : (Handler.query q).Within P :=
  ⟨hq, fun _ => trivial⟩

theorem execute {st : Store.Statement} (hst : P (.execute st)) : (Handler.execute st).Within P :=
  ⟨hst, fun _ => trivial⟩

theorem report {e : Audit.Event} (he : P (.report e)) : (Handler.report e).Within P :=
  ⟨he, fun _ => trivial⟩

theorem now (h : P .now) : Handler.now.Within P := ⟨h, fun _ => trivial⟩

theorem setting (a : Except Settings.Problem α) : (Handler.setting a).Within P := by
  cases a <;> exact trivial

/-- What is done under a lock takes the lock and gives it back. -/
theorem locked {key : LockKey} {body : Handler α} (acquire : P (.acquire key))
    (release : P (.release key)) (hb : body.Within P) : (Handler.locked key body).Within P :=
  ⟨acquire, fun _ => Program.Within.bind (p := body.run) hb fun _ => ⟨release, fun _ => trivial⟩⟩

/-- A choice makes requests of a kind if both its branches do. -/
theorem ite {c : Prop} [Decidable c] {h h' : Handler α} (yes : c → h.Within P)
    (no : ¬ c → h'.Within P) : (if c then h else h').Within P := by
  split
  · next holds => exact yes holds
  · next fails => exact no fails

/-- An attempt makes the requests of its body. -/
theorem attempt {h : Handler α} (hh : h.Within P) : (Handler.attempt h).Within P :=
  Program.Within.bind (p := h.run) hh fun _ => trivial

/-- One handler for each member of a list. -/
theorem forM {f : α → Handler Unit} (each : ∀ a, (f a).Within P) (as : List α) :
    Within P (as.forM f) := by
  induction as with
  | nil => exact pure ()
  | cons a rest ih => exact bind (each a) fun _ => ih

/-- One handler after the other, each with the result of the last one. -/
theorem foldlM {σ : Type} {step : σ → α → Handler σ} (each : ∀ s a, (step s a).Within P)
    (as : List α) (s : σ) : Within P (as.foldlM step s) := by
  induction as generalizing s with
  | nil => exact pure s
  | cons a rest ih =>
      rw [List.foldlM_cons]
      exact bind (each s a) ih

end Within

end Handler

end Overlay
