import Mathlib.Order.Defs.Unbundled
import Overlay.Proofs.Requests
import Overlay.Proofs.World

/-!
# What every request keeps

A relation between the surroundings before and after leads from single requests to programs, if it
holds of no change and of one change after the other. `Handler.Keeps` says that it holds however a
handler ends, so the rules below lead from the parts of a handler to the whole of it.
-/

namespace Overlay

variable {α β : Type} {P : Request → Prop} {R : World → World → Prop} [IsPreorder World R]

/-- What every request of a kind keeps is kept by every program of such requests. -/
theorem Program.Within.keeps {p : Program α} (within : p.Within P)
    (each : ∀ r, P r → ∀ w : World, R w (w.answer r).2) (w : World) : R w (p.run w).2 := by
  induction p generalizing w with
  | done a => exact refl_of R w
  | ask r k ih => exact trans_of R (each r within.1 w) (ih _ (within.2 _) _)

namespace Handler

/-- However the handler ends, the relation holds between what it meets and what it leaves. -/
def Keeps (R : World → World → Prop) (h : Handler α) : Prop := ∀ w, h.Leaves w fun _ w' => R w w'

namespace Keeps

variable {h h' : Handler α}

/-- A handler keeps what every request of its kind keeps. -/
theorem of_within (within : h.Within P) (each : ∀ r, P r → ∀ w : World, R w (w.answer r).2) :
    h.Keeps R := fun w => Program.Within.keeps (p := h.run) within each w

theorem pure (a : α) : Keeps R (Pure.pure a : Handler α) := fun w => Leaves.pure (refl_of R w)

theorem throw (e : Error) : Keeps R (throw e : Handler α) := fun w => Leaves.throw (refl_of R w)

/-- Two handlers in turn keep what both of them keep. -/
theorem bind {f : α → Handler β} (first : h.Keeps R) (rest : ∀ a, (f a).Keeps R) :
    (h >>= f).Keeps R := fun w =>
  Leaves.bind (first w)
    (fun a w' _ before => Leaves.mono (rest a w') fun _ _ _ after => trans_of R before after)
    fun _ _ _ before => before

omit [IsPreorder World R] in
/-- A choice keeps what both its branches keep. -/
theorem ite {c : Prop} [Decidable c] (yes : c → h.Keeps R) (no : ¬ c → h'.Keeps R) :
    Keeps R (if c then h else h') := by
  split
  · next holds => exact yes holds
  · next fails => exact no fails

omit [IsPreorder World R] in
/-- A lock changes nothing in what is kept. -/
theorem locked {key : LockKey} (body : h.Keeps R) : (Handler.locked key h).Keeps R := fun w =>
  Leaves.locked (body w)

omit [IsPreorder World R] in
/-- An attempt keeps what its body keeps. -/
theorem attempt (body : h.Keeps R) : (Handler.attempt h).Keeps R := fun w =>
  Leaves.attempt (body w)

/-- A loop keeps what each round keeps. -/
theorem foldlM {σ : Type} {step : σ → α → Handler σ} (each : ∀ s a, (step s a).Keeps R)
    (as : List α) (s : σ) : Keeps R (as.foldlM step s) := by
  induction as generalizing s with
  | nil => exact pure s
  | cons a rest ih =>
      rw [List.foldlM_cons]
      exact bind (each s a) ih

end Keeps

end Handler

end Overlay
