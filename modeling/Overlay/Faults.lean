/-!
# Faults

Which requests of a kind do not go through. A pattern answers by how many requests of the kind were
made under it; a request that fails has no effect but to be counted.
-/

namespace Overlay

/-- The faults of one kind of request. -/
structure FaultPattern (ε : Type) where
  /-- The error of the request with this number, counted from 0, if it fails. -/
  failing : Nat → Option ε
  /-- How many requests were made under this pattern. -/
  seen : Nat

namespace FaultPattern

variable {ε : Type}

/-- Every request goes through. -/
def none : FaultPattern ε := ⟨fun _ => Option.none, 0⟩

/-- The first `skip` requests go through; of those that follow the next `times` fail, or all of them
if no number is given. -/
def window (error : ε) (skip : Nat) (times : Option Nat) : FaultPattern ε where
  failing n :=
    if n < skip then Option.none
    else
      match times with
      | Option.none => some error
      | some k => if n < skip + k then some error else Option.none
  seen := 0

end FaultPattern

/-- The faults of every kind of request. `ι` is the type of kinds. -/
structure Faults (ι ε : Type) where
  pattern : ι → FaultPattern ε

namespace Faults

variable {ι ε : Type} [DecidableEq ι]

/-- Every request goes through. -/
def none : Faults ι ε := ⟨fun _ => FaultPattern.none⟩

/-- Another pattern for one kind of request. -/
def set (f : Faults ι ε) (i : ι) (p : FaultPattern ε) : Faults ι ε :=
  ⟨fun j => if j = i then p else f.pattern j⟩

/-- The error that the next request of a kind meets, if any. -/
def next (f : Faults ι ε) (i : ι) : Option ε := (f.pattern i).failing (f.pattern i).seen

/-- The faults after one more request of a kind. -/
def count (f : Faults ι ε) (i : ι) : Faults ι ε :=
  f.set i { f.pattern i with seen := (f.pattern i).seen + 1 }

end Faults

end Overlay
