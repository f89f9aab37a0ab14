/-!
# JSON values

A document as it was written: the members of an object stay in order and may repeat, and a number
keeps its parts. A string may be written with half of a surrogate pair, which no Unicode text can
hold; such a string has no text, and is passed over only where nobody reads it.
-/

namespace Overlay

/-- A number as it was written. `fraction` holds the digits behind the point, and `exponent` the
sign and digits behind the `e`; each is empty if its part is absent. -/
structure Numeral where
  negative : Bool
  whole : Nat
  fraction : List Char
  exponent : List Char
  deriving DecidableEq, Repr

namespace Numeral

/-- A natural number. -/
def ofNat (n : Nat) : Numeral := ⟨false, n, [], []⟩

/-- The natural number, if that is all there is: no sign, no fraction and no exponent. -/
def toNat? (n : Numeral) : Option Nat :=
  if n.negative || !n.fraction.isEmpty || !n.exponent.isEmpty then none else some n.whole

/-- A whole number. -/
def ofInt (z : Int) : Numeral := ⟨z < 0, z.natAbs, [], []⟩

/-- The whole number, if that is all there is: no fraction and no exponent. -/
def toInt? (n : Numeral) : Option Int :=
  if !n.fraction.isEmpty || !n.exponent.isEmpty then none
  else some (if n.negative then -n.whole else n.whole)

@[simp] theorem toNat?_ofNat (n : Nat) : (ofNat n).toNat? = some n := rfl

@[simp] theorem toInt?_ofInt (z : Int) : (ofInt z).toInt? = some z := by
  simp only [toInt?, ofInt, List.isEmpty_nil, Bool.not_true, Bool.or_self, Bool.false_eq_true,
    if_false, decide_eq_true_eq, Option.some.injEq]
  split <;> omega

end Numeral

/-- A JSON value. -/
inductive Json where
  | null
  | bool (b : Bool)
  | number (n : Numeral)
  | string (text : Option String)
  | array (items : List Json)
  | object (members : List (Option String × Json))
  deriving Repr

namespace Json

/-- A string with this text. -/
def text (s : String) : Json := .string (some s)

/-- A natural number. -/
def nat (n : Nat) : Json := .number (.ofNat n)

/-- An object with these members. -/
def record (members : List (String × Json)) : Json :=
  .object (members.map fun (name, v) => (some name, v))

instance : Inhabited Json := ⟨.null⟩

end Json

end Overlay
