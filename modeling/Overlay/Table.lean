/-!
# Keyed lists

A list whose rows are found by a key that is read off them. `put` replaces the row of the same key
where it stands, or appends a new row; so rows keep the order in which their keys first came.
-/

namespace Overlay.Table

variable {κ α : Type} [DecidableEq κ]

/-- The row with this key. -/
def find? (key : α → κ) (k : κ) (rows : List α) : Option α := rows.find? (key · = k)

/-- The rows with `a` in place of the row of its key, or behind all others. -/
def put (key : α → κ) (a : α) : List α → List α
  | [] => [a]
  | b :: rest => if key b = key a then a :: rest else b :: put key a rest

/-- The rows without those of this key. -/
def remove (key : α → κ) (k : κ) (rows : List α) : List α := rows.filter (key · ≠ k)

/-- The rows with `f` applied to the first one of this key. -/
def modify (key : α → κ) (k : κ) (f : α → α) : List α → List α
  | [] => []
  | b :: rest => if key b = k then f b :: rest else b :: modify key k f rest

theorem find?_put_self (key : α → κ) (a : α) (rows : List α) :
    find? key (key a) (put key a rows) = some a := by
  induction rows with
  | nil => simp [find?, put]
  | cons b rest ih =>
    by_cases h : key b = key a
    · simp [find?, put, h]
    · simpa [find?, put, h] using ih

theorem find?_put_of_ne (key : α → κ) {a : α} {k : κ} (hk : key a ≠ k) (rows : List α) :
    find? key k (put key a rows) = find? key k rows := by
  induction rows with
  | nil => simp [find?, put, hk]
  | cons b rest ih =>
    by_cases h : key b = key a
    · simp [find?, put, h, hk]
    · by_cases hb : key b = k
      · subst hb
        simp [find?, put, h]
      · simpa [find?, put, h, hb] using ih

end Overlay.Table
