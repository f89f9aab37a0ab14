import Overlay.Proofs.Store.View
import Overlay.Proofs.Text.Order

/-!
# The table of bindings as a map

Bindings are added, moved and removed one statement at a time. Started on an empty table, they leave
a map from ports and addresses to bindings: `KeyedMap` says for each statement on bindings what it
answers and what it makes of the map. What carries it from statement to statement is that the table
is a list of legible bindings, written down, in which no key occurs twice (`HoldsMap`).

Listings are sorted by columns of text. Two rows of one listing never agree in both columns, so the
order is strict.

Main statement: `keyedMap_executeAll`.
-/

namespace Overlay.Store

/-! ## Sorted by two columns -/

/-- The order of two columns of text: by the bytes of the first, then of the second. -/
def ColumnsLt (a b : String × String) : Prop :=
  Text.bytes a.1 < Text.bytes b.1 ∨ (a.1 = b.1 ∧ Text.bytes a.2 < Text.bytes b.2)

/-- The second column matters where the first ones are equal. -/
theorem columnsLt_iff {a b : String × String} :
    ColumnsLt a b ↔ a.1 < b.1 ∨ (a.1 = b.1 ∧ a.2 < b.2) := by
  rw [ColumnsLt, Text.bytes_lt_iff, Text.bytes_lt_iff]

/-- The order of two columns is transitive. -/
theorem ColumnsLt.trans {a b c : String × String} (h : ColumnsLt a b) (h' : ColumnsLt b c) :
    ColumnsLt a c := by
  rw [columnsLt_iff] at h h' ⊢
  rcases h with first | ⟨same, second⟩
  · rcases h' with first' | ⟨same', _⟩
    · exact Or.inl (String.lt_trans first first')
    · exact Or.inl (same' ▸ first)
  · rcases h' with first' | ⟨same', second'⟩
    · exact Or.inl (same ▸ first')
    · exact Or.inr ⟨same.trans same', String.lt_trans second second'⟩

/-- Two pairs of columns are in order one way or the other, or equal. -/
theorem columnsLt_trichotomy (a b : String × String) : ColumnsLt a b ∨ a = b ∨ ColumnsLt b a := by
  rw [columnsLt_iff, columnsLt_iff, Prod.ext_iff]
  rcases Text.lt_trichotomy a.1 b.1 with first | same | first
  · exact Or.inl (Or.inl first)
  · rcases Text.lt_trichotomy a.2 b.2 with second | same' | second
    · exact Or.inl (Or.inr ⟨same, second⟩)
    · exact Or.inr (Or.inl ⟨same, same'⟩)
    · exact Or.inr (Or.inr (Or.inr ⟨same.symm, second⟩))
  · exact Or.inr (Or.inr (Or.inl first))

/-- The order that listings sort by is the strict one or equality. -/
theorem columnsLe_iff {a b : String × String} :
    columnsLe a b = true ↔ ColumnsLt a b ∨ a = b := by
  rw [columnsLe, Bool.or_eq_true, Bool.and_eq_true, beq_iff_eq, decide_eq_true_iff,
    decide_eq_true_iff, columnsLt_iff, Prod.ext_iff]
  constructor
  · rintro (first | ⟨same, le⟩)
    · exact Or.inl (Or.inl first)
    · rcases Text.lt_trichotomy a.2 b.2 with second | same' | second
      · exact Or.inl (Or.inr ⟨same, second⟩)
      · exact Or.inr ⟨same, same'⟩
      · exact absurd second (String.not_lt.mpr le)
  · rintro ((first | ⟨same, second⟩) | ⟨same, same'⟩)
    · exact Or.inl first
    · exact Or.inr ⟨same, String.not_lt.mp (String.lt_asymm second)⟩
    · exact Or.inr ⟨same, same' ▸ String.le_refl _⟩

/-- Sorted by two columns, the first one is sorted. -/
theorem fst_le_of_columnsLe {a b : String × String} (h : columnsLe a b = true) : a.1 ≤ b.1 := by
  rcases columnsLe_iff.mp h with less | rfl
  · rcases columnsLt_iff.mp less with first | ⟨same, _⟩
    · exact String.not_lt.mp (String.lt_asymm first)
    · exact same ▸ String.le_refl _
  · exact String.le_refl _

/-- Listings are sorted by their columns. -/
theorem sorted_mergeSort_columns (columns : Binding → String × String) (rows : List Binding) :
    (rows.mergeSort fun a b => columnsLe (columns a) (columns b)).Pairwise
      fun a b => columnsLe (columns a) (columns b) = true := by
  refine List.pairwise_mergeSort (fun a b c hab hbc => ?_) (fun a b => ?_) rows
  · rw [columnsLe_iff] at hab hbc ⊢
    rcases hab with less | same
    · rcases hbc with less' | same'
      · exact Or.inl (less.trans less')
      · exact Or.inl (same' ▸ less)
    · exact same ▸ hbc
  · rw [Bool.or_eq_true, columnsLe_iff, columnsLe_iff]
    rcases columnsLt_trichotomy (columns a) (columns b) with less | same | greater
    · exact Or.inl (Or.inl less)
    · exact Or.inl (Or.inr same)
    · exact Or.inr (Or.inl greater)

/-- Rows that two columns tell apart are sorted strictly by them. -/
theorem pairwise_mergeSort_columns {columns : Binding → String × String} {rows : List Binding}
    (apart : Table.Keyed columns rows) :
    (rows.mergeSort fun a b => columnsLe (columns a) (columns b)).Pairwise
      fun a b => ColumnsLt (columns a) (columns b) := by
  have distinct := apart.perm (List.mergeSort_perm rows fun a b =>
    columnsLe (columns a) (columns b)).symm
  refine (sorted_mergeSort_columns columns rows).imp₂ (fun a b le ne => ?_)
    (List.pairwise_map.mp distinct)
  exact (columnsLe_iff.mp le).resolve_right ne

/-! ## The map -/

/-- The binding that the table has for a port and an address. -/
def binding? (s : Store) (k : String × IPv4) : Option Binding :=
  match s.bindings with
  | none => none
  | some rows =>
    (Table.find? BindingRow.key (k.1, k.2.render) rows).bind fun r => r.read.toOption

/-- A listing has just the bindings of a kind, strictly in the order of two columns, and leaves the
store as it is. -/
def Lists (s : Store) (answer : Except Error (List Binding) × Store) (kind : Binding → Prop)
    (columns : Binding → String × String) : Prop :=
  ∃ l, answer = (.ok l, s) ∧ (l.Pairwise fun a b => ColumnsLt (columns a) (columns b)) ∧
    ∀ b, b ∈ l ↔ s.binding? b.key = some b ∧ kind b

/-- A statement answers `a`, makes the map `after` and leaves the other tables as they are. -/
def Makes (s : Store) (st : Statement) (a : st.Answer) (after : String × IPv4 → Option Binding) :
    Prop :=
  (s.execute st).1 = .ok a ∧
    (s.execute st).2 = { s with bindings := (s.execute st).2.bindings } ∧
    ∀ k, (s.execute st).2.binding? k = after k

/-- The table of bindings is a map from ports and addresses to bindings. -/
structure KeyedMap (s : Store) : Prop where
  /-- No two rows have one key, and each is the binding of its key, written down. -/
  rows : ∃ rows, s.bindings = some rows ∧ Table.Keyed BindingRow.key rows ∧
    ∀ r ∈ rows, ∃ b, b.toRow = r ∧ s.binding? b.key = some b
  all : s.Lists (s.execute .allBindings) (fun _ => True) fun b => (b.portId, b.address.render)
  ofPort : ∀ portId, s.Lists (s.execute (.bindingsOf portId)) (·.portId = portId)
    fun b => (b.createdAt.render, b.address.render)
  under : ∀ serverId, s.Lists (s.execute (.bindingsUnder serverId)) (·.serverId = serverId)
    fun b => (b.portId, b.address.render)
  /-- Over a binding of its key, everything is replaced but the creation time. -/
  put : ∀ b, b.Legible → s.Makes (.putBinding b) () fun k =>
    if k = b.key then
      some (match s.binding? b.key with
        | some old => { b with createdAt := old.createdAt }
        | none => b)
    else s.binding? k
  /-- Server, binding on the server and creation time stay. -/
  move : ∀ portId old subnetId new macAddress time b, time.Legible →
    s.binding? (portId, old) = some b → (new = old ∨ s.binding? (portId, new) = none) →
    s.Makes (.moveBinding portId old subnetId new macAddress time) true fun k =>
      if k = (portId, new) then
        some { b with subnetId, address := new, macAddress, updatedAt := time }
      else if k = (portId, old) then none
      else s.binding? k
  move_taken : ∀ portId old subnetId new macAddress time b c,
    s.binding? (portId, old) = some b → new ≠ old → s.binding? (portId, new) = some c →
    s.execute (.moveBinding portId old subnetId new macAddress time) = (.error .database, s)
  move_missing : ∀ portId old subnetId new macAddress time, s.binding? (portId, old) = none →
    s.execute (.moveBinding portId old subnetId new macAddress time) = (.ok false, s)
  delete : ∀ portId address,
    s.Makes (.deleteBinding portId address) (s.binding? (portId, address)).isSome fun k =>
      if k = (portId, address) then none else s.binding? k

/-! ## The table behind it -/

/-- The table is these bindings, legible and written down, with no key twice. -/
structure HoldsMap (s : Store) (bindings : List Binding) : Prop
    extends HoldsBindings s bindings where
  keyed : Table.Keyed Binding.key bindings

/-- What the table has under a key is what is found among its bindings. -/
theorem HoldsBindings.binding?_eq {s : Store} {bindings : List Binding}
    (h : s.HoldsBindings bindings) (k : String × IPv4) :
    s.binding? k = Table.find? Binding.key k bindings := by
  rw [binding?, h.bindings_eq]
  dsimp only
  rw [find?_toRow]
  cases found : Table.find? Binding.key k bindings with
  | none => rfl
  | some b =>
      show b.toRow.read.toOption = some b
      rw [read_toRow (h.legible b (Table.mem_of_find? found).1)]
      rfl

namespace HoldsMap

variable {s : Store} {bindings : List Binding}

/-- A binding is in the table exactly if it is found under its own key. -/
theorem mem_iff (h : s.HoldsMap bindings) {b : Binding} :
    b ∈ bindings ↔ s.binding? b.key = some b := by
  rw [h.binding?_eq]
  exact ⟨h.keyed.find?, fun found => (Table.mem_of_find? found).1⟩

/-- What is found under a key has that key. -/
theorem of_binding? (h : s.HoldsMap bindings) {k : String × IPv4} {b : Binding}
    (found : s.binding? k = some b) : b ∈ bindings ∧ b.key = k :=
  Table.mem_of_find? (h.binding?_eq k ▸ found)

/-- Putting a binding leaves a map. -/
theorem putBinding (h : s.HoldsMap bindings) {b : Binding} (legible : b.Legible) :
    (s.execute (.putBinding b)).2.HoldsMap (Store.putBinding b bindings) :=
  ⟨(h.toHoldsBindings.putBinding legible).2, h.keyed.put _⟩

/-- Moving a binding to a free key leaves a map. -/
theorem moveBinding (h : s.HoldsMap bindings) {b : Binding} (hb : b ∈ bindings)
    (subnetId : String) (ip : IPv4) (macAddress : String) {time : Instant}
    (legible : time.Legible) (free : ∀ c ∈ bindings, c.key = (b.portId, ip) → c = b) :
    (s.execute (.moveBinding b.portId b.address subnetId ip macAddress time)).2.HoldsMap
      (Table.modify Binding.key b.key (.moved subnetId ip macAddress time) bindings) :=
  ⟨(h.toHoldsBindings.moveBinding h.keyed hb subnetId ip macAddress legible free).2,
    h.keyed.modify hb free⟩

/-- Deleting a binding leaves a map. -/
theorem deleteBinding (h : s.HoldsMap bindings) (portId : String) (ip : IPv4) :
    (s.execute (.deleteBinding portId ip)).2.HoldsMap
      (Table.remove Binding.key (portId, ip) bindings) :=
  ⟨(h.toHoldsBindings.deleteBinding portId ip).2, h.keyed.remove _ _⟩

/-- A free key, or the binding's own. -/
theorem free_of (h : s.HoldsMap bindings) {b : Binding} (hb : b ∈ bindings) {ip : IPv4}
    (free : ip = b.address ∨ s.binding? (b.portId, ip) = none) :
    ∀ c ∈ bindings, c.key = (b.portId, ip) → c = b := by
  intro c hc same
  rcases free with rfl | none
  · exact h.keyed.eq_of_key hc hb same
  · rw [← same, h.mem_iff.mp hc] at none
    exact nomatch none

/-- A filtered and sorted listing has the bindings of its kind, each once, strictly in order. -/
theorem lists (h : s.HoldsMap bindings) {kind : Binding → Prop} [DecidablePred kind]
    {columns : Binding → String × String} {answer : Except Error (List Binding) × Store}
    (apart : ∀ a ∈ bindings, kind a → ∀ b ∈ bindings, kind b → columns a = columns b →
      a.key = b.key)
    (listed : answer = (.ok ((bindings.filter (kind ·)).mergeSort fun a b =>
      columnsLe (columns a) (columns b)), s)) : s.Lists answer kind columns := by
  refine ⟨_, listed, pairwise_mergeSort_columns ?_, fun b => ?_⟩
  · refine Table.Keyed.of_key (h.keyed.sublist (List.filter_sublist.map Binding.key)) ?_
    intro a ha b hb same
    obtain ⟨ha, kind_a⟩ := List.mem_filter.mp ha
    obtain ⟨hb, kind_b⟩ := List.mem_filter.mp hb
    exact apart a ha (of_decide_eq_true kind_a) b hb (of_decide_eq_true kind_b) same
  · rw [List.mem_mergeSort, List.mem_filter, decide_eq_true_iff, h.mem_iff]

/-- A table whose keys occur once is a keyed map. -/
theorem keyedMap (h : s.HoldsMap bindings) : s.KeyedMap where
  rows := by
    refine ⟨_, h.bindings_eq, ?_, fun r hr => ?_⟩
    -- the table is keyed by spelled addresses, and no two addresses are spelled alike
    · have apart : Table.Keyed (fun b : Binding => b.toRow.key) bindings :=
        h.keyed.of_key fun a _ b _ same => (key_toRow_iff b.portId b.address a).mp same
      rw [Table.Keyed, List.map_map]
      exact apart
    · obtain ⟨b, hb, rfl⟩ := List.mem_map.mp hr
      exact ⟨b, rfl, h.mem_iff.mp hb⟩
  all := by
    refine h.lists (fun a _ _ b _ _ same => ?_) ?_
    · exact (key_toRow_iff b.portId b.address a).mp same
    · rw [h.allBindings, inOrder, List.filter_eq_self.mpr fun _ _ => decide_eq_true trivial]
  ofPort portId := by
    refine h.lists (fun a _ here b _ here' same => ?_) (h.bindingsOf portId)
    rw [Prod.mk.injEq] at same
    exact Prod.ext (here.trans here'.symm) (IPv4.render_inj same.2)
  under serverId := by
    refine h.lists (fun a _ _ b _ _ same => ?_) (h.bindingsUnder serverId)
    exact (key_toRow_iff b.portId b.address a).mp same
  put b legible := by
    refine ⟨(h.toHoldsBindings.putBinding legible).1, rfl, fun k => ?_⟩
    dsimp only
    rw [(h.putBinding legible).binding?_eq, find?_putBinding, h.binding?_eq, h.binding?_eq]
    rfl
  move portId old subnetId new macAddress time b legible found free := by
    obtain ⟨hb, same⟩ := h.of_binding? found
    obtain ⟨rfl, rfl⟩ := Prod.mk.inj same
    have free := h.free_of hb free
    refine ⟨(h.toHoldsBindings.moveBinding h.keyed hb subnetId new macAddress legible free).1, rfl,
      fun k => ?_⟩
    dsimp only
    rw [(h.moveBinding hb subnetId new macAddress legible free).binding?_eq,
      h.keyed.find?_modify (f := .moved subnetId new macAddress time) hb free, h.binding?_eq]
    rfl
  move_taken portId old subnetId new macAddress time b c found other taken := by
    -- the new key belongs to another row, so that the statement fails
    obtain ⟨hb, same⟩ := h.of_binding? found
    obtain ⟨hc, same'⟩ := h.of_binding? taken
    obtain ⟨rfl, rfl⟩ := Prod.mk.inj same
    refine h.moveBinding_taken h.keyed hb hc subnetId macAddress time same' ?_
    rintro rfl
    exact other (Prod.mk.inj same').2.symm
  move_missing portId old subnetId new macAddress time missing := by
    rw [h.binding?_eq] at missing
    exact h.moveBinding_missing missing subnetId new macAddress time
  delete portId address := by
    refine ⟨?_, rfl, fun k => ?_⟩
    · rw [h.binding?_eq]
      exact (h.toHoldsBindings.deleteBinding portId address).1
    · dsimp only
      rw [(h.deleteBinding portId address).binding?_eq, Table.find?_remove, h.binding?_eq]

end HoldsMap

/-! ## One statement after another -/

/-- Adds, moves or removes a binding, with legible times. -/
def Statement.Edits : Statement → Prop
  | .putBinding b => b.Legible
  | .moveBinding _ _ _ _ _ time => time.Legible
  | .deleteBinding _ _ => True
  | _ => False

instance : DecidablePred Statement.Edits
  | .putBinding b => inferInstanceAs (Decidable b.Legible)
  | .moveBinding _ _ _ _ _ time => inferInstanceAs (Decidable time.Legible)
  | .deleteBinding _ _ => .isTrue trivial
  | .putService _ | .getService _ | .deleteService _ | .bindingsOf _ | .bindingsUnder _
  | .allBindings | .putNetwork _ | .getSwitch _ | .putPort _ | .getPort _ => .isFalse not_false

/-- The store after some statements. -/
def executeAll (sts : List Statement) (s : Store) : Store :=
  sts.foldl (fun s st => (s.execute st).2) s

/-- Every edit leaves a map. -/
theorem holdsMap_execute {s : Store} {bindings : List Binding} (h : s.HoldsMap bindings)
    {st : Statement} (edits : st.Edits) : ∃ bindings', (s.execute st).2.HoldsMap bindings' := by
  match st, edits with
  | .putBinding b, legible => exact ⟨_, h.putBinding legible⟩
  | .deleteBinding portId address, _ => exact ⟨_, h.deleteBinding portId address⟩
  | .moveBinding portId old subnetId new macAddress time, legible =>
      cases found : s.binding? (portId, old) with
      | none =>
          rw [h.keyedMap.move_missing portId old subnetId new macAddress time found]
          exact ⟨bindings, h⟩
      | some b =>
          by_cases free : new = old ∨ s.binding? (portId, new) = none
          · obtain ⟨hb, same⟩ := h.of_binding? found
            obtain ⟨rfl, rfl⟩ := Prod.mk.inj same
            exact ⟨_, h.moveBinding hb subnetId new macAddress legible (h.free_of hb free)⟩
          · obtain ⟨other, taken⟩ := not_or.mp free
            obtain ⟨c, taken⟩ := Option.ne_none_iff_exists'.mp taken
            rw [h.keyedMap.move_taken portId old subnetId new macAddress time b c found other taken]
            exact ⟨bindings, h⟩

/-- Any number of edits, one after the other, leaves a map. -/
theorem holdsMap_executeAll {sts : List Statement} (edits : ∀ st ∈ sts, st.Edits) {s : Store}
    {bindings : List Binding} (h : s.HoldsMap bindings) :
    ∃ bindings', (s.executeAll sts).HoldsMap bindings' := by
  induction sts generalizing s bindings with
  | nil => exact ⟨bindings, h⟩
  | cons st rest ih =>
      obtain ⟨here, there⟩ := List.forall_mem_cons.mp edits
      obtain ⟨bindings', h'⟩ := holdsMap_execute h here
      exact ih there h'

/-- Whatever has been added, moved and removed on an empty table, it is a map. -/
theorem keyedMap_executeAll {s : Store} (fresh : s.bindings = some []) {sts : List Statement}
    (edits : ∀ st ∈ sts, st.Edits) : (s.executeAll sts).KeyedMap := by
  have start : s.HoldsMap [] :=
    ⟨⟨fresh, fun _ none => nomatch none⟩, Table.keyed_nil Binding.key⟩
  obtain ⟨bindings, h⟩ := holdsMap_executeAll edits start
  exact h.keyedMap

namespace Sample

/-- A binding made at the start of a day. -/
def binding : Binding :=
  ⟨"p-1", "s-1", ⟨10, 0, 0, 5⟩, "aa:bb:cc:dd:ee:05", "srv-1", "b-1", .ofSeconds 0, .ofSeconds 0⟩

/-- It is added twice and moved to an address that another one had before. -/
def edits : List Statement :=
  [.putBinding binding,
    .putBinding { binding with serverId := "srv-2", createdAt := .ofSeconds 60 },
    .putBinding { binding with address := ⟨10, 0, 0, 6⟩, bindingId := "b-2" },
    .deleteBinding "p-1" ⟨10, 0, 0, 6⟩,
    .moveBinding "p-1" ⟨10, 0, 0, 5⟩ "s-1" ⟨10, 0, 0, 6⟩ "aa:bb:cc:dd:ee:06" (.ofSeconds 120)]

end Sample

/-- Five edits leave a keyed map, with the binding under the key it was moved to. -/
theorem keyedMap_of_five_edits : (executeAll Sample.edits empty).KeyedMap ∧
    (executeAll Sample.edits empty).binding? ("p-1", ⟨10, 0, 0, 6⟩)
      = some ⟨"p-1", "s-1", ⟨10, 0, 0, 6⟩, "aa:bb:cc:dd:ee:06", "srv-2", "b-1", .ofSeconds 0,
          .ofSeconds 120⟩ :=
  ⟨keyedMap_executeAll rfl (by decide), by decide +kernel⟩

end Overlay.Store
