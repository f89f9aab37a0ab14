import Overlay.Proofs.Store.Map
import Overlay.Proofs.Time.Order

/-!
# What is written is read back

A service or binding with legible times is kept as a row of text and comes back as it was. Rows are
sorted by the text of their creation time; since the bytes of timestamps are in the order of time,
however many digits their fractions have, the bindings of a port come in the order in which they
were created.

Main statement: `read_back_in_order`.
-/

namespace Overlay.Store

/-! ## A fresh key -/

section Fresh

variable {bindings : List Binding} {b : Binding}

/-- A binding with a fresh key takes the place of no row. -/
theorem inPlace_of_fresh (fresh : ∀ c ∈ bindings, c.key ≠ b.key) : b.inPlace bindings = b := by
  rw [Binding.inPlace, Table.find?_eq_none_iff.mpr fresh]

/-- A binding with a fresh key is put last. -/
theorem putBinding_of_fresh (fresh : ∀ c ∈ bindings, c.key ≠ b.key) :
    putBinding b bindings = bindings ++ [b] := by
  rw [putBinding, inPlace_of_fresh fresh, Table.put_of_absent fresh]

/-- A listing has one binding of this key, and it is `b`. -/
def Finds (answer : Except Error (List Binding)) (b : Binding) : Prop :=
  ∃ l, answer = .ok l ∧ l.filter (fun c => c.key = b.key) = [b]

/-- A listing of some kind of bindings, in any order, finds a new one of this kind. -/
theorem finds_of_perm (fresh : ∀ c ∈ bindings, c.key ≠ b.key) {kind : Binding → Bool}
    (here : kind b = true) {l : List Binding} (perm : l.Perm ((bindings ++ [b]).filter kind)) :
    Finds (.ok l) b := by
  have old : (bindings.filter kind).filter (fun c => c.key = b.key) = [] :=
    List.filter_eq_nil_iff.mpr fun c hc => by simpa using fresh c (List.mem_filter.mp hc).1
  have new : ([b].filter kind).filter (fun c => c.key = b.key) = [b] := by
    rw [List.filter_cons_of_pos here, List.filter_nil]
    exact List.filter_cons_of_pos (decide_eq_true rfl)
  have one := perm.filter fun c => decide (c.key = b.key)
  rw [List.filter_append, List.filter_append, old, new, List.nil_append] at one
  exact ⟨l, rfl, List.perm_singleton.mp one⟩

variable {s : Store}

/-- Behind a statement that puts a fresh binding, the binding comes last. -/
theorem HoldsBindings.putBinding_of_fresh (h : s.HoldsBindings bindings) (legible : b.Legible)
    (fresh : ∀ c ∈ bindings, c.key ≠ b.key) :
    (s.execute (.putBinding b)).2.HoldsBindings (bindings ++ [b]) := by
  have put := (h.putBinding legible).2
  rwa [Store.putBinding_of_fresh fresh] at put

/-- A fresh binding is found by its port, by its server and among all. -/
theorem HoldsBindings.finds_new (h : s.HoldsBindings (bindings ++ [b]))
    (fresh : ∀ c ∈ bindings, c.key ≠ b.key) :
    Finds (s.execute (.bindingsOf b.portId)).1 b ∧
      Finds (s.execute (.bindingsUnder b.serverId)).1 b ∧ Finds (s.execute .allBindings).1 b := by
  rw [h.bindingsOf, h.bindingsUnder, h.allBindings]
  refine ⟨?_, ?_, ?_⟩
  · exact finds_of_perm fresh (decide_eq_true rfl) (List.mergeSort_perm _ _)
  · exact finds_of_perm fresh (decide_eq_true rfl) (List.mergeSort_perm _ _)
  · have all : (bindings ++ [b]).filter (fun _ => true) = bindings ++ [b] :=
      List.filter_eq_self.mpr fun _ _ => rfl
    have perm : (inOrder (bindings ++ [b])).Perm ((bindings ++ [b]).filter fun _ => true) := by
      rw [all]
      exact List.mergeSort_perm _ _
    exact finds_of_perm fresh rfl perm

end Fresh

/-- A service that was put is found by its network. -/
theorem getService_putService {s : Store} {rows : List ServiceRow} (there : s.services = some rows)
    {x : Service} (legible : x.createdAt.Legible) :
    (s.execute (.putService x)).1 = .ok () ∧
      ((s.execute (.putService x)).2.execute (.getService x.networkId)).1 = .ok (some x) := by
  have put : s.execute (.putService x)
      = (.ok (), { s with services := some (Table.put ServiceRow.networkId x.toRow rows) }) := by
    rw [execute, there, onTable]
  have row : Table.find? ServiceRow.networkId x.networkId
      (Table.put ServiceRow.networkId x.toRow rows) = some x.toRow :=
    Table.find?_put_self ServiceRow.networkId x.toRow rows
  rw [put]
  refine ⟨rfl, ?_⟩
  rw [execute, readTable]
  dsimp only
  rw [row]
  dsimp only
  rw [read_toRow_service legible]
  rfl

/-! ## In the order of creation -/

/-- The rows of a port are listed in the order of their creation. -/
theorem ofPort_in_order {rows : List Binding} (legible : ∀ b ∈ rows, b.Legible) (portId : String) :
    (ofPort portId rows).Pairwise fun a b => ¬ b.createdAt.Before a.createdAt := by
  have sorted := sorted_mergeSort_columns (fun b => (b.createdAt.render, b.address.render))
    (rows.filter (·.portId = portId))
  refine List.Pairwise.imp_of_mem (fun {a b} ha hb le before => ?_) sorted
  have legible_a := legible a (mem_ofPort.mp ha).1
  have legible_b := legible b (mem_ofPort.mp hb).1
  have later := (Instant.render_lt_iff legible_b.1 legible_a.1).mpr before
  exact String.not_lt.mpr (fst_le_of_columnsLe le) later

/-- Services and new bindings come back as they were, and a port's bindings in the order in which
they were created. -/
theorem read_back_in_order :
    (∀ (s : Store) (rows : List ServiceRow) (x : Service), s.services = some rows →
      x.createdAt.Legible →
      (s.execute (.putService x)).1 = .ok () ∧
        ((s.execute (.putService x)).2.execute (.getService x.networkId)).1 = .ok (some x)) ∧
    (∀ (s : Store) (bindings : List Binding) (b : Binding), s.HoldsBindings bindings →
      (∀ c ∈ bindings, c.key ≠ b.key) → b.Legible →
      (s.execute (.putBinding b)).1 = .ok () ∧
        Finds ((s.execute (.putBinding b)).2.execute (.bindingsOf b.portId)).1 b ∧
        Finds ((s.execute (.putBinding b)).2.execute (.bindingsUnder b.serverId)).1 b ∧
        Finds ((s.execute (.putBinding b)).2.execute .allBindings).1 b) ∧
    (∀ t u : Instant, t.Legible → u.Legible →
      (Text.bytes t.render < Text.bytes u.render ↔ t.Before u)) ∧
    (∀ (s : Store) (bindings : List Binding) (portId : String), s.HoldsBindings bindings →
      ∃ l, s.execute (.bindingsOf portId) = (.ok l, s) ∧
        l.Perm (bindings.filter (·.portId = portId)) ∧
        l.Pairwise fun a b => ¬ b.createdAt.Before a.createdAt) := by
  refine ⟨?_, ?_, ?_, ?_⟩
  · intro s rows x there legible
    exact getService_putService there legible
  · intro s bindings b h fresh legible
    exact ⟨(h.putBinding legible).1, (h.putBinding_of_fresh legible fresh).finds_new fresh⟩
  · intro t u ht hu
    exact Instant.bytes_lt_iff ht hu
  · intro s bindings portId h
    exact ⟨_, h.bindingsOf portId, List.mergeSort_perm _ _, ofPort_in_order h.legible portId⟩

namespace Sample

/-- A moment of the leap second after the first minute of 1970. -/
def leaping : Instant := ⟨59, 1500000000, by decide, by decide⟩

/-- A service made in it. -/
def service : Service := ⟨"net-1", "p-0", "srv-1", leaping⟩

/-- A binding made in it and changed a little after. -/
def leapBinding : Binding :=
  { binding with createdAt := leaping, updatedAt := ⟨60, 7000, by decide, by decide⟩ }

end Sample

/-- What is written within a leap second is read back, and sorts before the next minute. -/
theorem read_back_leaping :
    ((empty.execute (.putService Sample.service)).2.execute (.getService "net-1")).1
        = .ok (some Sample.service) ∧
      Finds ((empty.execute (.putBinding Sample.leapBinding)).2.execute (.bindingsOf "p-1")).1
        Sample.leapBinding ∧
      Text.bytes Sample.leaping.render < Text.bytes (Instant.ofSeconds 60).render ∧
      ∃ l, empty.execute (.bindingsOf "p-1") = (.ok l, empty) ∧
        l.Pairwise fun a b => ¬ b.createdAt.Before a.createdAt := by
  obtain ⟨service, binding, order, listed⟩ := read_back_in_order
  have start : empty.HoldsBindings [] := ⟨rfl, fun _ none => nomatch none⟩
  refine ⟨?_, ?_, ?_, ?_⟩
  · exact (service empty [] Sample.service rfl (by decide)).2
  · exact (binding empty [] Sample.leapBinding start (fun _ none => nomatch none) (by decide)).2.1
  · exact (order Sample.leaping (.ofSeconds 60) (by decide) (by decide)).mpr (by decide)
  · obtain ⟨l, answer, -, sorted⟩ := listed empty [] "p-1" start
    exact ⟨l, answer, sorted⟩

end Overlay.Store
