import Overlay.Table

/-!
# Keyed lists without repeated keys

In a list in which no key occurs twice, a row is found by its key. Up to order, each way of changing
such a list takes the row of one key away and puts at most one row in its place; `put_perm` and
`modify_perm` say so, and membership, lengths and lists of other columns follow from them.

The last parts carry a list through a map that keeps keys apart, and through a filter: looking up,
putting, removing and modifying commute with the map, and with the filter if it lets the rows of the
key pass; if it holds them back, the filter does not show what is done.
-/

namespace Overlay.Table

variable {κ κ' α β : Type}

/-- No key occurs twice. -/
def Keyed (key : α → κ) (rows : List α) : Prop := (rows.map key).Nodup

theorem keyed_nil (key : α → κ) : Keyed key [] := List.nodup_nil

/-- A row in front keeps the keys apart if no other row has its key. -/
theorem keyed_cons {key : α → κ} {a : α} {rows : List α} :
    Keyed key (a :: rows) ↔ (∀ b ∈ rows, key b ≠ key a) ∧ Keyed key rows := by
  rw [Keyed, List.map_cons, List.nodup_cons, List.mem_map]
  constructor
  · rintro ⟨new, rest⟩
    exact ⟨fun b hb same => new ⟨b, hb, same⟩, rest⟩
  · rintro ⟨new, rest⟩
    exact ⟨fun ⟨b, hb, same⟩ => new b hb same, rest⟩

/-- Whether keys occur once has nothing to do with the order. -/
theorem Keyed.perm {key : α → κ} {rows rows' : List α} (h : Keyed key rows)
    (p : rows.Perm rows') : Keyed key rows' :=
  (p.map key).nodup h

/-- A row with a key of its own may be put behind. -/
theorem Keyed.concat {key : α → κ} {rows : List α} (h : Keyed key rows) {a : α}
    (new : ∀ b ∈ rows, key b ≠ key a) : Keyed key (rows ++ [a]) :=
  (keyed_cons.mpr ⟨new, h⟩).perm (List.perm_append_singleton a rows).symm

/-- Rows with the same key are the same row. -/
theorem Keyed.eq_of_key {key : α → κ} {rows : List α} (h : Keyed key rows) {a b : α}
    (ha : a ∈ rows) (hb : b ∈ rows) (same : key a = key b) : a = b := by
  induction rows with
  | nil => exact nomatch ha
  | cons c rest ih =>
      obtain ⟨new, rest_keyed⟩ := keyed_cons.mp h
      rcases List.mem_cons.mp ha with rfl | ha'
      · rcases List.mem_cons.mp hb with rfl | hb'
        · rfl
        · exact absurd same.symm (new b hb')
      · rcases List.mem_cons.mp hb with rfl | hb'
        · exact absurd same (new a ha')
        · exact ih rest_keyed ha' hb'

/-- Another key that tells as many rows apart. -/
theorem Keyed.of_key {key : α → κ} {key' : α → κ'} {rows : List α} (h : Keyed key rows)
    (apart : ∀ a ∈ rows, ∀ b ∈ rows, key' a = key' b → key a = key b) : Keyed key' rows := by
  induction rows with
  | nil => exact keyed_nil key'
  | cons c rest ih =>
      obtain ⟨new, rest_keyed⟩ := keyed_cons.mp h
      refine keyed_cons.mpr ⟨fun b hb same => ?_, ih rest_keyed fun a ha b hb => ?_⟩
      · exact new b hb (apart b (List.mem_cons_of_mem c hb) c List.mem_cons_self same)
      · exact apart a (List.mem_cons_of_mem c ha) b (List.mem_cons_of_mem c hb)

/-- Rows whose keys occur once occur once themselves. -/
theorem Keyed.nodup {key : α → κ} {rows : List α} (h : Keyed key rows) : rows.Nodup := by
  have distinct : Keyed id rows := h.of_key fun _ _ _ _ same => congrArg key same
  rwa [Keyed, List.map_id] at distinct

/-- Whatever column rows are removed by, keys stay apart. -/
theorem Keyed.remove {key : α → κ} {rows : List α} (h : Keyed key rows) [DecidableEq κ']
    (col : α → κ') (c : κ') : Keyed key (Table.remove col c rows) :=
  h.sublist (List.filter_sublist.map key)

variable [DecidableEq κ] [DecidableEq κ']

instance (key : α → κ) (rows : List α) : Decidable (Keyed key rows) :=
  inferInstanceAs (Decidable (rows.map key).Nodup)

/-! ## Removing -/

/-- Removing a key takes away all rows with it, and no others. -/
theorem mem_remove {key : α → κ} {k : κ} {rows : List α} {a : α} :
    a ∈ remove key k rows ↔ a ∈ rows ∧ key a ≠ k := by
  rw [remove, List.mem_filter, decide_eq_true_iff]

/-- Filtering by what is to hold for each of several values, for the first of them first. -/
theorem filter_forall_cons {P : β → α → Prop} [∀ b a, Decidable (P b a)] (b : β) (rest : List β)
    (rows : List α) :
    (rows.filter fun a => decide (P b a)).filter (fun a => decide (∀ b' ∈ rest, P b' a))
      = rows.filter fun a => decide (∀ b' ∈ b :: rest, P b' a) := by
  rw [List.filter_filter]
  refine List.filter_congr fun a _ => ?_
  rw [← Bool.decide_and]
  refine decide_eq_decide.mpr ?_
  rw [List.forall_mem_cons, and_comm]

/-- Removing a key that no row has changes nothing. -/
theorem remove_of_absent {key : α → κ} {k : κ} {rows : List α} (h : ∀ a ∈ rows, key a ≠ k) :
    remove key k rows = rows :=
  List.filter_eq_self.mpr fun a ha => decide_eq_true (h a ha)

/-- The only row of a key is the last one. -/
theorem remove_concat {key : α → κ} {k : κ} {rows : List α} (h : ∀ b ∈ rows, key b ≠ k) {a : α}
    (ha : key a = k) : remove key k (rows ++ [a]) = rows := by
  have last : [a].filter (key · ≠ k) = [] := List.filter_cons_of_neg (by simpa using ha)
  have front := remove_of_absent h
  rw [remove] at front ⊢
  rw [List.filter_append, front, last, List.append_nil]

/-! ## Looking up -/

/-- Nothing is found under a key exactly if no row has it. -/
theorem find?_eq_none_iff {key : α → κ} {k : κ} {rows : List α} :
    find? key k rows = none ↔ ∀ a ∈ rows, key a ≠ k := by
  simp [find?]

/-- What is found is a row, and has the key. -/
theorem mem_of_find? {key : α → κ} {k : κ} {rows : List α} {a : α}
    (h : find? key k rows = some a) : a ∈ rows ∧ key a = k :=
  ⟨List.mem_of_find?_eq_some h, by simpa using List.find?_some h⟩

/-- Where keys occur once, a row is what is found under its key. -/
theorem Keyed.find? {key : α → κ} {rows : List α} (h : Keyed key rows) {a : α} (ha : a ∈ rows) :
    find? key (key a) rows = some a := by
  cases found : Table.find? key (key a) rows with
  | none => exact absurd rfl (find?_eq_none_iff.mp found a ha)
  | some b =>
      obtain ⟨hb, same⟩ := mem_of_find? found
      rw [h.eq_of_key hb ha same]

/-- The first row is looked at first. -/
theorem find?_cons (key : α → κ) (a : α) (rows : List α) (k : κ) :
    Table.find? key k (a :: rows) = if k = key a then some a else Table.find? key k rows := by
  rw [Table.find?, List.find?_cons]
  by_cases same : k = key a
  · rw [if_pos same, decide_eq_true same.symm]
  · rw [if_neg same, decide_eq_false (Ne.symm same)]
    rfl

/-- After a key has been removed, nothing is found under it, and under another key what was there. -/
theorem find?_remove (key : α → κ) (k : κ) (rows : List α) (k' : κ) :
    Table.find? key k' (remove key k rows)
      = if k' = k then none else Table.find? key k' rows := by
  induction rows with
  | nil => split <;> rfl
  | cons a rest ih =>
      rw [remove] at ih ⊢
      by_cases out : key a = k
      · rw [List.filter_cons_of_neg (by simpa using out), ih, find?_cons, out]
        by_cases same : k' = k
        · rw [if_pos same, if_pos same]
        · rw [if_neg same, if_neg same, if_neg same]
      · rw [List.filter_cons_of_pos (by simpa using out), find?_cons, ih, find?_cons]
        by_cases same : k' = k
        · rw [if_pos same, if_pos same, if_neg fun here => out (here.symm.trans same)]
        · rw [if_neg same, if_neg same]

/-- What is found under a key does not depend on the order of the rows. -/
theorem Keyed.find?_perm {key : α → κ} {rows rows' : List α} (h : Keyed key rows)
    (p : rows.Perm rows') (k : κ) : Table.find? key k rows = Table.find? key k rows' := by
  cases found : Table.find? key k rows with
  | none =>
      refine (find?_eq_none_iff.mpr fun a ha => ?_).symm
      exact find?_eq_none_iff.mp found a (p.mem_iff.mpr ha)
  | some a =>
      obtain ⟨ha, rfl⟩ := mem_of_find? found
      exact ((h.perm p).find? (p.mem_iff.mp ha)).symm

/-- Where keys occur once, the rows with a key are what is found under it. -/
theorem Keyed.filter_eq {key : α → κ} {rows : List α} (h : Keyed key rows) (k : κ) :
    rows.filter (fun a => key a = k) = (Table.find? key k rows).toList := by
  induction rows with
  | nil => rfl
  | cons a rest ih =>
      obtain ⟨new, rest_keyed⟩ := keyed_cons.mp h
      by_cases here : key a = k
      · have others : rest.filter (fun b => key b = k) = [] :=
          List.filter_eq_nil_iff.mpr fun b hb => by simpa using here ▸ new b hb
        rw [List.filter_cons_of_pos (by simpa using here), others, Table.find?,
          List.find?_cons_of_pos (by simpa using here)]
        rfl
      · rw [List.filter_cons_of_neg (by simpa using here), ih rest_keyed, Table.find?,
          Table.find?, List.find?_cons_of_neg (by simpa using here)]

/-- Of what rows contribute under their own keys, the part under one key comes from the rows with
this key. -/
theorem filter_flatMap_key {key : α → κ} {tag : β → κ} {f : α → List β} {rows : List α}
    (own : ∀ a ∈ rows, ∀ b ∈ f a, tag b = key a) (k : κ) :
    (rows.flatMap f).filter (fun b => tag b = k) = (rows.filter fun a => key a = k).flatMap f := by
  induction rows with
  | nil => rfl
  | cons a rest ih =>
      obtain ⟨here, there⟩ := List.forall_mem_cons.mp own
      rw [List.flatMap_cons, List.filter_append, ih there]
      by_cases same : key a = k
      · rw [List.filter_cons_of_pos (by simpa using same), List.flatMap_cons,
          List.filter_eq_self.mpr fun b hb => by simpa using (here b hb).trans same]
      · rw [List.filter_cons_of_neg (by simpa using same),
          List.filter_eq_nil_iff.mpr fun b hb => by simpa [here b hb] using same]
        rfl

/-- Of what rows of some kind contribute under their own keys, the part under one key. -/
theorem Keyed.filter_flatMap {key : α → κ} {rows : List α} (h : Keyed key rows) (kind : α → Bool)
    {tag : β → κ} {f : α → List β} (own : ∀ a ∈ rows, ∀ b ∈ f a, tag b = key a) (k : κ) :
    ((rows.filter kind).flatMap f).filter (fun b => tag b = k)
      = match Table.find? key k rows with
        | some a => if kind a then f a else []
        | none => [] := by
  have one : (rows.filter kind).filter (fun a => key a = k)
      = (Table.find? key k rows).toList.filter kind := by
    rw [← h.filter_eq, List.filter_filter, List.filter_filter]
    exact List.filter_congr fun a _ => Bool.and_comm _ _
  rw [filter_flatMap_key (fun a ha => own a (List.mem_filter.mp ha).1), one]
  cases Table.find? key k rows with
  | none => rfl
  | some a =>
      rw [Option.toList, List.filter_cons, List.filter_nil]
      by_cases here : kind a = true
      · rw [if_pos here, List.flatMap_singleton]
        exact (if_pos here).symm
      · rw [if_neg here, List.flatMap_nil]
        exact (if_neg here).symm

omit [DecidableEq κ] in
/-- Only the row of one key contributes. -/
theorem Keyed.flatMap_eq {key : α → κ} {rows : List α} (h : Keyed key rows) {a : α} (ha : a ∈ rows)
    {f : α → List β} (others : ∀ b ∈ rows, key b ≠ key a → f b = []) : rows.flatMap f = f a := by
  induction rows with
  | nil => exact nomatch ha
  | cons b rest ih =>
      obtain ⟨new, rest_keyed⟩ := keyed_cons.mp h
      rw [List.flatMap_cons]
      rcases List.mem_cons.mp ha with rfl | ha'
      · rw [List.flatMap_eq_nil_iff.mpr fun c hc =>
          others c (List.mem_cons_of_mem _ hc) (new c hc), List.append_nil]
      · rw [others b List.mem_cons_self fun same => new a ha' same.symm, List.nil_append]
        exact ih rest_keyed ha' fun c hc => others c (List.mem_cons_of_mem _ hc)

omit [DecidableEq κ] [DecidableEq κ'] in
/-- What rows contribute under their own keys has keys of its own if it has within each row. -/
theorem Keyed.flatMap {key : α → κ} {rows : List α} (h : Keyed key rows) {tag : β → κ × κ'}
    {f : α → List β} (own : ∀ a ∈ rows, ∀ b ∈ f a, (tag b).1 = key a)
    (each : ∀ a ∈ rows, Keyed tag (f a)) : Keyed tag (rows.flatMap f) := by
  induction rows with
  | nil => exact keyed_nil tag
  | cons a rest ih =>
      obtain ⟨new, rest_keyed⟩ := keyed_cons.mp h
      obtain ⟨own_here, own_there⟩ := List.forall_mem_cons.mp own
      obtain ⟨here, there⟩ := List.forall_mem_cons.mp each
      rw [Keyed, List.flatMap_cons, List.map_append]
      refine List.nodup_append.mpr ⟨here, ih rest_keyed own_there there, ?_⟩
      intro t ht t' ht' same
      obtain ⟨b, hb, rfl⟩ := List.mem_map.mp ht
      obtain ⟨b', hb', rfl⟩ := List.mem_map.mp ht'
      obtain ⟨a', ha', hb'⟩ := List.mem_flatMap.mp hb'
      refine new a' ha' ?_
      rw [← own_there a' ha' b' hb', ← same, own_here b hb]

/-- A key that occurs occurs once. -/
theorem Keyed.countP {key : α → κ} {rows : List α} (h : Keyed key rows) {a : α} (ha : a ∈ rows) :
    rows.countP (fun b => key b = key a) = 1 := by
  have found : (rows.map key).count (key a) = 1 := by
    rw [List.Nodup.count h, if_pos (List.mem_map.mpr ⟨a, ha, rfl⟩)]
  rw [List.count, List.countP_map] at found
  rw [← found]
  exact List.countP_congr fun b _ => by simp

omit [DecidableEq κ] in
/-- Two lists with the same keys, each of them once, are as long. -/
theorem Keyed.length_eq {key : α → κ} {key' : β → κ} {rows : List α} {rows' : List β}
    (h : Keyed key rows) (h' : Keyed key' rows') (sub : ∀ a ∈ rows, ∃ b ∈ rows', key' b = key a)
    (sub' : ∀ b ∈ rows', ∃ a ∈ rows, key a = key' b) : rows.length = rows'.length := by
  have perm : (rows.map key).Perm (rows'.map key') := by
    refine (List.perm_ext_iff_of_nodup h h').mpr fun k => ⟨fun hk => ?_, fun hk => ?_⟩
    · obtain ⟨a, ha, rfl⟩ := List.mem_map.mp hk
      obtain ⟨b, hb, same⟩ := sub a ha
      exact List.mem_map.mpr ⟨b, hb, same⟩
    · obtain ⟨b, hb, rfl⟩ := List.mem_map.mp hk
      obtain ⟨a, ha, same⟩ := sub' b hb
      exact List.mem_map.mpr ⟨a, ha, same⟩
  have lengths := perm.length_eq
  rwa [List.length_map, List.length_map] at lengths

/-- Two lists in which the same is found under every key are the same up to order, as far as `view`
tells them apart. -/
theorem Keyed.map_perm {key : α → κ} {rows rows' : List α} (h : Keyed key rows)
    (h' : Keyed key rows') {view : α → β} (apart : ∀ a b, view a = view b → key a = key b)
    (same : ∀ k, (Table.find? key k rows).map view = (Table.find? key k rows').map view) :
    (rows.map view).Perm (rows'.map view) := by
  have sub : ∀ {xs ys : List α}, Keyed key xs →
      (∀ k, (Table.find? key k xs).map view = (Table.find? key k ys).map view) →
      ∀ v ∈ xs.map view, v ∈ ys.map view := by
    intro xs ys keyed same v hv
    obtain ⟨a, ha, rfl⟩ := List.mem_map.mp hv
    have found := same (key a)
    rw [keyed.find? ha, Option.map_some] at found
    obtain ⟨b, hb, eq⟩ := Option.map_eq_some_iff.mp found.symm
    exact List.mem_map.mpr ⟨b, (mem_of_find? hb).1, eq⟩
  have distinct : ∀ {xs : List α}, Keyed key xs → (xs.map view).Nodup := fun keyed =>
    keyed.of_key fun a _ b _ => apart a b
  exact (List.perm_ext_iff_of_nodup (distinct h) (distinct h')).mpr fun v =>
    ⟨sub h same v, sub h' (fun k => (same k).symm) v⟩

/-- Two lists with the same keys in the same order, each of them once, in which the same is found
under every key are the same, as far as `view` tells. -/
theorem Keyed.map_eq {key : α → κ} {rows rows' : List α} (h : Keyed key rows)
    (order : rows'.map key = rows.map key) {view : α → β}
    (same : ∀ k, (Table.find? key k rows').map view = (Table.find? key k rows).map view) :
    rows'.map view = rows.map view := by
  have h' : Keyed key rows' := by
    rw [Keyed, order]
    exact h
  have found : ∀ {xs : List α}, Keyed key xs →
      (xs.map view).map some = (xs.map key).map fun k => (Table.find? key k xs).map view := by
    intro xs keyed
    rw [List.map_map, List.map_map]
    refine List.map_congr_left fun a ha => ?_
    rw [Function.comp_apply, Function.comp_apply, keyed.find? ha, Option.map_some]
  refine (List.map_inj_right fun _ _ => Option.some.inj).mp ?_
  rw [found h', found h, order]
  exact List.map_congr_left fun k _ => same k

/-! ## Putting and modifying -/

/-- A row with a new key comes last. -/
theorem put_of_absent {key : α → κ} {a : α} {rows : List α} (h : ∀ b ∈ rows, key b ≠ key a) :
    put key a rows = rows ++ [a] := by
  induction rows with
  | nil => rfl
  | cons b rest ih =>
      obtain ⟨other, rest_other⟩ := List.forall_mem_cons.mp h
      rw [put, if_neg other, ih rest_other, List.cons_append]

/-- Putting a row brings no other rows. -/
theorem eq_or_mem_of_mem_put {key : α → κ} {a b : α} {rows : List α} (h : b ∈ put key a rows) :
    b = a ∨ b ∈ rows := by
  induction rows with
  | nil => exact Or.inl (List.mem_singleton.mp h)
  | cons c rest ih =>
      rw [put] at h
      by_cases same : key c = key a
      · rw [if_pos same] at h
        exact (List.mem_cons.mp h).imp_right (List.mem_cons_of_mem c)
      · rw [if_neg same] at h
        rcases List.mem_cons.mp h with rfl | h'
        · exact Or.inr List.mem_cons_self
        · exact (ih h').imp_right (List.mem_cons_of_mem c)

/-- After a modification there are rows as before and rows that it made of them. -/
theorem mem_or_eq_of_mem_modify {key : α → κ} {k : κ} {f : α → α} {b : α} {rows : List α}
    (h : b ∈ modify key k f rows) : b ∈ rows ∨ ∃ a ∈ rows, b = f a := by
  induction rows with
  | nil => exact nomatch h
  | cons c rest ih =>
      rw [modify] at h
      by_cases same : key c = k
      · rw [if_pos same] at h
        rcases List.mem_cons.mp h with rfl | h'
        · exact Or.inr ⟨c, List.mem_cons_self, rfl⟩
        · exact Or.inl (List.mem_cons_of_mem c h')
      · rw [if_neg same] at h
        rcases List.mem_cons.mp h with rfl | h'
        · exact Or.inl List.mem_cons_self
        · exact (ih h').imp (List.mem_cons_of_mem c)
            fun ⟨a, ha, e⟩ => ⟨a, List.mem_cons_of_mem c ha, e⟩

/-- The only row of a key is the last one. -/
theorem modify_concat {key : α → κ} {k : κ} {rows : List α} (h : ∀ b ∈ rows, key b ≠ k) {a : α}
    (ha : key a = k) (f : α → α) : modify key k f (rows ++ [a]) = rows ++ [f a] := by
  induction rows with
  | nil => exact if_pos ha
  | cons b rest ih =>
      obtain ⟨other, rest_other⟩ := List.forall_mem_cons.mp h
      rw [List.cons_append, modify, if_neg other, ih rest_other, List.cons_append]

/-- Putting a row replaces what had its key, up to the order. -/
theorem put_perm {key : α → κ} {rows : List α} (h : Keyed key rows) (a : α) :
    (put key a rows).Perm (a :: remove key (key a) rows) := by
  induction rows with
  | nil => exact List.Perm.refl _
  | cons b rest ih =>
      obtain ⟨new, rest_keyed⟩ := keyed_cons.mp h
      by_cases same : key b = key a
      · rw [put, if_pos same, remove, List.filter_cons_of_neg (by simpa using same)]
        exact List.Perm.cons _ (List.Perm.of_eq (remove_of_absent (same ▸ new)).symm)
      · rw [put, if_neg same, remove, List.filter_cons_of_pos (by simpa using same)]
        exact ((ih rest_keyed).cons b).trans (List.Perm.swap a b _)

/-- Modifying a row replaces it by what it is turned into, up to the order. -/
theorem modify_perm {key : α → κ} {rows : List α} (h : Keyed key rows) {a : α} (ha : a ∈ rows)
    (f : α → α) : (modify key (key a) f rows).Perm (f a :: remove key (key a) rows) := by
  induction rows with
  | nil => exact nomatch ha
  | cons b rest ih =>
      obtain ⟨new, rest_keyed⟩ := keyed_cons.mp h
      rcases List.mem_cons.mp ha with rfl | ha'
      · rw [modify, if_pos rfl, remove, List.filter_cons_of_neg (by simp)]
        exact List.Perm.cons _ (List.Perm.of_eq (remove_of_absent new).symm)
      · have other : ¬ key b = key a := fun same => new a ha' same.symm
        rw [modify, if_neg other, remove, List.filter_cons_of_pos (by simpa using other)]
        exact ((ih rest_keyed ha').cons b).trans (List.Perm.swap (f a) b _)

/-- Without the row of its first key, what a list is a rearrangement of is left. -/
theorem Keyed.remove_perm {key : α → κ} {rows rest : List α} (h : Keyed key rows) {a : α}
    (p : rows.Perm (a :: rest)) : (Table.remove key (key a) rows).Perm rest := by
  have new := (keyed_cons.mp (h.perm p)).1
  have front : Table.remove key (key a) (a :: rest) = rest := by
    rw [Table.remove, List.filter_cons_of_neg (by simp)]
    exact remove_of_absent new
  exact (p.filter _).trans (List.Perm.of_eq front)

/-- Keys still occur once when a row has been put. -/
theorem Keyed.put {key : α → κ} {rows : List α} (h : Keyed key rows) (a : α) :
    Keyed key (put key a rows) := by
  refine Keyed.perm (keyed_cons.mpr ⟨?_, h.remove key (key a)⟩) (put_perm h a).symm
  intro b hb
  exact (mem_remove.mp hb).2

/-- A row that was put is found under its key, and under another key what was there. -/
theorem find?_put (key : α → κ) (a : α) (rows : List α) (k : κ) :
    Table.find? key k (Table.put key a rows)
      = if k = key a then some a else Table.find? key k rows := by
  by_cases same : k = key a
  · rw [if_pos same, same, find?_put_self]
  · rw [if_neg same, find?_put_of_ne key (Ne.symm same)]

/-- A row is changed into one whose key no other row has. -/
theorem Keyed.modify {key : α → κ} {rows : List α} (h : Keyed key rows) {a : α} (ha : a ∈ rows)
    {f : α → α} (free : ∀ b ∈ rows, key b = key (f a) → b = a) :
    Keyed key (modify key (key a) f rows) := by
  refine Keyed.perm (keyed_cons.mpr ⟨?_, h.remove key (key a)⟩) (modify_perm h ha f).symm
  intro b hb same
  obtain ⟨there, other⟩ := mem_remove.mp hb
  exact other (congrArg key (free b there same))

/-- A modified row is found under its new key, nothing is found under the one it has given up, and
the others are as before. -/
theorem Keyed.find?_modify {key : α → κ} {rows : List α} (h : Keyed key rows) {a : α}
    (ha : a ∈ rows) {f : α → α} (free : ∀ b ∈ rows, key b = key (f a) → b = a) (k : κ) :
    Table.find? key k (Table.modify key (key a) f rows)
      = if k = key (f a) then some (f a)
        else if k = key a then none else Table.find? key k rows := by
  rw [(h.modify ha free).find?_perm (modify_perm h ha f), find?_cons, find?_remove]

/-- After a row has been put, it is there with all rows that have other keys. -/
theorem mem_put {key : α → κ} {rows : List α} (h : Keyed key rows) {a b : α} :
    b ∈ put key a rows ↔ b = a ∨ (b ∈ rows ∧ key b ≠ key a) := by
  rw [(put_perm h a).mem_iff, List.mem_cons, mem_remove]

/-- After a modification, the new row is there with all rows that had other keys. -/
theorem mem_modify {key : α → κ} {rows : List α} (h : Keyed key rows) {a b : α} (ha : a ∈ rows)
    (f : α → α) : b ∈ modify key (key a) f rows ↔ b = f a ∨ (b ∈ rows ∧ key b ≠ key a) := by
  rw [(modify_perm h ha f).mem_iff, List.mem_cons, mem_remove]

/-- A column in which the new row is like the row that it replaces. -/
theorem map_put {γ : Type} {key : α → κ} {a : α} {col : α → γ} {rows : List α}
    (there : ∃ b ∈ rows, key b = key a) (same : ∀ b ∈ rows, key b = key a → col b = col a) :
    (put key a rows).map col = rows.map col := by
  induction rows with
  | nil =>
      obtain ⟨b, hb, -⟩ := there
      cases hb
  | cons b rest ih =>
      obtain ⟨here, later⟩ := List.forall_mem_cons.mp same
      by_cases found : key b = key a
      · rw [put, if_pos found, List.map_cons, List.map_cons, here found]
      · obtain ⟨c, hc, mine⟩ := there
        have hc := (List.mem_cons.mp hc).resolve_left fun first => found (first ▸ mine)
        rw [put, if_neg found, List.map_cons, List.map_cons, ih ⟨c, hc, mine⟩ later]

/-- A column that the change leaves alone. -/
theorem map_modify {γ : Type} {key : α → κ} {k : κ} {f : α → α} {col : α → γ}
    (h : ∀ a, col (f a) = col a) (rows : List α) :
    (modify key k f rows).map col = rows.map col := by
  induction rows with
  | nil => rfl
  | cons b rest ih =>
      by_cases same : key b = k
      · rw [modify, if_pos same, List.map_cons, h, List.map_cons]
      · rw [modify, if_neg same, List.map_cons, ih, List.map_cons]

/-! ## Through a map -/

section Map

variable {key : α → κ} {key' : β → κ'} {f : α → β}

/-- Looking up goes through a map that keeps the key apart from all others. -/
theorem find?_map {k : κ} {k' : κ'} {rows : List α} (h : ∀ a ∈ rows, key' (f a) = k' ↔ key a = k) :
    find? key' k' (rows.map f) = (find? key k rows).map f := by
  induction rows with
  | nil => rfl
  | cons a rest ih =>
      obtain ⟨here, there⟩ := List.forall_mem_cons.mp h
      rw [List.map_cons, find?, find?, List.find?_cons, List.find?_cons]
      by_cases same : key a = k
      · rw [decide_eq_true (here.mpr same), decide_eq_true same]
        rfl
      · rw [decide_eq_false (fun e => same (here.mp e)), decide_eq_false same]
        exact ih there

/-- Removing goes through a map that keeps the key apart from all others. -/
theorem remove_map {k : κ} {k' : κ'} {rows : List α}
    (h : ∀ a ∈ rows, key' (f a) = k' ↔ key a = k) :
    remove key' k' (rows.map f) = (remove key k rows).map f := by
  rw [remove, remove, List.filter_map]
  exact congrArg _ (List.filter_congr fun a ha => by
    simp only [Function.comp, ne_eq, h a ha])

/-- Putting goes through a map that keeps the row's key apart from all others. -/
theorem put_map {a : α} {rows : List α} (h : ∀ b ∈ rows, key' (f b) = key' (f a) ↔ key b = key a) :
    put key' (f a) (rows.map f) = (put key a rows).map f := by
  induction rows with
  | nil => rfl
  | cons b rest ih =>
      obtain ⟨here, there⟩ := List.forall_mem_cons.mp h
      rw [List.map_cons, put, put]
      by_cases same : key b = key a
      · rw [if_pos (here.mpr same), if_pos same, List.map_cons]
      · rw [if_neg (fun e => same (here.mp e)), if_neg same, List.map_cons, ih there]

/-- Modifying goes through a map that keeps the key apart from all others. -/
theorem modify_map {k : κ} {k' : κ'} {g : α → α} {g' : β → β} {rows : List α}
    (h : ∀ a ∈ rows, key' (f a) = k' ↔ key a = k) (hg : ∀ a ∈ rows, g' (f a) = f (g a)) :
    modify key' k' g' (rows.map f) = (modify key k g rows).map f := by
  induction rows with
  | nil => rfl
  | cons b rest ih =>
      obtain ⟨here, there⟩ := List.forall_mem_cons.mp h
      obtain ⟨here', there'⟩ := List.forall_mem_cons.mp hg
      rw [List.map_cons, modify, modify]
      by_cases same : key b = k
      · rw [if_pos (here.mpr same), if_pos same, List.map_cons, here']
      · rw [if_neg (fun e => same (here.mp e)), if_neg same, List.map_cons, ih there there']

end Map

/-! ## Through a filter -/

section Filter

variable {key : α → κ} {P : α → Bool}

/-- Removing and filtering may change places. -/
theorem remove_filter (k : κ) (rows : List α) :
    (remove key k rows).filter P = remove key k (rows.filter P) := by
  rw [remove, remove, List.filter_filter, List.filter_filter]
  exact List.filter_congr fun a _ => Bool.and_comm _ _

/-- A row that passes the filter is found behind it as it is found without it. -/
theorem find?_filter {k : κ} {rows : List α} (h : ∀ a ∈ rows, key a = k → P a = true) :
    find? key k (rows.filter P) = find? key k rows := by
  induction rows with
  | nil => rfl
  | cons a rest ih =>
      obtain ⟨here, there⟩ := List.forall_mem_cons.mp h
      by_cases same : key a = k
      · rw [List.filter_cons_of_pos (here same), find?, find?,
          List.find?_cons_of_pos (by simpa using same),
          List.find?_cons_of_pos (by simpa using same)]
      · rw [find?, find?, List.find?_cons_of_neg (by simpa using same), List.filter_cons]
        split
        · rw [List.find?_cons_of_neg (by simpa using same)]
          exact ih there
        · exact ih there

/-- Putting a row that passes goes through the filter, if all rows with its key pass. -/
theorem put_filter {a : α} {rows : List α} (ha : P a = true)
    (h : ∀ b ∈ rows, key b = key a → P b = true) :
    (put key a rows).filter P = put key a (rows.filter P) := by
  induction rows with
  | nil => rw [put, List.filter_cons_of_pos ha, List.filter_nil, put]
  | cons b rest ih =>
      obtain ⟨here, there⟩ := List.forall_mem_cons.mp h
      rw [put]
      by_cases same : key b = key a
      · rw [if_pos same, List.filter_cons_of_pos ha, List.filter_cons_of_pos (here same), put,
          if_pos same]
      · rw [if_neg same, List.filter_cons, List.filter_cons, ih there]
        split
        · rw [put, if_neg same]
        · rfl

/-- Modifying goes through a filter that lets the row pass before and after. -/
theorem modify_filter {k : κ} {f : α → α} {rows : List α}
    (h : ∀ b ∈ rows, key b = k → P b = true ∧ P (f b) = true) :
    (modify key k f rows).filter P = modify key k f (rows.filter P) := by
  induction rows with
  | nil => rfl
  | cons b rest ih =>
      obtain ⟨here, there⟩ := List.forall_mem_cons.mp h
      rw [modify]
      by_cases same : key b = k
      · obtain ⟨before, after⟩ := here same
        rw [if_pos same, List.filter_cons_of_pos after, List.filter_cons_of_pos before, modify,
          if_pos same]
      · rw [if_neg same, List.filter_cons, List.filter_cons, ih there]
        split
        · rw [modify, if_neg same]
        · rfl

/-- Removing what the filter hides is not seen behind it. -/
theorem remove_hidden {k : κ} {rows : List α} (h : ∀ b ∈ rows, key b = k → P b = false) :
    (remove key k rows).filter P = rows.filter P := by
  rw [remove, List.filter_filter]
  refine List.filter_congr fun b hb => ?_
  by_cases here : key b = k
  · simp [here, h b hb here]
  · simp [here]

/-- Putting what the filter hides is not seen behind it. -/
theorem put_hidden {a : α} {rows : List α} (ha : P a = false)
    (h : ∀ b ∈ rows, key b = key a → P b = false) : (put key a rows).filter P = rows.filter P := by
  have hidden : ∀ {b : α}, P b = false → ¬ P b = true := fun none => by simp [none]
  induction rows with
  | nil => exact List.filter_cons_of_neg (hidden ha)
  | cons b rest ih =>
      obtain ⟨here, there⟩ := List.forall_mem_cons.mp h
      rw [put]
      by_cases same : key b = key a
      · rw [if_pos same, List.filter_cons_of_neg (hidden ha),
          List.filter_cons_of_neg (hidden (here same))]
      · rw [if_neg same, List.filter_cons, List.filter_cons, ih there]

/-- Modifying what the filter hides, if it stays hidden, is not seen behind it. -/
theorem modify_hidden {k : κ} {f : α → α} {rows : List α}
    (h : ∀ b ∈ rows, key b = k → P b = false ∧ P (f b) = false) :
    (modify key k f rows).filter P = rows.filter P := by
  have hidden : ∀ {b : α}, P b = false → ¬ P b = true := fun none => by simp [none]
  induction rows with
  | nil => rfl
  | cons b rest ih =>
      obtain ⟨here, there⟩ := List.forall_mem_cons.mp h
      rw [modify]
      by_cases same : key b = k
      · obtain ⟨before, after⟩ := here same
        rw [if_pos same, List.filter_cons_of_neg (hidden after),
          List.filter_cons_of_neg (hidden before)]
      · rw [if_neg same, List.filter_cons, List.filter_cons, ih there]

/-- Two lists are the same up to order if they are the same under every key. -/
theorem perm_of_filter_key [DecidableEq α] {xs ys : List α}
    (same : ∀ k, xs.filter (fun a => key a = k) = ys.filter fun a => key a = k) : xs.Perm ys := by
  refine List.perm_iff_count.mpr fun a => ?_
  have here := congrArg (List.count a) (same (key a))
  rwa [List.count_filter (by simp), List.count_filter (by simp)] at here

omit [DecidableEq κ] in
/-- Two lists are the same up to order if two parts of the one are two parts of the other, as far as
`f` and `g` tell. -/
theorem perm_of_filter_eq {Q : α → Bool} {f g : α → β} {xs ys : List α}
    (inside : (xs.filter P).map f = (ys.filter Q).map g)
    (outside : (xs.filter (!P ·)).map f = (ys.filter (!Q ·)).map g) :
    (xs.map f).Perm (ys.map g) := by
  have left := (List.filter_append_perm P xs).map f
  have right := (List.filter_append_perm Q ys).map g
  rw [List.map_append] at left right
  rw [inside, outside] at left
  exact left.symm.trans right

end Filter

end Overlay.Table
