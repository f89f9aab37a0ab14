import Overlay.Dhcp.Plan

/-!
# What a plan consists of

A plan first takes every binding that a port has, once, and then binds addresses anew. If the
addresses that the port should have are distinct, a binding that gets another address gets one that
no binding of the port has in the same subnet: had there been such a binding, it would have been
paired with this address.

Main statement: `exists_parts`.
-/

namespace Overlay.Dhcp

/-! ## Pairing by subnet and address -/

/-- A row and a wish match if subnet and address are the same. -/
theorem sameAddress_iff {b : Store.Binding} {d : Desired} :
    sameAddress b d = true ↔ d.subnetId = b.subnetId ∧ d.address = b.address := by
  rw [sameAddress, Bool.and_eq_true, decide_eq_true_iff, decide_eq_true_iff]

/-- The first equal address comes out of the list. -/
theorem perm_cons_eraseP {b : Store.Binding} {d : Desired} {desired : List Desired}
    (found : desired.find? (sameAddress b) = some d) :
    desired.Perm (d :: desired.eraseP (sameAddress b)) := by
  induction desired with
  | nil => exact nomatch found
  | cons c rest ih =>
      by_cases here : sameAddress b c = true
      · rw [List.find?_cons_of_pos here] at found
        rw [List.eraseP_cons_of_pos here, Option.some.inj found]
      · rw [List.find?_cons_of_neg here] at found
        rw [List.eraseP_cons_of_neg here]
        exact ((ih found).cons c).trans (List.Perm.swap d c _)

/-- Every row is matched or removed, and no row is both. -/
theorem perm_matched_removed (current : List Store.Binding) (desired : List Desired) :
    ((matchAddresses current desired).matched.map (·.1)
      ++ (matchAddresses current desired).removed).Perm current := by
  induction current generalizing desired with
  | nil => exact List.Perm.refl _
  | cons b rest ih =>
      rw [matchAddresses]
      cases found : desired.find? (sameAddress b) with
      | some d => exact (ih _).cons b
      | none => exact List.perm_middle.trans ((ih _).cons b)

/-- Every wish is matched or added, and no wish is both. -/
theorem perm_matched_added (current : List Store.Binding) (desired : List Desired) :
    ((matchAddresses current desired).matched.map (·.2)
      ++ (matchAddresses current desired).added).Perm desired := by
  induction current generalizing desired with
  | nil => exact List.Perm.refl _
  | cons b rest ih =>
      rw [matchAddresses]
      cases found : desired.find? (sameAddress b) with
      | some d => exact ((ih _).cons d).trans (perm_cons_eraseP found).symm
      | none => exact ih _

/-- Row and wish of a match have the same subnet and address. -/
theorem sameAddress_of_matched {current : List Store.Binding} {desired : List Desired}
    {b : Store.Binding} {d : Desired}
    (h : (b, d) ∈ (matchAddresses current desired).matched) : sameAddress b d = true := by
  induction current generalizing desired with
  | nil => exact nomatch h
  | cons c rest ih =>
      rw [matchAddresses] at h
      cases found : desired.find? (sameAddress c) with
      | some d' =>
          rw [found] at h
          rcases List.mem_cons.mp h with same | later
          · obtain ⟨rfl, rfl⟩ := Prod.mk.inj same
            exact List.find?_some found
          · exact ih later
      | none =>
          rw [found] at h
          exact ih h

/-- What is left over to be added is in no binding's place. -/
theorem not_sameAddress_of_added {current : List Store.Binding} {desired : List Desired}
    (distinct : (desired.map (·.address)).Nodup) {d : Desired}
    (hd : d ∈ (matchAddresses current desired).added) {b : Store.Binding} (hb : b ∈ current) :
    ¬ sameAddress b d = true := by
  induction current generalizing desired with
  | nil => exact nomatch hb
  | cons c rest ih =>
      have left_over : ∀ desired', d ∈ (matchAddresses rest desired').added → d ∈ desired' :=
        fun desired' h => (perm_matched_added rest desired').subset (List.mem_append_right _ h)
      rw [matchAddresses] at hd
      cases found : desired.find? (sameAddress c) with
      | some d' =>
          rw [found] at hd
          obtain ⟨other, rest_distinct⟩ :=
            List.nodup_cons.mp (((perm_cons_eraseP found).map (·.address)).nodup distinct)
          rcases List.mem_cons.mp hb with rfl | hb'
          · intro same
            refine other (List.mem_map.mpr ⟨d, left_over _ hd, ?_⟩)
            exact (sameAddress_iff.mp same).2.trans
              (sameAddress_iff.mp (List.find?_some found)).2.symm
          · exact ih rest_distinct hd hb'
      | none =>
          rw [found] at hd
          rcases List.mem_cons.mp hb with rfl | hb'
          · exact List.find?_eq_none.mp found d (left_over _ hd)
          · exact ih distinct hd hb'

/-! ## The two parts of a plan -/

/-- A binding that a port has, and what becomes of it. -/
abbrev Fate := Store.Binding × Option Desired

/-- The changes of bindings that a port has. -/
def edits (fates : List Fate) (t : Template) : List Change :=
  (fates.map fun f => transition (some f.1) f.2 t).filter (· ≠ .keep)

/-- The edits are made row by row, and a row that is kept needs none. -/
theorem edits_cons (f : Fate) (fates : List Fate) (t : Template) :
    edits (f :: fates) t = if transition (some f.1) f.2 t = .keep then edits fates t
      else transition (some f.1) f.2 t :: edits fates t := by
  rw [edits, edits, List.map_cons, List.filter_cons]
  by_cases keep : transition (some f.1) f.2 t = .keep
  · rw [if_pos keep, if_neg (by simpa using keep)]
  · rw [if_neg keep, if_pos (by simpa using keep)]

/-- What a plan for these bindings and addresses is made of. -/
structure Parts (current : List Store.Binding) (desired : List Desired) (fates : List Fate)
    (news : List Desired) : Prop where
  bindings : (fates.map (·.1)).Perm current
  addresses : (fates.filterMap (·.2) ++ news).Perm desired
  /-- A binding that gets another address is not in the way of one that stays. -/
  apart : (desired.map (·.address)).Nodup → ∀ b d, (b, some d) ∈ fates → b.address ≠ d.address →
    ∀ c ∈ current, ¬ sameAddress c d = true

/-- Bindings that get an address, the same or another one. -/
def given (pairs : List (Store.Binding × Desired)) : List Fate := pairs.map fun f => (f.1, some f.2)

/-- Bindings that get none. -/
def dropped (rows : List Store.Binding) : List Fate := rows.map fun b => (b, none)

theorem bindings_given (pairs : List (Store.Binding × Desired)) :
    (given pairs).map (·.1) = pairs.map (·.1) := List.map_map

theorem bindings_dropped (rows : List Store.Binding) : (dropped rows).map (·.1) = rows :=
  List.map_map.trans (List.map_id rows)

theorem addresses_given (pairs : List (Store.Binding × Desired)) :
    (given pairs).filterMap (·.2) = pairs.map (·.2) := by
  induction pairs with
  | nil => rfl
  | cons f rest ih => exact congrArg (f.2 :: ·) ih

theorem addresses_dropped (rows : List Store.Binding) : (dropped rows).filterMap (·.2) = [] := by
  induction rows with
  | nil => rfl
  | cons b rest ih => exact ih

/-- A row is given what it is paired with. -/
theorem mem_given {pairs : List (Store.Binding × Desired)} {b : Store.Binding} {d : Desired} :
    (b, some d) ∈ given pairs ↔ (b, d) ∈ pairs := by
  rw [given, List.mem_map]
  constructor
  · rintro ⟨f, hf, eq⟩
    cases eq
    exact hf
  · exact fun h => ⟨(b, d), h, rfl⟩

theorem not_mem_dropped {rows : List Store.Binding} {b : Store.Binding} {d : Desired} :
    (b, some d) ∉ dropped rows := by
  intro h
  obtain ⟨c, -, eq⟩ := List.mem_map.mp h
  exact nomatch (Prod.mk.inj eq).2

/-- Lists that name the same subnets can be paired by position. -/
theorem length_of_sameSubnets {removed : List Store.Binding} {added : List Desired}
    (same : sameSubnets removed added = true) : removed.length = added.length := by
  have subnets : removed.map (·.subnetId) = added.map (·.subnetId) := eq_of_beq same
  simpa using congrArg List.length subnets

/-- Pairing gives every row a fate and leaves the wishes that no row can be given. -/
theorem exists_pairs (current : List Store.Binding) (desired : List Desired) :
    ∃ fates news, Parts current desired fates news ∧
      pairBindings current desired
        = fates.map (fun f => (some f.1, f.2)) ++ news.map fun d => (none, some d) := by
  obtain ⟨m, hm⟩ : ∃ m, matchAddresses current desired = m := ⟨_, rfl⟩
  have bindings := hm ▸ perm_matched_removed current desired
  have addresses := hm ▸ perm_matched_added current desired
  have kept : ∀ b d, (b, d) ∈ m.matched → b.address = d.address := fun b d h =>
    (sameAddress_iff.mp (sameAddress_of_matched (hm ▸ h))).2.symm
  have free : (desired.map (·.address)).Nodup → ∀ d ∈ m.added, ∀ c ∈ current,
      ¬ sameAddress c d = true := fun distinct d hd c hc =>
    not_sameAddress_of_added distinct (hm ▸ hd) hc
  rw [pairBindings, hm]
  by_cases same : sameSubnets m.removed m.added = true
  -- the removed and the added are paired by position, and no binding is new
  · have len := length_of_sameSubnets same
    refine ⟨given m.matched ++ given (m.removed.zip m.added), [], ⟨?_, ?_, ?_⟩, ?_⟩
    · rw [List.map_append, bindings_given, bindings_given]
      show (_ ++ (m.removed.zip m.added).map Prod.fst).Perm current
      rw [List.map_fst_zip (by omega)]
      exact bindings
    · rw [List.filterMap_append, addresses_given, addresses_given, List.append_nil]
      show (_ ++ (m.removed.zip m.added).map Prod.snd).Perm desired
      rw [List.map_snd_zip (by omega)]
      exact addresses
    · intro distinct b d hf other c hc
      rcases List.mem_append.mp hf with old | moved
      · exact absurd (kept b d (mem_given.mp old)) other
      · exact free distinct d (List.of_mem_zip (mem_given.mp moved)).2 c hc
    · rw [if_pos same, List.map_append, given, given, List.map_map, List.map_map, List.map_nil,
        List.append_nil]
      rfl
  -- the removed go, and the added are new
  · refine ⟨given m.matched ++ dropped m.removed, m.added, ⟨?_, ?_, ?_⟩, ?_⟩
    · rw [List.map_append, bindings_given, bindings_dropped]
      exact bindings
    · rw [List.filterMap_append, addresses_given, addresses_dropped, List.append_nil]
      exact addresses
    · intro distinct b d hf other c hc
      rcases List.mem_append.mp hf with old | gone
      · exact absurd (kept b d (mem_given.mp old)) other
      · exact absurd gone not_mem_dropped
    · rw [if_neg same, List.map_append, given, dropped, List.map_map, List.map_map]
      rfl

/-- The bindings that are paired with an address are those with such a fate. -/
theorem paired_iff_fate {current : List Store.Binding} {desired news : List Desired}
    {fates : List Fate}
    (pairs : pairBindings current desired
      = fates.map (fun f => (some f.1, f.2)) ++ news.map fun d => (none, some d))
    {b : Store.Binding} {d : Desired} :
    (some b, some d) ∈ pairBindings current desired ↔ (b, some d) ∈ fates := by
  rw [pairs, List.mem_append]
  constructor
  · rintro (old | new)
    · obtain ⟨⟨b', d'⟩, hf, eq⟩ := List.mem_map.mp old
      cases eq
      exact hf
    · obtain ⟨d', -, eq⟩ := List.mem_map.mp new
      exact nomatch (Prod.mk.inj eq).1
  · exact fun hf => Or.inl (List.mem_map.mpr ⟨(b, some d), hf, rfl⟩)

/-- A wish without a row is an address that is to be created. -/
theorem filter_created (news : List Desired) (t : Template) :
    (news.map fun d => transition none (some d) t).filter (· ≠ .keep) = news.map .create := by
  refine List.filter_eq_self.mpr fun c hc => ?_
  obtain ⟨d, -, rfl⟩ := List.mem_map.mp hc
  rfl

/-- A plan edits rows first, and creates what is left then. -/
theorem plan_of_pairs {current : List Store.Binding} {desired news : List Desired}
    {fates : List Fate}
    (pairs : pairBindings current desired
      = fates.map (fun f => (some f.1, f.2)) ++ news.map fun d => (none, some d)) (t : Template) :
    plan current desired t = edits fates t ++ news.map .create := by
  rw [plan, pairs, List.map_append, List.filter_append, List.map_map, List.map_map]
  exact congrArg _ (filter_created news t)

/-- The two parts of a plan. -/
theorem exists_parts (current : List Store.Binding) (desired : List Desired) (t : Template) :
    ∃ fates news, Parts current desired fates news ∧
      plan current desired t = edits fates t ++ news.map .create := by
  obtain ⟨fates, news, parts, pairs⟩ := exists_pairs current desired
  exact ⟨fates, news, parts, plan_of_pairs pairs t⟩

/-- With no bindings to start from, every address is bound. -/
theorem plan_nil (desired : List Desired) (t : Template) :
    plan [] desired t = desired.map .create := by
  have all : pairBindings [] desired = desired.map fun d => (none, some d) := by
    rw [pairBindings, matchAddresses]
    cases desired with
    | nil => rfl
    | cons d rest => rfl
  rw [plan, all, List.map_map]
  exact filter_created desired t

end Overlay.Dhcp
