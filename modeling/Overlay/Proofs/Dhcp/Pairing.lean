import Mathlib.Data.List.Perm.Basic
import Overlay.Proofs.Dhcp.Plan

/-!
# How bindings are paired

A pairing takes every binding that a port has and every one that it should have exactly once, by
position, however often equal ones occur. Bindings with the same subnet and address are paired as
often as both sides have them; what is left over then has no subnet and address in common, and is
paired as a whole, inside its subnets, or not at all.

Main statement: `pairing_pairBindings`.
-/

namespace Overlay.Dhcp

/-- The address of a binding, with its subnet. -/
def heldAt (b : Store.Binding) : String × IPv4 := (b.subnetId, b.address)

/-- The address of a binding that is to be, with its subnet. -/
def wantedAt (d : Desired) : String × IPv4 := (d.subnetId, d.address)

theorem sameAddress_iff_eq {b : Store.Binding} {d : Desired} :
    sameAddress b d = true ↔ wantedAt d = heldAt b := by
  rw [sameAddress_iff, wantedAt, heldAt, Prod.mk.injEq]

/-- Whether both sides of a pair are there and have this subnet and address. -/
def Pair.bothAt (k : String × IPv4) : Pair → Bool
  | (some b, some d) => heldAt b = k && wantedAt d = k
  | _ => false

/-- What is asked of a pairing of the bindings that a port has with those that it should have. -/
structure Pairing (current : List Store.Binding) (desired : List Desired) (pairs : List Pair) :
    Prop where
  /-- Each position of either list is taken once. -/
  once : ∃ places : List (Option (Fin current.length) × Option (Fin desired.length)),
    pairs = places.map (fun p => (p.1.map current.get, p.2.map desired.get)) ∧
    (places.filterMap (·.1)).Perm (List.finRange current.length) ∧
    (places.filterMap (·.2)).Perm (List.finRange desired.length)
  not_empty : (none, none) ∉ pairs
  subnet : ∀ b d, (some b, some d) ∈ pairs → b.subnetId = d.subnetId
  /-- No two bindings with the same subnet and address are kept apart. -/
  exact_count : ∀ k, pairs.countP (Pair.bothAt k)
    = min ((current.map heldAt).count k) ((desired.map wantedAt).count k)
  /-- Addresses are moved only if nothing is left over. -/
  exact_only : (∃ p ∈ pairs, p.1 = none ∨ p.2 = none) →
    ∀ b d, (some b, some d) ∈ pairs → heldAt b = wantedAt d

/-! ## By position -/

section Positions

variable {α β : Type}

/-- A list that is a rearrangement of `l` but for gaps takes each position of `l` once. -/
theorem exists_positions {l : List α} {sides : List (Option α)}
    (h : (sides.filterMap id).Perm l) :
    ∃ places : List (Option (Fin l.length)), sides = places.map (Option.map l.get) ∧
      (places.filterMap id).Perm (List.finRange l.length) := by
  have self : List.Forall₂ (fun a i => a = l.get i) l (List.finRange l.length) := by
    have listed : List.Forall₂ (fun a i => a = l.get i) ((List.finRange l.length).map l.get)
        (List.finRange l.length) := by
      rw [List.forall₂_map_left_iff, List.forall₂_same]
      exact fun _ _ => rfl
    rwa [List.map_get_finRange] at listed
  obtain ⟨taken, follow, each⟩ := List.perm_comp_forall₂ h self
  -- the gaps are put back where they were
  have filled : ∀ taken : List (Fin l.length),
      List.Forall₂ (fun a i => a = l.get i) (sides.filterMap id) taken →
      ∃ places : List (Option (Fin l.length)), sides = places.map (Option.map l.get) ∧
        places.filterMap id = taken := by
    clear h follow each
    induction sides with
    | nil =>
        intro taken follow
        cases follow
        exact ⟨[], rfl, rfl⟩
    | cons side rest ih =>
        intro taken follow
        cases side with
        | none =>
            obtain ⟨places, eq, same⟩ := ih taken follow
            exact ⟨none :: places, congrArg (none :: ·) eq, same⟩
        | some a =>
            change List.Forall₂ _ (a :: rest.filterMap id) taken at follow
            cases follow with
            | cons here there =>
                obtain ⟨places, eq, same⟩ := ih _ there
                refine ⟨some _ :: places, ?_, congrArg (_ :: ·) same⟩
                rw [List.map_cons, ← eq, Option.map_some, ← here]
  obtain ⟨places, eq, rfl⟩ := filled taken follow
  exact ⟨places, eq, each⟩

/-- The same for the two sides of a list of pairs. -/
theorem exists_places {l : List α} {m : List β} {pairs : List (Option α × Option β)}
    (left : (pairs.filterMap (·.1)).Perm l) (right : (pairs.filterMap (·.2)).Perm m) :
    ∃ places : List (Option (Fin l.length) × Option (Fin m.length)),
      pairs = places.map (fun p => (p.1.map l.get, p.2.map m.get)) ∧
      (places.filterMap (·.1)).Perm (List.finRange l.length) ∧
      (places.filterMap (·.2)).Perm (List.finRange m.length) := by
  have lefts : ((pairs.map (·.1)).filterMap id).Perm l := by rwa [List.filterMap_map]
  have rights : ((pairs.map (·.2)).filterMap id).Perm m := by rwa [List.filterMap_map]
  obtain ⟨is, eq, each⟩ := exists_positions lefts
  obtain ⟨js, eq', each'⟩ := exists_positions rights
  -- both lists of places are as long as the list of pairs
  have len : is.length = js.length := by
    have := congrArg List.length eq
    have := congrArg List.length eq'
    simp only [List.length_map] at *
    omega
  have firsts : (is.zip js).map Prod.fst = is := List.map_fst_zip (by omega)
  have seconds : (is.zip js).map Prod.snd = js := List.map_snd_zip (by omega)
  refine ⟨is.zip js, ?_, ?_, ?_⟩
  · have zipped : (pairs.map (·.1)).zip (pairs.map (·.2)) = pairs :=
      (List.zip_of_prod rfl rfl).symm
    rw [← zipped, eq, eq', List.zip_map]
    rfl
  · rw [show ((fun p : Option (Fin l.length) × Option (Fin m.length) => p.1)) = id ∘ Prod.fst
      from rfl, ← List.filterMap_map, firsts]
    exact each
  · rw [show ((fun p : Option (Fin l.length) × Option (Fin m.length) => p.2)) = id ∘ Prod.snd
      from rfl, ← List.filterMap_map, seconds]
    exact each'

end Positions

/-! ## What is paired and what is left over -/

variable {current : List Store.Binding} {desired : List Desired}

/-- What is left over on one side has no subnet and address in common with what is left over on the
other. -/
theorem apart_of_left_over {b : Store.Binding} {d : Desired}
    (hb : b ∈ (matchAddresses current desired).removed)
    (hd : d ∈ (matchAddresses current desired).added) : wantedAt d ≠ heldAt b := by
  induction current generalizing desired with
  | nil => exact nomatch hb
  | cons c rest ih =>
      rw [matchAddresses] at hb hd
      cases found : desired.find? (sameAddress c) with
      | some d' =>
          rw [found] at hb hd
          exact ih hb hd
      | none =>
          rw [found] at hb hd
          rcases List.mem_cons.mp hb with rfl | later
          -- nothing that is still free is in the binding's place
          · have free : d ∈ desired := (perm_matched_added rest desired).subset
              (List.mem_append_right _ hd)
            exact fun same => List.find?_eq_none.mp found d free (sameAddress_iff_eq.mpr same)
          · exact ih later hd

/-- Pairs with both sides. -/
def twoSided (matched : List (Store.Binding × Desired)) : List Pair :=
  matched.map fun f => (some f.1, some f.2)

theorem mem_twoSided {matched : List (Store.Binding × Desired)} {b : Store.Binding} {d : Desired} :
    (some b, some d) ∈ twoSided matched ↔ (b, d) ∈ matched := by
  simp [twoSided]

theorem one_of_twoSided {matched : List (Store.Binding × Desired)} {p : Pair}
    (h : p ∈ twoSided matched) : p.1 ≠ none ∧ p.2 ≠ none := by
  obtain ⟨f, -, rfl⟩ := List.mem_map.mp h
  exact ⟨Option.some_ne_none _, Option.some_ne_none _⟩

theorem lefts_twoSided (matched : List (Store.Binding × Desired)) :
    (twoSided matched).filterMap (·.1) = matched.map (·.1) := by
  induction matched with
  | nil => rfl
  | cons f rest ih => exact congrArg (f.1 :: ·) ih

theorem rights_twoSided (matched : List (Store.Binding × Desired)) :
    (twoSided matched).filterMap (·.2) = matched.map (·.2) := by
  induction matched with
  | nil => rfl
  | cons f rest ih => exact congrArg (f.2 :: ·) ih

/-- Where all pairs are exact, those at a place are as many as their left sides there. -/
theorem countP_twoSided {matched : List (Store.Binding × Desired)}
    (same : ∀ b d, (b, d) ∈ matched → wantedAt d = heldAt b) (k : String × IPv4) :
    (twoSided matched).countP (Pair.bothAt k) = ((matched.map (·.1)).map heldAt).count k := by
  induction matched with
  | nil => rfl
  | cons f rest ih =>
      have here := same f.1 f.2 List.mem_cons_self
      have there := ih fun b d h => same b d (List.mem_cons_of_mem _ h)
      rw [twoSided] at there
      rw [twoSided, List.map_cons, List.countP_cons, there, List.map_cons, List.map_cons,
        List.count_cons]
      congr 1
      simp [Pair.bothAt, here]

theorem exact_of_matched {b : Store.Binding} {d : Desired}
    (h : (b, d) ∈ (matchAddresses current desired).matched) : wantedAt d = heldAt b :=
  sameAddress_iff_eq.mp (sameAddress_of_matched h)

/-- The pairs that match are as many at each place as both sides have there. -/
theorem countP_matched (k : String × IPv4) :
    (twoSided (matchAddresses current desired).matched).countP (Pair.bothAt k)
      = min ((current.map heldAt).count k) ((desired.map wantedAt).count k) := by
  obtain ⟨m, hm⟩ : ∃ m, matchAddresses current desired = m := ⟨_, rfl⟩
  have exact_pairs : ∀ b d, (b, d) ∈ m.matched → wantedAt d = heldAt b := fun b d h =>
    exact_of_matched (hm ▸ h)
  have held := ((hm ▸ perm_matched_removed current desired).map heldAt).count_eq k
  have wanted := ((hm ▸ perm_matched_added current desired).map wantedAt).count_eq k
  rw [List.map_append, List.count_append] at held wanted
  have sides : ((m.matched.map (·.1)).map heldAt) = ((m.matched.map (·.2)).map wantedAt) := by
    rw [List.map_map, List.map_map]
    exact List.map_congr_left fun f hf => (exact_pairs f.1 f.2 hf).symm
  rw [← sides] at wanted
  have left_over : (m.removed.map heldAt).count k = 0 ∨ (m.added.map wantedAt).count k = 0 := by
    by_contra both
    obtain ⟨removed, added⟩ := not_or.mp both
    obtain ⟨b, hb, rfl⟩ := List.mem_map.mp (List.count_pos_iff.mp (Nat.pos_of_ne_zero removed))
    obtain ⟨d, hd, same⟩ := List.mem_map.mp (List.count_pos_iff.mp (Nat.pos_of_ne_zero added))
    exact apart_of_left_over (hm ▸ hb) (hm ▸ hd) same
  rw [hm, countP_twoSided exact_pairs]
  omega

/-- Pairs by position are pairs within a subnet. -/
theorem subnet_of_zip {removed : List Store.Binding} {added : List Desired}
    (same : sameSubnets removed added = true) {b : Store.Binding} {d : Desired}
    (h : (b, d) ∈ removed.zip added) : b.subnetId = d.subnetId := by
  have subnets : removed.map (·.subnetId) = added.map (·.subnetId) := eq_of_beq same
  have len := length_of_sameSubnets same
  obtain ⟨i, hi, eq⟩ := List.mem_iff_getElem.mp h
  rw [List.getElem_zip] at eq
  obtain ⟨rfl, rfl⟩ := Prod.mk.inj eq
  have at_i := congrArg (·[i]?) subnets
  rw [List.length_zip] at hi
  simpa [List.getElem?_eq_getElem (show i < removed.length by omega),
    List.getElem?_eq_getElem (show i < added.length by omega)] using at_i

/-- A binding that moves has another place than the address it gets. -/
theorem countP_left_over (k : String × IPv4) :
    (twoSided ((matchAddresses current desired).removed.zip
      (matchAddresses current desired).added)).countP (Pair.bothAt k) = 0 := by
  refine List.countP_eq_zero.mpr fun p hp => ?_
  obtain ⟨f, hf, rfl⟩ := List.mem_map.mp hp
  obtain ⟨hb, hd⟩ := List.of_mem_zip hf
  have apart := apart_of_left_over hb hd
  simp only [Pair.bothAt, Bool.and_eq_true, decide_eq_true_eq]
  rintro ⟨held, want⟩
  exact apart (want.trans held.symm)

/-! ## The pairing -/

/-- What is left over is paired by position if it names the same subnets. -/
theorem pairing_of_sameSubnets
    (same : sameSubnets (matchAddresses current desired).removed
      (matchAddresses current desired).added = true) :
    Pairing current desired (pairBindings current desired) := by
  have counted := @countP_matched current desired
  -- what the rows and wishes have in common is fixed from here on
  obtain ⟨m, hm⟩ : ∃ m, matchAddresses current desired = m := ⟨_, rfl⟩
  have bindings := hm ▸ perm_matched_removed current desired
  have wanted := hm ▸ perm_matched_added current desired
  rw [hm] at same counted
  have len := length_of_sameSubnets same
  have pairs : pairBindings current desired
      = twoSided m.matched ++ twoSided (m.removed.zip m.added) := by
    rw [pairBindings, hm]
    exact if_pos same
  rw [pairs]
  refine ⟨exists_places ?_ ?_, ?_, ?_, ?_, ?_⟩
  · rw [List.filterMap_append, lefts_twoSided, lefts_twoSided]
    show (_ ++ (m.removed.zip m.added).map Prod.fst).Perm current
    rwa [List.map_fst_zip (by omega)]
  · rw [List.filterMap_append, rights_twoSided, rights_twoSided]
    show (_ ++ (m.removed.zip m.added).map Prod.snd).Perm desired
    rwa [List.map_snd_zip (by omega)]
  · intro empty
    rcases List.mem_append.mp empty with h | h
    · exact (one_of_twoSided h).1 rfl
    · exact (one_of_twoSided h).1 rfl
  · intro b d h
    rcases List.mem_append.mp h with kept | moved
    · exact (congrArg Prod.fst (exact_of_matched (hm ▸ mem_twoSided.mp kept))).symm
    · exact subnet_of_zip same (mem_twoSided.mp moved)
  · intro k
    -- what is left over has no address in common, so a moved pair never counts
    have none_moved : (twoSided (m.removed.zip m.added)).countP (Pair.bothAt k) = 0 := by
      rw [← hm]
      exact countP_left_over k
    rw [List.countP_append, none_moved, Nat.add_zero, counted]
  · rintro ⟨p, hp, one⟩
    rcases List.mem_append.mp hp with h | h
    · exact absurd one (not_or.mpr (one_of_twoSided h))
    · exact absurd one (not_or.mpr (one_of_twoSided h))

/-- Otherwise what is left over stays without another side. -/
theorem pairing_of_not_sameSubnets
    (other : ¬ sameSubnets (matchAddresses current desired).removed
      (matchAddresses current desired).added = true) :
    Pairing current desired (pairBindings current desired) := by
  have counted := @countP_matched current desired
  obtain ⟨m, hm⟩ : ∃ m, matchAddresses current desired = m := ⟨_, rfl⟩
  have bindings := hm ▸ perm_matched_removed current desired
  have wanted := hm ▸ perm_matched_added current desired
  rw [hm] at other counted
  have pairs : pairBindings current desired = twoSided m.matched
      ++ m.removed.map (fun b => (some b, none)) ++ m.added.map (fun d => (none, some d)) := by
    rw [pairBindings, hm]
    exact if_neg other
  -- with both sides there are only the matches
  have only_matched : ∀ b d, (some b, some d) ∈ pairBindings current desired →
      (b, d) ∈ m.matched := by
    intro b d h
    rw [pairs] at h
    simpa [twoSided] using h
  refine ⟨exists_places ?_ ?_, ?_, ?_, ?_, ?_⟩
  · rw [pairs, List.filterMap_append, List.filterMap_append, lefts_twoSided]
    simpa [List.filterMap_map, Function.comp_def] using bindings
  · rw [pairs, List.filterMap_append, List.filterMap_append, rights_twoSided]
    simpa [List.filterMap_map, Function.comp_def] using wanted
  · rw [pairs]
    simp [twoSided]
  · intro b d h
    exact (congrArg Prod.fst (exact_of_matched (hm ▸ only_matched b d h))).symm
  · intro k
    rw [pairs, List.countP_append, List.countP_append, counted]
    simp [List.countP_map, Function.comp_def, Pair.bothAt]
  · intro _ b d h
    exact (exact_of_matched (hm ▸ only_matched b d h)).symm

/-- An address is only given to a binding of its subnet. -/
theorem subnet_of_paired {b : Store.Binding} {d : Desired}
    (h : (some b, some d) ∈ pairBindings current desired) : b.subnetId = d.subnetId := by
  by_cases same : sameSubnets (matchAddresses current desired).removed
      (matchAddresses current desired).added = true
  · exact (pairing_of_sameSubnets same).subnet b d h
  · exact (pairing_of_not_sameSubnets same).subnet b d h

/-- A binding and an address that match are paired. -/
theorem paired_of_matched {b : Store.Binding} {d : Desired}
    (h : (b, d) ∈ (matchAddresses current desired).matched) :
    (some b, some d) ∈ pairBindings current desired := by
  have kept := mem_twoSided.mpr h
  rw [pairBindings]
  split
  · exact List.mem_append_left _ kept
  · exact List.mem_append_left _ (List.mem_append_left _ kept)

/-- A place that both sides have is one of a pair that matches. -/
theorem exists_matched {k : String × IPv4} (held : k ∈ current.map heldAt)
    (wanted : k ∈ desired.map wantedAt) :
    ∃ b d, (b, d) ∈ (matchAddresses current desired).matched ∧ heldAt b = k ∧ wantedAt d = k := by
  have some_pair : 0 < (twoSided (matchAddresses current desired).matched).countP
      (Pair.bothAt k) := by
    rw [countP_matched]
    exact Nat.lt_min.mpr ⟨List.count_pos_iff.mpr held, List.count_pos_iff.mpr wanted⟩
  obtain ⟨p, hp, here⟩ := List.countP_pos_iff.mp some_pair
  obtain ⟨⟨b, d⟩, hm, rfl⟩ := List.mem_map.mp hp
  simp only [Pair.bothAt, Bool.and_eq_true, decide_eq_true_eq] at here
  exact ⟨b, d, hm, here.1, here.2⟩

/-- Every binding and every address finds its place exactly once. -/
theorem pairing_pairBindings (current : List Store.Binding) (desired : List Desired) :
    Pairing current desired (pairBindings current desired) := by
  by_cases same : sameSubnets (matchAddresses current desired).removed
      (matchAddresses current desired).added = true
  · exact pairing_of_sameSubnets same
  · exact pairing_of_not_sameSubnets same

end Overlay.Dhcp
