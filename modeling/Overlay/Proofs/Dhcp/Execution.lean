import Overlay.Proofs.Dhcp.Pairing
import Overlay.Proofs.Table

/-!
# Carrying out a plan

The changes of a plan are carried out in order on the rows of a port, which are found by their
addresses. If no address is named with two subnets, no change finds an address taken that it needs
or a row missing: a row that gets another address gets one that no row of the port has, and a new
row comes when all others are where they should be. What is left then is one row for each wanted
address, and another plan for them is empty.

Main statement: `carriesOut_plan`.
-/

namespace Overlay.Dhcp

/-! ## Rows by address -/

/-- The address that a row stands for. -/
def asDesired (b : Store.Binding) : Desired := ⟨b.subnetId, b.address, b.macAddress⟩

/-- The row with another address and MAC address. -/
def pointedAt (d : Desired) (b : Store.Binding) : Store.Binding :=
  { b with subnetId := d.subnetId, address := d.address, macAddress := d.macAddress }

/-- What a new row has besides its address. -/
structure Supply where
  portId : String
  serverId : String
  bindingId : String
  time : Instant
  deriving DecidableEq, Repr

/-- The new row of an address. -/
def Supply.row (s : Supply) (d : Desired) : Store.Binding :=
  ⟨s.portId, d.subnetId, d.address, d.macAddress, s.serverId, s.bindingId, s.time, s.time⟩

/-- Whether some row has this address. -/
def Taken (rows : List Store.Binding) (ip : IPv4) : Prop := ∃ b ∈ rows, b.address = ip

instance (rows : List Store.Binding) (ip : IPv4) : Decidable (Taken rows ip) :=
  inferInstanceAs (Decidable (∃ b ∈ rows, b.address = ip))

/-- The rows after one change. There are none if the change creates or moves a row to an address
that another row has, or updates or deletes a row that is not there. -/
def Change.onRows? (supply : Desired → Supply) (rows : List Store.Binding) :
    Change → Option (List Store.Binding)
  | .keep => some rows
  | .create d => if Taken rows d.address then none else some (rows ++ [(supply d).row d])
  | .update b d _ =>
    if Taken rows b.address ∧ (d.address = b.address ∨ ¬ Taken rows d.address) then
      some (Table.modify (·.address) b.address (pointedAt d) rows)
    else none
  | .delete b =>
    if Taken rows b.address then some (Table.remove (·.address) b.address rows) else none

/-- The rows after all changes, in order. -/
def onRows? (supply : Desired → Supply) (changes : List Change) (rows : List Store.Binding) :
    Option (List Store.Binding) :=
  changes.foldlM (Change.onRows? supply) rows

@[simp] theorem asDesired_row (s : Supply) (d : Desired) : asDesired (s.row d) = d := rfl

/-- Changes are made on rows one after the other. -/
theorem onRows?_cons (supply : Desired → Supply) (c : Change) (changes : List Change)
    (rows : List Store.Binding) :
    onRows? supply (c :: changes) rows = (c.onRows? supply rows).bind (onRows? supply changes) :=
  List.foldlM_cons

/-- Two lists of changes are made one after the other. -/
theorem onRows?_append (supply : Desired → Supply) (changes more : List Change)
    (rows : List Store.Binding) :
    onRows? supply (changes ++ more) rows
      = (onRows? supply changes rows).bind (onRows? supply more) :=
  List.foldlM_append

/-- An address is kept as it is exactly if row and wish have the same address and MAC address. -/
theorem transition_keep_iff {b : Store.Binding} {d : Desired} {t : Template} :
    transition (some b) (some d) t = .keep ↔ b.macAddress = d.macAddress ∧ b.address = d.address := by
  rw [transition]
  by_cases mac : b.macAddress = d.macAddress
  · by_cases address : b.address = d.address <;>
      simp [updateFor, BindingUpdate.isEmpty, mac, address]
  · by_cases address : b.address = d.address <;>
      simp [updateFor, BindingUpdate.isEmpty, mac, address]

/-! ## The rows that are there -/

/-- The rows that the fates come to. -/
def settled (fates : List Fate) : List Store.Binding :=
  fates.filterMap fun f => f.2.map (pointedAt · f.1)

/-- The rows that fates come to are what was wished. -/
theorem asDesired_settled (fates : List Fate) :
    (settled fates).map asDesired = fates.filterMap (·.2) := by
  induction fates with
  | nil => rfl
  | cons f rest ih =>
      obtain ⟨b, d⟩ := f
      cases d with
      | none => exact ih
      | some d => exact congrArg (d :: ·) ih

/-- A row with a wish ends up as it was wished. -/
theorem mem_settled {fates : List Fate} {b : Store.Binding} {d : Desired}
    (h : (b, some d) ∈ fates) : pointedAt d b ∈ settled fates :=
  List.mem_filterMap.mpr ⟨(b, some d), h, rfl⟩

/-- Between two changes: the rows are those with a fate still to come and those that are done, and
no row that is to be moved finds its address taken. -/
structure Underway (rows : List Store.Binding) (fates : List Fate) (done : List Store.Binding) :
    Prop where
  shared : rows.Perm (fates.map (·.1) ++ done)
  once : Table.Keyed Store.Binding.address rows
  subnet : ∀ b d, (b, some d) ∈ fates → b.subnetId = d.subnetId
  targets : (done.map (·.address) ++ (fates.filterMap (·.2)).map (·.address)).Nodup
  apart : ∀ b d, (b, some d) ∈ fates → b.address ≠ d.address → ¬ Taken rows d.address

namespace Underway

variable {rows rows' : List Store.Binding} {b : Store.Binding} {d : Desired} {fates : List Fate}
  {done : List Store.Binding}

/-- The address of a row whose fate is still to come is taken. -/
theorem taken (h : Underway rows ((b, some d) :: fates) done) : Taken rows b.address :=
  ⟨b, h.shared.mem_iff.mpr List.mem_cons_self, rfl⟩

/-- A row gets its address, the same or another one. -/
theorem give (h : Underway rows ((b, some d) :: fates) done)
    (there : rows'.Perm (pointedAt d b :: (fates.map (·.1) ++ done))) :
    Underway rows' fates (pointedAt d b :: done) := by
  have rest : ∀ c ∈ fates.map (·.1) ++ done, c ∈ rows ∧ c.address ≠ b.address := by
    intro c hc
    refine ⟨h.shared.mem_iff.mpr (List.mem_cons_of_mem b hc), ?_⟩
    exact (Table.keyed_cons.mp (h.once.perm h.shared)).1 c hc
  have targets : (d.address :: (done.map (·.address)
      ++ (fates.filterMap (·.2)).map (·.address))).Nodup :=
    List.perm_middle.nodup h.targets
  refine ⟨there.trans List.perm_middle.symm, ?_, ?_, targets, ?_⟩
  · refine Table.Keyed.perm (Table.keyed_cons.mpr ⟨fun c hc same => ?_, ?_⟩) there.symm
    · obtain ⟨old, other⟩ := rest c hc
      have moves : b.address ≠ d.address := fun stays => other (same.trans stays.symm)
      exact h.apart b d List.mem_cons_self moves ⟨c, old, same⟩
    · exact (Table.keyed_cons.mp (h.once.perm h.shared)).2
  · exact fun b' d' later => h.subnet b' d' (List.mem_cons_of_mem _ later)
  · rintro b' d' later moves ⟨c, hc, same⟩
    rcases List.mem_cons.mp (there.mem_iff.mp hc) with rfl | old
    -- the addresses that rows get are distinct
    · refine (List.nodup_cons.mp targets).1 (List.mem_append_right _ ?_)
      refine List.mem_map.mpr ⟨d', List.mem_filterMap.mpr ⟨(b', some d'), later, rfl⟩, same.symm⟩
    · exact h.apart b' d' (List.mem_cons_of_mem _ later) moves ⟨c, (rest c old).1, same⟩

/-- A row goes. -/
theorem drop (h : Underway rows ((b, none) :: fates) done)
    (there : rows'.Perm (fates.map (·.1) ++ done)) : Underway rows' fates done where
  shared := there
  once := (Table.keyed_cons.mp (h.once.perm h.shared)).2.perm there.symm
  subnet b' d' later := h.subnet b' d' (List.mem_cons_of_mem _ later)
  targets := h.targets
  apart b' d' later moves taken := by
    obtain ⟨c, hc, same⟩ := taken
    refine h.apart b' d' (List.mem_cons_of_mem _ later) moves ⟨c, ?_, same⟩
    exact h.shared.mem_iff.mpr (List.mem_cons_of_mem b (there.mem_iff.mp hc))

/-- The address that a row is to get is its own or free. -/
theorem free (h : Underway rows ((b, some d) :: fates) done) :
    d.address = b.address ∨ ¬ Taken rows d.address := by
  by_cases stays : d.address = b.address
  · exact Or.inl stays
  · exact Or.inr (h.apart b d List.mem_cons_self (Ne.symm stays))

end Underway

/-- The rows that are there are taken one by one. -/
theorem onRows?_edits (supply : Desired → Supply) (t : Template) {fates : List Fate}
    {rows done : List Store.Binding} (h : Underway rows fates done) :
    ∃ rows', onRows? supply (edits fates t) rows = some rows' ∧
      rows'.Perm (settled fates ++ done) := by
  induction fates generalizing rows done with
  | nil => exact ⟨rows, rfl, h.shared⟩
  | cons f rest ih =>
      obtain ⟨b, d⟩ := f
      rw [edits_cons]
      cases d with
      | none =>
          have gone : (Table.remove (·.address) b.address rows).Perm (rest.map (·.1) ++ done) :=
            h.once.remove_perm h.shared
          have taken : Taken rows b.address := ⟨b, h.shared.mem_iff.mpr List.mem_cons_self, rfl⟩
          obtain ⟨rows', run, perm⟩ := ih (h.drop gone)
          refine ⟨rows', ?_, perm⟩
          rw [if_neg (by exact nofun), onRows?_cons]
          show (if _ then _ else _ : Option _).bind _ = _
          rw [if_pos taken, Option.bind_some, run]
      | some d =>
          by_cases keep : transition (some b) (some d) t = .keep
          -- a row that is as it should be is passed over
          · obtain ⟨mac, address⟩ := transition_keep_iff.mp keep
            have same : pointedAt d b = b := by
              rw [pointedAt, ← mac, ← address, ← h.subnet b d List.mem_cons_self]
            rw [if_pos keep]
            obtain ⟨rows', run, perm⟩ := ih (h.give (same.symm ▸ h.shared))
            exact ⟨rows', run, perm.trans List.perm_middle⟩
          · have update : transition (some b) (some d) t = .update b d (updateFor b d t) :=
              if_neg fun empty => keep (if_pos empty)
            have hb : b ∈ rows := h.shared.mem_iff.mpr List.mem_cons_self
            have moved : (Table.modify (·.address) b.address (pointedAt d) rows).Perm
                (pointedAt d b :: (rest.map (·.1) ++ done)) :=
              (Table.modify_perm h.once hb _).trans ((h.once.remove_perm h.shared).cons _)
            obtain ⟨rows', run, perm⟩ := ih (h.give moved)
            refine ⟨rows', ?_, perm.trans List.perm_middle⟩
            rw [if_neg keep, update, onRows?_cons]
            show (if _ then _ else _ : Option _).bind _ = _
            rw [if_pos ⟨h.taken, h.free⟩, Option.bind_some, run]

/-- New rows come behind those that are there. -/
theorem onRows?_creates (supply : Desired → Supply) {news : List Desired}
    {rows : List Store.Binding}
    (distinct : (rows.map (·.address) ++ news.map (·.address)).Nodup) :
    onRows? supply (news.map .create) rows
      = some (rows ++ news.map fun d => (supply d).row d) := by
  induction news generalizing rows with
  | nil => exact congrArg some (List.append_nil rows).symm
  | cons d rest ih =>
      have free : ¬ Taken rows d.address := by
        rintro ⟨b, hb, same⟩
        have apart := (List.nodup_append.mp distinct).2.2
        exact apart _ (List.mem_map.mpr ⟨b, hb, same⟩) _ List.mem_cons_self rfl
      have later : ((rows ++ [(supply d).row d]).map (·.address)
          ++ rest.map (·.address)).Nodup := by
        rw [List.map_append, List.append_assoc]
        exact distinct
      rw [List.map_cons, onRows?_cons]
      show (if _ then _ else _ : Option _).bind _ = _
      rw [if_neg free, Option.bind_some, ih later, List.append_assoc]
      rfl

/-! ## The plan -/

variable {current : List Store.Binding} {desired : List Desired}

/-- No address is named with two subnets. -/
def OneSubnet (current : List Store.Binding) (desired : List Desired) : Prop :=
  ∀ k ∈ current.map heldAt ++ desired.map wantedAt,
    ∀ k' ∈ current.map heldAt ++ desired.map wantedAt, k.2 = k'.2 → k.1 = k'.1

instance (current : List Store.Binding) (desired : List Desired) :
    Decidable (OneSubnet current desired) := by
  unfold OneSubnet
  infer_instance

/-- Where every address has one subnet, a row and a wish with one address name the same pair. -/
theorem OneSubnet.held_eq (one : OneSubnet current desired) {b : Store.Binding} (hb : b ∈ current)
    {d : Desired} (hd : d ∈ desired) (same : b.address = d.address) : wantedAt d = heldAt b := by
  have subnet := one (heldAt b) (List.mem_append_left _ (List.mem_map_of_mem hb))
    (wantedAt d) (List.mem_append_right _ (List.mem_map_of_mem hd)) same
  exact Prod.ext subnet.symm same.symm

/-- A binding whose place is wanted is paired with the address there. -/
theorem paired_of_wantedAt (once : Table.Keyed Store.Binding.address current)
    (distinct : Table.Keyed Desired.address desired) {b : Store.Binding} (hb : b ∈ current)
    {d : Desired} (hd : d ∈ desired) (same : wantedAt d = heldAt b) :
    (some b, some d) ∈ pairBindings current desired := by
  obtain ⟨b', d', matched, held, wanted⟩ := exists_matched (List.mem_map_of_mem hb)
    (List.mem_map.mpr ⟨d, hd, same⟩)
  have hb' : b' ∈ current := (perm_matched_removed current desired).subset
    (List.mem_append_left _ (List.mem_map.mpr ⟨(b', d'), matched, rfl⟩))
  have hd' : d' ∈ desired := (perm_matched_added current desired).subset
    (List.mem_append_left _ (List.mem_map.mpr ⟨(b', d'), matched, rfl⟩))
  have address : b'.address = b.address := congrArg Prod.snd held
  have address' : d'.address = d.address := congrArg Prod.snd (wanted.trans same.symm)
  rw [← once.eq_of_key hb' hb address, ← distinct.eq_of_key hd' hd address']
  exact paired_of_matched matched

/-- Before the first change, no row that is to be moved finds its address taken. -/
theorem Parts.underway {fates : List Fate} {news : List Desired}
    (parts : Parts current desired fates news)
    (pairs : pairBindings current desired
      = fates.map (fun f => (some f.1, f.2)) ++ news.map fun d => (none, some d))
    (once : Table.Keyed Store.Binding.address current)
    (distinct : Table.Keyed Desired.address desired) (one : OneSubnet current desired) :
    Underway current fates [] where
  shared := by
    rw [List.append_nil]
    exact parts.bindings.symm
  once := once
  subnet b d hf := subnet_of_paired ((paired_iff_fate pairs).mpr hf)
  targets := by
    have addresses := (parts.addresses.map Desired.address).symm.nodup distinct
    rw [List.map_append] at addresses
    exact (List.nodup_append.mp addresses).1
  apart b d hf moves := by
    rintro ⟨c, hc, same⟩
    have hd : d ∈ desired := parts.addresses.subset
      (List.mem_append_left _ (List.mem_filterMap.mpr ⟨(b, some d), hf, rfl⟩))
    exact parts.apart distinct b d hf moves c hc
      (sameAddress_iff_eq.mpr (one.held_eq hc hd same))

/-- A plan can be carried out on the rows it was made for, and comes to what was wished. -/
theorem onRows?_plan (supply : Desired → Supply) (t : Template)
    (once : Table.Keyed Store.Binding.address current)
    (distinct : Table.Keyed Desired.address desired) (one : OneSubnet current desired) :
    ∃ rows, onRows? supply (plan current desired t) current = some rows ∧
      (rows.map asDesired).Perm desired ∧
      ∀ b ∈ current, ∀ d ∈ desired, wantedAt d = heldAt b →
        { b with macAddress := d.macAddress } ∈ rows := by
  obtain ⟨fates, news, parts, pairs⟩ := exists_pairs current desired
  obtain ⟨rows, run, perm⟩ :=
    onRows?_edits supply t (parts.underway pairs once distinct one)
  rw [List.append_nil] at perm
  have edited : (rows.map asDesired ++ news).Perm desired := by
    refine ((perm.map asDesired).append_right news).trans ?_
    rw [asDesired_settled]
    exact parts.addresses
  -- after the edits, the addresses that are still to be created are free
  have free : (rows.map Store.Binding.address ++ news.map Desired.address).Nodup := by
    have addresses := (edited.map Desired.address).symm.nodup distinct
    rwa [List.map_append, List.map_map] at addresses
  refine ⟨rows ++ news.map fun d => (supply d).row d, ?_, ?_, ?_⟩
  · rw [plan_of_pairs pairs, onRows?_append, run]
    exact onRows?_creates supply free
  · rw [List.map_append, List.map_map]
    show (_ ++ news.map id).Perm desired
    rwa [List.map_id]
  · intro b hb d hd same
    have kept : (b, some d) ∈ fates :=
      (paired_iff_fate pairs).mp (paired_of_wantedAt once distinct hb hd same)
    -- a pair with one subnet and address can differ in the MAC address only
    have as_it_was : pointedAt d b = { b with macAddress := d.macAddress } := by
      obtain ⟨subnet, address⟩ := Prod.mk.inj same
      rw [pointedAt, subnet, address]
    rw [← as_it_was]
    exact List.mem_append_left _ (perm.mem_iff.mpr (mem_settled kept))

/-! ## Empty plans -/

/-- A plan is empty exactly if every pair is to be kept. -/
theorem plan_eq_nil_iff {t : Template} : plan current desired t = [] ↔
    ∀ p ∈ pairBindings current desired, transition p.1 p.2 t = .keep := by
  rw [plan, List.filter_eq_nil_iff, List.forall_mem_map]
  simp

/-- If the rows stand for what is wanted, nothing is left over. -/
theorem pairBindings_of_perm (distinct : Table.Keyed Desired.address desired)
    (agree : (current.map asDesired).Perm desired) :
    pairBindings current desired = twoSided (matchAddresses current desired).matched := by
  obtain ⟨m, hm⟩ : ∃ m, matchAddresses current desired = m := ⟨_, rfl⟩
  have bindings := hm ▸ perm_matched_removed current desired
  have wanted := hm ▸ perm_matched_added current desired
  have once : Table.Keyed Store.Binding.address current := by
    have addresses := (agree.map Desired.address).symm.nodup distinct
    rwa [List.map_map] at addresses
  have no_removed : m.removed = [] := by
    refine List.eq_nil_iff_forall_not_mem.mpr fun b hb => ?_
    have here : asDesired b ∈ desired := agree.subset
      (List.mem_map_of_mem (bindings.subset (List.mem_append_right _ hb)))
    rcases List.mem_append.mp (wanted.symm.subset here) with matched | added
    -- a binding with the same address would have been matched instead
    · obtain ⟨f, hf, eq⟩ := List.mem_map.mp matched
      have address : f.1.address = b.address := by
        have exact_pair := congrArg Prod.snd (exact_of_matched (hm ▸ hf))
        exact exact_pair.symm.trans (congrArg Desired.address eq)
      have apart := (bindings.map Store.Binding.address).symm.nodup once
      rw [List.map_append, List.nodup_append] at apart
      exact apart.2.2 _ (List.mem_map_of_mem (List.mem_map_of_mem hf)) _
        (List.mem_map_of_mem hb) address
    · exact apart_of_left_over (hm ▸ hb) (hm ▸ added) rfl
  have no_added : m.added = [] := by
    have left := bindings.length_eq
    have right := wanted.length_eq
    have both := agree.length_eq
    simp only [no_removed, List.length_append, List.length_map, List.length_nil] at left right both
    exact List.length_eq_zero_iff.mp (by omega)
  rw [pairBindings, hm, no_removed, no_added]
  show twoSided m.matched ++ [] = twoSided m.matched
  rw [List.append_nil]

/-- Rows that are what is wished, in any order, need no changes. -/
theorem plan_of_perm (distinct : Table.Keyed Desired.address desired)
    (agree : (current.map asDesired).Perm desired) (t : Template) :
    plan current desired t = [] := by
  refine plan_eq_nil_iff.mpr fun p hp => ?_
  rw [pairBindings_of_perm distinct agree] at hp
  obtain ⟨⟨b, d⟩, hf, rfl⟩ := List.mem_map.mp hp
  have hb : b ∈ current := (perm_matched_removed current desired).subset
    (List.mem_append_left _ (List.mem_map.mpr ⟨(b, d), hf, rfl⟩))
  have hd : d ∈ desired := (perm_matched_added current desired).subset
    (List.mem_append_left _ (List.mem_map.mpr ⟨(b, d), hf, rfl⟩))
  have address : d.address = b.address := congrArg Prod.snd (exact_of_matched hf)
  have eq : asDesired b = d := distinct.eq_of_key (agree.subset (List.mem_map_of_mem hb)) hd
    address.symm
  exact transition_keep_iff.mpr ⟨congrArg Desired.macAddress eq, address.symm⟩

/-- A plan without changes leaves the rows to be what is wanted. -/
theorem perm_of_plan {t : Template} (empty : plan current desired t = []) :
    (current.map asDesired).Perm desired := by
  obtain ⟨fates, news, parts, pairs⟩ := exists_pairs current desired
  have kept := plan_eq_nil_iff.mp empty
  rw [pairs, List.forall_mem_append, List.forall_mem_map, List.forall_mem_map] at kept
  obtain ⟨old, new⟩ := kept
  have no_news : news = [] :=
    List.eq_nil_iff_forall_not_mem.mpr fun d hd => nomatch new d hd
  have same : ∀ f ∈ fates, f.2 = some (asDesired f.1) := by
    rintro ⟨b, d⟩ hf
    cases d with
    | none => exact nomatch old (b, none) hf
    | some d =>
        obtain ⟨mac, address⟩ := transition_keep_iff.mp (old (b, some d) hf)
        have subnet : b.subnetId = d.subnetId :=
          subnet_of_paired ((paired_iff_fate pairs).mpr hf)
        rw [asDesired, subnet, address, mac]
  have targets : fates.filterMap (·.2) = (fates.map (·.1)).map asDesired := by
    rw [List.map_map, ← List.filterMap_eq_map]
    exact List.filterMap_congr same
  have addresses := parts.addresses
  rw [no_news, List.append_nil, targets] at addresses
  exact (parts.bindings.map asDesired).symm.trans addresses

/-- A plan is empty exactly if the rows stand for what is wanted. -/
theorem plan_empty_iff (once : Table.Keyed Store.Binding.address current)
    (distinct : Table.Keyed Desired.address desired) (t : Template) :
    plan current desired t = [] ↔ ∀ d, d ∈ current.map asDesired ↔ d ∈ desired := by
  have apart : Table.Keyed Desired.address (current.map asDesired) := by
    rwa [Table.Keyed, List.map_map]
  constructor
  · exact fun empty d => (perm_of_plan empty).mem_iff
  · exact fun agree => plan_of_perm distinct
      ((List.perm_ext_iff_of_nodup apart.nodup distinct.nodup).mpr agree) t

/-- A plan is carried out without a clash, comes to what is wanted, keeps the rows of places that
stay, and leaves nothing to be planned. It is empty exactly if there is nothing to do. -/
theorem carriesOut_plan (supply : Desired → Supply) (t : Template)
    (once : (current.map (·.address)).Nodup) (distinct : (desired.map (·.address)).Nodup)
    (one : OneSubnet current desired) :
    (∃ rows, onRows? supply (plan current desired t) current = some rows ∧
      (rows.map asDesired).Perm desired ∧
      (∀ b ∈ current, ∀ d ∈ desired, wantedAt d = heldAt b →
        { b with macAddress := d.macAddress } ∈ rows) ∧
      ∀ rows', rows'.Perm rows → plan rows' desired t = []) ∧
    (plan current desired t = [] ↔ ∀ d, d ∈ current.map asDesired ↔ d ∈ desired) := by
  obtain ⟨rows, run, comes, kept⟩ := onRows?_plan supply t once distinct one
  refine ⟨⟨rows, run, comes, kept, fun rows' same => ?_⟩, plan_empty_iff once distinct t⟩
  exact plan_of_perm distinct ((same.map asDesired).trans comes) t

namespace Sample

/-- Two rows of a port, in one subnet. -/
def portRows : List Store.Binding :=
  [⟨"port", "subnet", ⟨10, 0, 0, 3⟩, "fa:16", "server", "first", .ofSeconds 0, .ofSeconds 0⟩,
    ⟨"port", "subnet", ⟨10, 0, 0, 4⟩, "fa:16", "server", "second", .ofSeconds 0, .ofSeconds 0⟩]

/-- The port has got another MAC address, and its second address has moved. -/
def portWants : List Desired :=
  [⟨"subnet", ⟨10, 0, 0, 3⟩, "fa:17"⟩, ⟨"subnet", ⟨10, 0, 0, 5⟩, "fa:17"⟩]

def portTemplate : Template := ⟨⟨⟨169, 254, 169, 254⟩, 32, by decide⟩, 86400⟩

end Sample

theorem carriesOut_plan_moved :
    (∃ rows, onRows? (fun _ => ⟨"port", "server", "third", .ofSeconds 0⟩)
        (plan Sample.portRows Sample.portWants Sample.portTemplate) Sample.portRows = some rows ∧
      (rows.map asDesired).Perm Sample.portWants ∧
      (∀ b ∈ Sample.portRows, ∀ d ∈ Sample.portWants, wantedAt d = heldAt b →
        { b with macAddress := d.macAddress } ∈ rows) ∧
      ∀ rows', rows'.Perm rows → plan rows' Sample.portWants Sample.portTemplate = []) ∧
    plan Sample.portRows Sample.portWants Sample.portTemplate ≠ [] := by
  obtain ⟨carried, empty⟩ := carriesOut_plan
    (fun _ => ⟨"port", "server", "third", .ofSeconds 0⟩) Sample.portTemplate
    (show (Sample.portRows.map (·.address)).Nodup by decide)
    (show (Sample.portWants.map (·.address)).Nodup by decide) (by decide)
  refine ⟨carried, fun none => ?_⟩
  have agree := (empty.mp none ⟨"subnet", ⟨10, 0, 0, 4⟩, "fa:16"⟩).mp (by decide)
  exact absurd agree (by decide)

end Overlay.Dhcp
