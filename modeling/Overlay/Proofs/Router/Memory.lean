import Mathlib.Data.List.DropRight
import Overlay.Proofs.Router.Links
import Overlay.Proofs.Table

/-!
# The memory of validated tier-0 routers

A router that has been found fit is remembered as it was found, however the controller changes
afterwards, until the memory is cleared. So what is remembered of a router is the outcome of its
first validation since then that went well, whether the validation was asked for or came before a
link; a validation that fails leaves no trace.

Main statement: `remembers_first_validation`.
-/

namespace Overlay.Router

open Overlay.Handler

variable {w w' : World} {id : String} {t : Tier0} {r : Except Error Tier0}

/-! ## One validation -/

/-- A tier-0 router that can take links: the controller knows it, and it is on an edge cluster with
enough members, which are taken down in the order of the cluster. -/
inductive Fit (s : Controller.State) (id : String) : Tier0 → Prop where
  | mk {router : LogicalRouter} {clusterId : String} {cluster : EdgeCluster}
      (known : Table.find? LogicalRouter.id id s.routers = some router)
      (placed : router.edgeClusterId = some clusterId) (named : clusterId ≠ "")
      (found : Table.find? EdgeCluster.id clusterId s.edgeClusters = some cluster)
      (enough : minEdgeMembers ≤ cluster.members.length) :
      Fit s id ⟨id, clusterId, cluster.members.map (·.index)⟩

/-- How a validation ends: a router that is remembered is not looked up again, one that is found fit
is remembered, and otherwise it fails and leaves the memory. -/
inductive Validation (w : World) (id : String) (w' : World) : Except Error Tier0 → Prop where
  | known {t : Tier0} (there : w.tier0s.get? id = some t) (same : w' = w) :
      Validation w id w' (.ok t)
  | found {t : Tier0} (unknown : w.tier0s.get? id = none) (fit : Fit w.controller id t)
      (memory : w'.tier0s = w.tier0s.insert t) : Validation w id w' (.ok t)
  | failed {e : Error} (unknown : w.tier0s.get? id = none)
      (unfit : (∀ op e, ¬ w.Lost w' op e) → ∀ t, ¬ Fit w.controller id t)
      (memory : w'.tier0s = w.tier0s) : Validation w id w' (.error e)

/-- A fit router has the id that was asked for. -/
theorem Fit.id_eq {s : Controller.State} (fit : Fit s id t) : t.id = id := by
  cases fit
  rfl

/-- There is one record of a fit router. -/
theorem Fit.unique {s : Controller.State} {t' : Tier0} (fit : Fit s id t) (fit' : Fit s id t') :
    t = t' := by
  obtain ⟨known, placed, -, found, -⟩ := fit
  obtain ⟨known', placed', -, found', -⟩ := fit'
  cases Option.some.inj (known.symm.trans known')
  cases Option.some.inj (placed.symm.trans placed')
  cases Option.some.inj (found.symm.trans found')
  rfl

/-- A router is on a cluster if it names one that is not empty. -/
theorem clusterOf_eq_some_iff {router : LogicalRouter} {clusterId : String} :
    clusterOf router = some clusterId ↔
      router.edgeClusterId = some clusterId ∧ clusterId ≠ "" := by
  rw [clusterOf, Option.filter_eq_some_iff, Bool.not_eq_true', ← Bool.not_eq_true,
    String.isEmpty_iff]

/-- The members that are taken down of a cluster that was looked for. -/
def membersOf : Option EdgeCluster → List UInt32
  | some cluster => cluster.members.map (·.index)
  | none => []

/-- Of a router that is on a cluster it is left to count the members. -/
theorem fit_iff {s : Controller.State} {router : LogicalRouter} {clusterId : String}
    (known : Table.find? LogicalRouter.id id s.routers = some router)
    (on : clusterOf router = some clusterId) :
    let members := membersOf (Table.find? EdgeCluster.id clusterId s.edgeClusters)
    Fit s id t ↔ minEdgeMembers ≤ members.length ∧ t = ⟨id, clusterId, members⟩ := by
  obtain ⟨placed, named⟩ := clusterOf_eq_some_iff.mp on
  constructor
  · rintro ⟨known', placed', -, found, enough⟩
    cases Option.some.inj (known.symm.trans known')
    cases Option.some.inj (placed.symm.trans placed')
    rw [found]
    exact ⟨enough.trans_eq (List.length_map _).symm, rfl⟩
  · rintro ⟨enough, rfl⟩
    cases found : Table.find? EdgeCluster.id clusterId s.edgeClusters with
    | none =>
        rw [found] at enough
        exact absurd enough (by decide)
    | some cluster =>
        rw [found] at enough
        exact .mk known placed named found (enough.trans_eq (List.length_map _))

/-- How looking a router up ends. -/
inductive Looking (w : World) (id : String) (w' : World) : Except Error Tier0 → Prop where
  | fit {t : Tier0} (fit : Fit w.controller id t) (memory : w'.tier0s = w.tier0s) :
      Looking w id w' (.ok t)
  | unfit {e : Error} (unfit : (∀ op e, ¬ w.Lost w' op e) → ∀ t, ¬ Fit w.controller id t)
      (memory : w'.tier0s = w.tier0s) : Looking w id w' (.error e)

/-- The members of the cluster are counted. -/
theorem looking_members {w w' : World} {clusterId : String} {members : List UInt32} {e : Error}
    (fits : ∀ t, Fit w.controller id t ↔
      minEdgeMembers ≤ members.length ∧ t = ⟨id, clusterId, members⟩)
    (memory : w'.tier0s = w.tier0s) :
    Leaves (if members.length < minEdgeMembers then do
        throw e
        return ⟨id, clusterId, members⟩
      else return ⟨id, clusterId, members⟩) w' fun r w' => Looking w id w' r := by
  split
  · next few =>
      have short : ¬ minEdgeMembers ≤ members.length := Nat.not_le_of_lt few
      exact .throwing (.unfit (fun _ t fit => short ((fits t).mp fit).1) memory)
  · next enough => exact .pure (.fit ((fits _).mpr ⟨Nat.le_of_not_lt enough, rfl⟩) memory)

/-- A look-up ends in one of the ways there are. -/
theorem looking_lookUpTier0 (w : World) (id : String) :
    (lookUpTier0 id).Leaves w fun r w' => Looking w id w' r := by
  refine .called (fun found w₁ first => ?_) fun e w₁ first => ?_
  · cases World.asked_call rfl first with
    | answered =>
    cases known : Table.find? LogicalRouter.id id w.controller.routers with
    | none =>
        refine .throw (.unfit (fun _ t fit => ?_) rfl)
        cases fit with
        | mk there => exact nomatch known.symm.trans there
    | some router =>
    dsimp only
    cases on : clusterOf router with
    | none =>
        refine .throw (.unfit (fun _ t fit => ?_) rfl)
        cases fit with
        | mk there placed named =>
            cases Option.some.inj (known.symm.trans there)
            exact nomatch on.symm.trans (clusterOf_eq_some_iff.mpr ⟨placed, named⟩)
    | some clusterId =>
    refine .called (fun cluster w₂ second => ?_) fun e w₂ second => ?_
    · cases World.asked_call rfl second with
      | answered =>
          -- With the cluster at hand the members that are counted are those of `fit_iff`.
          have fits := fun t => fit_iff (t := t) known on
          revert fits
          cases Table.find? EdgeCluster.id clusterId w.controller.edgeClusters <;>
            exact fun fits => looking_members fits rfl
    · cases World.asked_call rfl second with
      | lost lost =>
          have lost := ((World.Follows.of_call first).lost_iff (.of_call second)).mpr (Or.inr lost)
          exact .unfit (fun arrived => absurd lost (arrived _ _)) rfl
  · cases World.asked_call rfl first with
    | lost lost => exact .unfit (fun arrived => absurd lost (arrived _ _)) rfl

/-- A validation ends in one of the ways there are. -/
theorem validation_validateTier0 (w : World) (id : String) :
    (validateTier0 id).Leaves w fun r w' => Validation w id w' r := by
  refine .bind (P := fun r w' => r = .ok (w.tier0s.get? id) ∧ w' = w) ⟨rfl, rfl⟩ ?_ ?_
  · rintro remembered w₁ - ⟨⟨⟩, rfl⟩
    cases there : w₁.tier0s.get? id with
    | some t => exact .pure (.known there rfl)
    | none =>
        refine .bind (looking_lookUpTier0 w₁ id) (fun t w₂ _ looking => ?_) fun e w₂ _ looking => ?_
        · cases looking with
          | fit fit memory =>
              exact .found there fit (congrArg (Tier0Cache.insert · t) memory)
        · cases looking with
          | unfit unfit memory => exact .failed there unfit memory
  · rintro e w₁ - ⟨⟨⟩, -⟩

namespace Validation

/-- A router that is remembered is not looked up again. -/
theorem eq_of_known (step : Validation w id w' r) (there : w.tier0s.get? id = some t) :
    r = .ok t ∧ w' = w := by
  cases step with
  | known there' same => exact ⟨congrArg Except.ok (Option.some.inj (there'.symm.trans there)), same⟩
  | found unknown fit memory => exact nomatch unknown.symm.trans there
  | failed unknown unfit memory => exact nomatch unknown.symm.trans there

/-- A router that is not remembered is found fit only if it is, and is remembered then. -/
theorem fit_of_ok (step : Validation w id w' (.ok t)) (unknown : w.tier0s.get? id = none) :
    Fit w.controller id t ∧ w'.tier0s.get? id = some t := by
  cases step with
  | known there same => exact nomatch unknown.symm.trans there
  | found _ fit memory =>
      refine ⟨fit, ?_⟩
      rw [memory, ← fit.id_eq, Tier0Cache.get?_insert_self]

/-- If no call was lost, a router that is fit is found fit. -/
theorem ok_of_fit (step : Validation w id w' r) (fit : Fit w.controller id t)
    (unknown : w.tier0s.get? id = none) (arrived : ∀ op e, ¬ w.Lost w' op e) : r = .ok t := by
  cases step with
  | known there same => exact nomatch unknown.symm.trans there
  | found _ fit' memory => exact congrArg Except.ok (fit'.unique fit)
  | failed _ unfit memory => exact absurd fit (unfit arrived t)

/-- A validation that fails leaves the memory as it is. -/
theorem memory_of_error {e : Error} (step : Validation w id w' (.error e)) :
    w'.tier0s = w.tier0s := by
  cases step with
  | failed unknown unfit memory => exact memory

end Validation

/-! ## Linking -/

/-- A request that leaves the memory alone. -/
def Unremembering : Request → Prop
  | .remember _ => False
  | _ => True

/-- The memory is what it was. -/
structure MemoryKept (w w' : World) : Prop where
  memory : w'.tier0s = w.tier0s

instance : IsPreorder World MemoryKept where
  refl _ := ⟨rfl⟩
  trans _ _ _ h h' := ⟨h'.memory.trans h.memory⟩

/-- A request that remembers no router keeps the memory. -/
theorem memoryKept_of_unremembering {r : Request} (h : Unremembering r) (w : World) :
    MemoryKept w (w.answer r).2 := by
  match r, h with
  | .call c, _ =>
      rw [World.answer, World.call]
      split <;> exact ⟨rfl⟩
  | .query q, _ =>
      rw [World.answer, World.query]
      split <;> exact ⟨rfl⟩
  | .report e, _ =>
      rw [World.answer]
      split <;> exact ⟨rfl⟩
  | .acquire _, _ | .release _, _ | .execute _, _ | .validated _, _ | .now, _ => exact ⟨rfl⟩

/-- Adding a link remembers no router. -/
theorem unremembering_addLink (tier1Id tier0Id : String) (members : List UInt32) :
    (addLink tier1Id tier0Id members).Within Unremembering := by
  refine .ite (fun _ => .throw _) fun _ => ?_
  refine .bind (.call trivial) fun tier0Port => .bind (.tryCall trivial) fun answer => ?_
  cases answer with
  | ok tier1Port => exact .bind (.report trivial) fun _ => .pure _
  | error e => exact .bind (.tryCall trivial) fun _ => .throw _

/-- A link fills the memory by the validation before it, whatever becomes of its ports. -/
theorem tier0s_link (w : World) (tier1Id tier0Id : String) :
    ((link tier1Id tier0Id).runIn w).2.tier0s = ((validateTier0 tier0Id).runIn w).2.tier0s := by
  have kept := fun members => Keeps.of_within (unremembering_addLink tier1Id tier0Id members)
    fun _ h w => memoryKept_of_unremembering h w
  rw [link, runIn_bind]
  cases validated : (validateTier0 tier0Id).runIn w with
  | mk result w₁ =>
      cases result with
      | error e => rfl
      | ok tier0 => exact (kept tier0.members w₁).memory

/-- A link of a router that is not found fit ends there. -/
theorem runIn_link_of_error {e : Error} (tier1Id : String)
    (failed : ((validateTier0 id).runIn w).1 = .error e) :
    (link tier1Id id).runIn w = (.error e, ((validateTier0 id).runIn w).2) := by
  rw [link, runIn_bind]
  cases validated : (validateTier0 id).runIn w with
  | mk result w₁ =>
      rw [validated] at failed
      cases failed
      rfl

/-! ## Runs -/

/-- What may happen: a tier-0 router is validated or linked, the memory is cleared, or everything
else changes in any way. -/
inductive Move where
  | validate (tier0Id : String)
  | link (tier1Id tier0Id : String)
  | clear
  | change (other : World)

/-- What a move leaves. -/
def Move.after : Move → World → World
  | .validate tier0Id, w => ((validateTier0 tier0Id).runIn w).2
  | .link tier1Id tier0Id, w => ((Router.link tier1Id tier0Id).runIn w).2
  | .clear, w => { w with tier0s := .empty }
  | .change other, w => { other with tier0s := w.tier0s }

/-- What moves leave, one after the other. -/
def play (moves : List Move) (w : World) : World := moves.foldl (fun w m => m.after w) w

/-- What of a run matters for the memory: a router that was asked for was found fit, or the memory
was cleared. -/
inductive Note where
  | valid (tier0Id : String) (t : Tier0)
  | cleared
  deriving DecidableEq, Repr

/-- The note on a validation that ended like this. -/
def noteOf (tier0Id : String) : Except Error Tier0 → Option Note
  | .ok t => some (.valid tier0Id t)
  | .error _ => none

/-- The note on a move. A link begins with a validation. -/
def Move.note (w : World) : Move → Option Note
  | .validate tier0Id | .link _ tier0Id => noteOf tier0Id ((validateTier0 tier0Id).runIn w).1
  | .clear => some .cleared
  | .change _ => none

/-- The notes on a run, first to last. -/
def notes : List Move → World → List Note
  | [], _ => []
  | m :: rest, w => (m.note w).toList ++ notes rest (m.after w)

/-- What a note says on a router. -/
def Note.on (id : String) : Note → Option Tier0
  | .valid tier0Id t => if tier0Id = id then some t else none
  | .cleared => none

/-- The outcome of the first validation of a router that went well since the memory was cleared
last. -/
def firstValidated (id : String) (notes : List Note) : Option Tier0 :=
  (notes.rtakeWhile (· ≠ .cleared)).findSome? (Note.on id)

/-- Where the memory has just been cleared, no validation counts. -/
theorem firstValidated_cleared (id : String) (ns : List Note) :
    firstValidated id (ns ++ [.cleared]) = none := by
  rw [firstValidated, List.rtakeWhile_concat_neg _ _ _ (by simp)]
  rfl

/-- A validation counts if it is the first of its router since the memory was cleared. -/
theorem firstValidated_valid (id tier0Id : String) (t : Tier0) (ns : List Note) :
    firstValidated id (ns ++ [.valid tier0Id t])
      = (firstValidated id ns).or (if tier0Id = id then some t else none) := by
  rw [firstValidated, List.rtakeWhile_concat_pos _ _ _ (by simp), List.findSome?_append,
    List.findSome?_singleton]
  rfl

/-- The memory is what the notes say: it has the outcomes of first validations, one for a router. -/
structure Memo (ns : List Note) (c : Tier0Cache) : Prop where
  keyed : Table.Keyed Tier0.id c.entries
  sound : ∀ t ∈ c.entries, t.clusterId ≠ "" ∧ minEdgeMembers ≤ t.members.length
  first : ∀ id, c.get? id = firstValidated id ns

namespace Memo

variable {ns : List Note} {c : Tier0Cache}

/-- The empty memory is that of no notes. -/
theorem nil : Memo [] .empty where
  keyed := Table.keyed_nil Tier0.id
  sound _ h := nomatch h
  first _ := rfl

/-- A memory that was cleared is empty, whatever was noted before. -/
theorem cleared (ns : List Note) : Memo (ns ++ [.cleared]) .empty where
  keyed := Table.keyed_nil Tier0.id
  sound _ h := nomatch h
  first id := (firstValidated_cleared id ns).symm

/-- A router that is remembered is validated again. -/
theorem known (h : Memo ns c) (there : c.get? id = some t) : Memo (ns ++ [.valid id t]) c where
  keyed := h.keyed
  sound := h.sound
  first other := by
    rw [firstValidated_valid, ← h.first]
    by_cases same : id = other
    · rw [← same, there, Option.some_or]
    · rw [if_neg same, Option.or_none]

/-- A router is found fit. -/
theorem found {s : Controller.State} (h : Memo ns c) (unknown : c.get? id = none)
    (fit : Fit s id t) : Memo (ns ++ [.valid id t]) (c.insert t) where
  keyed := h.keyed.put t
  sound a ha := by
    rcases Table.eq_or_mem_of_mem_put ha with rfl | old
    · cases fit with
      | mk _ _ named _ enough => exact ⟨named, enough.trans_eq (List.length_map _).symm⟩
    · exact h.sound a old
  first other := by
    rw [firstValidated_valid, ← h.first]
    by_cases same : id = other
    · rw [← same, unknown, if_pos rfl, Option.none_or, ← fit.id_eq, c.get?_insert_self]
    · rw [if_neg same, Option.or_none, c.get?_insert_of_ne (fit.id_eq ▸ same)]

/-- A validation leaves the memory that its note says. -/
theorem validation (h : Memo ns w.tier0s) (step : Validation w id w' r) :
    Memo (ns ++ (noteOf id r).toList) w'.tier0s := by
  cases step with
  | known there same => exact same ▸ h.known there
  | found unknown fit memory => exact memory ▸ h.found unknown fit
  | failed unknown unfit memory =>
      rw [memory]
      exact (List.append_nil ns).symm ▸ h

/-- Every move keeps the memory what the notes say. -/
theorem after (h : Memo ns w.tier0s) (m : Move) :
    Memo (ns ++ (m.note w).toList) (m.after w).tier0s := by
  cases m with
  | validate tier0Id => exact h.validation (validation_validateTier0 w tier0Id)
  | link tier1Id tier0Id =>
      rw [Move.after, tier0s_link]
      exact h.validation (validation_validateTier0 w tier0Id)
  | clear => exact .cleared ns
  | change other => exact (List.append_nil ns).symm ▸ h

/-- All moves leave the memory that their notes say. -/
theorem play (h : Memo ns w.tier0s) (moves : List Move) :
    Memo (ns ++ notes moves w) (Router.play moves w).tier0s := by
  induction moves generalizing ns w with
  | nil => exact (List.append_nil ns).symm ▸ h
  | cons m rest ih =>
      rw [notes, ← List.append_assoc]
      exact ih (h.after m)

end Memo

/-- The memory is sound, and what it has of a router is the outcome of the first validation since it
was cleared last. A router that is remembered is not asked for again; any other is found fit only if
it is, and always then unless a call is lost, and is remembered. A validation that fails leaves the
memory, also at the beginning of a link. -/
theorem remembers_first_validation (start : w.tier0s = .empty) (moves : List Move) (id : String) :
    let now := play moves w
    let after := (validateTier0 id).runIn now
    (∀ t ∈ now.tier0s.entries, now.tier0s.get? t.id = some t ∧ t.clusterId ≠ "" ∧
      minEdgeMembers ≤ t.members.length) ∧
    now.tier0s.get? id = firstValidated id (notes moves w) ∧
    (∀ t, now.tier0s.get? id = some t → t.id = id ∧ after = (.ok t, now)) ∧
    (now.tier0s.get? id = none → ∀ t,
      ((∀ op e, ¬ now.Lost after.2 op e) → (after.1 = .ok t ↔ Fit now.controller id t)) ∧
      (after.1 = .ok t → Fit now.controller id t ∧ after.2.tier0s.get? id = some t)) ∧
    ∀ e, after.1 = .error e → after.2.tier0s = now.tier0s ∧
      ∀ tier1Id, (link tier1Id id).runIn now = (.error e, after.2) := by
  intro now after
  have memo : Memo (notes moves w) now.tier0s := (start ▸ Memo.nil : Memo [] w.tier0s).play moves
  have step : Validation now id after.2 after.1 := validation_validateTier0 now id
  refine ⟨fun t ht => ⟨memo.keyed.find? ht, memo.sound t ht⟩, memo.first id, fun t there => ?_,
    fun unknown t => ?_, fun e failed => ?_⟩
  · obtain ⟨ok, same⟩ := step.eq_of_known there
    exact ⟨(Table.mem_of_find? there).2, Prod.ext ok same⟩
  · have found (ok : after.1 = .ok t) :
        Fit now.controller id t ∧ after.2.tier0s.get? id = some t := by
      rw [ok] at step
      exact step.fit_of_ok unknown
    exact ⟨fun arrived => ⟨fun ok => (found ok).1, fun fit => step.ok_of_fit fit unknown arrived⟩,
      found⟩
  · rw [failed] at step
    exact ⟨step.memory_of_error, fun tier1Id => runIn_link_of_error tier1Id failed⟩

namespace Sample

/-- A router cannot be linked to a tier-0 router that is fit. -/
def refusing : World :=
  { provided with controller := provided.controller.refuseRouter "t1" }

/-- The link fails, and the controller loses everything. -/
def mishap : List Move := [.link "t1" "t0-a", .change (World.empty false Clock.counting)]

end Sample

/-- A link that fails after its validation leaves the router remembered, whatever becomes of the
controller, and once the memory is cleared the router is unknown. -/
theorem remembered_until_cleared :
    (validateTier0 "t0-a").runIn (play Sample.mishap Sample.refusing)
      = (.ok ⟨"t0-a", "ec-1", [0]⟩, play Sample.mishap Sample.refusing) ∧
    (play (Sample.mishap ++ [.clear]) Sample.refusing).tier0s.get? "t0-a" = none ∧
    ((validateTier0 "t0-a").runIn (play (Sample.mishap ++ [.clear]) Sample.refusing)).1
      = .error (.invalidInput (.unknownTier0 "t0-a")) := by
  obtain ⟨-, first, known, -, -⟩ :=
    remembers_first_validation (w := Sample.refusing) rfl Sample.mishap "t0-a"
  obtain ⟨-, cleared, -, -, -⟩ :=
    remembers_first_validation (w := Sample.refusing) rfl (Sample.mishap ++ [.clear]) "t0-a"
  exact ⟨(known _ (first.trans rfl)).2, cleared.trans rfl, rfl⟩

end Overlay.Router
