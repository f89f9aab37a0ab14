import Overlay.Proofs.Dhcp.Late
import Overlay.Proofs.Dhcp.Sections

/-!
# A port that goes while everything is rebuilt

An instance port leaves the catalog and is deleted while a pass is between two of its sections. The
deletion lets go everything that the rows of the port name. What the pass does later takes nothing
away, and the port comes by something again only through an address that the pass has listed before
and awaits when the deletion is done. `Departed` says what is left in the end.

Main statement: `departed_during_resync`. Without sections in between it is about a port that is
deleted before or after a whole pass.
-/

namespace Overlay.Dhcp

open Overlay.Handler
open Overlay.Controller (HeldServer HeldBinding)

variable {w : World} {l : Ledger}

/-- No removal of a binding is lost to a fault. -/
def Dependable (w : World) : Prop :=
  ∀ n, (w.callFaults.pattern .deleteBinding).failing n = none

/-- Surroundings stay dependable. -/
theorem Dependable.follows {w' : World} (dependable : Dependable w) (f : w.Follows w') :
    Dependable w' := fun n => by
  rw [f.failing]
  exact dependable n

/-- Dependable surroundings are truthful. -/
theorem Dependable.truthful (dependable : Dependable w) : Truthful w := fun n _ fails =>
  nomatch (dependable n).symm.trans fails

/-- Then an act that takes nothing away tells of no fault. -/
theorem Dependable.clean {w' : World} (dependable : Dependable w) {acts : List Act}
    (accounts : w.Accounts acts w') {a : Act} (ha : a ∈ acts) (builds : a.Builds) :
    a.fault? = none := by
  have never : ∀ e, a.fault? ≠ some (.deleteBinding, e) := by
    intro e hit
    obtain ⟨n, -, -, fails⟩ := (accounts.bindings e).mpr ⟨a, ha, hit⟩
    exact nomatch (dependable n).symm.trans fails
  cases a with
  | serve _ _ _ _ => rfl
  | readdress _ _ => rfl
  | bind x q d time missing =>
      cases missing with
      | none => rfl
      | some e => exact absurd rfl (never e)
  | leak x q d e => exact absurd rfl (never e)
  | _ => exact builds.elim

/-! ## What a pass adds -/

/-- From `l` to `l'` the port has got rows for some of these addresses only, each with a binding
made since, and nothing was left without a row. -/
structure Grown (portId : String) (wanted : Desired → Prop) (l l' : Ledger) : Prop where
  linked : l'.Linked
  agreed : l'.Agreed
  strays : ∀ h, l'.Stray h → l.Stray h
  made : l.bindingsMade ≤ l'.bindingsMade
  rows : ∀ b ∈ l'.rows, b.portId = portId → b ∈ l.rows ∨
    (wanted ⟨b.subnetId, b.address, b.macAddress⟩ ∧
      ∃ k, l.bindingsMade < k ∧ b.bindingId = Controller.State.bindingName k)

namespace Grown

variable {portId : String} {wanted : Desired → Prop} {l' l'' : Ledger}

/-- A pass that has done nothing has added nothing. -/
theorem refl (linked : l.Linked) (agreed : l.Agreed) : Grown portId wanted l l :=
  ⟨linked, agreed, fun _ => id, Nat.le_refl _, fun _ hb _ => Or.inl hb⟩

/-- What was added in two stretches was added in one. -/
theorem trans (h : Grown portId wanted l l') (h' : Grown portId wanted l' l'') :
    Grown portId wanted l l'' where
  linked := h'.linked
  agreed := h'.agreed
  strays g stray := h.strays g (h'.strays g stray)
  made := Nat.le_trans h.made h'.made
  rows b hb mine := by
    rcases h'.rows b hb mine with old | ⟨want, k, later, name⟩
    · exact h.rows b old mine
    · exact Or.inr ⟨want, k, Nat.lt_of_le_of_lt h.made later, name⟩

/-- What was added for the wishes was added for more of them. -/
theorem mono {more : Desired → Prop} (weaker : ∀ d, wanted d → more d)
    (h : Grown portId wanted l l') : Grown portId more l l' :=
  { h with rows := fun b hb mine => (h.rows b hb mine).imp id fun ⟨want, new⟩ =>
      ⟨weaker _ want, new⟩ }

/-- An act that builds without a fault adds what it aims at. -/
theorem apply (linked : l.Linked) (agreed : l.Agreed) {a : Act} (fits : a.Fits l)
    (builds : a.Builds) (clean : a.fault? = none)
    (aims : ∀ x d, a.aim? = some (x, portId, d) → wanted d) :
    Grown portId wanted l (a.apply l) where
  linked := linked.apply fits
  agreed := agreed.apply linked fits (by rintro b c d rfl; exact builds.elim)
  strays h stray := stray.of_apply linked fits clean
  made := by
    cases a with
    | serve _ _ _ _ => exact Nat.le_refl _
    | readdress _ _ => exact Nat.le_refl _
    | bind x q d time m =>
        obtain ⟨held, eq, -⟩ := (l.create x d).supersede_eq (l.row? q d.address) m
        rw [Act.apply, eq]
        exact Nat.le_succ _
    | leak _ _ _ _ => exact Nat.le_succ _
    | _ => exact builds.elim
  rows b hb mine := by
    rcases Act.row_cases linked fits hb with old | ⟨x, q, d, time, m, rfl, rfl⟩ |
      ⟨c, d, time, rfl, -, -⟩
    · exact Or.inl old
    -- the row may take the place of an older one, whose date it keeps then
    · have same : ∃ created, (l.newRow x q d time).inPlace l.rows
          = { l.newRow x q d time with createdAt := created } := by
        rw [Store.Binding.inPlace]
        split
        · exact ⟨_, rfl⟩
        · exact ⟨_, rfl⟩
      obtain ⟨created, eq⟩ := same
      rw [eq] at mine ⊢
      cases show q = portId from mine
      exact Or.inr ⟨aims x d rfl, _, Nat.lt_succ_self _, rfl⟩
    · exact builds.elim

/-- A path of acts that take nothing away, tell of no fault and bind what is wanted. -/
theorem of_path {acts : List Act} (path : Path l acts l') (linked : l.Linked) (agreed : l.Agreed)
    (builds : ∀ a ∈ acts, a.Builds) (clean : ∀ a ∈ acts, a.fault? = none)
    (aims : ∀ a ∈ acts, ∀ x d, a.aim? = some (x, portId, d) → wanted d) :
    Grown portId wanted l l' :=
  path.keeps (P := Grown portId wanted l) (refl linked agreed) fun a ha _ fits sofar =>
    sofar.trans (apply sofar.linked sofar.agreed fits (builds a ha) (clean a ha) (aims a ha))

end Grown

/-! ## Sections one after the other -/

section Proceed

variable {settings : Settings} {profileId : Option String}

/-- The surroundings go on through a section. -/
theorem follows_next (st : Stage) (w : World) :
    w.Follows (st.next settings profileId w).2 := by
  have here := follows_runIn (st.advance settings profileId) w
  rw [Stage.next]
  cases run : (st.advance settings profileId).runIn w with
  | mk r w' =>
      rw [run] at here
      cases r <;> exact here

/-- The surroundings go on through any number of sections. -/
theorem follows_proceed {n : Nat} {st st' : Stage} {w w' : World}
    (ran : st.proceed settings profileId n w = (st', w')) : w.Follows w' := by
  induction n generalizing st w with
  | zero =>
      cases ran
      exact .refl _
  | succ n ih => exact (follows_next st w).trans (ih ran)

/-- One section, whether the pass ends with it or not. -/
theorem grown_next {st : Stage} (shows : w.Shows l) (linked : l.Linked) (agreed : l.Agreed)
    (dependable : Dependable w) (remembers : st.pass.True w.catalog l) (portId : String)
    (timely : (st.next settings profileId w).2.clock.Legible) :
    ∃ l', (st.next settings profileId w).2.Shows l' ∧
      Grown portId (fun d => st.Awaits w.catalog (portId, d)) l l' ∧
      (st.next settings profileId w).1.pass.True w.catalog l' ∧
      ∀ e, (st.next settings profileId w).1.Awaits w.catalog e → st.Awaits w.catalog e := by
  have goes := Stage.goes_advance shows linked settings profileId remembers
  rw [Stage.next] at timely ⊢
  cases run : (st.advance settings profileId).runIn w with
  | mk r w' =>
      have legible : ((st.advance settings profileId).runIn w).2.clock.Legible := by
        rw [run] at timely ⊢
        cases r <;> exact timely
      obtain ⟨acts, l', path, shows', accounts, all, after⟩ := goes legible
      rw [run] at shows' accounts after
      have grown : Grown portId (fun d => st.Awaits w.catalog (portId, d)) l l' :=
        .of_path path linked agreed (fun a ha => (all a ha).1)
          (fun a ha => dependable.clean accounts ha (all a ha).1)
          fun a ha x d aim => (all a ha).2 x (portId, d) aim
      -- a section that ends with an error ends the pass, which then awaits nothing
      cases r with
      | ok st' => exact ⟨l', shows', grown, (after st' rfl).1, (after st' rfl).2⟩
      | error e =>
          refine ⟨l', shows', grown, Pass.true_start _ _, ?_⟩
          rintro e (⟨q, none, -⟩ | ⟨g, none, -⟩) <;> cases none

/-- Any number of sections adds to the port what the pass awaits for it. -/
theorem grown_proceed {n : Nat} {st st' : Stage} {w' : World}
    (ran : st.proceed settings profileId n w = (st', w')) (shows : w.Shows l) (linked : l.Linked)
    (agreed : l.Agreed) (dependable : Dependable w) (remembers : st.pass.True w.catalog l)
    (portId : String) (timely : w'.clock.Legible) :
    ∃ l', w'.Shows l' ∧ Grown portId (fun d => st.Awaits w.catalog (portId, d)) l l' ∧
      st'.pass.True w.catalog l' ∧ ∀ e, st'.Awaits w.catalog e → st.Awaits w.catalog e := by
  induction n generalizing st w l with
  | zero =>
      cases ran
      exact ⟨l, shows, .refl linked agreed, remembers, fun e => id⟩
  | succ n ih =>
      have follows : w.Follows (st.next settings profileId w).2 := follows_next st w
      have later : (st.next settings profileId w).2.Follows w' := follows_proceed ran
      have early := timely.earlier later.clock
      obtain ⟨l₁, shows₁, grown₁, remembers₁, awaits₁⟩ :=
        grown_next shows linked agreed dependable remembers portId early
      have same := follows.catalog
      obtain ⟨l₂, shows₂, grown₂, remembers₂, awaits₂⟩ := ih ran shows₁ grown₁.linked
        grown₁.agreed (dependable.follows follows) (by rw [same]; exact remembers₁)
      rw [same] at grown₂ remembers₂ awaits₂
      exact ⟨l₂, shows₂, grown₁.trans (grown₂.mono fun d => awaits₁ (portId, d)), remembers₂,
        fun e awaits => awaits₁ e (awaits₂ e awaits)⟩

end Proceed

/-! ## What is left -/

/-- What is left in the end of a port that was in the surroundings `w` and was deleted, with `w₁`
after the deletion: rows only for the addresses that were awaited then, each with a binding that was
made later. A binding of the controller is named by a row, or it was without one in `w` already. -/
structure Departed (portId : String) (awaited : Desired → Prop) (w : World)
    (rows₀ : List Store.Binding) (w₁ : World) (w₂ : World) (rows₂ : List Store.Binding) : Prop where
  rows : ∀ b ∈ rows₂, b.portId = portId → awaited ⟨b.subnetId, b.address, b.macAddress⟩ ∧
    ∀ h ∈ w₁.controller.bindings, h.id ≠ b.bindingId
  bindings : ∀ h ∈ w₂.controller.bindings,
    (∃ b ∈ rows₂, (b.serverId, b.bindingId) = (h.serverId, h.id)) ∨
      (h ∈ w.controller.bindings ∧ ∀ b ∈ rows₀, (b.serverId, b.bindingId) ≠ (h.serverId, h.id))

/-- A whole act is one on a row, or aims at an address. -/
theorem Act.Whole.aside {portId : String} {a : Act} (whole : a.Whole portId) :
    a.OnRow ∨ ∃ b, a.aim? = some b := by
  cases a with
  | bind x q d time m => exact Or.inr ⟨_, rfl⟩
  | release b m => exact Or.inl trivial
  | _ => exact whole.elim

/-- After a deletion that leaves no row of the port, and after more sections of a pass. -/
theorem Grown.departed {portId : String} {wanted : Desired → Prop} {l₁ l₂ : Ledger}
    {w₁ w₂ : World} (shows : w.Shows l) (shows₁ : w₁.Shows l₁) (shows₂ : w₂.Shows l₂)
    (linked₁ : l₁.Linked) (gone : ¬ l₁.HasRow portId) (strays : ∀ h, l₁.Stray h → l.Stray h)
    (grown : Grown portId wanted l₁ l₂) : Departed portId wanted w l.rows w₁ w₂ l₂.rows where
  rows b hb mine := by
    rcases grown.rows b hb mine with old | ⟨want, k, later, name⟩
    · exact absurd ⟨b, old, mine⟩ gone
    · rw [shows₁.controller.bindings_eq, name]
      exact ⟨want, linked₁.held_new k later⟩
  bindings h hh := by
    rw [shows₂.controller.bindings_eq] at hh
    rw [shows.controller.bindings_eq]
    by_cases named : ∃ b ∈ l₂.rows, (b.serverId, b.bindingId) = (h.serverId, h.id)
    · exact Or.inl named
    · exact Or.inr (strays h (grown.strays h ⟨hh, fun b hb same => named ⟨b, hb, same⟩⟩))

/-- The surroundings when a port has been removed from the catalog. -/
def withoutPort (w : World) (portId : String) : World :=
  { w with catalog := w.catalog.removePort portId }

/-- What a pass remembers of subnets and servers has nothing to do with ports. -/
theorem Pass.True.withoutPort {pass : Pass} (remembers : pass.True w.catalog l) (portId : String) :
    pass.True (withoutPort w portId).catalog l :=
  ⟨remembers.knows, remembers.keyed, remembers.servers⟩

/-- The ledger does not see that a port has left the catalog. -/
theorem shows_withoutPort (shows : w.Shows l) (portId : String) :
    (withoutPort w portId).Shows l :=
  ⟨shows.store, shows.controller, shows.networks, shows.ports⟩

/-- Before a pass has listed the ports, it awaits nothing for a port that is not in the catalog. -/
theorem not_awaits_start (c : Catalog) (portId : String) (d : Desired) :
    ¬ Stage.start.Awaits (c.removePort portId) (portId, d) := by
  rintro (⟨q, hq, -, wanted⟩ | ⟨g, none, -⟩)
  · obtain ⟨f, -, same⟩ := List.mem_map.mp wanted
    exact (Table.mem_remove.mp hq).2 (congrArg Prod.fst same)
  · exact nomatch none

/-- An instance port is removed from the catalog after some sections of a pass, and is deleted
without an error after some more of them. When the pass is over, there is nothing of the port but
what the pass awaited for it when it was deleted; and that is nothing if the pass listed the ports
after the removal. -/
theorem departed_during_resync {services : List Store.Service} {rows : List Store.Binding}
    (coherent : Coherent w services rows) (dependable : Dependable w) {p : Port}
    (compute : p.role = .compute) {settings : Settings} {profileId : Option String}
    {i j k : Nat} {s₁ s₂ : Stage} {w₁ w₂ w₃ : World} {result : Except Error ResyncReport}
    (started : Stage.start.proceed settings profileId i w = (s₁, w₁))
    (removed : s₁.proceed settings profileId j (withoutPort w₁ p.id) = (s₂, w₂))
    (deleted : ((portDeleted p).runIn w₂).1.isOk = true)
    (ended : s₂.proceed settings profileId k ((portDeleted p).runIn w₂).2 = (.finished result, w₃))
    (timely : w₃.clock.Legible) :
    ∃ services' rows', Coherent w₃ services' rows' ∧
      Departed p.id (fun d => s₂.Awaits w₂.catalog (p.id, d)) w rows ((portDeleted p).runIn w₂).2
        w₃ rows' ∧
      (s₁ = .start → ∀ d, ¬ s₂.Awaits w₂.catalog (p.id, d)) := by
  have follows₁ := follows_proceed started
  have follows₂ := follows_proceed removed
  have follows₃ := follows_runIn (portDeleted p) w₂
  have follows₄ := follows_proceed ended
  have timely₃ := timely.earlier follows₄.clock
  have timely₂ := timely₃.earlier follows₃.clock
  have timely₁ : w₁.clock.Legible := timely₂.earlier follows₂.clock
  -- until the removal, and then with another catalog until the deletion
  obtain ⟨l₁, shows₁, grown₁, remembers₁, -⟩ := grown_proceed started coherent.shows
    coherent.linked coherent.agreed dependable (Pass.true_start _ _) p.id timely₁
  rw [← follows₁.catalog] at remembers₁
  have moved : Dependable w₁ := dependable.follows follows₁
  have dependable₁ : Dependable (withoutPort w₁ p.id) := moved
  obtain ⟨l₂, shows₂, grown₂, remembers₂, awaits₂⟩ := grown_proceed removed
    (shows_withoutPort shows₁ p.id) grown₁.linked grown₁.agreed dependable₁
    (remembers₁.withoutPort p.id) p.id timely₂
  have dependable₂ := dependable₁.follows follows₂
  rw [← follows₂.catalog] at remembers₂ awaits₂
  -- the deletion
  obtain ⟨acts, l₃, path, shows₃, accounts, done⟩ :=
    goes_portDeleted_compute shows₂ grown₂.linked compute timely₃
  obtain ⟨u, ok⟩ := exists_ok deleted
  obtain ⟨whole, gone⟩ := done u ok
  have confined : Confined p.id l₂ l₃ := .of_path path grown₂.linked grown₂.agreed whole
    (dependable₂.truthful.clean path accounts whole)
  have remembers₃ : s₂.pass.True w₂.catalog l₃ := by
    refine ⟨remembers₂.knows, remembers₂.keyed, fun s hs => ?_⟩
    rw [path.services_eq fun a ha => Act.Whole.aside (whole a ha)]
    exact remembers₂.servers s hs
  -- and the rest of the pass
  rw [← follows₃.catalog] at remembers₃
  obtain ⟨l₄, shows₄, grown₄, -, -⟩ := grown_proceed ended shows₃ confined.linked confined.agreed
    (dependable₂.follows follows₃) remembers₃ p.id timely
  rw [follows₃.catalog] at grown₄
  refine ⟨l₄.services, l₄.rows, .of_ledger shows₄ grown₄.linked grown₄.agreed, ?_, ?_⟩
  · refine grown₄.departed coherent.shows shows₃ shows₄ confined.linked gone fun h stray => ?_
    exact grown₁.strays h (grown₂.strays h (confined.strays h stray))
  · rintro rfl d awaited
    have early := awaits₂ _ awaited
    rw [follows₂.catalog] at early
    exact not_awaits_start w₁.catalog p.id d early

/-! ## The first network is rebuilt while its instance port goes -/

namespace Sample

/-- A pass, after this many of its sections. -/
def interrupted (w : World) (n : Nat) : Stage × World := Stage.start.proceed settings none n w

/-- Then the port is removed and deleted. -/
def deletion (w : World) (n : Nat) : Except Error Unit × World :=
  (portDeleted instancePort).runIn (withoutPort (interrupted w n).2 "instance-port")

/-- The pass after this many more sections. -/
def resumed (w : World) (n k : Nat) : Stage × World :=
  (interrupted w n).1.proceed settings none k (deletion w n).2

/-- The next removal of a binding is lost. -/
def hampered : World := { bound.after with
  callFaults := Faults.none.set .deleteBinding (.window ⟨.request, "unavailable"⟩ 0 (some 1)) }

/-- Rows and controller agree when the instance is bound. -/
theorem coherent_bound : ∃ services rows, Coherent bound.after services rows :=
  Coherent.of_homed_run homed_run

/-- Nothing is lost when the instance is bound. -/
theorem dependable_bound : Dependable bound.after := fun n =>
  ((calm.follows follows_served).follows (follows_runIn _ _)).calls .deleteBinding n

/-- The port is removed when the pass is about to serve the network, and the pass goes on until it
has gone through all ports. -/
def overtaken (w : World) : Stage × World :=
  (interrupted w 2).1.proceed settings none 3 (withoutPort (interrupted w 2).2 "instance-port")

/-- The port is deleted then. -/
def lateDeletion (w : World) : Except Error Unit × World :=
  (portDeleted instancePort).runIn (overtaken w).2

/-- What is left for the pass to do is the bindings. -/
def rebound (w : World) : Stage × World :=
  (overtaken w).1.proceed settings none 2 (lateDeletion w).2

/-- When it is deleted, the pass awaits the one address of the port. -/
theorem awaited_overtaken {d : Desired} (awaits : (overtaken bound.after).1.Awaits
    (overtaken bound.after).2.catalog ("instance-port", d)) :
    d = ⟨"subnet", ⟨10, 0, 0, 5⟩, "fa:16:3e:00:00:05"⟩ := by
  have listed : (overtaken bound.after).1.ports (overtaken bound.after).2.catalog = [] := by
    decide +kernel
  have gathered : (overtaken bound.after).1.pass.groups = [⟨"switch", "net",
      [("instance-port", ⟨"subnet", ⟨10, 0, 0, 5⟩, "fa:16:3e:00:00:05"⟩)]⟩] := by decide +kernel
  rcases awaits with ⟨q, hq, -⟩ | ⟨group, hg, mem⟩
  · rw [listed] at hq
    cases hq
  · rw [gathered] at hg
    cases List.mem_singleton.mp hg
    exact congrArg Prod.snd (List.mem_singleton.mp mem)

end Sample

/-- The port goes in the midst of the pass, with sections before its removal, between the removal and
the deletion, and after the deletion. What there is of the port then is for the one address that the
pass awaited, with a binding made after the deletion. -/
theorem departed_within_resync : ∃ services rows services' rows',
    Coherent Sample.bound.after services rows ∧
    Coherent (Sample.rebound Sample.bound.after).2 services' rows' ∧
    (Sample.lateDeletion Sample.bound.after).1.isOk = true ∧
    (Sample.rebound Sample.bound.after).1.report? = some ⟨0, 1, 0, 1, 0⟩ ∧
    Departed "instance-port" (· = ⟨"subnet", ⟨10, 0, 0, 5⟩, "fa:16:3e:00:00:05"⟩)
      Sample.bound.after rows (Sample.lateDeletion Sample.bound.after).2
      (Sample.rebound Sample.bound.after).2 rows' ∧
    ∃ b ∈ rows', b.portId = "instance-port" := by
  obtain ⟨services, rows, coherent⟩ := Sample.coherent_bound
  have deleted : (Sample.lateDeletion Sample.bound.after).1.isOk = true := by decide +kernel
  have report : (Sample.rebound Sample.bound.after).1.report? = some ⟨0, 1, 0, 1, 0⟩ := by
    decide +kernel
  have ended : Sample.rebound Sample.bound.after = (.finished (.ok ⟨0, 1, 0, 1, 0⟩), _) :=
    Prod.ext (Stage.eq_finished_of_report? report) rfl
  have timely : (Sample.rebound Sample.bound.after).2.clock.Legible := by
    show Clock.Legible _
    decide +kernel
  obtain ⟨services', rows', coherent', departed, -⟩ := departed_during_resync coherent
    Sample.dependable_bound (p := Sample.instancePort) rfl (i := 2) (j := 3) rfl rfl deleted ended
    timely
  have left : (Sample.rebound Sample.bound.after).2.store.bindings.map (·.map (·.portId))
      = some ["instance-port"] := by decide +kernel
  refine ⟨services, rows, services', rows', coherent, coherent', deleted, report,
    ⟨fun b hb mine => ?_, departed.bindings⟩, ?_⟩
  · obtain ⟨wanted, new⟩ := departed.rows b hb mine
    exact ⟨Sample.awaited_overtaken wanted, new⟩
  · rw [coherent'.store.bindings_eq, Option.map_some, List.map_map] at left
    have ids : rows'.map (·.portId) = ["instance-port"] := Option.some.inj left
    exact List.mem_map.mp (ids ▸ List.mem_singleton_self _)

/-- A port that goes right after the pass has listed the ports is bound again, though its deletion
was answered without an error and nothing failed: it has a row and a binding when the pass is over.
And if the pass could not remove a binding, the one it has made stays behind when the port goes. -/
theorem departed_port_leaves_binding :
    ((∃ services rows, Coherent Sample.bound.after services rows) ∧
      (Sample.deletion Sample.bound.after 1).1.isOk = true ∧
      (Sample.resumed Sample.bound.after 1 6).1.report? = some ⟨0, 1, 0, 1, 0⟩ ∧
      (Sample.resumed Sample.bound.after 1 6).2.store.bindings.map (·.map (·.portId))
        = some ["instance-port"] ∧
      (Sample.resumed Sample.bound.after 1 6).2.controller.bindings.length = 1) ∧
    (∃ services rows, Coherent Sample.hampered services rows) ∧
      (Sample.interrupted Sample.hampered 7).1.report? = some ⟨0, 1, 0, 0, 1⟩ ∧
      (Sample.deletion Sample.hampered 7).1.isOk = true ∧
      (Sample.deletion Sample.hampered 7).2.store.bindings.map List.length = some 0 ∧
      (Sample.deletion Sample.hampered 7).2.controller.bindings.length = 1 := by
  obtain ⟨services, rows, coherent⟩ := Sample.coherent_bound
  refine ⟨⟨⟨services, rows, coherent⟩, by decide +kernel, by decide +kernel, by decide +kernel,
    by decide +kernel⟩, ⟨services, rows, { coherent with }⟩, by decide +kernel, by decide +kernel,
    by decide +kernel, by decide +kernel⟩

end Overlay.Dhcp
