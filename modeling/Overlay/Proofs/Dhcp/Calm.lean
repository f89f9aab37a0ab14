import Overlay.Proofs.Dhcp.Beside
import Overlay.Proofs.Dhcp.Events

/-!
# What handlers do when nothing fails

Where nothing fails, a handler *comes* to an effect: the answer and the *deeds* that are done before
it is given, which are acts without their times. Effects of handlers that run one after the other
are put together by `Effect.andThen`; the effects themselves are functions of what the handlers look
up.

Main statements: `comes_converge`, `comes_teardown`, `comes_createServiceFor`, `comes_moveServer`.
-/

namespace Overlay.Dhcp

open Overlay.Handler

/-! ## Deeds -/

/-- What is done to a ledger in one piece when nothing fails, at whatever time. -/
inductive Deed where
  | serve (networkId portId : String) (config : DhcpServerConfig)
  | readdress (serverId : String) (ip : Address)
  | retire (x : Store.Service)
  | bind (x : Store.Service) (portId : String) (d : Desired)
  | move (b : Store.Binding) (d : Desired)
  | clash (b : Store.Binding) (d : Desired)
  | release (b : Store.Binding)

/-- The deed that an act does, if it tells of no fault. -/
def Act.deed? : Act → Option Deed
  | serve networkId portId config _ => some (.serve networkId portId config)
  | readdress serverId ip => some (.readdress serverId ip)
  | retire x none => some (.retire x)
  | bind x portId d _ none => some (.bind x portId d)
  | move b d _ => some (.move b d)
  | clash b _ d => some (.clash b d)
  | release b none => some (.release b)
  | _ => none

/-- Only acts of its kind do a deed, and they tell of no fault. -/
theorem Act.of_deed? {a : Act} {d : Deed} (h : a.deed? = some d) :
    match d with
    | .serve networkId portId config => ∃ time, a = .serve networkId portId config time
    | .readdress serverId ip => a = .readdress serverId ip
    | .retire x => a = .retire x none
    | .bind x portId d => ∃ time, a = .bind x portId d time none
    | .move b d => ∃ time, a = .move b d time
    | .clash b d => ∃ c, a = .clash b c d
    | .release b => a = .release b none := by
  cases a with
  | serve networkId portId config time => cases h; exact ⟨time, rfl⟩
  | readdress serverId ip => cases h; rfl
  | retire x m => cases m <;> cases h; rfl
  | bind x portId d time m => cases m <;> cases h; exact ⟨time, rfl⟩
  | leak x portId d e => exact nomatch h
  | move b d time => cases h; exact ⟨time, rfl⟩
  | clash b c d => cases h; exact ⟨c, rfl⟩
  | release b m => cases m <;> cases h; rfl
  | stay b e => exact nomatch h

/-- A path on which a single deed is done. -/
theorem Path.of_deed {l l' : Ledger} {acts : List Act} (path : Path l acts l') {d : Deed}
    (deeds : acts.map Act.deed? = [d].map some) :
    ∃ a, acts = [a] ∧ a.deed? = some d ∧ l' = a.apply l := by
  obtain ⟨a, rfl, did⟩ := List.map_eq_singleton_iff.mp deeds
  cases path with
  | cons fits rest =>
      cases rest
      exact ⟨a, rfl, did, rfl⟩

/-- An answer, and what is done before it is given. -/
structure Effect where
  result : Except Error Unit
  deeds : List Deed

namespace Effect

/-- All is well. -/
def done (deeds : List Deed) : Effect := ⟨.ok (), deeds⟩

/-- Something is in the way. -/
def stopped (e : Error) (deeds : List Deed) : Effect := ⟨.error e, deeds⟩

/-- One effect after the other, unless the first one stops. -/
def andThen (first second : Effect) : Effect :=
  match first.result with
  | .ok _ => ⟨second.result, first.deeds ++ second.deeds⟩
  | .error _ => first

end Effect

end Dhcp

namespace Handler

open Dhcp (Ledger Act Path Deed Effect)

variable {α β : Type}

/-- The handler comes to this effect. -/
def Comes (h : Handler α) (w : World) (l : Ledger) (e : Effect) : Prop :=
  h.Goes w l fun r acts _ =>
    r.map (fun _ => ()) = e.result ∧ acts.map Act.deed? = e.deeds.map some

/-- If nothing fails, the acts on the way tell of no fault. -/
theorem Goes.calm {h : Handler α} {w : World} {l : Ledger}
    {P Q : Except Error α → List Act → Ledger → Prop} (calm : w.Calm) (hP : h.Goes w l P)
    (weaker : ∀ r acts l', Path l acts l' → (∀ a ∈ acts, a.fault? = none) → P r acts l' →
      Q r acts l') : h.Goes w l Q := by
  refine Ends.mono hP ?_
  rintro r w' - ⟨acts, l', path, shows, accounts, here⟩
  exact ⟨acts, l', path, shows, accounts, weaker r acts l' path (accounts.clean calm) here⟩

namespace Comes

variable {h : Handler α} {f : α → Handler β} {w : World} {l : Ledger} {e : Effect}

/-- To answer comes to no deed. -/
theorem pure {a : α} (shows : w.Shows l) : Comes (Pure.pure a) w l (.done []) :=
  Goes.pure shows ⟨rfl, rfl⟩

/-- To fail comes to no deed. -/
theorem throw {error : Error} (shows : w.Shows l) :
    Comes (α := α) (throw error) w l (.stopped error []) :=
  Goes.throw shows ⟨rfl, rfl⟩

/-- A first part that does nothing to the ledger. -/
theorem quiet {T : Except Error α → Prop} {g : α → Handler β} (first : h.Quiet w l T)
    (ok : ∀ a w', w.Follows w' → w'.Shows l → T (.ok a) → (g a).Comes w' l e)
    (error : ∀ stop, T (.error stop) → e = .stopped stop []) : (h >>= g).Comes w l e := by
  refine Goes.quiet first ok fun stop here => ?_
  rw [error stop here]
  exact ⟨rfl, rfl⟩

/-- One handler after the other: so are their effects. -/
theorem andThen {e' : Effect} (linked : l.Linked) (first : h.Comes w l e)
    (rest : ∀ a acts l' w', w.Follows w' → w'.Shows l' → l'.Linked → Path l acts l' →
      e.result = .ok () → acts.map Act.deed? = e.deeds.map some → (f a).Comes w' l' e') :
    (h >>= f).Comes w l (e.andThen e') := by
  refine Goes.bind linked first ?_ ?_
  · rintro a acts l' w' follows shows linked' path ⟨ok, deeds⟩
    refine Goes.mono (rest a acts l' w' follows shows linked' path ok.symm deeds) ?_
    rintro r more l'' - ⟨result, deeds'⟩
    rw [Effect.andThen, show e.result = .ok () from ok.symm, List.map_append, List.map_append,
      deeds, deeds']
    exact ⟨result, rfl⟩
  · rintro error acts l' - ⟨stop, deeds⟩
    rw [Effect.andThen, show e.result = .error error from stop.symm]
    exact ⟨stop, deeds⟩

end Comes

end Handler

namespace Dhcp

open Overlay.Handler

variable {w : World} {l : Ledger}

/-! ## Single changes -/

section Changes

variable (calm : w.Calm) (shows : w.Shows l) (linked : l.Linked)

include calm shows linked

/-- In calm surroundings a row is released with its binding. -/
theorem comes_releaseAddress {b : Store.Binding} (hb : b ∈ l.rows) :
    (releaseAddress b.portId b).Comes w l (.done [.release b]) := by
  refine Goes.calm calm (goes_releaseAddress shows linked hb) ?_
  rintro (e | u) acts l' - clean released
  · obtain ⟨e', rfl⟩ := released
    exact nomatch clean _ (List.mem_singleton_self _)
  · obtain ⟨m, rfl⟩ := released
    cases m with
    | none => exact ⟨rfl, rfl⟩
    | some e => exact nomatch clean _ (List.mem_singleton_self _)

/-- In calm surroundings an address is bound. -/
theorem comes_bindAddress (settings : Settings) {x : Store.Service} (hx : x ∈ l.services)
    (portId : String) (d : Desired) :
    (bindAddress settings portId d x).Comes w l (.done [.bind x portId d]) := by
  refine Goes.calm calm (goes_bindAddress shows linked hx settings portId d) ?_
  rintro (e | u) acts l' - clean bound
  · exact absurd calm bound.1
  · obtain ⟨time, m, rfl⟩ := bound
    cases m with
    | none => exact ⟨rfl, rfl⟩
    | some e => exact nomatch clean _ (List.mem_singleton_self _)

/-- Moving an address of a port on which these addresses are taken. -/
def movedTo (taken : List IPv4) (b : Store.Binding) (d : Desired) : Effect :=
  if d.address ≠ b.address ∧ d.address ∈ taken then .stopped (.store .database) [.clash b d]
  else .done [.move b d]

/-- These are the addresses that rows of the port have. -/
def Ledger.Taken (l : Ledger) (portId : String) (taken : List IPv4) : Prop :=
  ∀ ip, ip ∈ taken ↔ ∃ c ∈ l.rows, c.key = (portId, ip)

/-- In calm surroundings an address is moved, unless another row of the port has it. -/
theorem comes_moveAddress {taken : List IPv4} {b : Store.Binding} (hb : b ∈ l.rows)
    (all : l.Taken b.portId taken) (d : Desired) (t : Template) :
    (moveAddress b.portId b d (updateFor b d t)).Comes w l (movedTo taken b d) := by
  refine Goes.calm calm (goes_moveAddress shows linked hb d t) ?_
  rintro (e | u) acts l' path clean moved
  · rcases moved with ⟨-, rough⟩ | ⟨rfl, c, rfl⟩
    · exact absurd calm rough
    · cases path with
      | cons fits rest =>
          obtain ⟨-, hc, key, other⟩ := fits
          have inTheWay : d.address ≠ b.address ∧ d.address ∈ taken := by
            refine ⟨fun same => other ?_, (all _).mpr ⟨c, hc, key⟩⟩
            exact linked.rows_keyed.eq_of_key hc hb (key.trans (Prod.ext rfl same))
          rw [movedTo, if_pos inTheWay]
          exact ⟨rfl, rfl⟩
  · obtain ⟨time, rfl⟩ := moved
    cases path with
    | cons fits rest =>
        have free : ¬ (d.address ≠ b.address ∧ d.address ∈ taken) := by
          rintro ⟨other, there⟩
          obtain ⟨c, hc, key⟩ := (all _).mp there
          have itself := fits.2 c hc key
          subst itself
          exact other (congrArg Prod.snd key).symm
        rw [movedTo, if_neg free]
        exact ⟨rfl, rfl⟩

end Changes

/-! ## The bindings of a port -/

/-- Carrying out changes on a port on which these addresses are taken. -/
def carriedOut (p : Port) (service : Option Store.Service) : List IPv4 → List Change → Effect
  | _, [] => .done []
  | taken, .keep :: rest => carriedOut p service taken rest
  | taken, .create d :: rest =>
    match service with
    | some x => (Effect.done [.bind x p.id d]).andThen (carriedOut p service taken rest)
    | none => .stopped (.notFound (.portServer p.id)) []
  | taken, .update b d _ :: rest =>
    (movedTo taken b d).andThen
      (carriedOut p service (d.address :: taken.filter (· ≠ b.address)) rest)
  | taken, .delete b :: rest =>
    (Effect.done [.release b]).andThen
      (carriedOut p service (taken.filter (· ≠ b.address)) rest)

section Taken

variable {portId : String} {taken : List IPv4} {b : Store.Binding}

/-- A released row gives its address free. -/
theorem Ledger.Taken.release (all : l.Taken portId taken) (port : b.portId = portId) :
    ((Act.release b none).apply l).Taken portId (taken.filter (· ≠ b.address)) := by
  intro ip
  have mem : ∀ c, c ∈ ((Act.release b none).apply l).rows ↔ c ∈ l.rows ∧ c.key ≠ b.key :=
    fun c => Table.mem_remove
  rw [List.mem_filter, decide_eq_true_iff, all]
  constructor
  · rintro ⟨⟨c, hc, key⟩, other⟩
    refine ⟨c, (mem c).mpr ⟨hc, fun same => other ?_⟩, key⟩
    exact congrArg Prod.snd (key.symm.trans same)
  · rintro ⟨c, hc, key⟩
    obtain ⟨hc, other⟩ := (mem c).mp hc
    refine ⟨⟨c, hc, key⟩, fun same => other ?_⟩
    rw [key, same, ← port]
    rfl

/-- A row that is moved gives one address free and takes another. -/
theorem Ledger.Taken.move (all : l.Taken portId taken) (linked : l.Linked) (hb : b ∈ l.rows)
    (port : b.portId = portId) (d : Desired) (time : Instant) :
    ((Act.move b d time).apply l).Taken portId
      (d.address :: taken.filter (· ≠ b.address)) := by
  intro ip
  have mem : ∀ c, c ∈ ((Act.move b d time).apply l).rows ↔
      c = b.moved d.subnetId d.address d.macAddress time ∨ (c ∈ l.rows ∧ c.key ≠ b.key) :=
    fun c => Table.mem_modify linked.rows_keyed hb _
  rw [List.mem_cons, List.mem_filter, decide_eq_true_iff, all]
  constructor
  · rintro (rfl | ⟨⟨c, hc, key⟩, other⟩)
    · exact ⟨_, (mem _).mpr (Or.inl rfl), Prod.ext port rfl⟩
    · refine ⟨c, (mem c).mpr (Or.inr ⟨hc, fun same => other ?_⟩), key⟩
      exact congrArg Prod.snd (key.symm.trans same)
  · rintro ⟨c, hc, key⟩
    rcases (mem c).mp hc with rfl | ⟨hc, other⟩
    · exact Or.inl (congrArg Prod.snd key).symm
    · refine Or.inr ⟨⟨c, hc, key⟩, fun same => other ?_⟩
      rw [key, same, ← port]
      rfl

/-- The taken addresses of a port are those of its rows. -/
theorem taken_ofPort (l : Ledger) (portId : String) :
    l.Taken portId ((Store.ofPort portId l.rows).map (·.address)) := by
  intro ip
  rw [List.mem_map]
  constructor
  · rintro ⟨c, hc, rfl⟩
    obtain ⟨hc, port⟩ := Store.mem_ofPort.mp hc
    exact ⟨c, hc, Prod.ext port rfl⟩
  · rintro ⟨c, hc, key⟩
    exact ⟨c, Store.mem_ofPort.mpr ⟨hc, congrArg Prod.fst key⟩, congrArg Prod.snd key⟩

end Taken

section Carried

variable {p : Port} {service : Option Store.Service}

/-- In calm surroundings new addresses come to the effect that is carried out for them. -/
theorem comes_binds (settings : Settings) (calm : w.Calm) (shows : w.Shows l) (linked : l.Linked)
    (there : ∀ x ∈ service, x ∈ l.services) (taken : List IPv4) (news : List Desired) :
    ((news.map Change.create).forM (applyChange settings p.id service)).Comes w l
      (carriedOut p service taken (news.map .create)) := by
  induction news generalizing w l with
  | nil => exact .pure shows
  | cons d rest ih =>
      cases service with
      | none => exact .throw shows
      | some x =>
          refine Comes.andThen linked
            (comes_bindAddress calm shows linked settings (there x rfl) p.id d) ?_
          rintro - acts l' w' follows shows' linked' path - deeds
          obtain ⟨a, rfl, did, -⟩ := path.of_deed deeds
          obtain ⟨time, rfl⟩ := Act.of_deed? did
          refine ih (calm.follows follows) shows' linked' fun y hy => ?_
          rw [path.services_eq fun a ha =>
            Or.inr ⟨(x, p.id, d), by rw [List.mem_singleton.mp ha]; rfl⟩]
          exact there y hy

/-- Rows are taken one by one, and then addresses are bound. -/
theorem comes_edits (settings : Settings) (t : Template) (calm : w.Calm) (shows : w.Shows l)
    (linked : l.Linked) {fates : List Fate} (ready : Ready p l fates)
    (there : ∀ x ∈ service, x ∈ l.services) {taken : List IPv4} (all : l.Taken p.id taken)
    (news : List Desired) :
    ((edits fates t ++ news.map Change.create).forM (applyChange settings p.id service)).Comes w l
      (carriedOut p service taken (edits fates t ++ news.map .create)) := by
  -- each row leaves the port with other addresses taken, on which the next moves depend
  induction fates generalizing w l taken with
  | nil => exact comes_binds settings calm shows linked there taken news
  | cons f rest ih =>
      obtain ⟨b, d⟩ := f
      obtain ⟨hb, port⟩ := ready.rows _ List.mem_cons_self
      have keeps : ∀ {a : Act} {l' : Ledger}, a.OnRow → Path l [a] l' →
          ∀ x ∈ service, x ∈ l'.services := by
        intro a l' onRow path x hx
        rw [path.services_eq fun a' ha => Or.inl (List.mem_singleton.mp ha ▸ onRow)]
        exact there x hx
      rw [edits_cons]
      cases d with
      | none =>
          rw [if_neg (by exact nofun)]
          have release := comes_releaseAddress calm shows linked hb
          rw [port] at release
          refine Comes.andThen linked release ?_
          rintro - acts l' w' follows shows' linked' path - deeds
          obtain ⟨a, rfl, did, rfl⟩ := path.of_deed deeds
          cases Act.of_deed? did
          exact ih (calm.follows follows) shows' linked' (ready.release none)
            (keeps (a := .release b none) trivial path)
            (all.release port)
      | some d =>
          -- a row that is as it should be is skipped
          by_cases same : (updateFor b d t).isEmpty = true
          · have keep : transition (some b) (some d) t = .keep := if_pos same
            rw [if_pos keep]
            exact ih calm shows linked ready.tail there all
          · have update : transition (some b) (some d) t = .update b d (updateFor b d t) :=
              if_neg same
            rw [if_neg (by rw [update]; exact nofun), update]
            rw [← port] at all
            have move := comes_moveAddress calm shows linked hb all d t
            rw [port] at move
            refine Comes.andThen linked move ?_
            rintro - acts l' w' follows shows' linked' path ok deeds
            have moved : movedTo taken b d = .done [.move b d] := by
              rw [movedTo] at ok ⊢
              split at ok
              · exact nomatch ok
              · next free => exact if_neg free
            rw [moved] at deeds
            obtain ⟨a, rfl, did, rfl⟩ := path.of_deed deeds
            obtain ⟨time, rfl⟩ := Act.of_deed? did
            refine ih (calm.follows follows) shows' linked' (ready.move linked time)
              (keeps (a := .move b d time) trivial path) ?_
            exact port ▸ all.move linked hb rfl d time

/-- Turning the bindings that a port has into those it should have. The service is that of its
network, and `taken` are the addresses that rows of the port have. -/
def converged (settings : Settings) (c : Catalog) (p : Port) (service : Option Store.Service)
    (taken : List IPv4) (current : List Store.Binding) : Effect :=
  let changes := plan current (if p.isCompute then wantedBindings c p else [])
    (Template.ofSettings settings)
  match neededService p service changes with
  | .ok service => carriedOut p service taken changes
  | .error e => .stopped e []

/-- In calm surroundings all changes of a port come to what is carried out, if the service they need
is there. -/
theorem comes_changes (settings : Settings) (calm : w.Calm) (shows : w.Shows l)
    (linked : l.Linked) {current : List Store.Binding} {desired : List Desired} (t : Template)
    (rows : ∀ b ∈ current, b ∈ l.rows ∧ b.portId = p.id)
    (once : Table.Keyed Store.Binding.key current)
    (every : ∀ b ∈ current, ∀ c ∈ l.rows, c.portId = b.portId → c ∈ current)
    (own : ∀ d ∈ desired, d.Of p)
    (distinct : (p.ipv4s.map (·.2)).Nodup → (desired.map (·.address)).Nodup) {taken : List IPv4}
    (all : l.Taken p.id taken) :
    Comes (do
      let service ← serviceFor p (plan current desired t)
      (plan current desired t).forM (applyChange settings p.id service)) w l
      (match neededService p (Table.find? Store.Service.networkId p.networkId l.services)
          (plan current desired t) with
        | .ok service => carriedOut p service taken (plan current desired t)
        | .error e => .stopped e []) := by
  obtain ⟨fates, news, parts, eq⟩ := exists_parts current desired t
  refine Comes.quiet (quiet_serviceFor shows p _) ?_ fun stop needed => by rw [← needed]
  rintro service w1 follows1 shows1 needed
  rw [← needed, eq]
  refine comes_edits settings t (calm.follows follows1) shows1 linked
    (parts.ready rows once every own distinct) (fun x hx => ?_) all news
  exact (Table.mem_of_find? (of_neededService needed.symm x hx)).1

/-- In calm surroundings converging a port comes to what its rows and the catalog say. -/
theorem comes_converge (settings : Settings) (calm : w.Calm) (shows : w.Shows l)
    (linked : l.Linked) {current : List Store.Binding}
    (rows : ∀ b ∈ current, b ∈ l.rows ∧ b.portId = p.id)
    (once : Table.Keyed Store.Binding.key current)
    (every : ∀ b ∈ current, ∀ c ∈ l.rows, c.portId = b.portId → c ∈ current)
    {taken : List IPv4} (all : l.Taken p.id taken) :
    (converge settings p current).Comes w l (converged settings w.catalog p
      (Table.find? Store.Service.networkId p.networkId l.services) taken current) := by
  rw [converged, converge]
  by_cases compute : p.isCompute = true
  · rw [if_pos compute, if_pos compute]
    refine Comes.quiet (quiet_servedSubnets shows p.networkId) ?_
      fun e rough => absurd calm rough
    rintro ids w1 follows1 shows1 rfl
    have wanted : desiredBindings p _ = wantedBindings w.catalog p := rfl
    rw [pure_bind, wanted]
    exact comes_changes settings (calm.follows follows1) shows1 linked _ rows once every
      (fun d => of_mem_wanted) (nodup_wanted w.catalog) all
  · rw [if_neg compute, if_neg compute, pure_bind]
    have none_own : ∀ d ∈ ([] : List Desired), d.Of p := List.forall_mem_nil _
    exact comes_changes settings calm shows linked _ rows once every none_own
      (fun _ => List.nodup_nil) all

end Carried

/-! ## What the changes of a port are about -/

section OfPort

variable {p : Port} {service : Option Store.Service}

/-- The deed is about one of these rows, or binds an address of the port on the server of this
service. -/
def Deed.OfPort (portId : String) (service : Option Store.Service) (rows : List Store.Binding) :
    Deed → Prop
  | bind x q _ => service = some x ∧ q = portId
  | move b _ | clash b _ | release b => b ∈ rows
  | serve .. | readdress .. | retire .. => False

/-- The change takes one of these rows, or none. -/
def Change.About (rows : List Store.Binding) : Change → Prop
  | .update b _ _ | .delete b => b ∈ rows
  | .keep | .create _ => True

/-- A deed of two effects in turn is a deed of one of them. -/
theorem Effect.mem_andThen {e e' : Effect} {d : Deed} (h : d ∈ (e.andThen e').deeds) :
    d ∈ e.deeds ∨ d ∈ e'.deeds := by
  rw [andThen] at h
  split at h
  · exact List.mem_append.mp h
  · exact Or.inl h

/-- A plan is about the rows that are there now. -/
theorem about_plan (current : List Store.Binding) (desired : List Desired) (t : Template) :
    ∀ c ∈ plan current desired t, c.About current := by
  obtain ⟨fates, news, parts, eq⟩ := exists_parts current desired t
  rw [eq]
  intro c hc
  rcases List.mem_append.mp hc with edit | create
  · obtain ⟨f, hf, rfl⟩ := List.mem_map.mp (List.mem_filter.mp edit).1
    have hb : f.1 ∈ current := parts.bindings.subset (List.mem_map.mpr ⟨f, hf, rfl⟩)
    cases f.2 with
    | none => exact hb
    | some d =>
        rw [transition]
        split
        · trivial
        · exact hb
  · obtain ⟨d, -, rfl⟩ := List.mem_map.mp create
    trivial

/-- What is carried out for a port is about its rows and its new addresses. -/
theorem ofPort_carriedOut {rows : List Store.Binding} {changes : List Change}
    (about : ∀ c ∈ changes, c.About rows) (taken : List IPv4) :
    ∀ d ∈ (carriedOut p service taken changes).deeds, d.OfPort p.id service rows := by
  induction changes generalizing taken with
  | nil => exact fun d hd => nomatch hd
  | cons c rest ih =>
      obtain ⟨here, there⟩ := List.forall_mem_cons.mp about
      intro d hd
      cases c with
      | keep => exact ih there taken d hd
      | create desired =>
          cases service with
          | none => exact nomatch hd
          | some x =>
              rcases Effect.mem_andThen hd with first | later
              · rw [List.mem_singleton.mp first]
                exact ⟨rfl, rfl⟩
              · exact ih there taken d later
      | update b desired u =>
          rcases Effect.mem_andThen hd with first | later
          · rw [movedTo] at first
            split at first <;> rw [List.mem_singleton.mp first] <;> exact here
          · exact ih there _ d later
      | delete b =>
          rcases Effect.mem_andThen hd with first | later
          · rw [List.mem_singleton.mp first]
            exact here
          · exact ih there _ d later

/-- What converging a port does is about its rows and its new addresses. -/
theorem ofPort_converged (settings : Settings) (c : Catalog) (taken : List IPv4)
    (current : List Store.Binding) :
    ∀ d ∈ (converged settings c p service taken current).deeds,
      d.OfPort p.id service current := by
  rw [converged]
  generalize hchanges : plan current _ _ = changes
  have about : ∀ c ∈ changes, c.About current := hchanges ▸ about_plan _ _ _
  cases needed : neededService p service changes with
  | error e => exact fun d hd => nomatch hd
  | ok service' =>
      intro d hd
      have own := ofPort_carriedOut about taken d hd
      cases d with
      | bind x q d => exact ⟨of_neededService needed x own.1, own.2⟩
      | _ => exact own

/-- Such deeds leave services and servers alone. -/
theorem servesAs_of_ofPort {portId : String} {rows : List Store.Binding} {l' : Ledger}
    {acts : List Act} (path : Path l acts l') {deeds : List Deed}
    (did : acts.map Act.deed? = deeds.map some) (own : ∀ d ∈ deeds, d.OfPort portId service rows) :
    l.ServesAs l' := by
  refine path.servesAs fun a ha => ?_
  obtain ⟨d, hd, same⟩ := List.mem_map.mp (did ▸ List.mem_map.mpr ⟨a, ha, rfl⟩)
  have here := own d hd
  have act := Act.of_deed? same.symm
  cases d with
  | bind x q d => obtain ⟨time, rfl⟩ := act; exact Or.inr ⟨_, rfl⟩
  | move b d => obtain ⟨time, rfl⟩ := act; exact Or.inl trivial
  | clash b d => obtain ⟨c, rfl⟩ := act; exact Or.inl trivial
  | release b => cases act; exact Or.inl trivial
  | _ => exact here.elim

end OfPort

/-! ## The server of a network -/

/-- Taking down the server of a network with this service. If an owner is given, the server must
have been made for this port. -/
def tornDown (service : Option Store.Service) (owner : Option String) : Effect :=
  match service with
  | none => .done []
  | some x => if owner.any (· ≠ x.portId) then .done [] else .done [.retire x]

/-- Making the server of a network with this service. -/
def serverMade (settings : Settings) (c : Catalog) (p : Port) (service : Option Store.Service)
    (ports : Option (List Store.PortMapping)) : Effect :=
  match service, portAddress p with
  | some _, _ => .done []
  | none, .error cause => .stopped (.invalidInput cause) []
  | none, .ok none => .done []
  | none, .ok (some f) =>
    match askedServer c settings p f.1 with
    | .error e => .stopped e []
    | .ok none => .done []
    | .ok (some config) => ⟨attached ports, [.serve p.networkId p.id config]⟩

/-- Letting the server of a network with this service follow its port. -/
def serverMoved (old new : Port) (service : Option Store.Service) : Effect :=
  match broughtAddress old new, service with
  | .error e, _ => .stopped e []
  | .ok (some ip), some x => .done [.readdress x.serverId (.v4 ip)]
  | .ok _, _ => .done []

section Server

variable (settings : Settings) (calm : w.Calm) (shows : w.Shows l)

include calm shows

/-- In calm surroundings a server is taken down with everything under it. -/
theorem comes_teardown (proper : l.Proper) (networkId : String) (owner : Option String) :
    (teardown networkId owner).Comes w l
      (tornDown (Table.find? Store.Service.networkId networkId l.services) owner) := by
  refine Goes.calm calm (goes_teardown shows proper networkId owner) ?_
  rintro r acts l' - clean (⟨rfl, nothing⟩ | ⟨x, m, found, mine, rfl, rfl⟩)
  · obtain ⟨rfl, others⟩ := nothing calm
    cases found : Table.find? Store.Service.networkId networkId l.services with
    | none => exact ⟨rfl, rfl⟩
    | some x =>
        rw [tornDown, if_pos (others x found)]
        exact ⟨rfl, rfl⟩
  · rw [found, tornDown, if_neg (Bool.not_eq_true _ ▸ mine)]
    cases m with
    | none => exact ⟨rfl, rfl⟩
    | some e => exact nomatch clean _ (List.mem_singleton_self _)

/-- In calm surroundings a server is made where there is none and one is asked for. -/
theorem comes_createServiceFor (linked : l.Linked) (p : Port) :
    (createServiceFor settings p).Comes w l (serverMade settings w.catalog p
      (Table.find? Store.Service.networkId p.networkId l.services) l.ports) := by
  have unserved : (∀ x ∈ l.services, x.networkId ≠ p.networkId) →
      Table.find? Store.Service.networkId p.networkId l.services = none :=
    Table.find?_eq_none_iff.mpr
  refine Goes.calm calm (goes_createServiceFor shows linked settings p) ?_
  -- there is a server; or the port has no one address; or none is wanted; or it is made
  rintro r acts l' - clean (⟨rfl, ⟨⟨x, hx, same⟩, rfl⟩ | ⟨new, noAddress, rfl⟩⟩ |
    ⟨f, address, new, ⟨rfl, nothing⟩ | ⟨config, time, wanted, rfl, answer⟩⟩)
  · rw [← same, linked.services_keyed.find? hx]
    exact ⟨rfl, rfl⟩
  · rw [unserved new, serverMade.eq_def]
    cases address : portAddress p with
    | error cause => exact ⟨rfl, rfl⟩
    | ok f =>
        cases f with
        | none => exact ⟨rfl, rfl⟩
        | some f => exact absurd address (noAddress f)
  · obtain ⟨none, rfl⟩ := nothing calm
    rw [unserved new, serverMade.eq_def, address]
    rw [wantedServer_eq] at none
    dsimp only
    cases asked : askedServer w.catalog settings p f.1 with
    | error e => exact ⟨rfl, rfl⟩
    | ok config =>
        cases config with
        | none => exact ⟨rfl, rfl⟩
        | some config => rw [asked] at none; exact nomatch none
  · rw [unserved new, serverMade.eq_def, address]
    rw [wantedServer_eq] at wanted
    dsimp only
    cases asked : askedServer w.catalog settings p f.1 with
    | error e => rw [asked] at wanted; exact nomatch wanted
    | ok config' =>
        rw [asked] at wanted
        cases show config' = some config from wanted
        rw [answer calm]
        exact ⟨by cases l.ports <;> rfl, rfl⟩

/-- In calm surroundings a server is moved where its port's address changes. -/
theorem comes_moveServer (linked : l.Linked) (old new : Port) :
    (moveServer old new).Comes w l (serverMoved old new
      (Table.find? Store.Service.networkId new.networkId l.services)) := by
  refine Goes.calm calm (goes_moveServer shows linked old new) ?_
  rintro r acts l' - clean (⟨rfl, nothing⟩ | ⟨ip, x, brought, found, rfl, rfl⟩)
  · obtain ⟨rfl, none⟩ := nothing calm
    cases brought : broughtAddress old new with
    | error e => rw [serverMoved.eq_def, brought]; exact ⟨rfl, rfl⟩
    | ok address =>
        cases address with
        | none => rw [serverMoved.eq_def, brought]; exact ⟨rfl, rfl⟩
        | some ip => rw [serverMoved.eq_def, brought, none ip brought]; exact ⟨rfl, rfl⟩
  · rw [serverMoved.eq_def, brought, found]
    exact ⟨rfl, rfl⟩

end Server

end Dhcp

end Overlay
