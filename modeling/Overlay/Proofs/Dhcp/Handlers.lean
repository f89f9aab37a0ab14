import Overlay.Dhcp.Converge
import Overlay.Proofs.Dhcp.Effects

/-!
# One lemma for each handler

What the handlers that carry out changes do to a ledger: each goes along a path of at most one act.
A handler that makes several requests may stop after any of them; its lemma says with which result
and with which act. Where nothing fails (`World.Calm`), the act is the one that was wanted.
-/

namespace Overlay.Dhcp

open Overlay.Handler
open Overlay.Controller (HeldServer HeldBinding)

variable {w w' : World} {l : Ledger}

/-- An object that is gone already is as good as removed. -/
theorem settle_missing {e : Controller.Error} (h : e.kind = .notFound) :
    settle (.error e) = pure () := if_pos h

/-- Any other error of a removal is passed on. -/
theorem settle_error {e : Controller.Error} (h : e.kind ≠ .notFound) :
    settle (.error e) = throw (.controller e) := if_neg h

/-! ## Letting an address go -/

/-- What `releaseAddress` comes to: the row goes, or it stays since its binding does. -/
def Released (b : Store.Binding) (r : Except Error Unit) (acts : List Act) : Prop :=
  match r with
  | .ok _ => ∃ m, acts = [.release b m]
  | .error _ => ∃ e, acts = [.stay b e]

/-- Once the binding counts as removed, nothing is left that could fail. -/
theorem completes_release {b : Store.Binding} (hb : b ∈ l.rows) {m : Option Controller.Error}
    (missing : ∀ e ∈ m, e.kind = .notFound) (follows : w.Follows w') (loses : w.Loses m w')
    (shows : w'.Shows (l.letGo b m)) :
    Completes (do
      let _ ← execute (.deleteBinding b.portId b.address)
      report (.bindingDeleted b.portId b.bindingId)) w l w' fun r acts _ => Released b r acts := by
  refine Ends.bind (ends_deleteBindingRow shows b.portId b.address) ?_ ?_
  · rintro a w2 follows2 ⟨-, shows2, loses2⟩
    have path : Path l [.release b m] ((Act.release b m).apply l) := .single ⟨hb, missing⟩
    have accounts : w.Accounts [.release b m] w2 :=
      .single (loses.trans_none follows follows2 loses2) rfl
    refine Goes.resume path (follows.trans follows2) accounts ?_
    refine Goes.of_quiet (quiet_report ?_ _) ?_
    · cases m <;> exact shows2
    · rintro r rfl
      exact ⟨m, rfl⟩
  · rintro e w2 - ⟨⟨a, none⟩, -⟩
    exact nomatch none

/-- What releasing a row comes to. -/
theorem goes_releaseAddress (shows : w.Shows l) (linked : l.Linked) {b : Store.Binding}
    (hb : b ∈ l.rows) :
    (releaseAddress b.portId b).Goes w l fun r acts _ => Released b r acts := by
  refine Ends.bind (ends_deleteBinding shows (linked.held_of_row b hb)) ?_ ?_
  · rintro (e | a) w1 follows
    · rintro ⟨loses, shows1, -⟩
      by_cases missing : e.kind = .notFound
      · rw [settle_missing missing]
        refine completes_release hb (fun e' he => ?_) follows loses shows1
        cases he
        exact missing
      · rw [settle_error missing]
        -- neither the binding nor its row has gone
        exact Ends.throw ⟨[.stay b e], l, .single ⟨hb, missing⟩, shows1, .single loses rfl, e, rfl⟩
    · rintro ⟨loses, shows1⟩
      exact completes_release hb (fun e h => absurd h (Option.not_mem_none e)) follows loses shows1
  · exact fun e w1 _ never => never.elim

/-! ## Moving an address -/

/-- What `moveAddress` comes to: the binding changes with its row, or nothing does since something
failed, or the binding alone since another row is in the way. -/
def Moved (w : World) (b : Store.Binding) (d : Desired) (r : Except Error Unit) (acts : List Act) :
    Prop :=
  match r with
  | .ok _ => ∃ time, acts = [.move b d time]
  | .error e => (acts = [] ∧ ¬ w.Calm) ∨ (e = .store .database ∧ ∃ c, acts = [.clash b c d])

/-- What moving an address comes to. -/
theorem goes_moveAddress (shows : w.Shows l) (linked : l.Linked) {b : Store.Binding}
    (hb : b ∈ l.rows) (d : Desired) (t : Template) :
    (moveAddress b.portId b d (updateFor b d t)).Goes w l fun r acts _ => Moved w b d r acts := by
  refine Ends.bind (ends_updateBinding shows linked hb d t) ?_ ?_
  · rintro a w1 follows1 ⟨loses1, shows1⟩
    refine Ends.bind (quiet_now shows1) ?_ fun e w2 _ h => h.2.2.elim
    rintro time w2 follows2 ⟨shows2, loses2, legible⟩
    have follows := follows1.trans follows2
    have loses := loses1.none_trans follows1 follows2 loses2
    refine Ends.bind (ends_moveBinding shows2 linked.rows_keyed hb d legible) ?_ ?_
    · rintro a w3 follows3 ⟨loses3, free, shows3⟩
      have path : Path l [.move b d time] ((Act.move b d time).apply l) := .single ⟨hb, free⟩
      refine Goes.resume path (follows.trans follows3)
        (.single (loses.none_trans follows follows3 loses3) rfl) ?_
      refine Goes.of_quiet (quiet_report shows3 _) ?_
      rintro r rfl
      exact ⟨time, rfl⟩
    -- the binding has changed already, but row `c` has the key
    · rintro e w3 follows3 ⟨loses3, conflict, shows3, c, hc, taken, other⟩
      exact ⟨[.clash b c d], _, .single ⟨hb, hc, taken, other⟩, shows3,
        .single (loses.none_trans follows follows3 loses3) rfl, Or.inr ⟨conflict, c, rfl⟩⟩
  · rintro e w1 - ⟨loses1, rough, shows1⟩
    exact ⟨[], l, .nil l, shows1, .nil loses1, Or.inl ⟨rfl, rough⟩⟩

/-! ## Binding an address -/

/-- The row that `releaseSuperseded` looks for is the one at the key. -/
theorem stale_eq (linked : l.Linked) (portId : String) (ip : IPv4) :
    ((Store.ofPort portId l.rows).find? fun b => b.address = ip &&
      b.bindingId ≠ Controller.State.bindingName (l.bindingsMade + 1)) = l.row? portId ip := by
  have old : ∀ b ∈ l.rows, b.bindingId ≠ Controller.State.bindingName (l.bindingsMade + 1) :=
    fun b hb same => linked.name_ne hb ⟨"", "", b.serverId, b.createdAt⟩ (Prod.ext rfl same.symm)
  cases found : (Store.ofPort portId l.rows).find? fun b => b.address = ip &&
      b.bindingId ≠ Controller.State.bindingName (l.bindingsMade + 1) with
  | some b =>
      obtain ⟨hb, port⟩ := Store.mem_ofPort.mp (List.mem_of_find?_eq_some found)
      have here := List.find?_some found
      rw [Bool.and_eq_true, decide_eq_true_iff] at here
      rw [Ledger.row?, show (portId, ip) = b.key from Prod.ext port.symm here.1.symm]
      exact (linked.rows_keyed.find? hb).symm
  | none =>
      refine (Table.find?_eq_none_iff.mpr fun b hb key => ?_).symm
      have port : b.portId = portId := congrArg Prod.fst key
      have address : b.address = ip := congrArg Prod.snd key
      refine List.find?_eq_none.mp found b (Store.mem_ofPort.mpr ⟨hb, port⟩) ?_
      rw [decide_eq_true address, decide_eq_true (old b hb)]
      rfl

/-- A new binding was made; the one that the row names is let go, unless the call is lost to
another error than that it is missing. -/
theorem ends_releaseSuperseded {x : Store.Service} {d : Desired} (linked : l.Linked)
    (shows : w.Shows (l.create x d)) (portId : String) :
    (releaseSuperseded portId d.address
      (Controller.State.bindingName (l.bindingsMade + 1))).Ends w fun r w' =>
        match r with
        | .ok _ => ∃ m, (∀ e ∈ m, e.kind = .notFound) ∧ w.Loses m w' ∧
          w'.Shows ((l.create x d).supersede (l.row? portId d.address) m)
        | .error _ => ¬ w.Calm ∧ w'.Shows (l.create x d) ∧ ∃ e : Controller.Error,
          w.Loses (some e) w' ∧ e.kind ≠ .notFound ∧
            ∃ b ∈ l.rows, b.key = (portId, d.address) := by
  have no_error : ∀ e ∈ (none : Option Controller.Error), e.kind = .notFound :=
    fun e h => absurd h (Option.not_mem_none e)
  refine Ends.bind (quiet_bindingsOf shows portId) ?_ fun e w1 _ h => nomatch h.2.2
  rintro rows w1 follows1 ⟨shows1, loses1, answer⟩
  rw [Except.ok.inj answer, show (l.create x d).rows = l.rows from rfl, stale_eq linked]
  cases row : l.row? portId d.address with
  | none => exact Ends.pure ⟨none, no_error, loses1, shows1⟩
  | some b =>
      obtain ⟨hb, key⟩ := Ledger.row?_mem row
      obtain ⟨h, hh, held⟩ := linked.held_of_row b hb
      refine Ends.bind (ends_deleteBinding shows1 ⟨h, List.mem_append_left _ hh, held⟩) ?_ ?_
      · rintro (e | a) w2 follows2
        · rintro ⟨loses2, shows2, rough⟩
          have loses := loses1.none_trans follows1 follows2 loses2
          -- the old binding may be gone already; otherwise it stays beside the new one
          by_cases missing : e.kind = .notFound
          · rw [settle_missing missing]
            refine Ends.pure ⟨some e, fun e' he => ?_, loses, shows2⟩
            cases he
            exact missing
          · rw [settle_error missing]
            refine Ends.throw ⟨fun calm => ?_, shows2, e, loses, missing, b, hb, key⟩
            exact rough (calm.follows follows1)
        · rintro ⟨loses2, shows2⟩
          exact Ends.pure ⟨none, no_error, loses1.none_trans follows1 follows2 loses2, shows2⟩
      · exact fun e w2 _ never => never.elim

/-- What `bindAddress` comes to: the address is bound, or else something failed, and then nothing
happened or the new binding was left behind. -/
def Bound (w : World) (x : Store.Service) (portId : String) (d : Desired) (r : Except Error Unit)
    (acts : List Act) : Prop :=
  match r with
  | .ok _ => ∃ time m, acts = [.bind x portId d time m]
  | .error _ => ¬ w.Calm ∧ (acts = [] ∨ ∃ e, acts = [.leak x portId d e])

/-- What binding an address comes to. -/
theorem goes_bindAddress (shows : w.Shows l) (linked : l.Linked) {x : Store.Service}
    (hx : x ∈ l.services) (settings : Settings) (portId : String) (d : Desired) :
    (bindAddress settings portId d x).Goes w l fun r acts _ => Bound w x portId d r acts := by
  refine Ends.bind (ends_createBinding shows linked hx d _) ?_ ?_
  · rintro bindingId w1 follows1 ⟨loses1, rfl, shows1⟩
    refine Ends.bind (ends_releaseSuperseded linked shows1 portId) ?_ ?_
    · rintro _ w2 follows2 ⟨m, missing, loses2, shows2⟩
      refine Ends.bind (quiet_now shows2) ?_ fun e w3 _ h => h.2.2.elim
      rintro time w3 follows3 ⟨shows3, loses3, legible⟩
      have follows2 := follows1.trans follows2
      have follows := follows2.trans follows3
      have loses2 := loses1.none_trans follows1 ‹_› loses2
      have loses := loses2.trans_none follows2 follows3 loses3
      refine Ends.bind (ends_putBinding shows3 ⟨legible, legible⟩) ?_
        fun e w4 _ h => nomatch h.1
      rintro _ w4 follows4 ⟨-, shows4, loses4⟩
      have path : Path l [.bind x portId d time m] ((Act.bind x portId d time m).apply l) :=
        .single ⟨hx, missing⟩
      refine Goes.resume path (follows.trans follows4)
        (.single (loses.trans_none follows follows4 loses4) rfl) ?_
      refine Goes.of_quiet (quiet_report ?_ _) ?_
      · obtain ⟨held, eq, -⟩ := (l.create x d).supersede_eq (l.row? portId d.address) m
        rw [eq] at shows4
        rw [Act.apply, eq]
        exact shows4
      · rintro r rfl
        exact ⟨time, m, rfl⟩
    -- the new binding is there and has no row; the old one has kept it
    · rintro e w2 follows2 ⟨rough, shows2, e', loses2, kind, row⟩
      have loses := loses1.none_trans follows1 follows2 loses2
      refine ⟨[.leak x portId d e'], _, .single ⟨hx, row, kind⟩, shows2, .single loses rfl, ?_⟩
      exact ⟨fun calm => rough (calm.follows follows1), Or.inr ⟨e', rfl⟩⟩
  · rintro e w1 - ⟨loses1, rough, shows1⟩
    exact ⟨[], l, .nil l, shows1, .nil loses1, rough, Or.inl rfl⟩

/-! ## Making a server -/

/-- What `createService` comes to: nothing, or the network is served, whatever happens to the
attachment of the switch port then. -/
def Served (w : World) (l : Ledger) (settings : Settings) (n : Network) (s : Subnet) (p : Port)
    (r : Except Error Store.Service) (acts : List Act) : Prop :=
  (acts = [] ∧ ∃ e, r = .error e ∧ (w.Calm → serverConfig n s p settings = .error e)) ∨
    ∃ config time, serverConfig n s p settings = .ok config ∧
      acts = [.serve n.id p.id config time] ∧ match r with
        | .ok x => x = ⟨n.id, p.id, Controller.State.serverName (l.serversMade + 1), time⟩ ∧
          l.ports ≠ none
        | .error e => w.Calm → l.ports = none ∧ e = .store .database

/-- What making a server comes to. -/
theorem goes_createService (shows : w.Shows l) (settings : Settings) {n : Network}
    (new : ∀ x ∈ l.services, x.networkId ≠ n.id) (s : Subnet) (p : Port) :
    (createService settings n s p).Goes w l fun r acts _ => Served w l settings n s p r acts := by
  rw [createService]
  cases made : serverConfig n s p settings with
  | error e => exact Goes.throw shows (Or.inl ⟨rfl, e, rfl, fun _ => made⟩)
  | ok config =>
      dsimp only
      rw [pure_bind]
      refine Ends.bind (ends_createServer shows config) ?_ ?_
      · rintro serverId w1 follows1 ⟨loses1, rfl, shows1⟩
        refine Ends.bind (quiet_now shows1) ?_ fun e w2 _ h => h.2.2.elim
        rintro time w2 follows2 ⟨shows2, loses2, legible⟩
        have follows := follows1.trans follows2
        have loses := loses1.none_trans follows1 follows2 loses2
        refine Ends.bind (ends_putService shows2 (x := ⟨n.id, p.id, _, time⟩) legible new) ?_
          fun e w3 _ h => nomatch h.1
        rintro _ w3 follows3 ⟨-, shows3, loses3⟩
        have path : Path l [.serve n.id p.id config time]
            ((Act.serve n.id p.id config time).apply l) := .single new
        refine Goes.resume path (follows.trans follows3)
          (.single (loses.none_trans follows follows3 loses3) rfl) ?_
        refine Goes.quiet (quiet_report shows3 _) ?_ fun e h => nomatch h
        rintro _ w4 follows4 shows4 -
        -- the server is remembered; its switch port is attached if it is mapped
        refine Goes.quiet (quiet_getPort shows4 p.id) ?_
          fun e gone => Or.inr ⟨config, time, made, rfl, fun _ => gone⟩
        rintro mapping w5 follows5 shows5 there
        have follows := (((follows.trans follows3).trans follows4).trans follows5)
        cases mapping with
        | none => exact Goes.pure shows5 (Or.inr ⟨config, time, made, rfl, rfl, there⟩)
        | some m =>
            refine Goes.quiet (quiet_aside shows5 rfl (fun _ => ⟨_, rfl⟩) (fun _ => rfl)
              (fun _ => rfl) (fun _ => rfl) fun _ => rfl) ?_ fun e rough =>
                Or.inr ⟨config, time, made, rfl, fun calm => absurd (calm.follows follows) rough⟩
            rintro _ w6 - shows6 -
            exact Goes.pure shows6 (Or.inr ⟨config, time, made, rfl, rfl, there⟩)
      · rintro e w1 - ⟨loses1, rough, shows1⟩
        exact ⟨[], l, .nil l, shows1, .nil loses1,
          Or.inl ⟨rfl, e, rfl, fun calm => absurd calm rough⟩⟩

/-- The server that a DHCP port asks for with an address in this subnet: none, unless the subnet is
there and served by DHCP, the network is there, and the description of the server can be made. -/
def wantedServer (c : Catalog) (settings : Settings) (p : Port) (subnetId : String) :
    Option DhcpServerConfig :=
  match Table.find? Subnet.id subnetId c.subnets with
  | none => none
  | some s =>
    if s.servesDhcp then
      (Table.find? Network.id p.networkId c.networks).bind fun n =>
        (serverConfig n s p settings).toOption
    else none

/-- What comes of asking for a server with an address in this subnet, if nothing fails: the
description of the server that is made, if any, or the reason why there is none. -/
def askedServer (c : Catalog) (settings : Settings) (p : Port) (subnetId : String) :
    Except Error (Option DhcpServerConfig) :=
  match Table.find? Subnet.id subnetId c.subnets with
  | none => .error (.notFound (.subnet subnetId))
  | some s =>
    if s.servesDhcp then
      match Table.find? Network.id p.networkId c.networks with
      | none => .error (.notFound (.network p.networkId))
      | some n => (serverConfig n s p settings).map some
    else .ok none

/-- The server that is wanted is the one that is described. -/
theorem wantedServer_eq (c : Catalog) (settings : Settings) (p : Port) (subnetId : String) :
    wantedServer c settings p subnetId
      = (askedServer c settings p subnetId).toOption.bind fun config => config := by
  rw [wantedServer, askedServer]
  cases Table.find? Subnet.id subnetId c.subnets with
  | none => rfl
  | some s =>
      dsimp only
      split
      · cases Table.find? Network.id p.networkId c.networks with
        | none => rfl
        | some n =>
            rw [Option.bind_some]
            dsimp only
            cases serverConfig n s p settings <;> rfl
      · rfl

/-- The answer once a server is made: its switch port is looked for in this table. -/
def attached : Option (List Store.PortMapping) → Except Error Unit
  | some _ => .ok ()
  | none => .error (.store .database)

/-- A check of the request changes nothing. -/
theorem quiet_valid {α : Type} (shows : w.Shows l) (a : Except InvalidInput α) :
    (valid a).Quiet w l fun r =>
      match r with
      | .ok x => a = .ok x
      | .error e => ∃ cause, a = .error cause ∧ e = .invalidInput cause := by
  cases a with
  | ok a => exact Ends.pure ⟨shows, World.loses_none rfl, rfl⟩
  | error cause => exact Ends.throw ⟨shows, World.loses_none rfl, cause, rfl, rfl⟩

/-- What comes of asking for a server: one that is wanted, or nothing, and then none was wanted
unless something failed. -/
def Provided (w : World) (l : Ledger) (settings : Settings) (p : Port) (subnetId : String)
    (r : Except Error Unit) (acts : List Act) : Prop :=
  (acts = [] ∧ (w.Calm → wantedServer w.catalog settings p subnetId = none ∧
    r = (askedServer w.catalog settings p subnetId).map fun _ => ())) ∨
    ∃ config time, wantedServer w.catalog settings p subnetId = some config ∧
      acts = [.serve p.networkId p.id config time] ∧ (w.Calm → r = attached l.ports)

/-- What came of asking for a server is the same, seen from earlier surroundings. -/
theorem Provided.follows {settings : Settings} {p : Port} {subnetId : String}
    {r : Except Error Unit} {acts : List Act} (f : w.Follows w')
    (h : Provided w' l settings p subnetId r acts) : Provided w l settings p subnetId r acts := by
  rw [Provided, f.catalog] at h
  rcases h with ⟨rfl, unwanted⟩ | ⟨config, time, wanted, rfl, answer⟩
  · exact Or.inl ⟨rfl, fun calm => unwanted (calm.follows f)⟩
  · exact Or.inr ⟨config, time, wanted, rfl, fun calm => answer (calm.follows f)⟩

/-- Nothing is made, and the answer says why. -/
theorem Provided.unmade {settings : Settings} {p : Port} {subnetId : String} {r : Except Error Unit}
    (asked : w.Calm → askedServer w.catalog settings p subnetId = r.map fun _ => none) :
    Provided w l settings p subnetId r [] := by
  refine Or.inl ⟨rfl, fun calm => ?_⟩
  rw [wantedServer_eq, asked calm]
  cases r <;> exact ⟨rfl, rfl⟩

/-- A server that was asked for in this subnet is provided by its network's. -/
theorem Served.provided {settings : Settings} {n : Network} {s : Subnet} {p : Port}
    {subnetId : String} {r : Except Error Store.Service} {acts : List Act}
    (done : Served w' l settings n s p r acts) (follows : w.Follows w')
    (asked : askedServer w.catalog settings p subnetId = (serverConfig n s p settings).map some)
    (id : n.id = p.networkId) : Provided w l settings p subnetId (r.map fun _ => ()) acts := by
  rcases done with ⟨rfl, e, rfl, none⟩ | ⟨config, time, made, rfl, answer⟩
  · refine .unmade fun calm => ?_
    rw [asked, none (calm.follows follows)]
    rfl
  · refine Or.inr ⟨config, time, ?_, by rw [id], fun calm => ?_⟩
    · rw [wantedServer_eq, asked, made]
      rfl
    · cases r with
      | ok x =>
          cases there : l.ports with
          | none => exact absurd there answer.2
          | some ports => rfl
      | error e =>
          obtain ⟨gone, rfl⟩ := answer (calm.follows follows)
          rw [gone]
          rfl

/-- The end of `createServiceFor`, for a port with an address in this subnet. -/
theorem goes_serveSubnet (shows : w.Shows l) (linked : l.Linked) (settings : Settings) {p : Port}
    (new : ∀ x ∈ l.services, x.networkId ≠ p.networkId) (subnetId : String) :
    Goes (do
      match ← query (.subnet subnetId) with
      | none => throw (.notFound (.subnet subnetId))
      | some s =>
        if s.servesDhcp then
          match ← query (.network p.networkId) with
          | none => throw (.notFound (.network p.networkId))
          | some n => let _ ← createService settings n s p
        else pure ()) w l fun r acts _ => Provided w l settings p subnetId r acts := by
  refine Goes.quiet (quiet_query shows (.subnet subnetId)) ?_
    fun e rough => Provided.unmade fun calm => absurd calm rough
  rintro subnet w1 follows1 shows1 found
  have here : Table.find? Subnet.id subnetId w.catalog.subnets = subnet := found.symm
  cases subnet with
  | none =>
      refine Goes.throw shows1 (Provided.unmade fun _ => ?_)
      rw [askedServer, here]
      rfl
  | some s =>
      dsimp only
      by_cases serves : s.servesDhcp = true
      case neg =>
        rw [if_neg serves]
        refine Goes.pure shows1 (Provided.unmade fun _ => ?_)
        rw [askedServer, here]
        exact if_neg serves
      rw [if_pos serves]
      refine Goes.quiet (quiet_query shows1 (.network p.networkId)) ?_
        fun e rough => Provided.unmade fun calm => absurd (calm.follows follows1) rough
      rintro network w2 follows2 shows2 found
      have there : Table.find? Network.id p.networkId w.catalog.networks = network := by
        rw [← follows1.catalog]
        exact found.symm
      cases network with
      | none =>
          refine Goes.throw shows2 (Provided.unmade fun _ => ?_)
          rw [askedServer, here, there]
          exact if_pos serves
      | some n =>
          -- subnet and network are there: what is asked for is what the settings describe
          have asked : askedServer w.catalog settings p subnetId
              = (serverConfig n s p settings).map some := by
            rw [askedServer, here, there]
            exact if_pos serves
          have id : n.id = p.networkId := (Table.mem_of_find? there).2
          have served := fun (r : Except Error Store.Service) (acts : List Act)
              (done : Served w2 l settings n s p r acts) =>
            done.provided (follows1.trans follows2) asked id
          refine Goes.bind linked (goes_createService shows2 settings (n := n)
            (fun x hx => id ▸ new x hx) s p) ?_ fun e acts l' _ done => served _ acts done
          rintro x acts l' w3 - shows3 - - done
          refine Goes.pure shows3 ?_
          rw [List.append_nil]
          exact served _ acts done

/-- A network that has a server gets no other; else what comes of it is up to the port's one
address. -/
theorem goes_createServiceFor (shows : w.Shows l) (linked : l.Linked) (settings : Settings)
    (p : Port) :
    (createServiceFor settings p).Goes w l fun r acts _ =>
      (acts = [] ∧ ((∃ x ∈ l.services, x.networkId = p.networkId) ∧ r = .ok () ∨
        (∀ x ∈ l.services, x.networkId ≠ p.networkId) ∧ (∀ f, portAddress p ≠ .ok (some f)) ∧
          r = ((portAddress p).mapError .invalidInput).map fun _ => ())) ∨
      ∃ f, portAddress p = .ok (some f) ∧ (∀ x ∈ l.services, x.networkId ≠ p.networkId) ∧
        Provided w l settings p f.1 r acts := by
  refine Goes.quiet (quiet_getService shows p.networkId) ?_ fun e none => nomatch none
  rintro service w1 follows1 shows1 answer
  rw [Except.ok.inj answer]
  cases found : Table.find? Store.Service.networkId p.networkId l.services with
  | some x =>
      refine Goes.pure shows1 ?_
      exact Or.inl ⟨rfl, Or.inl ⟨⟨x, Table.mem_of_find? found⟩, rfl⟩⟩
  | none =>
      have new := Table.find?_eq_none_iff.mp found
      refine Goes.quiet (quiet_valid shows1 (portAddress p)) ?_ ?_
      · rintro address w2 follows2 shows2 valid
        cases address with
        | none =>
            refine Goes.pure shows2 (Or.inl ⟨rfl, Or.inr ⟨new, fun f h => ?_, ?_⟩⟩)
            · exact nomatch valid.symm.trans h
            · rw [valid]
              rfl
        | some f =>
            refine Goes.mono (goes_serveSubnet shows2 linked settings new f.1) ?_
            rintro r acts l' - provided
            refine Or.inr ⟨f, valid, new, ?_⟩
            exact provided.follows (follows1.trans follows2)
      · rintro e ⟨cause, invalid, rfl⟩
        refine Or.inl ⟨rfl, Or.inr ⟨new, fun f h => ?_, ?_⟩⟩
        · exact nomatch invalid.symm.trans h
        · rw [invalid]
          rfl

/-! ## Moving and removing a server -/

/-- The address that a DHCP port brings to the server of its network, if it is another one than
before. -/
def broughtAddress (old new : Port) : Except Error (Option IPv4) :=
  ((portAddress new).mapError .invalidInput).map fun address =>
    address.bind fun f =>
      let oldIp := match portAddress old with
        | .ok (some (_, ip)) => some ip
        | _ => none
      if oldIp = some f.2 then none else some f.2

/-- What `moveServer` comes to: the server gets the address that is brought, unless something
fails. -/
def Readdressed (w : World) (services : List Store.Service) (old new : Port)
    (r : Except Error Unit) (acts : List Act) : Prop :=
  (acts = [] ∧ (w.Calm → r = (broughtAddress old new).map (fun _ => ()) ∧
    ∀ ip, broughtAddress old new = .ok (some ip) →
      Table.find? Store.Service.networkId new.networkId services = none)) ∨
  ∃ ip x, broughtAddress old new = .ok (some ip) ∧
    Table.find? Store.Service.networkId new.networkId services = some x ∧
    r = .ok () ∧ acts = [.readdress x.serverId (.v4 ip)]

/-- What moving a server comes to. -/
theorem goes_moveServer (shows : w.Shows l) (linked : l.Linked) (old new : Port) :
    (moveServer old new).Goes w l fun r acts _ => Readdressed w l.services old new r acts := by
  have unmoved : ∀ {r : Except Error Unit},
      (w.Calm → broughtAddress old new = r.map fun _ => none) →
      Readdressed w l.services old new r [] := by
    refine fun {r} brought => Or.inl ⟨rfl, fun calm => ?_⟩
    rw [brought calm]
    cases r <;> exact ⟨rfl, fun ip h => nomatch h⟩
  refine Goes.quiet (quiet_valid shows (portAddress new)) ?_ ?_
  · rintro address w1 follows1 shows1 valid
    cases address with
    | none =>
        refine Goes.pure shows1 (unmoved fun _ => ?_)
        rw [broughtAddress, valid]
        rfl
    | some f =>
        dsimp only
        refine Goes.ite (fun same => Goes.pure shows1 (unmoved fun _ => ?_)) fun other => ?_
        · rw [broughtAddress, valid]
          exact congrArg Except.ok (if_pos same)
        -- from here on the port brings a new address, and it is only a question of who has a server
        have brought : broughtAddress old new = .ok (some f.2) := by
          rw [broughtAddress, valid]
          exact congrArg Except.ok (if_neg other)
        refine Goes.quiet (quiet_getService shows1 new.networkId) ?_ fun e none => nomatch none
        rintro service w2 follows2 shows2 answer
        rw [Except.ok.inj answer]
        cases found : Table.find? Store.Service.networkId new.networkId l.services with
        | none =>
            refine Goes.pure shows2 (Or.inl ⟨rfl, fun _ => ⟨?_, fun _ _ => found⟩⟩)
            rw [brought]
            rfl
        | some x =>
            obtain ⟨v, hv, id⟩ := linked.server_of_service x (Table.mem_of_find? found).1
            dsimp only
            rw [← id]
            refine Ends.mono (ends_setServerIp shows2 linked.servers_keyed hv (.v4 f.2)) ?_
            rintro (e | a) w3 - ⟨loses3, shows3⟩
            · refine ⟨[], l, .nil l, shows3.2, .nil loses3, Or.inl ⟨rfl, fun calm => ?_⟩⟩
              exact absurd (calm.follows (follows1.trans follows2)) shows3.1
            · exact ⟨[.readdress v.id (.v4 f.2)], _, .single trivial, shows3,
                .single loses3 rfl, Or.inr ⟨f.2, x, brought, found, rfl, by rw [id]⟩⟩
  · rintro e ⟨cause, invalid, rfl⟩
    refine unmoved fun _ => ?_
    rw [broughtAddress, invalid]
    rfl

/-- Rows are removed one after the other, and nothing else is touched. -/
theorem leaves_deleteRows {services : List Store.Service} {rows : List Store.Binding}
    (holds : w.store.Holds services rows) (gone : List Store.Binding) :
    Leaves (gone.forM fun b => do
      let _ ← execute (.deleteBinding b.portId b.address)) w fun r w' => r = .ok () ∧
        ∃ store, w' = { w with store } ∧ store.networks = w.store.networks ∧
          store.ports = w.store.ports ∧
          store.Holds services (rows.filter fun c => decide (∀ b ∈ gone, c.key ≠ b.key)) := by
  induction gone generalizing w rows with
  | nil =>
      have all : rows.filter (fun c => decide (∀ b ∈ ([] : List Store.Binding), c.key ≠ b.key))
          = rows :=
        List.filter_eq_self.mpr fun c _ => decide_eq_true (List.forall_mem_nil _)
      refine Leaves.pure ⟨rfl, w.store, rfl, rfl, rfl, ?_⟩
      rw [all]
      exact holds
  | cons b rest ih =>
      obtain ⟨⟨found, answer⟩, holds1⟩ := holds.deleteBinding b.portId b.address
      refine Leaves.bind (P := fun r w' => r = .ok () ∧
        w' = { w with store := (w.store.execute (.deleteBinding b.portId b.address)).2 })
        (Leaves.executed answer (Leaves.pure ⟨rfl, rfl⟩)) ?_ ?_
      · rintro _ w1 - ⟨-, rfl⟩
        refine Leaves.mono (ih holds1) ?_
        rintro r w2 - ⟨done, store, rfl, networks, ports, holds2⟩
        refine ⟨done, store, rfl, networks, ports, ?_⟩
        rw [← Table.filter_forall_cons (P := fun b c : Store.Binding => c.key ≠ b.key)]
        exact holds2
      · rintro e w1 - ⟨none, -⟩
        exact nomatch none

/-- Deleting the rows that are listed under a server removes all of them. -/
theorem remove_underServer {rows : List Store.Binding} (keyed : Table.Keyed Store.Binding.key rows)
    (serverId : String) :
    (rows.filter fun c => decide (∀ b ∈ Store.underServer serverId rows, c.key ≠ b.key))
      = Table.remove Store.Binding.serverId serverId rows := by
  refine List.filter_congr fun c hc => decide_eq_decide.mpr ?_
  constructor
  · intro outside under
    exact outside c (Store.mem_underServer.mpr ⟨hc, under⟩) rfl
  · intro other b hb same
    obtain ⟨hb, under⟩ := Store.mem_underServer.mp hb
    exact other (keyed.eq_of_key hc hb same ▸ under)

/-- What is left of `teardown` once the server counts as removed: the rows under it go, and then the
service does. Nothing of it can fail. -/
theorem leaves_forget {services : List Store.Service} {rows : List Store.Binding}
    (holds : w.store.Holds services rows) (keyed : Table.Keyed Store.Binding.key rows)
    (x : Store.Service) : Leaves (do
      let orphans ← execute (.bindingsUnder x.serverId)
      orphans.forM fun b => do
        let _ ← execute (.deleteBinding b.portId b.address)
      let _ ← execute (.deleteService x.networkId)
      report (.serverDeleted x.networkId x.serverId)) w fun r w' => r = .ok () ∧
        ∃ store trail, w' = { w with store, trail } ∧ store.networks = w.store.networks ∧
          store.ports = w.store.ports ∧
          store.Holds (Table.remove Store.Service.networkId x.networkId services)
            (Table.remove Store.Binding.serverId x.serverId rows) := by
  refine Leaves.executed (congrArg Prod.fst (holds.bindingsUnder x.serverId)) ?_
  rw [holds.bindingsUnder]
  refine Leaves.bind (leaves_deleteRows holds _) ?_ fun e w1 _ h => nomatch h.1
  rintro _ w1 - ⟨-, store, rfl, networks, ports, holds1⟩
  rw [remove_underServer keyed] at holds1
  obtain ⟨⟨found, answer⟩, holds2⟩ := holds1.deleteService x.networkId
  refine Leaves.executed answer ?_
  exact Leaves.report (fun _ => ⟨rfl, _, _, rfl, networks, ports, holds2⟩)
    fun _ => ⟨rfl, _, _, rfl, networks, ports, holds2⟩

/-- Everything under a server is forgotten, and then the server itself. -/
theorem ends_forget (linked : l.Linked) (x : Store.Service) {servers : List HeldServer}
    {held : List HeldBinding} (shows : w.Shows { l with servers, held }) : Ends (do
      let orphans ← execute (.bindingsUnder x.serverId)
      orphans.forM fun b => do
        let _ ← execute (.deleteBinding b.portId b.address)
      let _ ← execute (.deleteService x.networkId)
      report (.serverDeleted x.networkId x.serverId)) w fun r w' => r = .ok () ∧ w.Loses none w' ∧
        w'.Shows { l with
          services := Table.remove Store.Service.networkId x.networkId l.services
          rows := Table.remove Store.Binding.serverId x.serverId l.rows
          servers, held } := by
  refine .of_leaves (Leaves.mono (leaves_forget shows.store linked.rows_keyed x) ?_)
  rintro r w' - ⟨done, store, trail, rfl, networks, ports, holds⟩ -
  exact ⟨done, World.loses_none rfl, holds, shows.controller, networks.trans shows.networks,
    ports.trans shows.ports⟩

/-- With the end of `teardown` the act is complete. -/
theorem completes_retire (linked : l.Linked) {x : Store.Service} (hx : x ∈ l.services)
    (alone : ∀ y ∈ l.services, y.serverId = x.serverId → y = x)
    {m : Option Controller.Error} (missing : ∀ e ∈ m, e.kind = .notFound)
    (follows : w.Follows w') (accounts : w.Accounts [.retire x m] w')
    (shows : w'.Shows { l with
      servers := if m.isSome then l.servers else Table.remove HeldServer.id x.serverId l.servers
      held := if m.isSome then l.held
        else Table.remove HeldBinding.serverId x.serverId l.held })
    {Q : Except Error Unit → List Act → Prop} (hQ : Q (.ok ()) [.retire x m]) : Completes (do
      let orphans ← execute (.bindingsUnder x.serverId)
      orphans.forM fun b => do
        let _ ← execute (.deleteBinding b.portId b.address)
      let _ ← execute (.deleteService x.networkId)
      report (.serverDeleted x.networkId x.serverId)) w l w' fun r acts _ => Q r acts := by
  refine Ends.mono (ends_forget linked x shows) ?_
  rintro r w'' follows' ⟨rfl, loses, shows'⟩
  have path : Path l [.retire x m] ((Act.retire x m).apply l) := .single ⟨hx, missing, alone⟩
  exact ⟨[.retire x m], _, path, shows', accounts.append follows follows' (.nil loses), hQ⟩

/-- What `teardown` comes to: nothing, or the network's server goes with all rows under it; if an
owner is given, it must be the one of the service. -/
def TornDown (w : World) (services : List Store.Service) (networkId : String)
    (owner : Option String) (r : Except Error Unit) (acts : List Act) : Prop :=
  (acts = [] ∧ (w.Calm → r = .ok () ∧
    ∀ x, Table.find? Store.Service.networkId networkId services = some x →
      owner.any (· ≠ x.portId) = true)) ∨
  ∃ x m, Table.find? Store.Service.networkId networkId services = some x ∧
    owner.any (· ≠ x.portId) = false ∧ r = .ok () ∧ acts = [.retire x m]

/-- What taking down a server comes to. -/
theorem goes_teardown (shows : w.Shows l) (proper : l.Proper) (networkId : String)
    (owner : Option String) :
    (teardown networkId owner).Goes w l fun r acts _ =>
      TornDown w l.services networkId owner r acts := by
  refine Goes.quiet (quiet_getService shows networkId) ?_ fun e none => nomatch none
  rintro service w1 follows1 shows1 answer
  rw [Except.ok.inj answer]
  cases found : Table.find? Store.Service.networkId networkId l.services with
  | none =>
      refine Goes.pure shows1 ?_
      exact Or.inl ⟨rfl, fun _ => ⟨rfl, fun x here => nomatch found.symm.trans here⟩⟩
  | some x =>
      obtain ⟨hx, rfl⟩ := Table.mem_of_find? found
      obtain ⟨v, hv, id⟩ := proper.server_of_service x hx
      -- its server is named by no other service, so that no row is left under it
      have alone : ∀ y ∈ l.services, y.serverId = x.serverId → y = x := fun y hy same =>
        proper.owners_keyed.eq_of_key hy hx same
      dsimp only
      split
      · next other =>
        refine Goes.pure shows1 (Or.inl ⟨rfl, fun _ => ⟨rfl, fun y here => ?_⟩⟩)
        cases found.symm.trans here
        exact other
      · next mine =>
        have retired : ∀ m, TornDown w l.services x.networkId owner (.ok ()) [.retire x m] :=
          fun m => Or.inr ⟨x, m, found, Bool.not_eq_true _ ▸ mine, rfl, rfl⟩
        rw [← id]
        refine Ends.bind (ends_deleteServer shows1 proper.servers_keyed hv) ?_ ?_
        · rintro (e | a) w2 follows2
          · rintro ⟨loses2, rough, shows2, lost⟩
            -- a server that is gone already is forgotten all the same
            by_cases missing : e.kind = .notFound
            · rw [settle_missing missing, id]
              have named : ∀ e' ∈ some e, e'.kind = .notFound ∧ w1.Lost w2 .deleteServer e' := by
                intro e' he
                cases he
                exact ⟨missing, lost missing⟩
              exact completes_retire proper hx alone (fun e' he => (named e' he).1) follows2
                (.retired loses2 fun e' he => (named e' he).2) shows2 (retired _)
            · rw [settle_error missing]
              refine Ends.throw ⟨[], l, .nil l, shows2, .nil loses2, Or.inl ⟨rfl, fun calm => ?_⟩⟩
              exact absurd (calm.follows follows1) rough
          · rintro ⟨loses2, shows2⟩
            have none : ∀ e ∈ (none : Option Controller.Error), False :=
              fun e h => Option.not_mem_none e h
            rw [id] at shows2 ⊢
            exact completes_retire proper hx alone (m := .none) (fun e h => (none e h).elim)
              follows2 (.retired loses2 fun e h => (none e h).elim) shows2 (retired _)
        · exact fun e w2 _ h => h.2.elim

end Overlay.Dhcp
