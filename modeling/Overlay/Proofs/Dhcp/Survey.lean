import Overlay.Dhcp.Resync
import Overlay.Proofs.Dhcp.Converge

/-!
# One port of a rebuilding pass

A pass goes through the ports of the catalog before it binds any address. For a DHCP port it seeks
the server of the port's network, if there is a switch behind it (`soughtAt?`), and notes what comes
of it; the addresses of instance ports are collected by switch. Both look up subnets, and a subnet
that was looked up once is known from then on.

Main statements: `quiet_passComputePort`, `goes_passDhcpPort`.
-/

namespace Overlay.Dhcp

open Overlay.Handler

variable {w : World} {l : Ledger} {c : Catalog}

/-! ## Subnets -/

/-- Whether the subnet is there and served by DHCP. -/
def servedIn (c : Catalog) (subnetId : String) : Bool :=
  (Table.find? Subnet.id subnetId c.subnets).any (·.servesDhcp)

/-- What a pass remembers of subnets is what the catalog says. -/
def Pass.Knows (pass : Pass) (c : Catalog) : Prop :=
  ∀ k ∈ pass.subnets, k.subnet = Table.find? Subnet.id k.id c.subnets

/-- A subnet that is looked up is the catalog's, and from then on it is known. -/
theorem quiet_subnet (shows : w.Shows l) {pass : Pass} (knows : pass.Knows w.catalog)
    (id : String) :
    (pass.subnet id).Quiet w l fun r =>
      match r with
      | .ok (subnet, pass') => subnet = Table.find? Subnet.id id w.catalog.subnets ∧
        pass'.Knows w.catalog ∧ pass' = { pass with subnets := pass'.subnets }
      | .error _ => ¬ w.Reachable := by
  rw [Pass.subnet]
  cases found : Table.find? KnownSubnet.id id pass.subnets with
  | some k =>
      obtain ⟨hk, rfl⟩ := Table.mem_of_find? found
      exact Ends.pure ⟨shows, World.loses_none rfl, knows k hk, knows, rfl⟩
  | none =>
      refine Ends.bind (quiet_lookUp shows (.subnet id)) ?_ fun e w1 _ h => h
      rintro subnet w1 - ⟨shows1, loses1, rfl⟩
      refine Ends.pure ⟨shows1, loses1, rfl, ?_, rfl⟩
      intro k hk
      rcases List.mem_append.mp hk with old | new
      · exact knows k old
      · rw [List.mem_singleton.mp new]
        rfl

/-- The switch is asked for only when the subnet is served. -/
theorem quiet_switchFor (shows : w.Shows l) (subnet : Option Subnet) (networkId : String) :
    (switchFor subnet networkId).Quiet w l fun r =>
      match r with
      | .ok switchId => switchId = if subnet.any (·.servesDhcp) then l.switch? networkId else none
      | .error _ => l.networks = none := by
  cases subnet with
  | none => exact Ends.pure ⟨shows, World.loses_none rfl, rfl⟩
  | some s =>
      show Quiet (if s.servesDhcp then _ else _) _ _ fun r => match r with
        | .ok switchId => switchId = if s.servesDhcp then l.switch? networkId else none
        | .error _ => l.networks = none
      by_cases serves : s.servesDhcp = true
      · simp only [if_pos serves]
        refine Ends.mono (quiet_getSwitch shows networkId) ?_
        rintro (e | switchId) w1 - done
        · exact done
        · exact done
      · simp only [if_neg serves]
        exact Ends.pure ⟨shows, World.loses_none rfl, rfl⟩

/-! ## Instance ports -/

/-- Of these addresses of a port, the ones that are to be bound. -/
def entriesOf (c : Catalog) (p : Port) (addresses : List (String × IPv4)) :
    List (String × Desired) :=
  (addresses.filter fun f => servedIn c f.1).map fun f => (p.id, ⟨f.1, f.2, p.macAddress⟩)

/-- The addresses of a port that are to be bound. -/
def portEntries (c : Catalog) (p : Port) : List (String × Desired) := entriesOf c p p.ipv4s

theorem entriesOf_cons (c : Catalog) (p : Port) (f : String × IPv4) (rest : List (String × IPv4)) :
    entriesOf c p (f :: rest)
      = (if servedIn c f.1 then [(p.id, ⟨f.1, f.2, p.macAddress⟩)] else [])
        ++ entriesOf c p rest := by
  rw [entriesOf, List.filter_cons]
  split <;> rfl

/-- The addresses collected behind a switch. -/
def Pass.entriesAt (pass : Pass) (switchId : String) : List (String × Desired) :=
  match Table.find? SwitchGroup.switchId switchId pass.groups with
  | some group => group.entries
  | none => []

theorem Pass.entriesAt_withEntry (pass : Pass) (switchId networkId portId : String) (d : Desired)
    (at' : String) :
    (pass.withEntry switchId networkId portId d).entriesAt at'
      = pass.entriesAt at' ++ if switchId = at' then [(portId, d)] else [] := by
  rw [withEntry, entriesAt]
  by_cases same : switchId = at'
  · subst same
    rw [if_pos rfl, Table.find?_put_self SwitchGroup.switchId
      ⟨switchId, networkId, _ ++ [(portId, d)]⟩]
    rfl
  · rw [if_neg same, List.append_nil]
    dsimp only
    rw [Table.find?_put_of_ne SwitchGroup.switchId (a := ⟨switchId, networkId, _⟩) same]
    rfl

/-- A pass that has come from one state to another without any server, having collected more
addresses behind one switch. -/
structure Pass.Gathers (pass : Pass) (c : Catalog) (switchId : Option String)
    (entries : List (String × Desired)) (pass' : Pass) : Prop where
  knows : pass'.Knows c
  report : pass'.report = pass.report
  servers : pass'.servers = pass.servers
  keyed : Table.Keyed SwitchGroup.switchId pass.groups →
    Table.Keyed SwitchGroup.switchId pass'.groups
  entries : ∀ s, pass'.entriesAt s
    = pass.entriesAt s ++ if switchId = some s then entries else []

theorem Pass.Gathers.refl {pass : Pass} {switchId : Option String} (knows : pass.Knows c) :
    pass.Gathers c switchId [] pass where
  knows := knows
  report := rfl
  servers := rfl
  keyed := id
  entries s := by rw [ite_self, List.append_nil]

theorem Pass.Gathers.trans {pass pass' pass'' : Pass} {switchId : Option String}
    {entries more : List (String × Desired)} (h : pass.Gathers c switchId entries pass')
    (h' : pass'.Gathers c switchId more pass'') :
    pass.Gathers c switchId (entries ++ more) pass'' where
  knows := h'.knows
  report := h'.report.trans h.report
  servers := h'.servers.trans h.servers
  keyed k := h'.keyed (h.keyed k)
  entries s := by
    rw [h'.entries, h.entries, List.append_assoc]
    by_cases here : switchId = some s
    · rw [if_pos here, if_pos here, if_pos here]
    · rw [if_neg here, if_neg here, if_neg here, List.append_nil]

/-- One address of an instance port. -/
theorem quiet_entry (shows : w.Shows l) {pass : Pass} (knows : pass.Knows w.catalog) (p : Port)
    (f : String × IPv4) :
    Quiet (do
      let (subnet, pass) ← pass.subnet f.1
      match ← switchFor subnet p.networkId with
      | some switchId => return pass.withEntry switchId p.networkId p.id ⟨f.1, f.2, p.macAddress⟩
      | none => return pass) w l fun r =>
        match r with
        | .ok pass' => pass.Gathers w.catalog (l.switch? p.networkId)
          (if servedIn w.catalog f.1 then [(p.id, ⟨f.1, f.2, p.macAddress⟩)] else []) pass'
        | .error _ => w.Reachable → l.networks = none := by
  refine Ends.bind (quiet_subnet shows knows f.1) ?_ fun e w1 _ h =>
    ⟨h.1, h.2.1, fun reachable => absurd reachable h.2.2⟩
  rintro ⟨subnet, pass1⟩ w1 follows1 ⟨shows1, loses1, rfl, knows1, same⟩
  refine Ends.bind (quiet_switchFor shows1 _ p.networkId) ?_ fun e w2 follows2 h =>
    ⟨h.1, loses1.none_trans follows1 follows2 h.2.1, fun _ => h.2.2⟩
  rintro switchId w2 follows2 ⟨shows2, loses2, found⟩
  have loses := loses1.none_trans follows1 follows2 loses2
  -- so far the pass has only learnt of a subnet
  have at1 : ∀ s, pass1.entriesAt s = pass.entriesAt s := by
    intro s
    rw [same]
    rfl
  have serves : (Table.find? Subnet.id f.1 w.catalog.subnets).any (·.servesDhcp)
      = servedIn w.catalog f.1 := rfl
  rw [serves] at found
  cases switchId with
  | none =>
      refine Ends.pure ⟨shows2, loses, knows1, ?_, ?_, ?_, fun s => ?_⟩
      · rw [same]
      · rw [same]
      · rw [same]
        exact id
      · rw [at1]
        cases served : servedIn w.catalog f.1 with
        | false => simp
        | true =>
            rw [served] at found
            have nowhere : l.switch? p.networkId = none := found.symm
            simp [nowhere]
  | some switchId =>
      refine Ends.pure ⟨shows2, loses, knows1, ?_, ?_, ?_, fun s => ?_⟩
      · show pass1.report = _
        rw [same]
      · show pass1.servers = _
        rw [same]
      · intro keyed
        refine Table.Keyed.put ?_ _
        rw [same]
        exact keyed
      · rw [Pass.entriesAt_withEntry, at1]
        cases served : servedIn w.catalog f.1 with
        | false =>
            rw [served] at found
            exact nomatch found
        | true =>
            rw [served] at found
            have here : l.switch? p.networkId = some switchId := found.symm
            rw [here]
            simp

/-- An instance port: its addresses are collected behind the switch of its network. -/
theorem quiet_passComputePort (shows : w.Shows l) {pass : Pass} (knows : pass.Knows w.catalog)
    (p : Port) :
    (passComputePort p pass).Quiet w l fun r =>
      match r with
      | .ok pass' => pass.Gathers w.catalog (l.switch? p.networkId) (portEntries w.catalog p) pass'
      | .error _ => w.Reachable → l.networks = none := by
  rw [passComputePort, portEntries]
  induction p.ipv4s generalizing pass w with
  | nil => exact Ends.pure ⟨shows, World.loses_none rfl, .refl knows⟩
  | cons f rest ih =>
      refine Ends.bind (quiet_entry shows knows p f) ?_ fun e w1 _ h => h
      rintro pass1 w1 follows1 ⟨shows1, loses1, first⟩
      have knows1 : pass1.Knows w1.catalog := by
        rw [follows1.catalog]
        exact first.knows
      refine Ends.mono (ih shows1 knows1) ?_
      rintro r w2 follows2 ⟨shows2, loses2, rest⟩
      refine ⟨shows2, loses1.none_trans follows1 follows2 loses2, ?_⟩
      rw [follows1.catalog] at rest
      cases r with
      | error e => exact fun reachable => rest (reachable.follows follows1)
      | ok pass2 =>
          rw [entriesOf_cons]
          exact first.trans rest

/-! ## DHCP ports -/

/-- What `ensureService` comes to: the service that there is, or a new one, or an error, and then
none is wanted unless something failed. -/
def Ensured (w : World) (l : Ledger) (settings : Settings) (s : Subnet) (p : Port)
    (r : Except Error (Store.Service × Bool)) (acts : List Act) (l' : Ledger) : Prop :=
  (acts = [] ∧ match r with
    | .ok (x, _) => x ∈ l.services ∧ x.networkId = p.networkId
    | .error _ => (∀ x ∈ l.services, x.networkId ≠ p.networkId) ∧
      (w.Calm → (Table.find? Network.id p.networkId w.catalog.networks).bind
        (fun n => (serverConfig n s p settings).toOption) = none)) ∨
  ∃ config time, (∀ x ∈ l.services, x.networkId ≠ p.networkId) ∧
    (Table.find? Network.id p.networkId w.catalog.networks).bind
      (fun n => (serverConfig n s p settings).toOption) = some config ∧
    acts = [.serve p.networkId p.id config time] ∧ match r with
      | .ok (x, _) => x ∈ l'.services ∧ x.networkId = p.networkId
      | .error _ => w.Calm → l.ports = none

theorem Ensured.follows {w' : World} {settings : Settings} {s : Subnet} {p : Port}
    {r : Except Error (Store.Service × Bool)} {acts : List Act} {l' : Ledger} (f : w.Follows w')
    (h : Ensured w' l settings s p r acts l') : Ensured w l settings s p r acts l' := by
  unfold Ensured at h
  rw [f.catalog] at h
  rcases h with ⟨rfl, h⟩ | ⟨config, time, new, made, rfl, h⟩
  · refine Or.inl ⟨rfl, ?_⟩
    cases r with
    | ok x => exact h
    | error e => exact ⟨h.1, fun calm => h.2 (calm.follows f)⟩
  · refine Or.inr ⟨config, time, new, made, rfl, ?_⟩
    cases r with
    | ok x => exact h
    | error e => exact fun calm => h (calm.follows f)

/-- The answer tells whether a server was made. -/
def Told (r : Except Error (Store.Service × Bool)) (acts : List Act) : Prop :=
  ∀ x fresh, r = .ok (x, fresh) → (fresh = true ↔ acts ≠ [])

theorem Told.error (e : Error) (acts : List Act) : Told (.error e) acts :=
  fun _ _ none => nomatch none

/-- Seeking the server of a network comes to what `Ensured` says, whatever fails on the way. -/
theorem goes_ensureService (shows : w.Shows l) (linked : l.Linked) (settings : Settings)
    (s : Subnet) (p : Port) :
    (ensureService settings s p).Goes w l fun r acts l' =>
      Ensured w l settings s p r acts l' ∧ Told r acts := by
  refine Goes.locked ?_
  refine Goes.quiet (quiet_getService shows p.networkId) ?_ fun e none => nomatch none
  rintro service w1 follows1 shows1 answer
  rw [Except.ok.inj answer]
  cases found : Table.find? Store.Service.networkId p.networkId l.services with
  | some x =>
      refine Goes.pure shows1 ?_
      refine ⟨Or.inl ⟨rfl, Table.mem_of_find? found⟩, fun y fresh same => ?_⟩
      cases same
      exact ⟨fun made => (nomatch made), fun made => absurd rfl made⟩
  | none =>
      -- the network has no server, so that the service made here is its only one
      have new := Table.find?_eq_none_iff.mp found
      refine Goes.quiet (quiet_query shows1 (.network p.networkId)) ?_
        fun e rough =>
          ⟨Or.inl ⟨rfl, new, fun calm => absurd (calm.follows follows1) rough⟩, .error e []⟩
      rintro network w2 follows2 shows2 found
      have there : Table.find? Network.id p.networkId w.catalog.networks = network := by
        rw [← follows1.catalog]
        exact found.symm
      cases network with
      | none =>
          refine Goes.throw shows2 ?_
          exact ⟨Or.inl ⟨rfl, new, fun _ => by rw [there]; rfl⟩, .error _ []⟩
      | some n =>
          have id : n.id = p.networkId := (Table.mem_of_find? there).2
          have follows := follows1.trans follows2
          refine Goes.bind linked (goes_createService shows2 settings (n := n)
            (fun x hx => id ▸ new x hx) s p) ?_ ?_
          · rintro x acts l' w3 - shows3 - path served
            refine Goes.pure shows3 ?_
            rw [List.append_nil]
            rcases served with ⟨-, e, none, -⟩ | ⟨config, time, made, rfl, rfl, -⟩
            · exact nomatch none
            · refine ⟨Or.inr ⟨config, time, new, ?_, by rw [id], ?_, id⟩, fun y fresh same => ?_⟩
              · rw [there, Option.bind_some, made]
                rfl
              · cases path with
                | cons fits rest =>
                    cases rest
                    exact List.mem_append_right _ (List.mem_singleton_self _)
              · cases same
                exact ⟨fun _ none => (nomatch none), fun _ => rfl⟩
          -- a failure before the server is there leaves nothing, one after it leaves the server
          · rintro e acts l' - (⟨rfl, e', -, unwanted⟩ | ⟨config, time, made, rfl, gone⟩)
            · refine ⟨Or.inl ⟨rfl, new, fun calm => ?_⟩, .error e []⟩
              rw [there, Option.bind_some, unwanted (calm.follows follows)]
              rfl
            · refine ⟨Or.inr ⟨config, time, new, ?_, by rw [id],
                fun calm => (gone (calm.follows follows)).1⟩, .error e _⟩
              rw [there, Option.bind_some, made]
              rfl

/-- The pass after a network's server was asked for. -/
def Pass.noted (pass : Pass) (switchId : String) (r : Except Error (Store.Service × Bool)) : Pass :=
  let pass := { pass with report := pass.report.withServer r }
  match r with
  | .ok (service, _) => pass.withServer switchId service
  | .error _ => pass

/-- The switch that a server is sought for on account of a port: that of the network of a DHCP port
whose first address lies in a subnet that is there and served. -/
def soughtAt? (c : Catalog) (switch? : String → Option String) (p : Port) : Option String :=
  match p.role, p.ipv4s with
  | .dhcp, f :: _ => if servedIn c f.1 then switch? p.networkId else none
  | _, _ => none

/-- A server is sought on account of a DHCP port in the subnet of its first address. -/
theorem of_soughtAt? {switch? : String → Option String} {p : Port} {switchId : String}
    (h : soughtAt? c switch? p = some switchId) :
    p.role = .dhcp ∧ switch? p.networkId = some switchId ∧
      ∃ f rest s, p.ipv4s = f :: rest ∧ Table.find? Subnet.id f.1 c.subnets = some s ∧
        s.servesDhcp = true := by
  rw [soughtAt?] at h
  split at h
  case h_2 => cases h
  next f rest role first =>
    split at h
    case isFalse => cases h
    next served =>
      obtain ⟨s, found, serves⟩ := (Option.any_eq_true _ _).mp served
      exact ⟨role, h, f, rest, s, first, found, serves⟩

/-- What a DHCP port comes to: nothing, if no server is sought; or else the pass notes what became
of the network's server. Either way it may know another subnet. -/
def Sought (w : World) (l : Ledger) (settings : Settings) (p : Port) (pass : Pass)
    (r : Except Error Pass) (acts : List Act) (l' : Ledger) : Prop :=
  match r with
  | .error _ => acts = [] ∧ (w.Reachable → l.networks = none)
  | .ok pass' => ∃ subnets, Pass.Knows { pass with subnets } w.catalog ∧
    ((acts = [] ∧ soughtAt? w.catalog l.switch? p = none ∧ pass' = { pass with subnets }) ∨
      ∃ f rest s switchId result, p.ipv4s = f :: rest ∧
        Table.find? Subnet.id f.1 w.catalog.subnets = some s ∧ s.servesDhcp = true ∧
        soughtAt? w.catalog l.switch? p = some switchId ∧
        Ensured w l settings s p result acts l' ∧ Told result acts ∧
        pass' = Pass.noted { pass with subnets } switchId result)

/-- A DHCP port adds to the pass what was found of its network's server. -/
theorem goes_passDhcpPort (shows : w.Shows l) (linked : l.Linked) (settings : Settings)
    {pass : Pass} (knows : pass.Knows w.catalog) {p : Port} (role : p.role = .dhcp) :
    (passDhcpPort settings p pass).Goes w l fun r acts l' =>
      Sought w l settings p pass r acts l' := by
  rw [passDhcpPort]
  cases first : p.ipv4s with
  | nil =>
      refine Goes.pure shows ⟨pass.subnets, knows, Or.inl ⟨rfl, ?_, rfl⟩⟩
      rw [soughtAt?, role, first]
  | cons f rest =>
      have here : soughtAt? w.catalog l.switch? p
          = if servedIn w.catalog f.1 then l.switch? p.networkId else none := by
        rw [soughtAt?, role, first]
      refine Goes.quiet (quiet_subnet shows knows f.1) ?_ fun e away =>
        ⟨rfl, fun reachable => absurd reachable away⟩
      rintro ⟨subnet, pass1⟩ w1 follows1 shows1 ⟨found, knows1, same⟩
      -- looking up a subnet changes nothing of a pass but what it knows of subnets
      obtain ⟨subnets, rfl⟩ : ∃ subnets, pass1 = { pass with subnets } := ⟨_, same⟩
      refine Goes.quiet (quiet_switchFor shows1 subnet p.networkId) ?_ fun e gone =>
        ⟨rfl, fun _ => gone⟩
      rintro switch w2 follows2 shows2 behind
      have asked : switch = soughtAt? w.catalog l.switch? p := by
        rw [here, servedIn, ← found]
        exact behind
      -- without a subnet that is served or without a switch the port is passed over
      have skipped : switch = none →
          Sought w l settings p pass (.ok { pass with subnets }) [] l := fun none =>
        ⟨subnets, knows1, Or.inl ⟨rfl, asked.symm.trans none, rfl⟩⟩
      cases switch with
      | none =>
          cases subnet <;> exact Goes.pure shows2 (skipped rfl)
      | some switchId =>
          obtain ⟨-, -, f', rest', s, first', there, serves⟩ := of_soughtAt? asked.symm
          cases first.symm.trans first'
          cases found.trans there
          have follows := follows1.trans follows2
          refine Goes.bind linked (Goes.attempt (T := fun r acts l' => ∃ result, r = .ok result ∧
            Ensured w l settings s p result acts l' ∧ Told result acts)
            (Goes.mono (goes_ensureService shows2 linked settings s p)
              fun r acts l' _ h => ⟨r, rfl, h.1.follows follows, h.2⟩)) ?_ ?_
          · rintro result acts l' w3 - shows3 - path ⟨result', eq, ensured, told⟩
            cases eq
            have sought : Sought w l settings p pass
                (.ok (Pass.noted { pass with subnets } switchId result)) (acts ++ []) l' := by
              rw [List.append_nil]
              exact ⟨subnets, knows1, Or.inr ⟨f, rest, s, switchId, result, first, there, serves,
                asked.symm, ensured, told, rfl⟩⟩
            cases result <;> exact Goes.pure shows3 sought
          · rintro e acts l' - ⟨result, none, -⟩
            cases none

end Overlay.Dhcp
