import Overlay.Dhcp.Server
import Overlay.Proofs.Address.Groups

/-!
# Descriptions of servers

What `serverConfig` makes of a network, a subnet, a DHCP port and the settings, if it makes anything
of them. The host routes of a subnet are gone through once, with the gateway and the routes so far
in hand, and `Routing.foldl_withHostRoute` says what has become of both, whatever they were at first.

A default route is known by its spelling. `10.0.0.1/0` matches every address as `0.0.0.0/0` does,
but a host route to it is handed out like any other one.

Main statements: `routing_of_serverConfig`, `oneDefault_iff`.
-/

namespace Overlay

/-! ## Host bits -/

/-- Of an address the bits that count are left. -/
theorem testBit_clearHostBits (width length n i : Nat) :
    (clearHostBits width length n).testBit i
      = (decide (width - length ≤ i) && n.testBit i) := by
  rw [clearHostBits, Nat.testBit_shiftLeft, Nat.testBit_shiftRight]
  by_cases counts : width - length ≤ i
  · rw [Nat.add_sub_cancel' counts]
  · simp [counts]

/-- Clearing host bits makes a number no larger. -/
theorem clearHostBits_le (width length n : Nat) : clearHostBits width length n ≤ n := by
  rw [clearHostBits, Nat.shiftLeft_eq, Nat.shiftRight_eq_div_pow]
  exact Nat.div_mul_le_self n _

theorem IPv4.toNat_lt (ip : IPv4) : ip.toNat < 2 ^ 32 := by
  have := ip.a.toNat_lt
  have := ip.b.toNat_lt
  have := ip.c.toNat_lt
  have := ip.d.toNat_lt
  rw [toNat]
  omega

namespace IPv6

/-- Groups of sixteen bits come to a number with so many digits. -/
theorem foldl_groups_lt (gs : List UInt16) (n : Nat) :
    gs.foldl (fun n g => n * 65536 + g.toNat) n < (n + 1) * 65536 ^ gs.length := by
  induction gs generalizing n with
  | nil => simp
  | cons g gs ih =>
      have small := g.toNat_lt
      calc (g :: gs).foldl (fun n g => n * 65536 + g.toNat) n
          < (n * 65536 + g.toNat + 1) * 65536 ^ gs.length := ih _
        _ ≤ ((n + 1) * 65536) * 65536 ^ gs.length := Nat.mul_le_mul_right _ (by omega)
        _ = (n + 1) * 65536 ^ (g :: gs).length := by
            rw [List.length_cons, Nat.pow_succ', Nat.mul_assoc]

theorem toNat_lt (ip : IPv6) : ip.toNat < 2 ^ 128 := by
  have bound := foldl_groups_lt ip.groups 0
  rw [ip.length_groups] at bound
  exact bound

/-- An address is read off its number. -/
theorem toNat_ofNat {n : Nat} (h : n < 2 ^ 128) : (ofNat n).toNat = n := by
  simp only [toNat, ofNat, List.map_cons, List.map_nil, List.foldl_cons, List.foldl_nil,
    UInt16.toNat_ofNat', Nat.shiftRight_eq_div_pow]
  omega

end IPv6

/-- The second block is the first one with its host bits cleared: it has the same length, and of the
address it has the bits that count. -/
def Cidr.Clears : Cidr → Cidr → Prop
  | .v4 b, .v4 c => c.length = b.length ∧
    ∀ i, c.address.toNat.testBit i = (decide (32 - b.length ≤ i) && b.address.toNat.testBit i)
  | .v6 b, .v6 c => c.length = b.length ∧
    ∀ i, c.address.toNat.testBit i = (decide (128 - b.length ≤ i) && b.address.toNat.testBit i)
  | _, _ => False

/-- The block of a network is its block with the host bits cleared. -/
theorem Cidr.clears_network (b : Cidr) : b.Clears b.network := by
  cases b with
  | v4 b =>
      refine ⟨rfl, ?_⟩
      intro i
      have small := Nat.lt_of_le_of_lt (clearHostBits_le 32 b.length _) b.address.toNat_lt
      rw [Cidr4.network, IPv4.toNat_ofNat small, testBit_clearHostBits]
  | v6 b =>
      refine ⟨rfl, ?_⟩
      intro i
      have small := Nat.lt_of_le_of_lt (clearHostBits_le 128 b.length _) b.address.toNat_lt
      rw [Cidr6.network, IPv6.toNat_ofNat small, testBit_clearHostBits]

/-- Clearing host bits keeps the length of a block. -/
theorem Cidr.length_network (b : Cidr) : b.network.length = b.length := by
  cases b <;> rfl

namespace Dhcp

/-! ## Host routes -/

namespace Routing

variable (r : Routing) (h : HostRoute)

/-- A default route names the gateway where none is known. -/
theorem withHostRoute_default (default : h.destination = Cidr.everything) :
    r.withHostRoute h = { r with gateway := r.gateway <|> some h.nextHop } := if_pos default

/-- Any other host route is put behind the routes. -/
theorem withHostRoute_other (other : h.destination ≠ Cidr.everything) :
    r.withHostRoute h = { r with routes := r.routes ++ [⟨h.destination, h.nextHop⟩] } :=
  if_neg other

/-- The first default route names the gateway, unless one is known, and the other host routes follow
the routes that there are. -/
theorem foldl_withHostRoute (hs : List HostRoute) : hs.foldl withHostRoute r = {
    gateway := r.gateway <|>
      (hs.find? (·.destination = Cidr.everything)).map (·.nextHop)
    routes := r.routes ++
      (hs.filter (·.destination ≠ Cidr.everything)).map fun h => ⟨h.destination, h.nextHop⟩ } := by
  induction hs generalizing r with
  | nil => simp
  | cons h hs ih =>
      rw [List.foldl_cons, ih]
      by_cases default : h.destination = Cidr.everything
      · rw [withHostRoute_default r h default, List.find?_cons_of_pos (by simpa using default),
          List.filter_cons_of_neg (by simpa using default)]
        cases r.gateway <;> simp
      · rw [withHostRoute_other r h default, List.find?_cons_of_neg (by simpa using default),
          List.filter_cons_of_pos (by simpa using default)]
        simp

/-- The default route does not change the gateway. -/
theorem gateway_withDefaultRoute : r.withDefaultRoute.gateway = r.gateway := by
  cases known : r.gateway <;> simp [withDefaultRoute, known]

/-- The default route comes last, if there is a gateway. -/
theorem routes_withDefaultRoute : r.withDefaultRoute.routes
    = r.routes ++ (r.gateway.map fun gateway => ⟨Cidr.everything, gateway⟩).toList := by
  cases known : r.gateway <;> simp [withDefaultRoute, known]

variable (s : Subnet)

/-- The gateway is the subnet's, or else that of its first default route. -/
theorem gateway_ofSubnet : (ofSubnet s).gateway
    = (s.gateway <|> (s.hostRoutes.find? (·.destination = Cidr.everything)).map (·.nextHop)) := by
  rw [ofSubnet, gateway_withDefaultRoute, foldl_withHostRoute]
  rfl

/-- The block itself comes first, then the host routes, then the default route. -/
theorem routes_ofSubnet : (ofSubnet s).routes
    = ⟨s.cidr.network, .v4 IPv4.unspecified⟩ ::
      ((s.hostRoutes.filter (·.destination ≠ Cidr.everything)).map
        fun h => ⟨h.destination, h.nextHop⟩)
      ++ ((ofSubnet s).gateway.map fun gateway => ⟨Cidr.everything, gateway⟩).toList := by
  rw [gateway_ofSubnet, ofSubnet, routes_withDefaultRoute, foldl_withHostRoute]
  rfl

end Routing

/-! ## The description -/

variable {n : Network} {s : Subnet} {p : Port} {settings : Settings} {config : DhcpServerConfig}

/-- The address in a subnet is the first IPv4 address that the port has in it. -/
theorem addressIn_eq_findSome? (p : Port) (subnetId : String) : addressIn p subnetId
    = p.fixedIps.findSome? fun f => if f.subnetId = subnetId then f.address.v4? else none := by
  rw [addressIn, Port.ipv4s]
  induction p.fixedIps with
  | nil => rfl
  | cons f fs ih =>
      rw [List.findSome?_cons]
      cases family : f.address.v4? with
      | none =>
          rw [List.filterMap_cons_none (by rw [family]; rfl), ih, ite_self]
      | some ip =>
          rw [List.filterMap_cons_some (by rw [family]; rfl)]
          by_cases here : f.subnetId = subnetId
          · rw [List.find?_cons_of_pos (by simpa using here), if_pos here]
            rfl
          · rw [List.find?_cons_of_neg (by simpa using here), if_neg here, ih]

/-- The first IPv4 address in a subnet has none before it but IPv6 addresses and those in other
subnets. -/
theorem addressIn_eq_some_iff {subnetId : String} {ip : IPv4} :
    addressIn p subnetId = some ip ↔
      ∃ before after, p.fixedIps = before ++ ⟨subnetId, .v4 ip⟩ :: after ∧
        ∀ f ∈ before, f.subnetId = subnetId → f.address.v4? = none := by
  rw [addressIn_eq_findSome?, List.findSome?_eq_some_iff]
  have holds : ∀ f : FixedIp, (if f.subnetId = subnetId then f.address.v4? else none) = some ip ↔
      f = ⟨subnetId, .v4 ip⟩ := by
    rintro ⟨id, _ | _⟩ <;> simp [Address.v4?]
  constructor
  · rintro ⟨before, f, after, split, here, none_before⟩
    refine ⟨before, after, (holds f).mp here ▸ split, ?_⟩
    intro g mem same
    have none_there := none_before g mem
    rwa [if_pos same] at none_there
  · rintro ⟨before, after, split, none_before⟩
    refine ⟨before, _, after, split, (holds _).mpr rfl, ?_⟩
    intro g mem
    by_cases same : g.subnetId = subnetId
    · rw [if_pos same, none_before g mem same]
    · exact if_neg same

/-- What a description says of the server's address and of routes. -/
theorem serverConfig_ok (built : serverConfig n s p settings = .ok config) :
    (∃ ip fits, addressIn p s.id = some ip ∧ config.serverIp = .v4 ⟨ip, s.cidr.length, fits⟩) ∧
      config.gateway = (Routing.ofSubnet s).gateway ∧
      config.options = .ofRoutes (Routing.ofSubnet s).routes := by
  rw [serverConfig] at built
  cases profile : settings.dhcpProfile with
  | error e =>
      simp only [profile] at built
      cases built
  | ok profileId =>
      cases inside : addressIn p s.id with
      | none =>
          simp only [profile, inside, pure_bind] at built
          cases built
      | some ip =>
          by_cases fits : s.cidr.length ≤ 32
          · simp only [profile, inside, Cidr4.of?, dif_pos fits, pure_bind] at built
            obtain rfl := Except.ok.inj built
            exact ⟨⟨ip, fits, rfl, rfl⟩, rfl, rfl⟩
          · simp only [profile, inside, Cidr4.of?, dif_neg fits, pure_bind] at built
            cases built

/-- In the subnet of its first address a port has this address. -/
theorem addressIn_of_first {f : String × IPv4} {rest : List (String × IPv4)}
    (first : p.ipv4s = f :: rest) : addressIn p f.1 = some f.2 := by
  rw [addressIn, first, List.find?_cons_of_pos (by simp)]
  rfl

/-- On the subnet of the port's first address, if it is served, nothing but the profile can be
wanting. -/
theorem serverConfig_of_first (settings : Settings) (n : Network) {f : String × IPv4}
    {rest : List (String × IPv4)} (first : p.ipv4s = f :: rest) (same : s.id = f.1)
    (serves : s.servesDhcp = true) :
    match settings.dhcpProfile with
    | .ok _ => ∃ config, serverConfig n s p settings = .ok config
    | .error e => serverConfig n s p settings = .error (.settings e) := by
  have inside : addressIn p s.id = some f.2 := same ▸ addressIn_of_first first
  have fits : s.cidr.length ≤ 32 := by
    rw [Subnet.servesDhcp, Bool.and_eq_true, Subnet.isV4] at serves
    cases cidr : s.cidr with
    | v4 b => exact b.length_le
    | v6 b =>
        rw [cidr] at serves
        exact nomatch serves.2
  rw [serverConfig]
  cases settings.dhcpProfile with
  | error e => rfl
  | ok profileId =>
      simp only [inside, Cidr4.of?, dif_pos fits, pure_bind]
      exact ⟨_, rfl⟩

/-- What the description of a server says of gateway, routes and address. The gateway is the
subnet's own, or else the one that the first default route goes by. The routes are the one to the
subnet, the other host routes as they are, and the default route by the gateway, which stands for no
other block unless the subnet itself is everything. The server has the first IPv4 address that the
port holds in the subnet. -/
theorem routing_of_serverConfig (built : serverConfig n s p settings = .ok config) :
    config.gateway
        = (s.gateway <|> (s.hostRoutes.find? (·.destination = Cidr.everything)).map (·.nextHop)) ∧
      (∃ block routes, s.cidr.Clears block ∧ config.options = .ofRoutes routes ∧
        routes = ⟨block, .v4 IPv4.unspecified⟩ ::
          ((s.hostRoutes.filter (·.destination ≠ Cidr.everything)).map
            fun h => ⟨h.destination, h.nextHop⟩)
          ++ (config.gateway.map fun gateway => ⟨Cidr.everything, gateway⟩).toList ∧
        (block ≠ Cidr.everything → routes.filter (·.network = Cidr.everything)
          = (config.gateway.map fun gateway => ⟨Cidr.everything, gateway⟩).toList)) ∧
      ∃ ip fits before after, config.serverIp = .v4 ⟨ip, s.cidr.length, fits⟩ ∧
        p.fixedIps = before ++ ⟨s.id, .v4 ip⟩ :: after ∧
        ∀ f ∈ before, f.subnetId = s.id → f.address.v4? = none := by
  obtain ⟨⟨ip, fits, inside, address⟩, gateway, options⟩ := serverConfig_ok built
  refine ⟨gateway.trans (Routing.gateway_ofSubnet s), ?_, ?_⟩
  · refine ⟨s.cidr.network, _, s.cidr.clears_network, options, ?_, ?_⟩
    · rw [gateway, Routing.routes_ofSubnet]
    · intro proper
      rw [gateway, Routing.routes_ofSubnet]
      have others : ((s.hostRoutes.filter (·.destination ≠ Cidr.everything)).map
          fun h => (⟨h.destination, h.nextHop⟩ : StaticRoute)).filter
            (·.network = Cidr.everything) = [] := by
        rw [List.filter_map, List.map_eq_nil_iff, List.filter_filter, List.filter_eq_nil_iff]
        intro h _
        simp
      rw [List.cons_append, List.filter_cons_of_neg (by simpa using proper), List.filter_append,
        others, List.nil_append]
      cases (Routing.ofSubnet s).gateway <;> simp
  · obtain ⟨before, after, split, none_before⟩ := addressIn_eq_some_iff.mp inside
    exact ⟨ip, fits, before, after, address, split, none_before⟩

namespace Sample

/-- A subnet without a gateway of its own. -/
def subnetWith (hostRoutes : List HostRoute) : Subnet :=
  ⟨"subnet", "net", .v4 ⟨⟨10, 0, 0, 7⟩, 25, by decide⟩, true, none, [], hostRoutes⟩

/-- A route to `192.168.0.0/16`. -/
def branchRoute : HostRoute :=
  ⟨.v4 ⟨⟨192, 168, 0, 0⟩, 16, by decide⟩, .v4 ⟨10, 0, 0, 10⟩⟩

/-- A default route. -/
def defaultRoute (nextHop : IPv4) : HostRoute := ⟨Cidr.everything, .v4 nextHop⟩

/-- A DHCP port with addresses of both families in two subnets. -/
def manyHomed : Port :=
  ⟨"dhcp-port", "net", "", "fa:16:3e:00:00:02", "network:dhcp",
    [⟨"subnet", .v6 ⟨[0x2001, 0xDB8, 0, 0, 0, 0, 0, 2], rfl⟩⟩, ⟨"other-subnet", .v4 ⟨10, 0, 1, 2⟩⟩,
      ⟨"subnet", .v4 ⟨10, 0, 0, 2⟩⟩, ⟨"subnet", .v4 ⟨10, 0, 0, 3⟩⟩]⟩

end Sample

/-- Of two default routes the first one names the gateway. -/
theorem gateway_of_first_default : ∃ config,
    serverConfig ⟨"net", "web", "tenant"⟩
      (Sample.subnetWith [Sample.branchRoute, Sample.defaultRoute ⟨10, 0, 0, 254⟩,
        Sample.branchRoute, Sample.defaultRoute ⟨10, 0, 0, 253⟩])
      Sample.manyHomed (.native "profile" "proxy") = .ok config ∧
    config.gateway = some (.v4 ⟨10, 0, 0, 254⟩) ∧
    ∃ routes, config.options = .ofRoutes routes ∧ routes.length = 4 ∧
      routes.filter (·.network = Cidr.everything)
        = [⟨Cidr.everything, .v4 ⟨10, 0, 0, 254⟩⟩] := by
  refine ⟨_, rfl, ?_⟩
  obtain ⟨gateway, ⟨block, routes, clears, options, shape, only⟩, -⟩ :=
    routing_of_serverConfig (n := ⟨"net", "web", "tenant"⟩) (p := Sample.manyHomed)
      (s := Sample.subnetWith [Sample.branchRoute, Sample.defaultRoute ⟨10, 0, 0, 254⟩,
        Sample.branchRoute, Sample.defaultRoute ⟨10, 0, 0, 253⟩])
      (show serverConfig _ _ _ (.native "profile" "proxy") = .ok _ from rfl)
  have proper : block ≠ Cidr.everything := by
    rintro rfl
    exact absurd clears.1 (by decide)
  refine ⟨gateway, routes, options, ?_, ?_⟩
  · rw [shape, gateway]
    rfl
  · rw [only proper, gateway]
    rfl

/-! ## Default routes -/

/-- Of these routes at most one matches every address. There is one if and only if the gateway is
known, and it goes by the gateway. -/
structure OneDefault (gateway : Option Address) (routes : List StaticRoute) : Prop where
  at_most_one : (routes.filter (·.network.length = 0)).length ≤ 1
  iff_known : (∃ r ∈ routes, r.network.length = 0) ↔ gateway.isSome = true
  by_gateway : ∀ r ∈ routes, r.network.length = 0 → gateway = some r.nextHop

/-- The routes that match every address, if the one to the subnet does not. -/
theorem Routing.filter_routes_ofSubnet (proper : 1 ≤ s.cidr.length) :
    (ofSubnet s).routes.filter (·.network.length = 0)
      = ((s.hostRoutes.filter fun h => h.destination ≠ Cidr.everything ∧
          h.destination.length = 0).map fun h => ⟨h.destination, h.nextHop⟩)
        ++ ((ofSubnet s).gateway.map fun gateway => ⟨Cidr.everything, gateway⟩).toList := by
  have to_subnet : ¬ s.cidr.network.length = 0 := by
    rw [Cidr.length_network]
    omega
  rw [routes_ofSubnet, List.cons_append, List.filter_cons_of_neg (by simpa using to_subnet),
    List.filter_append, List.filter_map, List.filter_filter]
  congr 1
  · congr 1
    refine List.filter_congr ?_
    intro h _
    simp [Bool.and_comm]
  · cases (ofSubnet s).gateway <;> rfl

/-- Where the routes that match every address are the one by the gateway and some besides, there is
one default route if and only if there are none besides. -/
theorem oneDefault_iff_eq_nil {gateway : Option Address} {routes besides : List StaticRoute}
    (matching : routes.filter (·.network.length = 0)
      = besides ++ (gateway.map fun hop => ⟨Cidr.everything, hop⟩).toList) :
    OneDefault gateway routes ↔ besides = [] := by
  have mem_matching : ∀ r, r ∈ routes ∧ r.network.length = 0 ↔
      r ∈ besides ∨ ∃ hop, gateway = some hop ∧ ⟨Cidr.everything, hop⟩ = r := by
    intro r
    have mem : r ∈ routes.filter (·.network.length = 0) ↔ r ∈ routes ∧ r.network.length = 0 := by
      simp
    rw [← mem, matching, List.mem_append, Option.mem_toList, Option.map_eq_some_iff]
  constructor
  · intro one
    by_contra some_besides
    obtain ⟨r, hr⟩ := List.exists_mem_of_ne_nil _ some_besides
    -- this route makes the gateway known, so there is a second one
    have known := one.iff_known.mp ⟨r, (mem_matching r).mpr (Or.inl hr)⟩
    obtain ⟨hop, rfl⟩ := Option.isSome_iff_exists.mp known
    have two := one.at_most_one
    rw [matching, List.length_append] at two
    have one_by_gateway : ((some hop).map fun hop =>
      (⟨Cidr.everything, hop⟩ : StaticRoute)).toList.length = 1 := rfl
    have longer := List.length_pos_of_mem hr
    omega
  · rintro rfl
    rw [List.nil_append] at matching
    refine ⟨?_, ?_, fun r hr matches_all => ?_⟩
    · rw [matching]
      cases gateway <;> simp
    · simp only [mem_matching]
      cases gateway <;> simp
    · obtain none_besides | ⟨hop, known, rfl⟩ := (mem_matching r).mp ⟨hr, matches_all⟩
      · cases none_besides
      · exact known

/-- A description carries one default route if and only if every host route that matches every
address is spelled `0.0.0.0/0`. -/
theorem oneDefault_iff (built : serverConfig n s p settings = .ok config)
    (proper : 1 ≤ s.cidr.length) :
    ∃ routes, config.options = .ofRoutes routes ∧ (OneDefault config.gateway routes ↔
      ∀ h ∈ s.hostRoutes, h.destination.length = 0 → h.destination = Cidr.everything) := by
  obtain ⟨-, gateway, options⟩ := serverConfig_ok built
  refine ⟨_, options, ?_⟩
  rw [gateway, oneDefault_iff_eq_nil (Routing.filter_routes_ofSubnet proper), List.map_eq_nil_iff,
    List.filter_eq_nil_iff]
  refine forall₂_congr fun h _ => ?_
  rw [decide_eq_true_iff, not_and', not_ne_iff]

/-- Default routes that are spelled so come to one. -/
theorem two_defaults_come_to_one : ∃ config routes,
    serverConfig ⟨"net", "web", "tenant"⟩
      (Sample.subnetWith [Sample.defaultRoute ⟨10, 0, 0, 254⟩, Sample.branchRoute,
        Sample.defaultRoute ⟨10, 0, 0, 253⟩])
      Sample.manyHomed (.native "profile" "proxy") = .ok config ∧
    config.options = .ofRoutes routes ∧ OneDefault config.gateway routes := by
  obtain ⟨routes, options, one⟩ := oneDefault_iff
    (n := ⟨"net", "web", "tenant"⟩) (p := Sample.manyHomed)
    (s := Sample.subnetWith [Sample.defaultRoute ⟨10, 0, 0, 254⟩, Sample.branchRoute,
      Sample.defaultRoute ⟨10, 0, 0, 253⟩])
    (show serverConfig _ _ _ (.native "profile" "proxy") = .ok _ from rfl) (by decide)
  exact ⟨_, routes, rfl, options, one.mpr (by decide)⟩

/-- A host route to `10.9.9.9/0` is handed out beside the default route by the gateway. -/
theorem misspelt_default_handed_out : ∃ config routes,
    serverConfig ⟨"net", "web", "tenant"⟩
      (Sample.subnetWith [Sample.defaultRoute ⟨10, 0, 0, 254⟩,
        ⟨.v4 ⟨⟨10, 9, 9, 9⟩, 0, by decide⟩, .v4 ⟨10, 0, 0, 66⟩⟩])
      Sample.manyHomed (.native "profile" "proxy") = .ok config ∧
    config.options = .ofRoutes routes ∧ ¬ OneDefault config.gateway routes := by
  refine ⟨_, _, rfl, rfl, ?_⟩
  intro one
  exact absurd one.at_most_one (by decide)

end Dhcp

end Overlay
