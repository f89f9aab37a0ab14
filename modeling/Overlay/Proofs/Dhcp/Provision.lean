import Overlay.Proofs.Dhcp.Descriptions
import Overlay.Proofs.Dhcp.Requests
import Overlay.Proofs.Dhcp.Runs
import Overlay.Proofs.Dialogue
import Overlay.Proofs.Table

/-!
# Servers that can be described

Three events describe servers, and each chooses the subnet in its own way: from the only IPv4 address
of the port, from its first one, or from what a pass remembers of its look-ups. In all of them the
network is looked up last, and only to describe a server for it. So a dialogue shows each description
twice: before it stands the network that was found, and behind it the call that makes the server; or
the event ends there, if the description was refused.

`Chosen` is what the choices have in common, and with it nothing but the profile can be wanting in a
description. `Provision` is the shape of a dialogue; `Provides` says that a handler keeps to it
whatever was said before, and is closed under all ways of building handlers.

Main statement: `server_described`. Subnets are whatever the catalog says they are, as long as it
finds none but the one that is asked for.
-/

namespace Overlay

/-- If a subnet is looked up, none but this one is found. -/
def Exchange.Truthful (x : Exchange) : Prop :=
  ∀ id s, x = ⟨.query (.subnet id), .ok (some s)⟩ → s.id = id

/-- What passes between a program that runs alone and its surroundings is truthful. -/
theorem Program.truthful_exchanges {α : Type} (p : Program α) (w : World) :
    ∀ x ∈ p.exchanges w, x.Truthful := by
  induction p generalizing w with
  | done a => simp [exchanges]
  | ask r k ih =>
      rw [exchanges, List.forall_mem_cons]
      refine ⟨?_, ih _ _⟩
      intro id s same
      obtain ⟨rfl, answer⟩ := Sigma.mk.inj same
      have found : (w.query (.subnet id)).1 = .ok (some s) := eq_of_heq answer
      rw [World.query] at found
      split at found
      · cases found
      · exact (Table.mem_of_find? (Except.ok.inj found)).2

/-- The request looks up no network and makes no server. -/
def Request.Apart : Request → Prop
  | .query (.network _) => False
  | .call (.createServer _) => False
  | _ => True

/-- A plain request neither looks up a network nor makes a server. -/
theorem Request.Plain.apart {r : Request} (plain : r.Plain) : r.Apart := by
  cases r with
  | query q => cases q <;> first | exact plain.elim | trivial
  | call c => cases c <;> first | exact plain.elim | trivial
  | _ => trivial

namespace Handler.Within

variable {α : Type} {h : Handler α}

/-- Upkeep neither looks up a network nor makes a server. -/
theorem apart (upkeep : h.Within Request.OfUpkeep) : h.Within Request.Apart :=
  upkeep.mono fun _ r => r.2.apart

end Handler.Within

namespace Dhcp

open Overlay.Handler

/-- The port is one that the event is about. A resync is about all ports that the catalog lists. -/
def Event.TellsOf (known : List Exchange) (p : Port) : Event → Prop
  | .portCreated created => p = created
  | .portUpdated _ new => p = new
  | .resync _ => ∃ ports, ⟨.query .ports, .ok ports⟩ ∈ known ∧ p ∈ ports
  | _ => False

/-- The port is one of the event's, and the subnet is the one of the port's first IPv4 address, is
served by DHCP, and was found when it was looked up. -/
structure Chosen (e : Event) (known : List Exchange) (p : Port) (s : Subnet) : Prop where
  concerns : e.TellsOf known p
  first : ∃ ip others, p.ipv4s = (s.id, ip) :: others
  serves : s.servesDhcp = true
  found : ⟨.query (.subnet s.id), .ok (some s)⟩ ∈ known

variable {e : Event} {known known' past xs ys : List Exchange} {n : Network} {p : Port} {s : Subnet}
  {settings : Settings} {wanting : Option Settings.Problem} {α β σ : Type}

/-- What an event tells of it tells of still when more is known. -/
theorem Event.TellsOf.mono (concerns : e.TellsOf known p) (more : known ⊆ known') :
    e.TellsOf known' p := by
  cases e with
  | resync profileId =>
      obtain ⟨ports, listed, mem⟩ := concerns
      exact ⟨ports, more listed, mem⟩
  | _ => exact concerns

namespace Chosen

/-- A choice stands when more is known. -/
theorem mono (chosen : Chosen e known p s) (more : known ⊆ known') : Chosen e known' p s :=
  ⟨chosen.concerns.mono more, chosen.first, chosen.serves, more chosen.found⟩

/-- On a subnet that was chosen for the port, nothing but the profile can be wanting. -/
theorem described (chosen : Chosen e known p s) (n : Network) (settings : Settings) :
    (∃ config, serverConfig n s p settings = .ok config) ∨
      ∃ problem, settings.dhcpProfile = .error problem ∧
        serverConfig n s p settings = .error (.settings problem) := by
  obtain ⟨ip, others, first⟩ := chosen.first
  have outcome := serverConfig_of_first settings n first rfl chosen.serves
  cases profile : settings.dhcpProfile with
  | ok id =>
      rw [profile] at outcome
      exact Or.inl outcome
  | error problem =>
      rw [profile] at outcome
      exact Or.inr ⟨problem, rfl, outcome⟩

/-- The server that is described has the port's first IPv4 address. -/
theorem serverIp {config : DhcpServerConfig} (chosen : Chosen e known p s)
    (built : serverConfig n s p settings = .ok config) :
    ∃ ip others fits, p.ipv4s = (s.id, ip) :: others ∧
      config.serverIp = .v4 ⟨ip, s.cidr.length, fits⟩ := by
  obtain ⟨ip, others, first⟩ := chosen.first
  obtain ⟨⟨found, fits, inside, address⟩, -⟩ := serverConfig_ok built
  rw [addressIn_of_first first] at inside
  cases inside
  exact ⟨ip, others, fits, first, address⟩

end Chosen

/-! ## The shape of a dialogue -/

/-- Right behind every network that was found stands the call that makes the server described for
it, and no server is made elsewhere. A description that is refused is the last of its kind; then the
profile is wanting, and this is what the index tells. -/
inductive Provision (e : Event) (known : List Exchange) (settings : Settings) :
    List Exchange → Option Settings.Problem → Prop where
  | nil : Provision e known settings [] none
  | apart {x : Exchange} {xs : List Exchange} {wanting : Option Settings.Problem}
    (apart : x.1.Apart) (rest : Provision e known settings xs wanting) :
    Provision e known settings (x :: xs) wanting
  | unknown {networkId : String} {answer : Except Catalog.Error (Option Network)}
    {xs : List Exchange} {wanting : Option Settings.Problem} (unknown : ∀ n, answer ≠ .ok (some n))
    (rest : Provision e known settings xs wanting) :
    Provision e known settings (⟨.query (.network networkId), answer⟩ :: xs) wanting
  | made {n : Network} {p : Port} {s : Subnet} {config : DhcpServerConfig}
    {answer : Except Controller.Error String} {xs : List Exchange}
    {wanting : Option Settings.Problem} (chosen : Chosen e known p s)
    (described : serverConfig n s p settings = .ok config)
    (rest : Provision e known settings xs wanting) :
    Provision e known settings (⟨.query (.network p.networkId), .ok (some n)⟩ ::
      ⟨.call (.createServer config), answer⟩ :: xs) wanting
  | refused {n : Network} {p : Port} {s : Subnet} {problem : Settings.Problem}
    {xs : List Exchange} (chosen : Chosen e known p s)
    (wanting : settings.dhcpProfile = .error problem)
    (refused : serverConfig n s p settings = .error (.settings problem))
    (rest : ∀ x ∈ xs, x.1.Apart) :
    Provision e known settings (⟨.query (.network p.networkId), .ok (some n)⟩ :: xs) (some problem)

namespace Provision

/-- The shape of a dialogue stands when more is known before it. -/
theorem mono (provision : Provision e known settings xs wanting) (more : known ⊆ known') :
    Provision e known' settings xs wanting := by
  induction provision with
  | nil => exact .nil
  | apart apart _ ih => exact .apart apart ih
  | unknown unknown _ ih => exact .unknown unknown ih
  | made chosen described _ ih => exact .made (chosen.mono more) described ih
  | refused chosen wanting refused rest => exact .refused (chosen.mono more) wanting refused rest

/-- Requests that are apart fit the shape, and nothing is wanting. -/
theorem of_apart (apart : ∀ x ∈ xs, x.1.Apart) : Provision e known settings xs none := by
  induction xs with
  | nil => exact .nil
  | cons x xs ih =>
      rw [List.forall_mem_cons] at apart
      exact .apart apart.1 (ih apart.2)

/-- What is refused is refused by the settings. -/
theorem undefined (provision : Provision e known settings xs wanting) {problem : Settings.Problem}
    (refused : wanting = some problem) : settings.dhcpProfile = .error problem := by
  induction provision with
  | nil => cases refused
  | apart _ _ ih => exact ih refused
  | unknown _ _ ih => exact ih refused
  | made _ _ _ ih => exact ih refused
  | refused _ wanting _ _ =>
      cases refused
      exact wanting

/-- Where nothing is wanting, another part of the dialogue may follow. -/
theorem append {first : Option Settings.Problem} (provision : Provision e known settings xs first)
    (goes_on : first = none) (rest : Provision e known settings ys wanting) :
    Provision e known settings (xs ++ ys) wanting := by
  induction provision with
  | nil => exact rest
  | apart apart _ ih => exact .apart apart (ih goes_on)
  | unknown unknown _ ih => exact .unknown unknown (ih goes_on)
  | made chosen described _ ih => exact .made chosen described (ih goes_on)
  | refused => cases goes_on

/-- Requests that are apart may follow in any case. -/
theorem append_apart (provision : Provision e known settings xs wanting)
    (rest : ∀ x ∈ ys, x.1.Apart) : Provision e known settings (xs ++ ys) wanting := by
  induction provision with
  | nil => exact of_apart rest
  | apart apart _ ih => exact .apart apart ih
  | unknown unknown _ ih => exact .unknown unknown ih
  | made chosen described _ ih => exact .made chosen described ih
  | refused chosen wanting refused rest' =>
      refine .refused chosen wanting refused ?_
      exact List.forall_mem_append.mpr ⟨rest', rest⟩

end Provision

/-! ## Handlers -/

/-- After what was said before, the handler holds dialogues of this shape only. Where a description
is refused, it ends with this, and if it goes on then with what `post` says of its result. -/
def Provides (e : Event) (settings : Settings) (past : List Exchange) (h : Handler α)
    (post : List Exchange → α → Prop) : Prop :=
  ∀ xs result, h.Dialogue xs result → (∀ x ∈ xs, x.Truthful) →
    (∃ wanting, Provision e (past ++ xs) settings xs wanting ∧
      ∀ problem, wanting = some problem → result = .error (.settings problem)) ∧
    ∀ a, result = .ok a → post (past ++ xs) a

namespace Provides

variable {post : List Exchange → α → Prop}

/-- A handler all of whose requests are apart keeps to the shape. -/
theorem of_within {h : Handler α} (within : h.Within Request.Apart) :
    Provides e settings past h fun _ _ => True := by
  intro xs result talk _
  refine ⟨⟨none, .of_apart (talk.within within), ?_⟩, fun _ _ => trivial⟩
  rintro _ ⟨⟩

/-- To answer keeps to the shape. -/
theorem pure {a : α} (here : post past a) : Provides e settings past (Pure.pure a) post := by
  intro xs result talk _
  obtain ⟨rfl, rfl⟩ := talk.of_pure
  refine ⟨⟨none, .nil, by rintro _ ⟨⟩⟩, ?_⟩
  rintro _ ⟨⟩
  rw [List.append_nil]
  exact here

/-- To fail keeps to the shape. -/
theorem throw (error : Error) : Provides e settings past (MonadExcept.throw error) post := by
  intro xs result talk _
  obtain ⟨rfl, rfl⟩ := talk.of_throw
  refine ⟨⟨none, .nil, by rintro _ ⟨⟩⟩, ?_⟩
  rintro _ ⟨⟩

/-- Two handlers in turn keep to the shape; the second knows what has passed in the first. -/
theorem bind {mid : List Exchange → α → Prop} {post : List Exchange → β → Prop} {h : Handler α}
    {f : α → Handler β} (first : Provides e settings past h mid)
    (rest : ∀ past' a, past ⊆ past' → mid past' a → Provides e settings past' (f a) post) :
    Provides e settings past (h >>= f) post := by
  intro xs result talk truthful
  rcases talk.of_bind with ⟨error, stopped, rfl⟩ | ⟨a, ys, zs, before, behind, rfl⟩
  · obtain ⟨⟨wanting, provision, ends⟩, -⟩ := first xs _ stopped truthful
    refine ⟨⟨wanting, provision, ?_⟩, by rintro _ ⟨⟩⟩
    intro problem refused
    cases ends problem refused
    rfl
  · obtain ⟨truthful_ys, truthful_zs⟩ := List.forall_mem_append.mp truthful
    obtain ⟨⟨none', provision, ends⟩, middle⟩ := first ys _ before truthful_ys
    have goes_on : none' = none := by
      cases none' with
      | none => rfl
      | some problem => cases ends problem rfl
    obtain ⟨⟨wanting, provision', ends'⟩, after⟩ :=
      rest (past ++ ys) a (List.subset_append_left _ _) (middle a rfl) zs result behind truthful_zs
    rw [List.append_assoc] at provision' after
    refine ⟨⟨wanting, (provision.mono ?_).append goes_on provision', ends'⟩, after⟩
    rw [← List.append_assoc]
    exact List.subset_append_left _ _

/-- A handler that was proved to be quiet may stand in front of any other. -/
theorem andThen {post : List Exchange → β → Prop} {h : Handler α} {f : α → Handler β}
    (quiet : h.Within Request.Apart) (rest : ∀ past' a, past ⊆ past' →
      Provides e settings past' (f a) post) : Provides e settings past (h >>= f) post :=
  (of_within quiet).bind fun past' a more _ => rest past' a more

/-- What is said of the result may be weakened. -/
theorem weaken {post' : List Exchange → α → Prop} {h : Handler α}
    (provides : Provides e settings past h post) (weaker : ∀ past' a, post past' a → post' past' a) :
    Provides e settings past h post' := by
  intro xs result talk truthful
  obtain ⟨shape, after⟩ := provides xs result talk truthful
  exact ⟨shape, fun a ok => weaker _ a (after a ok)⟩

/-- A choice keeps to the shape if both its branches do. -/
theorem ite {c : Prop} [Decidable c] {h h' : Handler α}
    (yes : c → Provides e settings past h post) (no : ¬ c → Provides e settings past h' post) :
    Provides e settings past (if c then h else h') post := by
  split
  · next holds => exact yes holds
  · next fails => exact no fails

/-- What the catalog says, and that it says it. -/
theorem query {q : Catalog.Query} (apart : Request.Apart (.query q)) :
    Provides e settings past (Handler.query q) fun past' a =>
      ⟨.query q, .ok a⟩ ∈ past' ∧ Exchange.Truthful ⟨.query q, .ok a⟩ := by
  intro xs result talk truthful
  refine ⟨(of_within (.query apart) xs result talk truthful).1, ?_⟩
  rintro a rfl
  obtain ⟨answer, rfl, got⟩ := talk.of_query
  cases answer with
  | error error => cases got
  | ok answer =>
      cases got
      exact ⟨List.mem_append_right _ List.mem_cons_self, truthful _ List.mem_cons_self⟩

/-- Under a lock a handler keeps to the shape, if what is said of its result stands when more is
known. -/
theorem locked {key : LockKey} {body : Handler α} (inside : Provides e settings past body post)
    (later : ∀ {known known' a}, known ⊆ known' → post known a → post known' a) :
    Provides e settings past (Handler.locked key body) post := by
  intro xs result talk truthful
  obtain ⟨ys, body, rfl⟩ := talk.of_locked
  have truthful_ys : ∀ y ∈ ys, y.Truthful := by
    intro y mem
    exact truthful y (List.mem_cons_of_mem _ (List.mem_append_left _ mem))
  have more : past ++ ys ⊆ past ++ ⟨.acquire key, ()⟩ :: (ys ++ [⟨.release key, ()⟩]) := by
    intro y mem
    rcases List.mem_append.mp mem with before | inside
    · exact List.mem_append_left _ before
    · exact List.mem_append_right _ (List.mem_cons_of_mem _ (List.mem_append_left _ inside))
  obtain ⟨⟨wanting, provision, ends⟩, after⟩ := inside ys result body truthful_ys
  refine ⟨⟨wanting, .apart trivial ((provision.mono more).append_apart ?_), ends⟩, ?_⟩
  · intro y mem
    rw [List.mem_singleton.mp mem]
    trivial
  · intro a ok
    exact later more (after a ok)

/-- If the profile is defined, no description is refused, so it does not matter where errors go. -/
theorem attempt {id : String} (defined : settings.dhcpProfile = .ok id) {body : Handler α}
    (inside : Provides e settings past body post) :
    Provides e settings past (Handler.attempt body) fun _ _ => True := by
  intro xs result talk truthful
  obtain ⟨inner, body, rfl⟩ := talk.of_attempt
  obtain ⟨⟨wanting, provision, -⟩, -⟩ := inside xs inner body truthful
  refine ⟨⟨wanting, provision, ?_⟩, fun _ _ => trivial⟩
  intro problem refused
  have undefined := provision.undefined refused
  rw [defined] at undefined
  cases undefined

/-- One handler after the other, each of which keeps the invariant. -/
theorem foldlM {inv : List Exchange → σ → Prop} {step : σ → β → Handler σ} {bs : List β}
    (each : ∀ past' s, past ⊆ past' → inv past' s → ∀ b ∈ bs,
      Provides e settings past' (step s b) inv)
    {s : σ} (start : inv past s) : Provides e settings past (bs.foldlM step s) inv := by
  induction bs generalizing past s with
  | nil => exact .pure start
  | cons b bs ih =>
      rw [List.foldlM_cons]
      refine (each past s (List.Subset.refl _) start b List.mem_cons_self).bind ?_
      intro past' s' more here
      refine ih ?_ here
      intro past'' s'' more' here' b mem
      exact each past'' s'' (List.Subset.trans more more') here' b (List.mem_cons_of_mem _ mem)

end Provides

/-! ## Making a server -/

/-- What is done about a new server: it is remembered, reported and attached. -/
def enroll (n : Network) (p : Port) (serverId : String) : Handler Store.Service := do
  let time ← Handler.now
  let service : Store.Service := ⟨n.id, p.id, serverId, time⟩
  Handler.execute (.putService service)
  Handler.report (.serverCreated n.id serverId)
  match ← Handler.execute (.getPort p.id) with
  | some mapping => Handler.call (.setAttachment mapping.switchPortId serverId .dhcp)
  | none => pure ()
  return service

/-- Recording a server that was made neither looks up a network nor makes another server. -/
theorem within_enroll (n : Network) (p : Port) (serverId : String) :
    (enroll n p serverId).Within Request.Apart := by
  refine .bind (.now trivial) fun time => .bind (.execute trivial) fun _ => ?_
  refine .bind (.report trivial) fun _ => .bind (.execute trivial) fun mapping => ?_
  cases mapping with
  | none => exact .pure _
  | some m => exact .bind (.call trivial) fun _ => .pure _

/-- Where a server is described, making it begins with the call that makes it. -/
theorem createService_of_described {config : DhcpServerConfig}
    (described : serverConfig n s p settings = .ok config) :
    createService settings n s p = Handler.call (.createServer config) >>= enroll n p := by
  rw [createService, described]
  dsimp only
  rw [pure_bind]
  rfl

/-- Where the profile is wanting, making a server comes to this error alone. -/
theorem createService_of_refused {problem : Settings.Problem}
    (refused : serverConfig n s p settings = .error (.settings problem)) :
    createService settings n s p = throw (.settings problem) := by
  rw [createService, refused]
  rfl

/-- A network is looked up for a port and the subnet chosen for it, and its server is made. -/
theorem provides_service (chosen : Chosen e past p s) {f : Store.Service → Handler β}
    (rest : ∀ x, (f x).Within Request.Apart) :
    Provides e settings past (do
      match ← Handler.query (.network p.networkId) with
      | none => throw (.notFound (.network p.networkId))
      | some n => createService settings n s p >>= f) fun _ _ => True := by
  intro xs result talk _
  refine ⟨?_, fun _ _ => trivial⟩
  rcases talk.of_bind with ⟨error, stopped, rfl⟩ | ⟨found, ys, zs, asked, behind, rfl⟩
  · obtain ⟨answer, rfl, lost⟩ := stopped.of_query
    refine ⟨none, .unknown ?_ .nil, by rintro _ ⟨⟩⟩
    rintro n rfl
    cases lost
  obtain ⟨answer, rfl, got⟩ := asked.of_query
  cases answer with
  | error error => cases got
  | ok answer =>
      cases got
      cases found with
      | none =>
          obtain ⟨rfl, rfl⟩ := behind.of_throw
          refine ⟨none, .unknown ?_ .nil, by rintro _ ⟨⟩⟩
          rintro n ⟨⟩
      | some n =>
          have chosen := chosen.mono (List.subset_append_left past
            ([⟨.query (.network p.networkId), .ok (some n)⟩] ++ zs))
          dsimp only at behind
          -- the description succeeds, and then its call comes next, or the profile is wanting
          rcases chosen.described n settings with ⟨config, described⟩ | ⟨problem, wanting, refused⟩
          · rw [createService_of_described described, bind_assoc] at behind
            rcases behind.of_bind with ⟨error, stopped, rfl⟩ | ⟨serverId, ys, zs, called, later, rfl⟩
            · obtain ⟨answer, rfl, -⟩ := stopped.of_call
              exact ⟨none, .made chosen described .nil, by rintro _ ⟨⟩⟩
            · obtain ⟨answer, rfl, -⟩ := called.of_call
              -- all that follows the call is apart from servers
              have quiet : (enroll n p serverId >>= f).Within Request.Apart :=
                .bind (within_enroll n p serverId) rest
              exact ⟨none, .made chosen described (.of_apart (later.within quiet)), by rintro _ ⟨⟩⟩
          · rw [createService_of_refused refused] at behind
            obtain ⟨rfl, rfl⟩ : zs = [] ∧ result = .error (.settings problem) := by
              cases behind
              exact ⟨rfl, rfl⟩
            refine ⟨some problem, .refused chosen wanting refused (by simp), ?_⟩
            rintro _ ⟨⟩
            rfl

/-- The subnet that was found when this one was looked up. -/
def Found (id : String) (known : List Exchange) (found : Option Subnet) : Prop :=
  ∀ s, found = some s → s.id = id ∧ ⟨.query (.subnet s.id), .ok (some s)⟩ ∈ known

/-- A subnet that is looked up is found under the id asked for. -/
theorem provides_subnet (id : String) :
    Provides e settings past (Handler.query (.subnet id)) (Found id) := by
  refine (Provides.query (q := .subnet id) trivial).weaken ?_
  rintro known found ⟨asked, truthful⟩ s rfl
  have same : s.id = id := truthful id s rfl
  rw [same]
  exact ⟨rfl, asked⟩

/-- A port that comes or becomes a DHCP port: its only IPv4 address is its first one. -/
theorem provides_createServiceFor (concerns : e.TellsOf past p) :
    Provides e settings past (createServiceFor settings p) fun _ _ => True := by
  refine .andThen (.execute trivial) fun past₁ service more₁ => ?_
  cases service with
  | some x => exact .pure trivial
  | none =>
      have concerns := concerns.mono more₁
      rw [portAddress]
      cases ipv4s : p.ipv4s with
      | nil => exact .pure trivial
      | cons f others =>
          cases others with
          | cons _ _ => exact .throw _
          | nil =>
              refine (provides_subnet f.1).bind ?_
              intro past₂ subnet more₂ found
              cases subnet with
              | none => exact .throw _
              | some s =>
                  obtain ⟨same, asked⟩ := found s rfl
                  refine .ite (fun serves => ?_) fun _ => .pure trivial
                  refine provides_service ⟨concerns.mono more₂, ⟨f.2, [], ?_⟩, serves, asked⟩
                    fun _ => .pure ()
                  rw [ipv4s, same]

/-- Where a port is about to have its network's server made, it may turn out to be there. -/
theorem provides_ensureService (chosen : Chosen e past p s) :
    Provides e settings past (ensureService settings s p) fun _ _ => True := by
  refine .locked (.andThen (.execute trivial) fun past₁ service more₁ => ?_) fun _ _ => trivial
  cases service with
  | some x => exact .pure trivial
  | none => exact provides_service (chosen.mono more₁) fun x => .pure (x, true)

/-! ## A pass -/

/-- A pass remembers subnets as they were found. -/
def Remembers (known : List Exchange) (pass : Pass) : Prop :=
  ∀ k ∈ pass.subnets, Found k.id known k.subnet

/-- What was found stays found when more has been looked up. -/
theorem Found.mono {id : String} {found : Option Subnet} (here : Found id known found)
    (more : known ⊆ known') : Found id known' found :=
  fun s same => ⟨(here s same).1, more (here s same).2⟩

/-- What the pass remembers stays true when more has been looked up. -/
theorem Remembers.mono {pass : Pass} (remembers : Remembers known pass) (more : known ⊆ known') :
    Remembers known' pass :=
  fun k mem => (remembers k mem).mono more

/-- A subnet that is remembered is as good as one that is looked up. -/
theorem provides_passSubnet {pass : Pass} (remembers : Remembers past pass) (id : String) :
    Provides e settings past (pass.subnet id) fun known found =>
      Found id known found.1 ∧ Remembers known found.2 := by
  rw [Pass.subnet]
  split
  · next k cached =>
    obtain ⟨mem, same⟩ := Table.mem_of_find? cached
    exact .pure ⟨same ▸ remembers k mem, remembers⟩
  · refine (provides_subnet id).bind ?_
    intro past₁ subnet more₁ found
    refine .pure ⟨found, ?_⟩
    intro k mem
    rcases List.mem_append.mp mem with before | new
    · exact (remembers k before).mono more₁
    · rw [List.mem_singleton.mp new]
      exact found

/-- A switch is looked up only behind a subnet that is served. -/
theorem provides_switchFor (subnet : Option Subnet) (networkId : String) :
    Provides e settings past (switchFor subnet networkId) fun _ found =>
      found.isSome = true → ∃ s, subnet = some s ∧ s.servesDhcp = true := by
  cases subnet with
  | none => exact .pure (by rintro ⟨⟩)
  | some s =>
      refine .ite (fun serves => ?_) fun _ => .pure (by rintro ⟨⟩)
      refine (Provides.of_within (.execute trivial)).weaken ?_
      exact fun _ _ _ _ => ⟨s, rfl, serves⟩

/-- For a DHCP port, a pass finds or makes the server and remembers the subnets it looks up. -/
theorem provides_passDhcpPort {profileId : String} (defined : settings.dhcpProfile = .ok profileId)
    (concerns : e.TellsOf past p) {pass : Pass} (remembers : Remembers past pass) :
    Provides e settings past (passDhcpPort settings p pass) Remembers := by
  rw [passDhcpPort]
  split
  · exact .pure remembers
  · next subnetId ip others ipv4s =>
    refine (provides_passSubnet remembers subnetId).bind ?_
    rintro past₁ ⟨subnet, pass⟩ more₁ ⟨found, remembers⟩
    refine (provides_switchFor subnet p.networkId).bind ?_
    intro past₂ switchId more₂ served
    cases switchId with
    | none => cases subnet <;> exact .pure (remembers.mono more₂)
    | some switchId =>
        obtain ⟨s, rfl, serves⟩ := served rfl
        obtain ⟨same, asked⟩ := found s rfl
        have chosen : Chosen e past₂ p s := by
          refine ⟨concerns.mono (List.Subset.trans more₁ more₂), ⟨ip, others, ?_⟩, serves, more₂ asked⟩
          rw [ipv4s, same]
        refine (Provides.attempt defined (provides_ensureService chosen)).bind ?_
        intro past₃ result more₃ _
        have remembers := remembers.mono (List.Subset.trans more₂ more₃)
        cases result with
        | ok made => exact .pure remembers
        | error _ => exact .pure remembers

/-- For an instance port, a pass makes no server and remembers the subnets it looks up. -/
theorem provides_passComputePort {pass : Pass} (remembers : Remembers past pass) :
    Provides e settings past (passComputePort p pass) Remembers := by
  refine .foldlM ?_ remembers
  rintro past₁ pass more₁ remembers ⟨subnetId, ip⟩ _
  refine (provides_passSubnet remembers subnetId).bind ?_
  rintro past₂ ⟨subnet, pass⟩ more₂ ⟨-, remembers⟩
  refine (provides_switchFor subnet p.networkId).bind ?_
  intro past₃ switchId more₃ _
  cases switchId with
  | none => exact .pure (remembers.mono more₃)
  | some switchId => exact .pure (remembers.mono more₃)

/-- One port of a pass, with the pass remembering what was found. -/
theorem provides_passPort {profileId : String} (defined : settings.dhcpProfile = .ok profileId)
    (concerns : e.TellsOf past p) {pass : Pass} (remembers : Remembers past pass) :
    Provides e settings past (passPort settings pass p) Remembers := by
  rw [passPort]
  cases p.role with
  | dhcp => exact provides_passDhcpPort defined concerns remembers
  | compute => exact provides_passComputePort remembers
  | other => exact .pure remembers

/-- Binding the addresses behind a switch neither looks up a network nor makes a server. -/
theorem within_bindGroup (servers : List SwitchServer) (report : ResyncReport) (group : SwitchGroup) :
    (bindGroup settings servers report group).Within Request.Apart := by
  rw [bindGroup]
  split
  · exact .pure _
  · next server _ =>
    refine .locked trivial trivial (.foldlM ?_ _ _)
    rintro report ⟨portId, d⟩
    have quiet := (within_bindAddress settings portId d server.service).upkeep.apart
    exact .bind (.attempt quiet) fun _ => .pure _

/-- Whoever may resync has a profile. -/
theorem dhcpProfile_of_validateResync (valid : settings.validateResync = .ok ()) :
    ∃ profileId, settings.dhcpProfile = .ok profileId := by
  cases profile : settings.dhcpProfile with
  | ok profileId => exact ⟨profileId, rfl⟩
  | error problem =>
      rw [Settings.validateResync, profile] at valid
      cases on : settings.nativeDhcp <;> cases notified : settings.agentNotification <;>
        rw [on, notified] at valid <;> cases valid

/-! ## Events -/

/-- The settings by which servers are described: a resync may have a profile of its own. -/
def Event.serverSettings (settings : Settings) : Event → Settings
  | .resync profileId => settings.withDhcpProfile profileId
  | _ => settings

/-- Upkeep under a lock neither looks up a network nor makes a server. -/
theorem within_apart_locked {key : LockKey} {body : Handler α}
    (upkeep : body.Within Request.OfUpkeep) : (Handler.locked key body).Within Request.Apart :=
  .locked trivial trivial upkeep.apart

/-- A change of a port keeps to the shape, whether it makes a server, moves one or takes one down. -/
theorem provides_portUpdated {old new : Port} (concerns : e.TellsOf past new) :
    Provides e settings past (portUpdated settings old new) fun _ _ => True := by
  refine .ite (fun _ => .pure trivial) fun _ => ?_
  refine .locked (.locked ?_ fun _ _ => trivial) fun _ _ => trivial
  have followed : ∀ {past'}, past ⊆ past' → Provides e settings past' (do
      let current ← Handler.execute (.bindingsOf new.id)
      converge settings new current
      if new.role = .dhcp then
        if old.role = .dhcp then moveServer old new else createServiceFor settings new)
      fun _ _ => True := by
    intro past' more
    refine .andThen (.execute trivial) fun past₁ current more₁ => ?_
    refine .andThen (within_converge settings new current).upkeep.apart fun past₂ _ more₂ => ?_
    refine .ite (fun _ => ?_) fun _ => .pure trivial
    refine .ite (fun _ => .of_within (within_moveServer old new).upkeep.apart) fun _ => ?_
    have later := List.Subset.trans more (List.Subset.trans more₁ more₂)
    exact provides_createServiceFor (concerns.mono later)
  refine .andThen (.query trivial) fun past₁ found more₁ => ?_
  cases found with
  | none => exact .pure trivial
  | some _ =>
      refine .ite (fun _ => ?_) fun _ => followed more₁
      have gone := (within_teardown old.networkId (some old.id)).upkeep_of_removal.apart
      exact .andThen gone fun past₂ _ more₂ => followed (List.Subset.trans more₁ more₂)

/-- A resync keeps to the shape, by the settings with its own profile. -/
theorem provides_resync {profileId : Option String} :
    Provides (.resync profileId) (settings.withDhcpProfile profileId) past
      (resync settings profileId) fun _ _ => True := by
  rw [resync]
  cases valid : (settings.withDhcpProfile profileId).validateResync with
  | error problem => exact .throw _
  | ok _ =>
      obtain ⟨defaultId, defined⟩ := dhcpProfile_of_validateResync valid
      refine .andThen (.setting _) fun past₁ _ more₁ => ?_
      refine .bind (.query (q := .ports) trivial) fun past₂ ports more₂ listed => ?_
      have passed : Provides (.resync profileId) (settings.withDhcpProfile profileId) past₂
          (ports.foldlM (passPort (settings.withDhcpProfile profileId)) Pass.start) Remembers := by
        refine .foldlM ?_ (by rintro k ⟨⟩)
        intro past' pass more remembers p mem
        have concerns : (Event.resync profileId).TellsOf past' p := ⟨ports, more listed.1, mem⟩
        exact provides_passPort defined concerns remembers
      refine passed.bind fun past₃ pass more₃ _ => ?_
      refine .andThen (.foldlM (within_bindGroup pass.servers) _ _) fun past₄ report more₄ => ?_
      exact .andThen (.report trivial) fun _ _ _ => .pure trivial

/-- A new network is not looked up and gets no server yet. -/
theorem within_networkCreated (settings : Settings) (n : Network) :
    (networkCreated settings n).Within Request.Apart := by
  refine .ite (fun _ => .pure none) fun _ => ?_
  refine .bind (.setting _) fun proxyId => .locked trivial trivial ?_
  refine .bind (.execute trivial) fun switchId => ?_
  cases switchId with
  | none => exact .throw _
  | some switchId =>
      exact .bind (.call trivial) fun port => .bind (.report trivial) fun _ => .pure _

/-- Every event keeps to the shape. -/
theorem provides_event (settings : Settings) (e : Event) :
    Provides e (e.serverSettings settings) past (e.handler settings) fun _ _ => True := by
  have torn : ∀ networkId, (Handler.locked (.network networkId) (teardown networkId none)).Within
      Request.Apart := fun networkId =>
    within_apart_locked (within_teardown networkId none).upkeep_of_removal
  cases e with
  | networkCreated n => exact (Provides.of_within (within_networkCreated settings n))
  | networkDeleted networkId => exact .of_within (torn networkId)
  | subnetCreated s =>
      have checked := (within_ensureOnlyDhcpSubnet settings s).upkeep
      exact .of_within (.ite (fun _ => within_apart_locked checked) fun _ => .pure ())
  | subnetUpdated old new =>
      refine .of_within (within_apart_locked ?_)
      split
      · exact (within_ensureOnlyDhcpSubnet settings new).upkeep
      · exact (within_teardown new.networkId none).upkeep_of_removal
      · exact .pure ()
  | subnetDeleted s => exact .of_within (.ite (fun _ => torn s.networkId) fun _ => .pure ())
  | portCreated p =>
      refine .ite (fun _ => ?_) fun _ => .pure trivial
      refine .locked (.locked ?_ fun _ _ => trivial) fun _ _ => trivial
      cases p.role with
      | dhcp => exact provides_createServiceFor rfl
      | compute => exact .of_within (within_converge settings p []).upkeep.apart
      | other => exact .pure trivial
  | portUpdated old new => exact provides_portUpdated rfl
  | portDeleted p =>
      have gone := (within_going p).upkeep_of_removal
      exact .of_within (.locked trivial trivial (within_apart_locked gone))
  | resync profileId => exact provides_resync

/-! ## Descriptions in a dialogue -/

namespace Provision

/-- What stands behind a network that was found. -/
theorem behind_network (provision : Provision e known settings xs wanting) {before : List Exchange}
    {networkId : String} {after : List Exchange}
    (split : xs = before ++ ⟨.query (.network networkId), .ok (some n)⟩ :: after) :
    ∃ p s, p.networkId = networkId ∧ Chosen e known p s ∧
      ((∃ config answer later, serverConfig n s p settings = .ok config ∧
          after = ⟨.call (.createServer config), answer⟩ :: later) ∨
        ∃ problem, serverConfig n s p settings = .error (.settings problem) ∧
          wanting = some problem ∧ ∀ x ∈ after, x.1.Apart) := by
  induction provision generalizing before with
  | nil => cases before <;> cases split
  | apart apart _ ih =>
      cases before with
      | nil => cases split; exact apart.elim
      | cons x before => cases split; exact ih rfl
  | unknown unknown _ ih =>
      cases before with
      | nil => cases split; exact absurd rfl (unknown n)
      | cons x before => cases split; exact ih rfl
  | @made n p s config answer xs wanting chosen described _ ih =>
      match before with
      | [] =>
          cases split
          exact ⟨p, s, rfl, chosen, Or.inl ⟨config, answer, xs, described, rfl⟩⟩
      | [x] => cases split
      | x :: y :: before => cases split; exact ih rfl
  | @refused n p s problem xs chosen wanting refused rest =>
      cases before with
      | nil =>
          cases split
          exact ⟨p, s, rfl, chosen, Or.inr ⟨problem, refused, rfl, rest⟩⟩
      | cons x before =>
          cases split
          exact (rest _ (List.mem_append_right _ List.mem_cons_self)).elim

/-- What stands before a server that is made. -/
theorem before_server (provision : Provision e known settings xs wanting) {before : List Exchange}
    {config : DhcpServerConfig} {answer : Except Controller.Error String} {after : List Exchange}
    (split : xs = before ++ ⟨.call (.createServer config), answer⟩ :: after) :
    ∃ early networkId n, before = early ++ [⟨.query (.network networkId), .ok (some n)⟩] := by
  induction provision generalizing before with
  | nil => cases before <;> cases split
  | apart apart _ ih =>
      cases before with
      | nil => cases split; exact apart.elim
      | cons x before =>
          cases split
          obtain ⟨early, networkId, n, rfl⟩ := ih rfl
          exact ⟨_ :: early, networkId, n, rfl⟩
  | unknown unknown _ ih =>
      cases before with
      | nil => cases split
      | cons x before =>
          cases split
          obtain ⟨early, networkId, n, rfl⟩ := ih rfl
          exact ⟨_ :: early, networkId, n, rfl⟩
  | @made n p s config answer xs wanting chosen described _ ih =>
      match before with
      | [] => cases split
      | [x] => cases split; exact ⟨[], p.networkId, n, rfl⟩
      | x :: y :: before =>
          cases split
          obtain ⟨early, networkId, n, rfl⟩ := ih rfl
          exact ⟨_ :: _ :: early, networkId, n, rfl⟩
  | refused chosen wanting refused rest =>
      cases before with
      | nil => cases split
      | cons x before =>
          cases split
          exact (rest _ (List.mem_append_right _ List.mem_cons_self)).elim

end Provision

/-- In every dialogue of an event whose subnets are truthful, a server is described only for a network
that was just found, for a port of the event and the subnet of its first IPv4 address, which is
served and was looked up. The description is never refused for want of an address or because of the
subnet's block: if the profile is defined it is made, the server made next is the one described, and
it has the port's first IPv4 address with the subnet's block length; else the event makes no server
any more and ends with what is wrong with the profile. No server is made but such ones. -/
theorem server_described {result : Except Error e.Answer}
    (talk : (e.handler settings).Dialogue xs result) (truthful : ∀ x ∈ xs, x.Truthful) :
    (∀ before networkId n after,
      xs = before ++ ⟨.query (.network networkId), .ok (some n)⟩ :: after →
      ∃ p s ip others, e.TellsOf xs p ∧ p.networkId = networkId ∧
        p.ipv4s = (s.id, ip) :: others ∧ s.servesDhcp = true ∧
        ⟨.query (.subnet s.id), .ok (some s)⟩ ∈ xs ∧
        ((∃ config answer later fits, serverConfig n s p (e.serverSettings settings) = .ok config ∧
            after = ⟨.call (.createServer config), answer⟩ :: later ∧
            config.serverIp = .v4 ⟨ip, s.cidr.length, fits⟩) ∨
          ∃ problem, serverConfig n s p (e.serverSettings settings) = .error (.settings problem) ∧
            result = .error (.settings problem) ∧
            ∀ config answer, ⟨.call (.createServer config), answer⟩ ∉ after)) ∧
    ∀ before config answer after, xs = before ++ ⟨.call (.createServer config), answer⟩ :: after →
      ∃ early networkId n, before = early ++ [⟨.query (.network networkId), .ok (some n)⟩] := by
  obtain ⟨⟨wanting, provision, ends⟩, -⟩ := @provides_event [] settings e xs result talk truthful
  constructor
  · intro before networkId n after split
    obtain ⟨p, s, same, chosen, outcome⟩ := provision.behind_network split
    obtain ⟨ip, others, first⟩ := chosen.first
    refine ⟨p, s, ip, others, chosen.concerns, same, first, chosen.serves, chosen.found, ?_⟩
    rcases outcome with ⟨config, answer, later, described, rfl⟩ | ⟨problem, refused, last, rest⟩
    · obtain ⟨ip', others', fits, first', address⟩ := chosen.serverIp described
      rw [first] at first'
      cases first'
      exact Or.inl ⟨config, answer, later, fits, described, rfl, address⟩
    · refine Or.inr ⟨problem, refused, ends problem last, ?_⟩
      intro config answer mem
      exact rest _ mem
  · intro before config answer after split
    exact provision.before_server split

namespace Sample

/-- A DHCP port with an IPv6 address in front of two IPv4 addresses. -/
def resyncedPort : Port :=
  ⟨"dhcp-port", "net", "", "fa:16:3e:00:00:02", "network:dhcp",
    [⟨"subnet", .v6 ⟨[0x2001, 0xDB8, 0, 0, 0, 0, 0, 9], rfl⟩⟩, ⟨"subnet", .v4 ⟨10, 0, 0, 2⟩⟩,
      ⟨"subnet", .v4 ⟨10, 0, 0, 3⟩⟩]⟩

/-- The network has a switch, and this port is all that there is of ports. -/
def newWorld : World := { world with catalog := { catalog with ports := [resyncedPort] } }

end Sample

namespace Sample

/-- While the event is handled, the network is found, and what comes next is the call that makes its
server, with the first IPv4 address of a port that the event tells of. -/
def MakesServer (e : Event) (w : World) : Prop :=
  ∃ (before : List Exchange) (n : Network) (after : List Exchange),
    (e.handler Sample.settings).run.exchanges w
      = before ++ ⟨.query (.network "net"), .ok (some n)⟩ :: after ∧
    ∃ (p : Port) (s : Subnet) (ip : IPv4) (others : List (String × IPv4)) (config : DhcpServerConfig)
      (answer : Except Controller.Error String) (later : List Exchange) (fits : s.cidr.length ≤ 32),
      e.TellsOf ((e.handler Sample.settings).run.exchanges w) p ∧
      p.ipv4s = (s.id, ip) :: others ∧
      after = ⟨.call (.createServer config), answer⟩ :: later ∧
      config.serverIp = .v4 ⟨ip, s.cidr.length, fits⟩

end Sample

/-- The arrival of the DHCP port, a change that makes a port the DHCP port, and a resync: each makes
the server of the network. -/
theorem server_described_in_events :
    Sample.MakesServer (.portCreated Sample.dhcpPort) Sample.world ∧
    Sample.MakesServer
      (.portUpdated { Sample.dhcpPort with deviceOwner := "network:other" } Sample.dhcpPort)
      Sample.world ∧
    Sample.MakesServer (.resync none) Sample.newWorld := by
  have made : ∀ (e : Event) (w : World) (k : Nat) (n : Network) (answer : e.Answer),
      ((e.handler Sample.settings).runIn w).1 = .ok answer →
      (e.handler Sample.settings).run.exchanges w
        = ((e.handler Sample.settings).run.exchanges w).take k ++
          ⟨.query (.network "net"), .ok (some n)⟩ ::
            ((e.handler Sample.settings).run.exchanges w).drop (k + 1) →
      Sample.MakesServer e w := by
    intro e w k n answer ended split
    obtain ⟨p, s, ip, others, tells, -, first, -, -, outcome⟩ :=
      (server_described (Program.dialogue_exchanges (e.handler Sample.settings).run w)
        (Program.truthful_exchanges _ _)).1 _ _ _ _ split
    refine ⟨_, n, _, split, p, s, ip, others, ?_⟩
    rcases outcome with ⟨config, answer, later, fits, -, next, address⟩ | ⟨problem, -, failed, -⟩
    · exact ⟨config, answer, later, fits, tells, first, next, address⟩
    · exact absurd (ended.symm.trans failed) (by simp)
  exact ⟨made _ _ 4 ⟨"net", "net", "tenant"⟩ () (by decide +kernel) rfl,
    made _ _ 6 ⟨"net", "net", "tenant"⟩ () (by decide +kernel) (by with_unfolding_all rfl),
    made _ _ 5 ⟨"net", "net", "tenant"⟩ ⟨1, 0, 0, 0, 0⟩ (by decide +kernel) rfl⟩

end Dhcp

end Overlay
