import Overlay.Proofs.Json.Codec
import Overlay.Settings.Document

/-!
# Settings read from a document

A document gives some of the nine settings, once each, in any order and with strangers among them.
What it means is said here without the codec: `Entry.put` is what one entry does to the settings,
and `Entry.Spelled` which JSON values stand for it. A field of the codec `Follows` the settings if
it is left out with the default and reads an entry as what the entry puts; this is checked for each
field, and a whole record follows because its fields do.

Main statements: `ofDocument_of_gives`, over every text of such a document, and
`isSome_decode?_iff`, that no other values are read. Keys must be Unicode text, as far as they are
keys of the document itself: `ofDocument_of_nameless`.
-/

namespace Overlay.Settings

/-- A setting that a document gives. -/
inductive Entry where
  | nativeDhcp (on : Bool)
  | agentNotification (on : Bool)
  | dhcpProfileId (id : Option String)
  | metadataProxyId (id : Option String)
  | leaseTime (seconds : UInt32)
  | metadataRoute (destination : Cidr4)
  | dnsDomain (domain : String)
  | nameservers (servers : List Address)
  | projectName (name : String)

namespace Entry

/-- The name of the setting in a document. -/
def name : Entry → String
  | nativeDhcp _ => "native_dhcp_metadata"
  | agentNotification _ => "dhcp_agent_notification"
  | dhcpProfileId _ => "dhcp_profile_uuid"
  | metadataProxyId _ => "metadata_proxy_uuid"
  | leaseTime _ => "dhcp_lease_time"
  | metadataRoute _ => "native_metadata_route"
  | dnsDomain _ => "dns_domain"
  | nameservers _ => "nameservers"
  | projectName _ => "project_name"

/-- The settings with this one replaced. -/
def put (s : Settings) : Entry → Settings
  | nativeDhcp on => { s with nativeDhcp := on }
  | agentNotification on => { s with agentNotification := on }
  | dhcpProfileId id => { s with dhcpProfileId := id }
  | metadataProxyId id => { s with metadataProxyId := id }
  | leaseTime seconds => { s with leaseTime := seconds }
  | metadataRoute destination => { s with metadataRoute := destination }
  | dnsDomain domain => { s with dnsDomain := domain }
  | nameservers servers => { s with nameservers := servers }
  | projectName name => { s with projectName := name }

/-- The JSON values of a setting. Addresses and blocks are texts, in any spelling that is read. -/
inductive Spelled : Entry → Json → Prop where
  | nativeDhcp (on : Bool) : Spelled (.nativeDhcp on) (.bool on)
  | agentNotification (on : Bool) : Spelled (.agentNotification on) (.bool on)
  | dhcpProfileId (id : String) : Spelled (.dhcpProfileId (some id)) (.text id)
  | noDhcpProfileId : Spelled (.dhcpProfileId none) .null
  | metadataProxyId (id : String) : Spelled (.metadataProxyId (some id)) (.text id)
  | noMetadataProxyId : Spelled (.metadataProxyId none) .null
  | leaseTime (seconds : UInt32) : Spelled (.leaseTime seconds) (.nat seconds.toNat)
  | metadataRoute {text : String} {destination : Cidr4}
    (read : Cidr4.parse? text = some destination) :
    Spelled (.metadataRoute destination) (.text text)
  | dnsDomain (domain : String) : Spelled (.dnsDomain domain) (.text domain)
  | nameservers {texts : List String} {servers : List Address}
    (read : List.Forall₂ (fun text server => Address.parse? text = some server) texts servers) :
    Spelled (.nameservers servers) (.array (texts.map .text))
  | projectName (name : String) : Spelled (.projectName name) (.text name)

end Entry

/-- The default settings with the entries of a document put in their places. -/
def ofEntries (entries : List Entry) : Settings := entries.foldl Entry.put default

/-- The members of an object are the given entries, each under its name with its value and named
once, and strangers, which have names of their own; in any order. -/
structure Gives (given : List (Entry × Json)) (strangers members : List (String × Json)) : Prop where
  once : (given.map fun g => g.1.name).Nodup
  spelled : ∀ g ∈ given, g.1.Spelled g.2
  strange : ∀ m ∈ strangers, ∀ e : Entry, m.1 ≠ e.name
  order : members.Perm (given.map (fun g => (g.1.name, g.2)) ++ strangers)

variable {α β τ : Type} {given : List (Entry × Json)} {strangers members : List (String × Json)}

/-- A field of the codec holds what `pick` finds in the settings. -/
structure Follows (f : Field α) (pick : Settings → α) : Prop where
  omitted : f.omitted = some (pick default)
  reads : ∀ {e : Entry} {v : Json} (s : Settings), e.name = f.name → e.Spelled v →
    f.codec.decode? v = some (pick (e.put s))
  keeps : ∀ {e : Entry} (s : Settings), e.name ≠ f.name → pick (e.put s) = pick s

/-- Entries of other names leave a field as it is. -/
theorem Follows.pick_foldl {f : Field α} {pick : Settings → α} (follows : Follows f pick)
    {entries : List Entry} (other : ∀ e ∈ entries, e.name ≠ f.name) (s : Settings) :
    pick (entries.foldl Entry.put s) = pick s := by
  induction entries generalizing s with
  | nil => rfl
  | cons e entries ih =>
      rw [List.forall_mem_cons] at other
      rw [List.foldl_cons, ih other.2, follows.keeps s other.1]

/-- A field that is not given has its default. -/
theorem Follows.member?_of_absent {f : Field α} {pick : Settings → α} (follows : Follows f pick)
    (gives : Gives given strangers members) (absent : ∀ g ∈ given, g.1.name ≠ f.name)
    (known : ∃ e : Entry, e.name = f.name) :
    Fields.member? f (Json.keyed members) = some (pick (ofEntries (given.map (·.1)))) := by
  have nobody : ∀ m ∈ members, m.1 ≠ f.name := by
    intro m mem
    rcases List.mem_append.mp (gives.order.subset mem) with own | stranger
    · obtain ⟨g, there, rfl⟩ := List.mem_map.mp own
      exact absent g there
    · obtain ⟨e, named⟩ := known
      exact named ▸ gives.strange m stranger e
  have untouched : ∀ e ∈ given.map (·.1), e.name ≠ f.name := by
    intro e mem
    obtain ⟨g, there, rfl⟩ := List.mem_map.mp mem
    exact absent g there
  rw [Fields.member?_of_absent nobody, follows.omitted, ofEntries, follows.pick_foldl untouched]

/-- A field that is given has the value that its entry puts. -/
theorem Follows.member?_of_given {f : Field α} {pick : Settings → α} (follows : Follows f pick)
    (gives : Gives given strangers members) {g : Entry × Json} (mem : g ∈ given)
    (named : g.1.name = f.name) :
    Fields.member? f (Json.keyed members) = some (pick (ofEntries (given.map (·.1)))) := by
  have spelled := gives.spelled g mem
  obtain ⟨before, behind, rfl⟩ := List.append_of_mem mem
  have once := gives.once
  rw [List.map_append, List.map_cons, named, List.perm_middle.nodup_iff, List.nodup_cons,
    ← List.map_append, List.mem_map] at once
  have other : ∀ h ∈ before ++ behind, h.1.name ≠ f.name := fun h mem same => once.1 ⟨h, mem, same⟩
  -- brought to the front, the member is followed by the others in some order
  have order : members.Perm ((f.name, g.2) ::
      ((before ++ behind).map (fun h => (h.1.name, h.2)) ++ strangers)) := by
    refine gives.order.trans ?_
    rw [List.map_append, List.map_cons, named, List.map_append]
    exact List.perm_middle.append_right strangers
  have others : ∀ m ∈ (before ++ behind).map (fun h => (h.1.name, h.2)) ++ strangers,
      m.1 ≠ f.name := by
    intro m mem
    rcases List.mem_append.mp mem with own | stranger
    · obtain ⟨h, there, rfl⟩ := List.mem_map.mp own
      exact other h there
    · exact named ▸ gives.strange m stranger g.1
  -- the entries behind it are about other settings, so the value stays
  have untouched : ∀ e ∈ behind.map (·.1), e.name ≠ f.name := by
    intro e mem
    obtain ⟨h, there, rfl⟩ := List.mem_map.mp mem
    exact other h (List.mem_append_right before there)
  rw [Fields.member?_of_perm order others, ofEntries, List.map_append, List.map_cons,
    List.foldl_append, List.foldl_cons, follows.pick_foldl untouched]
  exact follows.reads _ named spelled

/-- Every field of a record holds its part of what `pick` finds. -/
inductive FollowsAll : {τ : Type} → Fields τ → (Settings → τ) → Prop where
  | nil : FollowsAll .nil fun _ => ()
  | cons {α β : Type} {f : Field α} {rest : Fields β} {pick : Settings → α}
    {others : Settings → β} (here : Follows f pick) (known : ∃ e : Entry, e.name = f.name)
    (there : FollowsAll rest others) : FollowsAll (.cons f rest) fun s => (pick s, others s)

/-- A record that follows the settings is read as the entries leave them. -/
theorem FollowsAll.ofMembers? {fields : Fields τ} {pick : Settings → τ}
    (follows : FollowsAll fields pick) (gives : Gives given strangers members) :
    fields.ofMembers? (Json.keyed members) = some (pick (ofEntries (given.map (·.1)))) := by
  induction follows with
  | nil => rfl
  | @cons α β f rest pick others here known there ih =>
      have first : Fields.member? f (Json.keyed members) =
          some (pick (ofEntries (given.map (·.1)))) := by
        by_cases present : ∃ g ∈ given, g.1.name = f.name
        · obtain ⟨g, mem, named⟩ := present
          exact here.member?_of_given gives mem named
        · refine here.member?_of_absent gives ?_ known
          intro g mem named
          exact present ⟨g, mem, named⟩
      rw [Fields.ofMembers?, first, ih]

/-! ## The nine fields -/

theorem decode?_seconds (seconds : UInt32) :
    Codec.uint32.decode? (.nat seconds.toNat) = some seconds :=
  (@Codec.lawful_uint32 []).reads seconds _ (.same _)

theorem decode?_addresses {texts : List String} {servers : List Address}
    (read : List.Forall₂ (fun text server => Address.parse? text = some server) texts servers) :
    Address.codec.list.decode? (.array (texts.map .text)) = some servers := by
  show (texts.map Json.text).mapM Address.codec.decode? = some servers
  induction read with
  | nil => rfl
  | @cons text server texts servers here _ ih =>
      have first : Address.codec.decode? (.text text) = some server := here
      rw [List.map_cons, List.mapM_cons, first, ih]
      rfl

/-- The fields of a document follow the settings, each the one it is named for. -/
theorem followsAll_fields : FollowsAll fields fun s =>
    (s.nativeDhcp, s.agentNotification, s.dhcpProfileId, s.metadataProxyId, s.leaseTime,
      s.metadataRoute, s.dnsDomain, s.nameservers, s.projectName, ()) := by
  refine .cons ?_ ⟨.nativeDhcp true, rfl⟩ <| .cons ?_ ⟨.agentNotification true, rfl⟩ <|
    .cons ?_ ⟨.dhcpProfileId none, rfl⟩ <| .cons ?_ ⟨.metadataProxyId none, rfl⟩ <|
    .cons ?_ ⟨.leaseTime 0, rfl⟩ <| .cons ?_ ⟨.metadataRoute defaultMetadataRoute, rfl⟩ <|
    .cons ?_ ⟨.dnsDomain "", rfl⟩ <| .cons ?_ ⟨.nameservers [], rfl⟩ <|
    .cons ?_ ⟨.projectName "", rfl⟩ .nil
  all_goals
    constructor
    · rfl
    · intro e v s named spelled
      cases spelled
      all_goals first
        | rfl
        | exact decode?_seconds _
        | exact ‹Cidr4.parse? _ = some _›
        | exact decode?_addresses ‹_›
        | simp [Entry.name] at named
    · intro e s other
      cases e
      all_goals first
        | rfl
        | exact absurd rfl other

theorem Entry.name_mem (e : Entry) : e.name ∈ fields.names := by
  cases e <;> simp [Entry.name, fields, Fields.defaulted, Fields.names]

/-! ## Which values are read

Nothing is read under the name of a setting but what `Entry.Spelled` says of it.
-/

theorem bool_of_decode? {v : Json} {b : Bool} (read : Codec.bool.decode? v = some b) :
    v = .bool b := by
  cases v with
  | bool b => cases read; rfl
  | _ => cases read

/-- What is read as a value with a written form is a text of this form. -/
theorem text_of_decode?_spelled {render : α → String} {parse? : String → Option α} {v : Json}
    {a : α} (read : (Codec.spelled render parse?).decode? v = some a) :
    ∃ text, v = .text text ∧ parse? text = some a := by
  cases v with
  | string text =>
      cases text with
      | none => cases read
      | some text => exact ⟨text, rfl, read⟩
  | _ => cases read

theorem text_of_decode? {v : Json} {text : String} (read : Codec.text.decode? v = some text) :
    v = .text text := by
  cases v with
  | string text =>
      cases text with
      | none => cases read
      | some text => cases read; rfl
  | _ => cases read

theorem orNull_of_decode? {c : Codec α} {v : Json} {a : Option α}
    (read : c.orNull.decode? v = some a) :
    v = .null ∧ a = none ∨ ∃ b, a = some b ∧ c.decode? v = some b := by
  cases v with
  | null => cases read; exact Or.inl ⟨rfl, rfl⟩
  | _ =>
      obtain ⟨b, inner, rfl⟩ := Option.map_eq_some_iff.mp read
      exact Or.inr ⟨b, rfl, inner⟩

theorem seconds_of_decode? {v : Json} {seconds : UInt32}
    (read : Codec.uint32.decode? v = some seconds) : v = .nat seconds.toNat := by
  obtain ⟨⟨n, small⟩, inner, rfl⟩ := Option.map_eq_some_iff.mp read
  cases v with
  | number m =>
      obtain ⟨k, whole, bounded⟩ := Option.bind_eq_some_iff.mp inner
      split at bounded
      · cases bounded
        rw [UInt32.toNat_ofNat_of_lt' small]
        obtain ⟨negative, j, fraction, exponent⟩ := m
        rw [Numeral.toNat?] at whole
        cases negative <;> cases fraction <;> cases exponent <;> cases whole
        rfl
      · cases bounded
  | _ => cases inner

theorem addresses_of_decode? {v : Json} {servers : List Address}
    (read : Address.codec.list.decode? v = some servers) :
    ∃ texts, v = .array (texts.map .text) ∧
      List.Forall₂ (fun text server => Address.parse? text = some server) texts servers := by
  cases v with
  | array items =>
      have each : items.mapM Address.codec.decode? = some servers := read
      clear read
      induction items generalizing servers with
      | nil =>
          cases each
          exact ⟨[], rfl, .nil⟩
      | cons item items ih =>
          simp only [List.mapM_cons, bind, Option.bind_eq_some_iff] at each
          obtain ⟨server, first, servers, later, each⟩ := each
          cases each
          obtain ⟨text, rfl, read⟩ := text_of_decode?_spelled first
          obtain ⟨texts, shape, others⟩ := ih later
          rw [Json.array.inj shape]
          exact ⟨text :: texts, rfl, .cons read others⟩
  | _ => cases read

/-- Whatever a field reads is the value of an entry of its name. -/
inductive SpelledAll : {τ : Type} → Fields τ → Prop where
  | nil : SpelledAll .nil
  | cons {α β : Type} {f : Field α} {rest : Fields β} (here : ∀ {v : Json} {a : α},
      f.codec.decode? v = some a → ∃ e : Entry, e.name = f.name ∧ e.Spelled v)
    (there : SpelledAll rest) : SpelledAll (.cons f rest)

theorem SpelledAll.exists_entry {fields : Fields τ} (all : SpelledAll fields) {name : String}
    (known : name ∈ fields.names) {v : Json} {t : τ}
    (read : fields.ofMembers? (Json.keyed [(name, v)]) = some t) :
    ∃ e : Entry, e.name = name ∧ e.Spelled v := by
  induction all with
  | nil => cases known
  | @cons α β f rest here there ih =>
      rw [Fields.ofMembers?] at read
      split at read
      · next a b first later =>
        rcases List.mem_cons.mp known with rfl | known
        · rw [Fields.member?_of_perm (.refl _) (by simp)] at first
          exact here first
        · exact ih known later
      · cases read

theorem spelledAll_fields : SpelledAll fields := by
  refine .cons ?_ <| .cons ?_ <| .cons ?_ <| .cons ?_ <| .cons ?_ <| .cons ?_ <| .cons ?_ <|
    .cons ?_ <| .cons ?_ .nil
  · intro v on read
    exact ⟨.nativeDhcp on, rfl, bool_of_decode? read ▸ .nativeDhcp on⟩
  · intro v on read
    exact ⟨.agentNotification on, rfl, bool_of_decode? read ▸ .agentNotification on⟩
  · intro v id read
    rcases orNull_of_decode? read with ⟨rfl, -⟩ | ⟨id, -, read⟩
    · exact ⟨.dhcpProfileId none, rfl, .noDhcpProfileId⟩
    · exact ⟨.dhcpProfileId (some id), rfl, text_of_decode? read ▸ .dhcpProfileId id⟩
  · intro v id read
    rcases orNull_of_decode? read with ⟨rfl, -⟩ | ⟨id, -, read⟩
    · exact ⟨.metadataProxyId none, rfl, .noMetadataProxyId⟩
    · exact ⟨.metadataProxyId (some id), rfl, text_of_decode? read ▸ .metadataProxyId id⟩
  · intro v seconds read
    exact ⟨.leaseTime seconds, rfl, seconds_of_decode? read ▸ .leaseTime seconds⟩
  · intro v destination read
    obtain ⟨text, rfl, route⟩ := text_of_decode?_spelled read
    exact ⟨.metadataRoute destination, rfl, .metadataRoute route⟩
  · intro v domain read
    exact ⟨.dnsDomain domain, rfl, text_of_decode? read ▸ .dnsDomain domain⟩
  · intro v servers read
    obtain ⟨texts, rfl, each⟩ := addresses_of_decode? read
    exact ⟨.nameservers servers, rfl, .nameservers each⟩
  · intro v name read
    exact ⟨.projectName name, rfl, text_of_decode? read ▸ .projectName name⟩

/-- A setting is read from the values of its entries and from no others. -/
theorem isSome_decode?_iff (e : Entry) (v : Json) :
    (codec.decode? (.record [(e.name, v)])).isSome = true ↔
      ∃ e' : Entry, e'.name = e.name ∧ e'.Spelled v := by
  rw [codec, Codec.decode?_record, Option.isSome_map]
  constructor
  · intro accepted
    obtain ⟨t, read⟩ := Option.isSome_iff_exists.mp accepted
    exact spelledAll_fields.exists_entry e.name_mem read
  · rintro ⟨e', named, spelled⟩
    have gives : Gives [(e', v)] [] [(e.name, v)] := by
      constructor
      · simp
      · intro g mem
        rw [List.mem_singleton.mp mem]
        exact spelled
      · rintro m ⟨⟩
      · rw [← named]
        exact .refl _
    rw [followsAll_fields.ofMembers? gives]
    rfl

/-! ## Documents -/

/-- A key of the document that is no Unicode text spoils it. -/
theorem ofDocument_of_nameless {members : List (Option String × Json)} {document : String}
    {v : Json} (nameless : (none, v) ∈ members)
    (spelled : (Json.object members).Spelled document) :
    ofDocument document = .error .malformed := by
  have refused : members.all (fun m => m.1.isSome) = false := by
    rw [List.all_eq_false]
    exact ⟨(none, v), nameless, by simp⟩
  have read : codec.decode? (.object members) = none := by
    show (if members.all (fun m => m.1.isSome) then (fields.ofMembers? members).map _ else none) = _
    rw [refused]
    rfl
  rw [ofDocument, spelled.parse?, Option.bind_some, read]

/-- JSON does not ask that a key be Unicode text. -/
theorem lone_surrogate_key_refused :
    (Json.object [(none, .nat 1)]).Spelled "\x7b\"\\ud800\": 1\x7d" ∧
      ofDocument "\x7b\"\\ud800\": 1\x7d" = .error .malformed := by
  have key : (Json.Token.string none).Spelled "\"\\ud800\"".toList := Json.spelled_chars (by simp)
  have one : (Json.Token.number (.ofNat 1)).Spelled ['1'] :=
    .number (Numeral.sound_ofNat 1) (Or.inl rfl)
  have spelled : (Json.object [(none, .nat 1)]).Spelled "\x7b\"\\ud800\": 1\x7d" :=
    .token .openBrace <| .token key <| .token .colon <| .blank rfl <| .token one <|
      .token .closeBrace .nil
  constructor
  · exact spelled
  · exact ofDocument_of_nameless List.mem_cons_self spelled

/-- Every text of an object that gives some of the settings, each once, in any order and with
strangers among its members, is read as the default settings with the given ones replaced. A text
of the same members with a given setting repeated, whatever its other values, is refused. -/
theorem ofDocument_of_gives (gives : Gives given strangers members) :
    (∀ document, (Json.record members).Spelled document →
      ofDocument document = .ok (ofEntries (given.map (·.1)))) ∧
    ∀ g ∈ given, ∀ (repeats : List Json) (all : List (String × Json)), repeats ≠ [] →
      all.Perm (repeats.map (fun v => (g.1.name, v)) ++ members) →
      ∀ document, (Json.record all).Spelled document →
        ofDocument document = .error .malformed := by
  constructor
  · intro document spelled
    have read : codec.decode? (.record members) = some (ofEntries (given.map (·.1))) := by
      rw [codec, Codec.decode?_record, followsAll_fields.ofMembers? gives]
      rfl
    rw [ofDocument, spelled.parse?, Option.bind_some, read]
  · intro g mem repeats all again order document spelled
    obtain ⟨v, repeats, rfl⟩ := List.exists_cons_of_ne_nil again
    obtain ⟨before, behind, split⟩ := List.append_of_mem mem
    -- the entry itself is the second member of its name
    have twice : all.Perm ((g.1.name, v) :: (g.1.name, g.2) ::
        (repeats.map (fun w => (g.1.name, w)) ++
          ((before ++ behind).map (fun h => (h.1.name, h.2)) ++ strangers))) := by
      refine order.trans ?_
      rw [List.map_cons, List.cons_append]
      refine List.Perm.cons _ ?_
      refine (gives.order.append_left _).trans ?_
      rw [split, List.map_append, List.map_cons, List.map_append]
      refine List.Perm.trans ?_ List.perm_middle
      exact (List.perm_middle.append_right strangers).append_left _
    have refused : codec.decode? (.record all) = none := by
      rw [codec, Codec.decode?_record, Fields.ofMembers?_of_repeated g.1.name_mem twice,
        Option.map_none]
    rw [ofDocument, spelled.parse?, Option.bind_some, refused]

/-- A lease time behind a stranger, with blanks and an escape in the text, and the same document
with a lease time in front as well. -/
theorem ofDocument_of_gives_lease :
    ofDocument "\x7b \"\\u0078\": [-1.5E+3, null],\n\"dhcp_lease_time\":3600\x7d" =
        .ok { default with leaseTime := 3600 } ∧
      ofDocument
          "\x7b\"dhcp_lease_time\":true,\"\\u0078\": [-1.5E+3, null],\n\"dhcp_lease_time\":3600\x7d" =
        .error .malformed := by
  have gives : Gives [(.leaseTime 3600, .nat 3600)]
      [("x", .array [.number ⟨true, 1, ['5'], ['+', '3']⟩, .null])]
      [("x", .array [.number ⟨true, 1, ['5'], ['+', '3']⟩, .null]),
        ("dhcp_lease_time", .nat 3600)] := by
    constructor
    · decide
    · intro g mem
      rw [List.mem_singleton.mp mem]
      exact .leaseTime 3600
    · intro m mem e
      rw [List.mem_singleton.mp mem]
      cases e <;> simp [Entry.name]
    · exact .swap _ _ _
  have stranger : (Json.Token.string (some "x")).Spelled "\"\\u0078\"".toList :=
    .string (.cons (@Json.Piece.Spelled.unit '0' '0' '7' '8' 0x78 rfl) .nil)
  have power : (Json.Token.number ⟨true, 1, ['5'], ['+', '3']⟩).Spelled "-1.5E+3".toList := by
    refine .number ?_ (Or.inr rfl)
    exact ⟨by simp, Or.inr ⟨['+'], ['3'], rfl, by simp, by simp, by simp⟩⟩
  have key : (Json.Token.string (some "dhcp_lease_time")).Spelled "\"dhcp_lease_time\"".toList :=
    Json.spelled_chars (by simp)
  have hour : (Json.Token.number (.ofNat 3600)).Spelled "3600".toList :=
    .number (Numeral.sound_ofNat 3600) (Or.inl rfl)
  have members : Json.Laid _
      "\"\\u0078\": [-1.5E+3, null],\n\"dhcp_lease_time\":3600\x7d".toList :=
    .token stranger <| .token .colon <| .blank rfl <| .token .openBracket <| .token power <|
      .token .comma <| .blank rfl <| .token .null <| .token .closeBracket <| .token .comma <|
      .blank rfl <| .token key <| .token .colon <| .token hour <| .token .closeBrace .nil
  constructor
  · exact (ofDocument_of_gives gives).1 _ (.token .openBrace <| .blank rfl members)
  · refine (ofDocument_of_gives gives).2 _ List.mem_cons_self [.bool true] _ (by simp) (.refl _) _ ?_
    exact .token .openBrace <| .token key <| .token .colon <| .token (.bool true) <|
      .token .comma members

end Overlay.Settings
