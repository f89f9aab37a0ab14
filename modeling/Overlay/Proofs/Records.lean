import Overlay.Controller.Codec
import Overlay.Proofs.Address.Blocks
import Overlay.Proofs.Json.Codec

/-!
# Records read back

Every record that is exchanged with the tenant framework or the controller is read back from what
it is written as: from the text, and from every other document that means the same. The records
differ in their fields only; each law below names the laws of the fields in their order.

Main statement: `RecordKind.read_back`, for every kind of record and every value of it.
-/

namespace Overlay

open Codec

variable {defaults : List String}

/-! ## Addresses -/

/-- An address is read back as written, wherever it stands. -/
theorem Address.lawful_codec : Address.codec.Lawful defaults := lawful_spelled Address.parse?_render

theorem IPv4.lawful_codec : IPv4.codec.Lawful defaults := lawful_spelled IPv4.parse?_render

/-- A CIDR block is read back as written, wherever it stands. -/
theorem Cidr.lawful_codec : Cidr.codec.Lawful defaults := lawful_spelled Cidr.parse?_render

/-! ## Records of the tenant framework -/

/-- A network is read back as written, with all its members in any order. -/
theorem Network.lawful_codec : Network.codec.Lawful [] := by
  refine lawful_record ?_ (by decide) (by decide) fun _ => rfl
  exact .required lawful_text <| .required lawful_text <| .required lawful_text .nil

/-- A host route is read back where neither of its members may be left out. -/
theorem HostRoute.lawful_codec (strict : ∀ name ∈ ["destination", "nexthop"], name ∉ defaults) :
    HostRoute.codec.Lawful defaults := by
  refine lawful_record ?_ (by decide) strict fun _ => rfl
  exact .required Cidr.lawful_codec <| .required Address.lawful_codec .nil

/-- Name servers and host routes may be left out if there are none. -/
theorem Subnet.lawful_codec : Subnet.codec.Lawful ["dns_nameservers", "host_routes"] := by
  refine lawful_record ?_ (by decide) (by decide) fun _ => rfl
  exact .required lawful_text <| .required lawful_text <| .required Cidr.lawful_codec <|
    .required lawful_bool <| .optional Address.lawful_codec <|
    .defaulted (lawful_list Address.lawful_codec) list_empty <|
    .defaulted (lawful_list (HostRoute.lawful_codec (by decide))) list_empty .nil

/-- A fixed address is read back where neither of its members may be left out. -/
theorem FixedIp.lawful_codec (strict : ∀ name ∈ ["subnet_id", "ip_address"], name ∉ defaults) :
    FixedIp.codec.Lawful defaults := by
  refine lawful_record ?_ (by decide) strict fun _ => rfl
  exact .required lawful_text <| .required Address.lawful_codec .nil

/-- Name, device owner and fixed addresses may be left out if they are empty. -/
theorem Port.lawful_codec : Port.codec.Lawful ["name", "device_owner", "fixed_ips"] := by
  refine lawful_record ?_ (by decide) (by decide) fun _ => rfl
  exact .required lawful_text <| .required lawful_text <| .defaulted lawful_text text_empty <|
    .required lawful_text <| .defaulted lawful_text text_empty <|
    .defaulted (lawful_list (FixedIp.lawful_codec (by decide))) list_empty .nil

/-! ## Records of the controller -/

theorem LogicalRouter.lawful_codec : LogicalRouter.codec.Lawful [] := by
  refine lawful_record ?_ (by decide) (by decide) fun _ => rfl
  exact .required lawful_text <| .required lawful_text <| .optional lawful_text .nil

theorem EdgeMember.lawful_codec : EdgeMember.codec.Lawful [] := by
  refine lawful_record ?_ (by decide) (by decide) fun _ => rfl
  exact .required lawful_uint32 .nil

theorem EdgeCluster.lawful_codec : EdgeCluster.codec.Lawful [] := by
  refine lawful_record ?_ (by decide) (by decide) fun _ => rfl
  exact .required lawful_text <| .required (lawful_list EdgeMember.lawful_codec) .nil

theorem RouterPortKind.lawful_codec : RouterPortKind.codec.Lawful defaults :=
  lawful_choice (by rintro (_ | _) <;> decide)

theorem NatAction.lawful_codec : NatAction.codec.Lawful defaults :=
  lawful_choice (by rintro (_ | _) <;> decide)

theorem AttachmentKind.lawful_codec : AttachmentKind.codec.Lawful defaults :=
  lawful_choice (by rintro (_ | _ | _) <;> decide)

/-- A group of addresses is read back where neither of its members may be left out. -/
theorem AddressGroup.lawful_codec
    (strict : ∀ name ∈ ["ip_addresses", "prefix_length"], name ∉ defaults) :
    AddressGroup.codec.Lawful defaults := by
  refine lawful_record ?_ (by decide) strict fun _ => rfl
  exact .required (lawful_list Address.lawful_codec) <| .required lawful_uint8 .nil

/-- A request for a router port is read back as written, with or without its optional members. -/
theorem RouterPortRequest.lawful_codec : RouterPortRequest.codec.Lawful [] := by
  refine lawful_record ?_ (by decide) (by decide) fun _ => rfl
  exact .required lawful_text <| .required lawful_text <| .required RouterPortKind.lawful_codec <|
    .optional lawful_text <| .optional (lawful_list (AddressGroup.lawful_codec (by decide))) <|
    .optional (lawful_list lawful_uint32) .nil

/-- Subnets may be left out if there are none. -/
theorem RouterPort.lawful_codec : RouterPort.codec.Lawful ["subnets"] := by
  refine lawful_record ?_ (by decide) (by decide) fun _ => rfl
  exact .required lawful_text <| .required lawful_text <| .required RouterPortKind.lawful_codec <|
    .optional lawful_text <|
    .defaulted (lawful_list (AddressGroup.lawful_codec (by decide))) list_empty .nil

theorem NatRule.lawful_codec : NatRule.codec.Lawful [] := by
  refine lawful_record ?_ (by decide) (by decide) fun _ => rfl
  exact .required NatAction.lawful_codec <| .required Address.lawful_codec <|
    .required lawful_uint32 .nil

theorem Tag.lawful_codec : Tag.codec.Lawful [] := by
  refine lawful_record ?_ (by decide) (by decide) fun _ => rfl
  exact .required lawful_text <| .required lawful_text .nil

theorem SwitchPortRequest.lawful_codec : SwitchPortRequest.codec.Lawful [] := by
  refine lawful_record ?_ (by decide) (by decide) fun _ => rfl
  exact .required lawful_text <| .required lawful_text <| .required AttachmentKind.lawful_codec <|
    .required lawful_text <| .required (lawful_list Tag.lawful_codec) .nil

theorem SwitchPort.lawful_codec : SwitchPort.codec.Lawful [] := by
  refine lawful_record ?_ (by decide) (by decide) fun _ => rfl
  exact .required lawful_text <| .required lawful_text .nil

theorem StaticRoute.lawful_codec : StaticRoute.codec.Lawful [] := by
  refine lawful_record ?_ (by decide) (by decide) fun _ => rfl
  exact .required Cidr.lawful_codec <| .required Address.lawful_codec .nil

/-- Static routes are read back as written, one by one. -/
theorem StaticRoute.lawful_listCodec : StaticRoute.listCodec.Lawful [] := by
  refine lawful_record ?_ (by decide) (by decide) fun _ => rfl
  exact .required (lawful_list StaticRoute.lawful_codec) .nil

theorem DhcpOptions.lawful_codec : DhcpOptions.codec.Lawful [] := by
  refine lawful_record ?_ (by decide) (by decide) fun _ => rfl
  exact .optional StaticRoute.lawful_listCodec .nil

/-- The description of a server is read back as written, addresses and options included. -/
theorem DhcpServerConfig.lawful_codec : DhcpServerConfig.codec.Lawful [] := by
  refine lawful_record ?_ (by decide) (by decide) fun _ => rfl
  exact .required lawful_text <| .required lawful_text <| .required Cidr.lawful_codec <|
    .required (lawful_list Address.lawful_codec) <| .required lawful_text <|
    .optional Address.lawful_codec <| .required DhcpOptions.lawful_codec <|
    .required (lawful_list Tag.lawful_codec) .nil

theorem BindingRequest.lawful_codec : BindingRequest.codec.Lawful [] := by
  refine lawful_record ?_ (by decide) (by decide) fun _ => rfl
  exact .required lawful_text <| .required IPv4.lawful_codec <| .required lawful_text <|
    .required lawful_uint32 <| .required DhcpOptions.lawful_codec .nil

theorem BindingUpdate.lawful_codec : BindingUpdate.codec.Lawful [] := by
  refine lawful_record ?_ (by decide) (by decide) fun _ => rfl
  exact .optional lawful_text <| .optional IPv4.lawful_codec <| .optional lawful_text <|
    .optional DhcpOptions.lawful_codec .nil

/-! ## All kinds -/

/-- The kinds of record that are exchanged with the tenant framework or the controller. -/
inductive RecordKind where
  | network
  | hostRoute
  | subnet
  | fixedIp
  | port
  | logicalRouter
  | edgeCluster
  | addressGroup
  | routerPortRequest
  | routerPort
  | natRule
  | switchPortRequest
  | switchPort
  | dhcpServerConfig
  | dhcpOptions
  | bindingRequest
  | bindingUpdate
  deriving DecidableEq, Repr

namespace RecordKind

/-- The records of a kind. -/
def Value : RecordKind → Type
  | .network => Network
  | .hostRoute => HostRoute
  | .subnet => Subnet
  | .fixedIp => FixedIp
  | .port => Port
  | .logicalRouter => LogicalRouter
  | .edgeCluster => EdgeCluster
  | .addressGroup => AddressGroup
  | .routerPortRequest => RouterPortRequest
  | .routerPort => RouterPort
  | .natRule => NatRule
  | .switchPortRequest => SwitchPortRequest
  | .switchPort => SwitchPort
  | .dhcpServerConfig => DhcpServerConfig
  | .dhcpOptions => DhcpOptions
  | .bindingRequest => BindingRequest
  | .bindingUpdate => BindingUpdate

/-- How records of a kind are written and read. -/
def codec : (k : RecordKind) → Codec k.Value
  | .network => Network.codec
  | .hostRoute => HostRoute.codec
  | .subnet => Subnet.codec
  | .fixedIp => FixedIp.codec
  | .port => Port.codec
  | .logicalRouter => LogicalRouter.codec
  | .edgeCluster => EdgeCluster.codec
  | .addressGroup => AddressGroup.codec
  | .routerPortRequest => RouterPortRequest.codec
  | .routerPort => RouterPort.codec
  | .natRule => NatRule.codec
  | .switchPortRequest => SwitchPortRequest.codec
  | .switchPort => SwitchPort.codec
  | .dhcpServerConfig => DhcpServerConfig.codec
  | .dhcpOptions => DhcpOptions.codec
  | .bindingRequest => BindingRequest.codec
  | .bindingUpdate => BindingUpdate.codec

/-- The members of a kind of record that have a default, which is the empty text or list. -/
def defaulted : RecordKind → List String
  | .subnet => ["dns_nameservers", "host_routes"]
  | .port => ["name", "device_owner", "fixed_ips"]
  | .routerPort => ["subnets"]
  | _ => []

/-- Every kind of record is read back as written. -/
theorem lawful_codec (k : RecordKind) : k.codec.Lawful k.defaulted := by
  cases k with
  | network => exact Network.lawful_codec
  | hostRoute => exact HostRoute.lawful_codec (by decide)
  | subnet => exact Subnet.lawful_codec
  | fixedIp => exact FixedIp.lawful_codec (by decide)
  | port => exact Port.lawful_codec
  | logicalRouter => exact LogicalRouter.lawful_codec
  | edgeCluster => exact EdgeCluster.lawful_codec
  | addressGroup => exact AddressGroup.lawful_codec (by decide)
  | routerPortRequest => exact RouterPortRequest.lawful_codec
  | routerPort => exact RouterPort.lawful_codec
  | natRule => exact NatRule.lawful_codec
  | switchPortRequest => exact SwitchPortRequest.lawful_codec
  | switchPort => exact SwitchPort.lawful_codec
  | dhcpServerConfig => exact DhcpServerConfig.lawful_codec
  | dhcpOptions => exact DhcpOptions.lawful_codec
  | bindingRequest => exact BindingRequest.lawful_codec
  | bindingUpdate => exact BindingUpdate.lawful_codec

/-- Every record is read back from its text, and from every document that means the same as the
one it is written as: with its members in any order and strangers among them, without members that
are `null` or have a default and are empty, and as the array of its fields, at any depth. The text
of such a document is as good, unless a stranger holds a numeral that cannot be written. -/
theorem read_back (k : RecordKind) (r : k.Value) :
    (Json.parse? (k.codec.encode r).render).bind k.codec.decode? = some r ∧
      ∀ doc, Json.Respelled k.defaulted (k.codec.encode r) doc →
        k.codec.decode? doc = some r ∧
          (doc.Sound → (Json.parse? doc.render).bind k.codec.decode? = some r) := by
  have lawful := k.lawful_codec
  constructor
  · rw [(lawful.sound r).parse?_render, Option.bind_some]
    exact lawful.reads r _ (.same _)
  · intro doc respelled
    have read := lawful.reads r doc respelled
    refine ⟨read, ?_⟩
    intro sound
    rw [sound.parse?_render, Option.bind_some, read]

/-- A port whose name and device owner are left out, with a stranger in front and its address as an
array of fields. -/
theorem read_back_port :
    Port.codec.decode? (.record
      [("status", .text "ACTIVE"), ("id", .text "p"), ("network_id", .text "n"),
        ("mac_address", .text "m"),
        ("fixed_ips", .array [.array [.text "s", .text "2001:db8::1"]])]) =
      some ⟨"p", "n", "", "m", "",
        [⟨"s", .v6 ⟨[0x2001, 0xDB8, 0, 0, 0, 0, 0, 1], rfl⟩⟩]⟩ := by
  have address : Json.Respelled (defaulted .port)
      (FixedIp.codec.encode ⟨"s", .v6 ⟨[0x2001, 0xDB8, 0, 0, 0, 0, 0, 1], rfl⟩⟩)
      (.array [.text "s", .text "2001:db8::1"]) :=
    .fields (.cons (.same _) (.cons (.same (.text _)) .nil))
  refine ((read_back .port ⟨"p", "n", "", "m", "", [⟨"s", .v6 ⟨_, rfl⟩⟩]⟩).2 _
    (.members ?_ ?_ (@List.perm_append_comm _ [_] _))).1
  · exact .keep (.same _) (.keep (.same _) (.leave (Or.inr ⟨by decide, Or.inl rfl⟩)
      (.keep (.same _) (.leave (Or.inr ⟨by decide, Or.inl rfl⟩)
        (.keep (.items (.cons address .nil)) .nil)))))
  · intro m mem
    rw [List.mem_singleton.mp mem]
    decide

end RecordKind

end Overlay
