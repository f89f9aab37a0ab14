import Overlay.Controller.Objects

/-!
# Calls of the network controller

The requests that the controller understands, the type of the answer to each, and the errors it may
give instead. A look-up whose failure is expected answers with nothing and not with an error.
-/

namespace Overlay.Controller

/-- Why the controller refuses a call. -/
inductive ErrorKind where
  /-- An object that the call names does not exist. -/
  | notFound
  /-- The call clashes with what exists. -/
  | conflict
  /-- The call did not go through. -/
  | request
  deriving DecidableEq, Repr

/-- A refusal. -/
structure Error where
  kind : ErrorKind
  detail : String
  deriving DecidableEq, Repr

/-- The wording of a refusal. -/
def Error.message (e : Error) : String :=
  match e.kind with
  | .notFound => "resource not found: " ++ e.detail
  | .conflict => "conflict: " ++ e.detail
  | .request => "request failed: " ++ e.detail

/-- What a call does, without its arguments. -/
inductive Operation where
  | getRouter
  | setEdgeCluster
  | getEdgeCluster
  | setAdvertisement
  | addNatRule
  | deleteNatRules
  | createRouterPort
  | getDownlinkPort
  | getLinkPort
  | setRouterPortSubnets
  | deleteRouterPort
  | createSwitchPort
  | setAttachment
  | createServer
  | setServerIp
  | deleteServer
  | createBinding
  | updateBinding
  | deleteBinding
  deriving DecidableEq, Repr

/-- A call with its arguments. -/
inductive Call where
  | getRouter (routerId : String)
  | setEdgeCluster (routerId clusterId : String)
  | getEdgeCluster (clusterId : String)
  | setAdvertisement (routerId : String) (natRoutes connectedRoutes : Bool)
  | addNatRule (routerId : String) (rule : NatRule)
  /-- Removes every rule of the router that translates to this address. -/
  | deleteNatRules (routerId : String) (translated : Address)
  | createRouterPort (request : RouterPortRequest)
  /-- Looks for the router port that joins a router to this switch. -/
  | getDownlinkPort (switchId : String)
  /-- Looks for the port that links this router to another one. -/
  | getLinkPort (routerId : String)
  | setRouterPortSubnets (portId : String) (subnets : List AddressGroup)
  | deleteRouterPort (portId : String)
  | createSwitchPort (request : SwitchPortRequest)
  | setAttachment (portId attachmentId : String) (kind : AttachmentKind)
  | createServer (config : DhcpServerConfig)
  | setServerIp (serverId : String) (address : Address)
  | deleteServer (serverId : String)
  | createBinding (serverId : String) (request : BindingRequest)
  | updateBinding (serverId bindingId : String) (update : BindingUpdate)
  | deleteBinding (serverId bindingId : String)
  deriving DecidableEq, Repr

namespace Call

/-- What the call does. -/
def operation : Call → Operation
  | .getRouter .. => .getRouter
  | .setEdgeCluster .. => .setEdgeCluster
  | .getEdgeCluster .. => .getEdgeCluster
  | .setAdvertisement .. => .setAdvertisement
  | .addNatRule .. => .addNatRule
  | .deleteNatRules .. => .deleteNatRules
  | .createRouterPort .. => .createRouterPort
  | .getDownlinkPort .. => .getDownlinkPort
  | .getLinkPort .. => .getLinkPort
  | .setRouterPortSubnets .. => .setRouterPortSubnets
  | .deleteRouterPort .. => .deleteRouterPort
  | .createSwitchPort .. => .createSwitchPort
  | .setAttachment .. => .setAttachment
  | .createServer .. => .createServer
  | .setServerIp .. => .setServerIp
  | .deleteServer .. => .deleteServer
  | .createBinding .. => .createBinding
  | .updateBinding .. => .updateBinding
  | .deleteBinding .. => .deleteBinding

/-- The type of the answer to a call. New servers and bindings are answered by their identifiers. -/
abbrev Answer : Call → Type
  | .getRouter _ => Option LogicalRouter
  | .getEdgeCluster _ => Option EdgeCluster
  | .createRouterPort _ => RouterPort
  | .getDownlinkPort _ => Option RouterPort
  | .getLinkPort _ => Option RouterPort
  | .setRouterPortSubnets _ _ => RouterPort
  | .createSwitchPort _ => SwitchPort
  | .createServer _ => String
  | .createBinding _ _ => String
  | .setEdgeCluster _ _ => Unit
  | .setAdvertisement _ _ _ => Unit
  | .addNatRule _ _ => Unit
  | .deleteNatRules _ _ => Unit
  | .deleteRouterPort _ => Unit
  | .setAttachment _ _ _ => Unit
  | .setServerIp _ _ => Unit
  | .deleteServer _ => Unit
  | .updateBinding _ _ _ => Unit
  | .deleteBinding _ _ => Unit

end Call

end Overlay.Controller
