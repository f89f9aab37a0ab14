import Overlay.Dhcp.Event
import Overlay.Proofs.Dhcp.Attachment
import Overlay.Proofs.Dhcp.Commute
import Overlay.Proofs.Dhcp.Deadlock
import Overlay.Proofs.Dhcp.Deletion
import Overlay.Proofs.Dhcp.Descriptions
import Overlay.Proofs.Dhcp.Doubles
import Overlay.Proofs.Dhcp.Equivalence
import Overlay.Proofs.Dhcp.Names
import Overlay.Proofs.Dhcp.Owners
import Overlay.Proofs.Dhcp.Proposals
import Overlay.Proofs.Dhcp.Provision
import Overlay.Proofs.Dhcp.Repetition
import Overlay.Proofs.Dhcp.Retreat
import Overlay.Proofs.Dhcp.Switches
import Overlay.Proofs.Dhcp.Teardown
import Overlay.Proofs.Dhcp.Trail
import Overlay.Proofs.Dhcp.Updating
import Overlay.Proofs.Locks
import Overlay.Proofs.Records
import Overlay.Proofs.Router.Absence
import Overlay.Proofs.Router.Compensation
import Overlay.Proofs.Router.Downlinks
import Overlay.Proofs.Router.Links
import Overlay.Proofs.Router.Memory
import Overlay.Proofs.Router.Unlinking
import Overlay.Proofs.Settings
import Overlay.Proofs.Store.ReadBack
import Overlay.Router.Gateway
import Overlay.Router.Interface
import Overlay.Schedule
