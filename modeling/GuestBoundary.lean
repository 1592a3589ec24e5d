import GuestBoundary.Capability
import GuestBoundary.Guest
import GuestBoundary.Script
import GuestBoundary.Settings.Reader
import GuestBoundary.Proofs.Calls
import GuestBoundary.Proofs.HostFunctions
import GuestBoundary.Proofs.OutSlots
import GuestBoundary.Proofs.Reentrancy
import GuestBoundary.Proofs.Lifecycle
import GuestBoundary.Proofs.Instantiation
import GuestBoundary.Proofs.Arguments
import GuestBoundary.Proofs.InnerFaults
import GuestBoundary.Proofs.BoundaryTypes
import GuestBoundary.Proofs.Buffers
import GuestBoundary.Proofs.Ownership
import GuestBoundary.Proofs.CallingContext
import GuestBoundary.Proofs.Interface
import GuestBoundary.Proofs.Isolation
import GuestBoundary.Proofs.GuestLog
import GuestBoundary.Proofs.NameIndependence
import GuestBoundary.Proofs.AllocationReasons
import GuestBoundary.Proofs.CopyIn
import GuestBoundary.Proofs.SystemSwitch
import GuestBoundary.Proofs.Tireless
import GuestBoundary.Proofs.Charges
import GuestBoundary.Proofs.Fuel
import GuestBoundary.Proofs.Json.Grammar
import GuestBoundary.Proofs.Json.Passing
import GuestBoundary.Proofs.Json.Reading
import GuestBoundary.Proofs.Json.Records
import GuestBoundary.Proofs.Json.Writing
import GuestBoundary.Proofs.SettingsText
import GuestBoundary.Proofs.Release
import GuestBoundary.Proofs.Conversation
import GuestBoundary.Proofs.Spellings
import GuestBoundary.Proofs.ImportResolution
import GuestBoundary.Proofs.Namespaces
import GuestBoundary.Proofs.Text.Decoding
import GuestBoundary.Proofs.BoundaryText
import GuestBoundary.Proofs.RegionAccess
import GuestBoundary.Proofs.ResultForms
