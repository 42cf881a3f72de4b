import DeviceOnboard.Admission.Webhook
import DeviceOnboard.Api.Discovery
import DeviceOnboard.CommandLine.Settings
import DeviceOnboard.Main
import DeviceOnboard.Simulation.Script
import DeviceOnboard.Simulation.Timeline
import DeviceOnboard.Proofs.DialogueRuns
import DeviceOnboard.Proofs.TaskRuns
import DeviceOnboard.Proofs.AdmissionAgreement
import DeviceOnboard.Proofs.CycleRuns
import DeviceOnboard.Proofs.SharedChildren
import DeviceOnboard.Proofs.DecodedMembers
import DeviceOnboard.Proofs.TimeText
import DeviceOnboard.Proofs.StoredStatus
import DeviceOnboard.Proofs.SettledStatus
import DeviceOnboard.Proofs.RepeatedCycles
import DeviceOnboard.Proofs.YamlDocuments
import DeviceOnboard.Proofs.OutcomeHistory
import DeviceOnboard.Proofs.PlannedSteps
import DeviceOnboard.Proofs.JsonText
import DeviceOnboard.Proofs.AdmissionAnswers
import DeviceOnboard.Proofs.RecordedOutcomes
import DeviceOnboard.Proofs.LaggingCache
import DeviceOnboard.Proofs.PodReferences
import DeviceOnboard.Proofs.ListingOrder
import DeviceOnboard.Proofs.OwnedChildren
import DeviceOnboard.Proofs.ClaimRaces
import DeviceOnboard.Proofs.WrittenSpecs
import DeviceOnboard.Proofs.AdmittedSpecs
import DeviceOnboard.Controller.Process
import DeviceOnboard.Proofs.RouteHosts
import DeviceOnboard.Proofs.CanonicalAddresses
import DeviceOnboard.Proofs.FileOwners
import DeviceOnboard.Proofs.GracefulShutdown
import DeviceOnboard.Proofs.BuiltConfigurations
import DeviceOnboard.Proofs.ServerPods
import DeviceOnboard.Proofs.FileDescriptors
