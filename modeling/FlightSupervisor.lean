import FlightSupervisor.Main
import FlightSupervisor.Session
import FlightSupervisor.Proofs.LinkOwnership
import FlightSupervisor.Proofs.Revocation
import FlightSupervisor.Proofs.ControlLock
import FlightSupervisor.Proofs.Succession
import FlightSupervisor.Proofs.Alarms
import FlightSupervisor.Proofs.ProgramFrames
import FlightSupervisor.Proofs.EmergencyLanding
import FlightSupervisor.Proofs.Admission
import FlightSupervisor.Proofs.MotorsDisarmed
import FlightSupervisor.Proofs.Forecast
import FlightSupervisor.Proofs.FlightTime
import FlightSupervisor.Proofs.Chunking
import FlightSupervisor.Proofs.ValidationReport
import FlightSupervisor.Proofs.AcceptedBounds
import FlightSupervisor.Proofs.ForcedDisarm
import FlightSupervisor.Proofs.Privileges
import FlightSupervisor.Proofs.MoveGuards
import FlightSupervisor.Proofs.PromptStop
import FlightSupervisor.Proofs.Timeline
import FlightSupervisor.Proofs.TimelineKept
import FlightSupervisor.Proofs.Readings
import FlightSupervisor.Proofs.GateAgreement
import FlightSupervisor.Proofs.Refusals
import FlightSupervisor.Proofs.Ingestion
import FlightSupervisor.Proofs.WatchdogSilence
import FlightSupervisor.Proofs.StringLiterals
import FlightSupervisor.Proofs.CommandStream
import FlightSupervisor.Proofs.LastReadings
import FlightSupervisor.Proofs.ParsedDurations
import FlightSupervisor.Proofs.WireFrames
import FlightSupervisor.Proofs.StickMemory
import FlightSupervisor.Proofs.RunRecord
import FlightSupervisor.Proofs.DroppedHandles
import FlightSupervisor.Proofs.LooserPolicies
import FlightSupervisor.Proofs.Reassembly
import FlightSupervisor.Proofs.NumberFields
import FlightSupervisor.Proofs.ThrottleRamps
