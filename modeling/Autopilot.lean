import Autopilot.Attitude
import Autopilot.Bounds
import Autopilot.Cli.FileTree
import Autopilot.Cli.Flags
import Autopilot.Cli.Help
import Autopilot.Cli.Line
import Autopilot.Cli.Log
import Autopilot.Cli.Path
import Autopilot.Cli.Plan
import Autopilot.Cli.Program
import Autopilot.Cli.Session
import Autopilot.Cli.Simulation
import Autopilot.Cli.Value
import Autopilot.Command
import Autopilot.Craft
import Autopilot.Decimal.Fixed
import Autopilot.Decimal.Numeral
import Autopilot.Decimal.Reading
import Autopilot.Decimal.Scaled
import Autopilot.Decimal.Shortest
import Autopilot.Engagement
import Autopilot.Flight
import Autopilot.Fusion
import Autopilot.HoldLoop
import Autopilot.Instruments
import Autopilot.Json.Check
import Autopilot.Json.Complaint
import Autopilot.Json.Cursor
import Autopilot.Json.Reader
import Autopilot.Json.Record
import Autopilot.Json.Value
import Autopilot.Json.Writer
import Autopilot.Main
import Autopilot.Noise.Normal
import Autopilot.Noise.Stream
import Autopilot.Noise.Ziggurat
import Autopilot.Proofs.Alike
import Autopilot.Proofs.Cadence
import Autopilot.Proofs.Command
import Autopilot.Proofs.Double
import Autopilot.Proofs.Faults
import Autopilot.Proofs.Feedback
import Autopilot.Proofs.Flights
import Autopilot.Proofs.Isolation
import Autopilot.Proofs.Provenance
import Autopilot.Proofs.Reengagement
import Autopilot.Proofs.Regulator
import Autopilot.Proofs.Repetition
import Autopilot.Proofs.Rounding
import Autopilot.Proofs.Runs
import Autopilot.Proofs.ScriptedStick
import Autopilot.Proofs.Stages
import Autopilot.Proofs.StickRate
import Autopilot.Proofs.TickCommand
import Autopilot.Proofs.Tilt
import Autopilot.Proofs.Trace
import Autopilot.Proofs.Word
import Autopilot.Quaternion
import Autopilot.Readings
import Autopilot.Regulator
import Autopilot.Report
import Autopilot.Scalar
import Autopilot.Script
import Autopilot.Script.File
import Autopilot.Settings
import Autopilot.Settings.File
import Autopilot.Settings.Form
import Autopilot.Sweep
import Autopilot.Text.Quoted
import Autopilot.Text.Unseen
import Autopilot.Trace
import Autopilot.Word
import Autopilot.Proofs.FloatOrder
import Autopilot.Proofs.Clock
import Autopilot.Proofs.SensorCalls
import Autopilot.Proofs.AccelSamples
import Autopilot.Proofs.Setpoint
import Autopilot.Proofs.RangerReach
import Autopilot.Proofs.HoldRecord
import Autopilot.Proofs.Numerals
import Autopilot.Proofs.JsonText
import Autopilot.Proofs.Narrowing
import Autopilot.Proofs.Shortest
import Autopilot.Proofs.NearTies
import Autopilot.Proofs.SingleText
import Autopilot.Proofs.SettingsFile
import Autopilot.Proofs.ExactResponse
import Autopilot.Proofs.Windup
import Autopilot.Proofs.Opposite
import Autopilot.Proofs.RateGate
import Autopilot.Proofs.Objections
import Autopilot.Proofs.BaroFlights
import Autopilot.Proofs.SweepSummary
import Autopilot.Proofs.Sweeps
import Autopilot.Proofs.Mirror
import Autopilot.Proofs.SingleArithmetic
import Autopilot.Proofs.PartialSettings
import Autopilot.Proofs.RangerBlend
import Autopilot.Proofs.Refusals
import Autopilot.Proofs.RangerBand
import Autopilot.Proofs.DoubleArithmetic
import Autopilot.Proofs.GainSpacing
import Autopilot.Proofs.VelocityGain
import Autopilot.Proofs.RoundEven
import Autopilot.Proofs.GroundContact
import Autopilot.Proofs.SplitAccuracy
