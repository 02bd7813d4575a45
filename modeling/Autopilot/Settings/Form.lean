import Autopilot.Json.Check
import Autopilot.Settings.File

/-!
# The form of a settings file

`Settings.form` is the check of a settings file, with a check for each of its sections, and
`Settings.complaint?` gives the first complaint about the text of one.  There is a complaint where
`Settings.parse?` does not read the text.
-/

namespace Autopilot

open Json (Check)

/-- An 8-bit number. -/
def Settings.uint8Form : Check :=
  .integer "u8" 0 255

/-- A 16-bit number. -/
def Settings.uint16Form : Check :=
  .integer "u16" 0 65535

/-- A 16-bit word with sign. -/
def Settings.int16Form : Check :=
  .integer "i16" (-32768) 32767

/-- A single-precision float. -/
def Settings.singleForm : Check :=
  .float "f32"

/-- The gains of an axis. -/
def Gains.form : Check :=
  .record {
    wanted := "struct Gain"
    fields := [
      ("p", Settings.uint8Form), ("i", Settings.uint8Form), ("d", Settings.uint8Form)]
    complete := true }

/-- The gains of both axes. -/
def AxisGains.form : Check :=
  .record {
    wanted := "struct PidGains"
    fields := [("alt", Gains.form), ("vel", Gains.form)]
    complete := true }

/-- The treatment of the throttle stick. -/
def StickPolicy.form : Check :=
  .record {
    wanted := "struct RcControlsConfig"
    fields := [
      ("alt_hold_deadband", Settings.uint8Form), ("alt_hold_fast_change", .boolean)]
    complete := true }

/-- The weights of the complementary filter. -/
def FilterWeights.form : Check :=
  .record {
    wanted := "struct BaroConfig"
    fields := [
      (FilterWeight.altitude.key, Settings.singleForm),
      (FilterWeight.velocity.key, Settings.singleForm)]
    complete := true }

/-- Whether the elevator of a fixed wing is reversed. -/
def Settings.pitchReversedForm : Check :=
  .record {
    wanted := "struct AirplaneConfig"
    fields := [("fixedwing_althold_reversed", .boolean)]
    complete := true }

/-- A range of servo pulses. -/
def PulseRange.form : Check :=
  .record {
    wanted := "struct PwmRange"
    fields := [("min", Settings.int16Form), ("max", Settings.int16Form)]
    complete := true }

/-- An airframe. -/
def Airframe.form : Check :=
  .variant [Airframe.multirotor.key, Airframe.fixedWing.key]

/-- The sections of a settings file, none of which has to be there. -/
def Settings.form : Check :=
  .record {
    wanted := "struct AltHoldConfig"
    fields := [
      ("gains", AxisGains.form),
      ("rc", StickPolicy.form),
      ("baro", FilterWeights.form),
      ("acc_1g", Settings.uint16Form),
      ("airframe", Airframe.form),
      ("airplane", Settings.pitchReversedForm),
      ("pwm_range", PulseRange.form)]
    complete := false }

/-- The first complaint about the text of a settings file. -/
def Settings.complaint? (text : String) : Option Json.Complaint :=
  Settings.form.complaint? text

end Autopilot
