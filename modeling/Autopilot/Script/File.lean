import Autopilot.Script
import Autopilot.Settings.File

/-!
# Scripts in result files

`Script.toJson` is the value under which a script stands in the files of a flight.
-/

namespace Autopilot

/-- The value of a movement of the stick. -/
def StickMove.toJson (m : StickMove) : Json :=
  .fields [
    ("start_s", .double m.window.start), ("end_s", .double m.window.stop),
    ("offset", .int m.offset.toInt)]

/-- The value of a bank. -/
def Bank.toJson (b : Bank) : Json :=
  .fields [
    ("start_s", .double b.window.start), ("end_s", .double b.window.stop),
    ("roll_deg", .double b.roll)]

/-- The value of something that may be missing. -/
def Json.option {α : Type} (write : α → Json) : Option α → Json
  | some a => write a
  | none => .null

/-- The value of a script, with the members of all objects in the order of their keys. -/
def Script.toJson (s : Script) : Json :=
  Json.sorted <| .fields [
    ("duration_s", .double s.duration),
    ("loop_hz", .int s.rate.toNat),
    ("takeoff_s", .double s.takeoff),
    ("climb_offset", .int s.climbOffset.toInt),
    ("hold_at_s", .double s.holdAt),
    ("hold_source", .text s.source.label),
    ("stick_bias", .int s.stickBias.toInt),
    ("settle_s", .double s.settle),
    ("stick_excursion", .option StickMove.toJson s.stickMove),
    ("tilt_excursion", .option Bank.toJson s.bank),
    ("config", s.settings.toJsonWith fun weight => .double (widen weight)),
    ("noise_scale", .double s.fitment.noiseScale),
    ("seed", .int s.fitment.seed.toNat)]

end Autopilot
