import Autopilot.Decimal.Fixed
import Autopilot.Script.File
import Autopilot.Sweep

/-!
# Result files

The texts that are written about a flight and about a sweep, each as a table with a line for every
row and commas between the cells, and as a JSON document that also holds the script.
-/

namespace Autopilot

/-! ### Tables -/

/-- The text of a table. -/
def tableText (rows : List (List String)) : String :=
  String.join (rows.map fun cells => ",".intercalate cells ++ "\n")

/-- A cell with an integer. -/
def intCell (n : Int) : String :=
  (Numeral.ofInt n).text

/-- A cell with a flag. -/
def flagCell (b : Bool) : String :=
  if b then "1" else "0"

/-- The first row of the table of a flight. -/
def Trace.header : List String :=
  ["time", "true_alt_cm", "true_vel_cm_s", "est_alt_cm", "est_vario_cm_s", "setpoint_cm",
    "correction", "integrator", "throttle", "pitch", "baro_hold", "ranger_hold", "stick_override"]

/-- The row of a sample. -/
def Trace.row? (t : Trace) (i : Nat) : Option (List String) := do
  return [
    fixed 3 (← t.time[i]?), fixed 1 (← t.altitude[i]?), fixed 1 (← t.velocity[i]?),
    intCell (← t.estimate[i]?).toInt, intCell (← t.vario[i]?).toInt,
    intCell (← t.setpoint[i]?).toInt, intCell (← t.correction[i]?).toInt,
    intCell (← t.integral[i]?).toInt, intCell (← t.throttle[i]?).toInt,
    intCell (← t.pitch[i]?).toInt, flagCell (← t.baroHold[i]?), flagCell (← t.rangerHold[i]?),
    flagCell (← t.displaced[i]?)]

/-- The table of a flight. -/
def Trace.table (t : Trace) : String :=
  tableText (Trace.header :: (List.range t.size).filterMap t.row?)

/-- The row of a gain.  Without a settled hold it has no errors. -/
def SweepRow.cells (r : SweepRow) : List String :=
  match r.accuracy with
  | some a => [intCell r.gain.toNat, intCell a.samples, fixed 2 a.worst, fixed 2 a.rms]
  | none => [intCell r.gain.toNat, "0", "", ""]

/-- The table of a sweep. -/
def Sweep.table (s : Sweep) : String :=
  tableText (["vel_p", "samples", "max_abs_error_cm", "rms_error_cm"] :: s.rows.map SweepRow.cells)

/-! ### Documents -/

/-- The value of an accuracy. -/
def Accuracy.toJson (a : Accuracy) : Json :=
  .fields [
    ("samples", .int a.samples),
    ("max_abs_error_cm", .double a.worst),
    ("rms_error_cm", .double a.rms)]

/-- The value of a column. -/
def Json.column {α : Type} (write : α → Json) (column : Array α) : Json :=
  .array (column.toList.map write)

/-- The members of the columns of a trace. -/
def Trace.members (t : Trace) : List (String × Json) :=
  [("time", .column .double t.time),
    ("true_alt_cm", .column .double t.altitude),
    ("true_vel_cm_s", .column .double t.velocity),
    ("est_alt_cm", .column (fun n => .int n.toInt) t.estimate),
    ("est_vario_cm_s", .column (fun n => .int n.toInt) t.vario),
    ("setpoint_cm", .column (fun n => .int n.toInt) t.setpoint),
    ("throttle", .column (fun n => .int n.toInt) t.throttle),
    ("pitch", .column (fun n => .int n.toInt) t.pitch),
    ("correction", .column (fun n => .int n.toInt) t.correction),
    ("integrator", .column (fun n => .int n.toInt) t.integral),
    ("baro_hold", .column .bool t.baroHold),
    ("ranger_hold", .column .bool t.rangerHold),
    ("stick_override", .column .bool t.displaced),
    ("excursion", .column .bool t.disturbed)]

/-- The value of a log. -/
def FlightLog.toJson (log : FlightLog) : Json :=
  .fields (log.trace.members ++ [
    ("engaged_at_s", .option .double log.engagedAt),
    ("stats", .option Accuracy.toJson log.accuracy)])

/-- The document of a flight. -/
def FlightLog.document (s : Script) (log : FlightLog) : String :=
  (Json.fields [("scenario", s.toJson), ("result", log.toJson)]).sorted.pretty

/-- The value of a row of a sweep. -/
def SweepRow.toJson (r : SweepRow) : Json :=
  .fields [("vel_p", .int r.gain.toNat), ("stats", .option Accuracy.toJson r.accuracy)]

/-- The document of a sweep. -/
def Sweep.document (s : Script) (sweep : Sweep) : String :=
  (Json.fields [
    ("scenario", s.toJson),
    ("runs", .array (sweep.rows.map SweepRow.toJson))]).sorted.pretty

end Autopilot
