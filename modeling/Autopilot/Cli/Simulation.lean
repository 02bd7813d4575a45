import Autopilot.Cli.Plan

/-!
# Simulations

`Flags.simulate` flies or sweeps the script that the flags ask for, and gives a `Simulation`: the
lines that are said about it, and the text that is to be written to a file.
-/

namespace Autopilot.Cli

/-! ### Simulations -/

/-- How a session ends. -/
inductive Ending where
  | finished
  | failed (failure : Failure)
  | stopped (fault : Fault)
deriving Repr

/-- The result of a simulation: a text for a file, and the lines that close the session when it has
been written. -/
structure Product where
  name : String
  text : String
  /-- The closing lines for the path of the file. -/
  closing : String → List String

/-- What a simulation says, and its result. -/
structure Simulation where
  lines : List String
  product : Except Ending Product

/-- The first lines of every session. -/
def banner : List String :=
  ["Althold Simulator", "=================", ""]

/-- What is said before a flight. -/
def announcement (s : Script) : String :=
  "Running " ++ s.settings.airframe.label ++ " scenario (" ++ s.source.label ++ " hold at " ++
    fixed 1 s.holdAt ++ " s)..."

/-- The greatest altitude of a flight in metres. -/
def greatestAltitude (t : Trace) : Float :=
  t.altitude.foldl Trace.larger (-1.0 / 0.0) / 100.0

/-- What is said after a flight. -/
def summary (log : FlightLog) : List String :=
  ["",
    "Hold Stats:",
    "  Samples:     " ++ intCell log.trace.size,
    "  Max Alt:     " ++ fixed 1 (greatestAltitude log.trace) ++ " m",
    match log.engagedAt with
      | some t => "  Engaged:     " ++ fixed 3 t ++ " s"
      | none => "  Engaged:     never"] ++
  (match log.accuracy with
    | some a =>
      ["  Max Error:   " ++ fixed 1 a.worst ++ " cm", "  RMS Error:   " ++ fixed 1 a.rms ++ " cm"]
    | none => []) ++
  ["-----------------------------"]

/-- A file name with the ending of its format. -/
def Format.fileName (format : Format) (stem : String) : String :=
  match format with
  | .csv => stem ++ ".csv"
  | .json => stem ++ ".json"

/-- A single flight. -/
def singleFlight (format : Format) (s : Script) : Simulation :=
  match s.fly with
  | .error e => { lines := [announcement s], product := .error (.failed (.flight e)) }
  | .ok (.error fault) => { lines := [announcement s], product := .error (.stopped fault) }
  | .ok (.ok log) => {
      lines := announcement s :: summary log
      product := .ok {
        name := format.fileName "hold"
        text := match format with
          | .csv => log.trace.table
          | .json => log.document s
        closing := fun path => ["Data written to " ++ path] } }

/-- A number in three columns. -/
def threeColumns (n : Nat) : String :=
  let digits := Nat.toDigits 10 n
  String.ofList (.replicate (3 - digits.length) ' ' ++ digits)

/-- What is said after a flight of a sweep. -/
def rowLine (count index : Nat) (row : SweepRow) : String :=
  "Run " ++ intCell (index + 1) ++ "/" ++ intCell count ++ " | Vel P: " ++
    threeColumns row.gain.toNat ++ " -> " ++
    match row.accuracy with
    | some a => "max error " ++ fixed 1 a.worst ++ " cm, RMS " ++ fixed 1 a.rms ++ " cm"
    | none => "hold never settled"

/-- A sweep over some gains. -/
def sweepFlights (format : Format) (s : Script) (gains : List UInt8) : Simulation :=
  let sweep := s.sweep gains
  { lines :=
      ("Sweeping velocity P over [" ++
        ", ".intercalate (gains.map fun gain => intCell gain.toNat) ++ "]") ::
      sweep.rows.mapIdx (rowLine gains.length)
    product := match sweep.ending with
      | .refused gain e => .error (.failed (.sweepFlight gain e))
      | .stopped fault => .error (.stopped fault)
      | .complete => .ok {
          name := format.fileName "sweep_summary"
          text := match format with
            | .csv => sweep.table
            | .json => sweep.document s
          closing := fun path => ["", "Sweep complete. Summary at " ++ path] } }

/-- The simulation that the flags ask for. -/
def Flags.simulate (flags : Flags) (read : String → Except FileError String) : Simulation :=
  let simulation : Simulation :=
    match flags.script read with
    | .error failure => { lines := [], product := .error (.failed failure) }
    | .ok s =>
      match flags.sweep with
      | none => singleFlight flags.format s
      | some (first, last) =>
        if flags.sweepSteps = 0 then
          { lines := [], product := .error (.failed .noSweepSteps) }
        else
          match listGains first last flags.sweepSteps with
          | .error fault => { lines := [], product := .error (.stopped fault) }
          | .ok gains => sweepFlights flags.format s gains
  { simulation with lines := banner ++ simulation.lines }

end Autopilot.Cli
