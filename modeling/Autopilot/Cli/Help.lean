/-!
# Help

`Help.lines` is what is printed for those who ask for help on a `Help.Topic`.
-/

namespace Autopilot.Cli.Help

/-- What help is asked for. -/
inductive Topic where
  /-- The program as a whole. -/
  | program
  /-- How to ask for a simulation. -/
  | run
  /-- How to ask for the default settings. -/
  | settings
  /-- How to ask for help. -/
  | help
  /-- The flags of a simulation. -/
  | flags
deriving DecidableEq, Repr

/-- The topic with a name. -/
def Topic.ofName? : String → Option Topic
  | "run" => some .run
  | "config" => some .settings
  | "help" => some .help
  | _ => none

/-- The flags of a simulation, each with a line about it. -/
def flagLines : List (String × String) :=
  [("-o, --output-dir <OUTPUT_DIR>", "Output directory [default: output]"),
    ("-f, --format <FORMAT>", "Output file format [default: csv] [possible values: csv, json]"),
    ("-c, --config <CONFIG>",
      "Controller configuration (JSON). Missing sections keep their defaults"),
    ("    --duration <DURATION>", "[default: 30]"),
    ("    --hold-at <HOLD_AT>", "Time the hold switch is flipped on (s) [default: 5]"),
    ("    --source <SOURCE>", "[default: baro] [possible values: baro, ranger]"),
    ("    --airframe <AIRFRAME>",
      "Overrides the airframe from the config file [possible values: multirotor, fixed-wing]"),
    ("    --stick-excursion <STICK_EXCURSION>",
      "Stick away from the hold baseline: START,END,OFFSET_US"),
    ("    --tilt-excursion <TILT_EXCURSION>", "Hard bank: START,END,ROLL_DEG"),
    ("    --slow-change",
      "Stick outside the deadband commands a climb rate instead of throttle"),
    ("    --mass <MASS>", "[default: 1]"),
    ("    --max-thrust <MAX_THRUST>", "[default: 19.6133]"),
    ("    --drag-coeff <DRAG_COEFF>", "[default: 0.3]"),
    ("    --gravity <GRAVITY>", "[default: 9.80665]"),
    ("    --seed <SEED>", "[default: 42]"),
    ("    --noise-scale <NOISE_SCALE>", "[default: 1]"),
    ("    --ranger", "Fit the downward ranger"),
    ("    --no-accel", ""),
    ("    --sweep-vel-p <SWEEP_VEL_P>",
      "Sweep the velocity P gain over FIRST,LAST instead of a single run"),
    ("    --sweep-steps <SWEEP_STEPS>", "[default: 5]"),
    ("-h, --help", "Print help"),
    ("-V, --version", "Print version")]

/-- The lines of help on a topic. -/
def lines : Topic → List String
  | .program =>
    ["Altitude-hold estimator and controller, flown in simulation",
      "",
      "Usage: althold <COMMAND>",
      "",
      "Commands:",
      "  run     Fly a scenario or a gain sweep",
      "  config  Print the default controller configuration as JSON",
      "  help    Print this message or the help of the given subcommand(s)",
      "",
      "Options:",
      "  -h, --help     Print help",
      "  -V, --version  Print version"]
  | .run =>
    ["Fly a scenario or a gain sweep",
      "",
      "Usage: althold run [ARGS]...",
      "",
      "Arguments:",
      "  [ARGS]...  Pass remaining arguments to althold-cli",
      "",
      "Options:",
      "  -h, --help  Print help"]
  | .settings =>
    ["Print the default controller configuration as JSON",
      "",
      "Usage: althold config",
      "",
      "Options:",
      "  -h, --help  Print help"]
  | .help =>
    ["Print this message or the help of the given subcommand(s)",
      "",
      "Usage: althold help [COMMAND]...",
      "",
      "Arguments:",
      "  [COMMAND]...  Print help for the subcommand(s)"]
  | .flags =>
    ["Closed-loop altitude-hold simulator",
      "",
      "Usage: althold-cli [OPTIONS]",
      "",
      "Options:"] ++
    flagLines.flatMap fun (flag, about) => ["  " ++ flag, "          " ++ about]

end Autopilot.Cli.Help
