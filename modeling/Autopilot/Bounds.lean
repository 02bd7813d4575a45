/-!
# Bounds of parameters

A `Bounds` value tells between which numbers a parameter of the simulation makes sense, and in which
steps it is varied.  `Bounds.contains` tests a number; nothing that is not finite is inside.
-/

namespace Autopilot

/-- The bounds of a parameter. -/
structure Bounds where
  /-- The name and unit of the parameter. -/
  label : String
  low : Float
  high : Float
  step : Float
deriving Repr

namespace Bounds

/-- Whether a number is finite and between the bounds. -/
def contains (b : Bounds) (x : Float) : Bool :=
  x.isFinite && b.low ≤ x && x ≤ b.high

/-! ### The vehicle -/

def mass : Bounds := ⟨"Mass (kg)", 0.1, 25.0, 0.1⟩

def maxThrust : Bounds := ⟨"Max Thrust (N)", 1.0, 1000.0, 0.5⟩

def drag : Bounds := ⟨"Vertical Drag (N·s/m)", 0.0, 10.0, 0.05⟩

def airspeed : Bounds := ⟨"Airspeed (m/s)", 5.0, 60.0, 1.0⟩

def pitchPerUnit : Bounds := ⟨"Pitch per Unit (°)", 0.001, 0.2, 0.001⟩

def climbLag : Bounds := ⟨"Climb Response (s)", 0.05, 5.0, 0.05⟩

/-! ### The environment -/

def gravity : Bounds := ⟨"Gravity (m/s²)", 1.0, 15.0, 0.1⟩

/-! ### The noise of the sensors -/

def noiseScale : Bounds := ⟨"Noise Scale", 0.0, 10.0, 0.1⟩

def baroNoise : Bounds := ⟨"Baro σ (cm)", 0.0, 200.0, 1.0⟩

def rangerNoise : Bounds := ⟨"Ranger σ (cm)", 0.0, 50.0, 0.5⟩

def accelNoise : Bounds := ⟨"Accel σ (m/s²)", 0.0, 5.0, 0.01⟩

/-! ### The script -/

def duration : Bounds := ⟨"Duration (s)", 1.0, 3600.0, 1.0⟩

def holdAt : Bounds := ⟨"Hold Engage (s)", 0.0, 3600.0, 0.5⟩

def stickOffset : Bounds := ⟨"Stick Offset (µs)", -500.0, 500.0, 10.0⟩

def bank : Bounds := ⟨"Tilt (°)", -90.0, 90.0, 1.0⟩

/-! ### The gains -/

def altitudeProportional : Bounds := ⟨"Alt P", 0.0, 255.0, 1.0⟩

def climbProportional : Bounds := ⟨"Vel P", 0.0, 255.0, 1.0⟩

def climbIntegral : Bounds := ⟨"Vel I", 0.0, 255.0, 1.0⟩

def climbDerivative : Bounds := ⟨"Vel D", 0.0, 255.0, 1.0⟩

end Bounds

end Autopilot
