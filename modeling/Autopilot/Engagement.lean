/-!
# Engagement

Altitude can be held on either of two sources, each with a switch of its own.  `Engagement`
remembers which of them are engaged.  `Engagement.feed` takes one sample of a switch and reports
the `Edge` that it makes; only a rising edge gives a new baseline to the rest of the loop.
-/

namespace Autopilot

/-- The sensor on which altitude is held. -/
inductive Source where
  | baro
  | ranger
deriving DecidableEq, Repr

/-- The name of a source in reports. -/
def Source.label : Source → String
  | .baro => "Baro hold"
  | .ranger => "Ranger hold"

/-- What one sample of a switch does. -/
inductive Edge where
  /-- The switch is off. -/
  | released
  /-- The switch has just been turned on. -/
  | rising
  /-- The switch was on before and stays on. -/
  | steady
deriving DecidableEq, Repr

/-- The edge that the sample `on` makes after the sample `before`. -/
def Edge.of (before on : Bool) : Edge :=
  if !on then .released else if before then .steady else .rising

/-- The sources on which altitude is held. -/
structure Engagement where
  baro : Bool := false
  ranger : Bool := false
deriving DecidableEq, Repr

namespace Engagement

/-- Whether altitude is held on `source`. -/
def holds (e : Engagement) : Source → Bool
  | .baro => e.baro
  | .ranger => e.ranger

/-- Whether altitude is held at all. -/
def any (e : Engagement) : Bool :=
  e.baro || e.ranger

/-- The engagement with `source` turned on or off. -/
def set (e : Engagement) : Source → Bool → Engagement
  | .baro, on => { e with baro := on }
  | .ranger, on => { e with ranger := on }

/-- Takes one sample of the switch of `source`. -/
def feed (e : Engagement) (source : Source) (on : Bool) : Edge × Engagement :=
  (.of (e.holds source) on, e.set source on)

end Engagement

end Autopilot
