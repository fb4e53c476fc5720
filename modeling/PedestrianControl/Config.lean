import PedestrianControl.Error

/-!
# Configurations

The settings of a server, their usual values, and the check that they make sense.
-/

namespace PedestrianControl

/-- The settings of a server. -/
structure Config where
  listenAddress : String
  /-- How many sessions are served at a time. -/
  maxConnections : Nat
  /-- Milliseconds of silence after which a session ends; none if zero. -/
  readTimeout : Nat
  /-- Milliseconds after which a reply is given up; none if zero. -/
  writeTimeout : Nat
  /-- The greatest length of a frame. -/
  maxFrameSize : Nat
  /-- Milliseconds that open sessions are given when the server stops. -/
  shutdownGrace : Nat
  stepLength : Double
  /-- Milliseconds between steps of a driver that runs by itself; zero for one that waits for requests. -/
  stepInterval : Nat
  /-- The scenario file to start with. -/
  scenario : Option String
  /-- Where files sent by controllers are stored. -/
  dataDirectory : String
deriving DecidableEq, Inhabited, Repr

namespace Config

/-- The usual settings; a step takes 0.4 seconds. -/
def usual : Config where
  listenAddress := "127.0.0.1:9999"
  maxConnections := 16
  readTimeout := 0
  writeTimeout := 0
  maxFrameSize := 16777216
  shutdownGrace := 4000
  stepLength := ⟨0x3FD999999999999A⟩
  stepInterval := 0
  scenario := none
  dataDirectory := "./simtraci_data"

/-- The first setting that makes no sense. -/
def fault? (c : Config) : Option ConfigFault :=
  if c.maxConnections = 0 then some .noConnections
  else if !c.stepLength.isPositive then some (.stepLengthNotPositive c.stepLength)
  else if c.maxFrameSize ≤ 4 then some (.frameTooSmall c.maxFrameSize)
  else none

/-- Checks that the settings make sense. -/
def validate (c : Config) : Except Error Unit :=
  match c.fault? with
  | some fault => .error (.config fault)
  | none => .ok ()

end Config

end PedestrianControl
