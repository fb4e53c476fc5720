import PedestrianControl.CommandLine.ServerProgram
import PedestrianControl.Proofs.Double.Comparison
import PedestrianControl.Proofs.Server.Evolution
import PedestrianControl.Proofs.World.StepLength

/-!
# The step length of a server

A step length reaches a server from a configuration file, an argument, a scenario or a controller. The configuration is
checked after the arguments have been applied, whatever its file said and however that was read, and the others are
checked where they are read.
So the step length is positive when the server starts, and it stays so whatever happens
(`CommandLine.ServerProgram.stepLength_positive`).
-/

namespace PedestrianControl

/-- Settings that make sense have a positive step length. -/
theorem Config.isPositive_of_validate {c : Config} (h : c.validate = .ok ()) : c.stepLength.isPositive = true := by
  rw [validate] at h
  split at h
  · cases h
  · rename_i hfault
    rw [fault?] at hfault
    split at hfault
    · cases hfault
    · split at hfault
      · cases hfault
      · rename_i hpositive
        simpa using hpositive

namespace CommandLine.ServerProgram

variable {read : Toml.Reader} {files : FileStore} {m : Matched} {c : Config} {w : World} {line : String}

/-- Whether or not there is a configuration file, what the program goes on with has been checked. -/
theorem validate_of_config (h : config read files m = .ok c) : c.validate = .ok () := by
  rw [config] at h
  split at h <;>
  · obtain ⟨base, -, h⟩ := Except.eq_ok_of_bind_eq_ok h
    obtain ⟨⟨⟩, hvalidate, h⟩ := Except.eq_ok_of_bind_eq_ok h
    cases h
    exact hvalidate

/-- The world a server starts with has a positive step length if the configuration has. -/
theorem isPositive_of_world (h : world files c = .ok (w, line)) (hc : c.stepLength.isPositive = true) :
    w.stepLength.isPositive = true := by
  rw [world] at h
  split at h
  · cases h
    exact hc
  · split at h
    · cases h
    · obtain ⟨loaded, hload, h⟩ := Except.eq_ok_of_bind_eq_ok h
      cases h
      exact World.isPositive_stepLength_of_load hload hc

/-- Take any configuration that the program accepts, with any reader of documents, and any world that it then starts
with, and a server that has been bound to them. Whatever bytes arrive on whatever connections, one frame after the
other or several at a time, whatever drivers do in between and whatever becomes of the files, the step length of the
simulation is positive, and so it is a number. -/
theorem stepLength_positive {configFiles scenarioFiles : FileStore} (hconfig : config read configFiles m = .ok c)
    (hworld : world scenarioFiles c = .ok (w, line)) (files : FileStore) (happenings : List Server.Happening) :
    let server : Server World := ⟨c, ⟨.standard, c.dataDirectory⟩, ⟨.fresh w, files⟩, []⟩
    let stepLength := (server.undergoAll happenings).shared.bridge.state.stepLength
    stepLength.isPositive = true ∧ stepLength.isNaN = false := by
  intro server stepLength
  have hconfigured : c.stepLength.isPositive = true := Config.isPositive_of_validate (validate_of_config hconfig)
  have hstart : w.stepLength.isPositive = true := isPositive_of_world hworld hconfigured
  have hpositive : stepLength.isPositive = true :=
    World.isPositive_stepLength_of_evolves (server.evolves_undergoAll happenings) hstart
  exact ⟨hpositive, Double.isNaN_eq_false_of_isPositive hpositive⟩

/-- The step length is that of the argument, which takes the place of that in the configuration file, for the scenario
gives none. A controller's NaN and negative zero and a scenario's zero are refused, and then a half is taken. -/
theorem stepLength_positive_tuned :
    let m : Matched := ⟨[("config", "settings"), ("scenario", "walk"), ("step-length", "0.25")], [], []⟩
    let files : FileStore :=
      { entries := [(["settings"], .file (Utf8.encode "step_length = 0.75")),
          (["walk"], .file (Utf8.encode "pedestrian 1 0 0 1 5 0"))]
        workingDirectory := [] }
    let nan : Bytes := [0, 0, 0, 20, 16, 0xCB, 0x7B, 0, 0, 0, 0, 0x0B, 0x7F, 0xF8, 0, 0, 0, 0, 0, 0]
    let negativeZero : Bytes := [0, 0, 0, 20, 16, 0xCB, 0x7B, 0, 0, 0, 0, 0x0B, 0x80, 0, 0, 0, 0, 0, 0, 0]
    let half : Bytes := [0, 0, 0, 20, 16, 0xCB, 0x7B, 0, 0, 0, 0, 0x0B, 0x3F, 0xE0, 0, 0, 0, 0, 0, 0]
    let refused : List Server.Happening :=
      [.driver .attach, .connection (.opened 1), .connection (.arrived 1 nan),
        .connection (.arrived 1 negativeZero), .part (.load "still" "step_length 0")]
    let taken : List Server.Happening := refused ++ [.connection (.arrived 1 half)]
    let read : Toml.Reader := fun _ => .ok [("step_length", .float ⟨0x3FE8000000000000⟩)]
    ∃ c w line, config read files m = .ok c ∧ world files c = .ok (w, line) ∧ w.crowd.size = 1 ∧
      let server : Server World := ⟨c, ⟨.standard, c.dataDirectory⟩, ⟨.fresh w, files⟩, []⟩
      let stepLength := (server.undergoAll taken).shared.bridge.state.stepLength
      (server.undergoAll refused).shared.bridge.state.stepLength = ⟨0x3FD0000000000000⟩ ∧
        stepLength = ⟨0x3FE0000000000000⟩ ∧ stepLength.isPositive = true ∧ stepLength.isNaN = false := by
  intro m files nan negativeZero half refused taken read
  let c : Config := { Config.usual with stepLength := ⟨0x3FD0000000000000⟩, scenario := some "walk" }
  let server (w : World) : Server World := ⟨c, ⟨.standard, c.dataDirectory⟩, ⟨.fresh w, files⟩, []⟩
  let lengthAfter (w : World) (happenings : List Server.Happening) : Double :=
    ((server w).undergoAll happenings).shared.bridge.state.stepLength
  have hconfig : config read files m = .ok c := Except.eq_ok_of_toOption (by decide +kernel)
  have hrun : (world files c).toOption.any (fun found => found.1.crowd.size = 1 ∧
      lengthAfter found.1 refused = ⟨0x3FD0000000000000⟩ ∧
        lengthAfter found.1 taken = ⟨0x3FE0000000000000⟩) = true := by
    decide +kernel
  obtain ⟨⟨w, line⟩, hfound, hlengths⟩ := (Option.any_eq_true _ _).1 hrun
  obtain ⟨hsize, hrefused, htaken⟩ := of_decide_eq_true hlengths
  have hworld : world files c = .ok (w, line) := Except.eq_ok_of_toOption hfound
  dsimp only [lengthAfter, server] at hrefused htaken
  exact ⟨c, w, line, hconfig, hworld, hsize, hrefused, htaken,
    stepLength_positive hconfig hworld files taken⟩

end CommandLine.ServerProgram

end PedestrianControl
