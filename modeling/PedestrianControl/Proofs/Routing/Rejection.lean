import PedestrianControl.Proofs.Routing.Loading
import PedestrianControl.Proofs.Routing.Upload

/-!
# Files that are sent and refused

A file is stored before anybody looks whether it is a scenario. Where it is refused before anything is written, for its
name or because no file can be at the place for it, all files are as before. A file store knows no write that fails
half-way, so that is the only way in which storing fails. Where it is refused for what it says, it has taken its
place in the data directory already, whatever was there (`Router.route_sendFile_refused`), and a scenario that could be
loaded is lost (`Router.exists_overwritten_scenario`).
-/

namespace PedestrianControl

/-! ## Files -/

namespace FileStore

variable {s before after : FileStore} {location : Location} {path : String}

/-- The content of the file at a location. -/
def file? (s : FileStore) (location : Location) : Option (List UInt8) :=
  match s.at? location with
  | some (.file content) => some content
  | _ => none

/-- New directories are no files, and nothing makes way for them. -/
theorem Grows.file?_eq (h : Grows path before after) (location : Location) :
    after.file? location = before.file? location := by
  rcases h.at?_cases location with hsame | ⟨hnone, hdirectory, -⟩
  · rw [file?, file?, hsame]
  · rw [file?, file?, hnone, hdirectory]

/-- A file that is written is found with its content, and every other file as it was. -/
theorem file?_set_file {file : Location} (hfile : file ≠ []) (content : List UInt8) :
    (s.set file (.file content)).file? location =
      if location = file then some content else s.file? location := by
  by_cases h : location = file
  · rw [if_pos h, h, file?, at?_set_self hfile]
  · rw [if_neg h, file?, file?, at?_set_of_ne h]

end FileStore

/-! ## Sending -/

namespace Router

open FileStore

/-- Where a file that was sent is refused, either all files are as before, or it is no scenario. Then the refusal
says so, and of all files only the one in the data directory that the last component of the name is for can be
another, or new: it holds what was sent. -/
theorem route_sendFile_refused (r : Router World) (name content : String) (subs : Subscriptions)
    (shared : Shared World)
    (herror : (r.route (.sendFile name content) subs shared).response.status.result = .error) :
    let routed := r.route (.sendFile name content) subs shared
    let before := shared.files
    let after := routed.shared.files
    (∀ location, after.file? location = before.file? location) ∨
      ∃ fault file directory, Scenario.parse content = .error fault ∧
        routed.response = .error .sendFile (Error.scenario fault).message ∧
        Path.LastName name file ∧ after.LeadsTo r.dataDirectory directory ∧
        ∀ location, after.file? location =
          if location = directory ++ [file] then some (Utf8.encode content)
          else before.file? location := by
  intro routed before after
  have hresponse : routed.response =
      acknowledge .sendFile (r.storeAndLoad name content shared).1 := rfl
  have hafter : after = (r.storeAndLoad name content shared).2.files := rfl
  by_cases hname : ∃ file, Path.LastName name file
  · obtain ⟨file, hfile⟩ := hname
    obtain ⟨made, hgrows, ⟨e, hfailed⟩ | ⟨directory, hleads, hat, -, hloaded⟩⟩ :=
      r.storeAndLoad_stages hfile content shared
    · rw [hafter, hfailed]
      exact .inl hgrows.file?_eq
    · rw [hloaded] at hafter hresponse
      cases hparse : Scenario.parse content with
      | ok s =>
        rw [loadScenario_of_parse hparse] at hresponse
        cases (congrArg (·.status.result) hresponse).symm.trans herror
      | error fault =>
        rw [loadScenario_of_fault hparse] at hafter hresponse
        dsimp only at hafter
        refine .inr ⟨fault, file, directory, rfl, hresponse, hfile, ?_, fun location => ?_⟩
        · rw [hafter]
          exact hleads.of_keeps rfl (keeps_set hat _)
        · rw [hafter, file?_set_file (by simp), hgrows.file?_eq]
  · rw [hafter, storeAndLoad_of_nameless fun file hfile => hname ⟨file, hfile⟩]
    exact .inl fun _ => rfl

/-- A directory has the name of the file. The scenario sent is a good one, and it is refused. -/
theorem route_sendFile_refused_directory :
    let r : Router World := ⟨.standard, "data"⟩
    let files := (((FileStore.inDirectory ["srv"]).set ["srv", "data"] .directory).set
      ["srv", "data", "walk"] .directory).set ["srv", "data", "other"] (.file [0x23])
    let shared : Shared World := ⟨⟨World.empty ⟨0x3FD999999999999A⟩, 0, 0, .running⟩, files⟩
    (r.route (.sendFile "walk" "pedestrian 1 0 0 1 5 0") .empty shared).response.status.result = .error ∧
      shared.files.file? ["srv", "data", "other"] = some [0x23] ∧
      ∀ location, (r.route (.sendFile "walk" "pedestrian 1 0 0 1 5 0") .empty
        shared).shared.files.file? location = shared.files.file? location := by
  intro r files shared
  have herror : (r.route (.sendFile "walk" "pedestrian 1 0 0 1 5 0") .empty
      shared).response.status.result = .error := by decide +kernel
  refine ⟨herror, by decide +kernel, ?_⟩
  rcases route_sendFile_refused r "walk" "pedestrian 1 0 0 1 5 0" .empty shared herror with
    hsame | ⟨fault, -, -, hparse, -⟩
  · exact hsame
  · have hread : (Scenario.parse "pedestrian 1 0 0 1 5 0").toBool = true := by decide +kernel
    rw [hparse] at hread
    cases hread

/-- A client sends what is no scenario, under the name of one that is stored and can be loaded. The client is
refused, and the scenario is gone. -/
theorem exists_overwritten_scenario :
    let r : Router World := ⟨.standard, "data"⟩
    let walk : Location := ["srv", "data", "walk.txt"]
    let files := ((FileStore.inDirectory ["srv"]).set ["srv", "data"] .directory).set walk
      (.file (Utf8.encode "pedestrian 1 0 0 1 5 0"))
    let shared : Shared World := ⟨⟨World.empty ⟨0x3FD999999999999A⟩, 0, 0, .running⟩, files⟩
    let routed := r.route (.sendFile "walk.txt" "pedestrian one two") .empty shared
    let result (shared : Shared World) :=
      (r.route (.load ["data/walk.txt"]) .empty shared).response.status.result
    routed.response.status.result = .error ∧ result shared = .ok ∧
      files.file? walk = some (Utf8.encode "pedestrian 1 0 0 1 5 0") ∧
      routed.shared.files.file? walk = some (Utf8.encode "pedestrian one two") ∧
      result routed.shared = .error := by
  decide +kernel

end Router

end PedestrianControl
