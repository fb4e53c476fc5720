import PedestrianControl.Proofs.Files.Stored
import PedestrianControl.Proofs.Routing.Loading
import PedestrianControl.Proofs.Routing.Upload

/-!
# Loading a file that was sent

A scenario that a client sends is stored first and then loaded from what was sent. Who loads it by the path it
is stored under gets the same: what is read there is what was sent, the scenario has the same name, and loading
once more changes nothing (`Router.route_load_sent`).
-/

namespace PedestrianControl.Router

variable {name content : String}

/-- The response to an outcome tells of success exactly if the outcome is one. -/
theorem result_acknowledge_eq_ok_iff {o : Opcode} {outcome : Except Error Unit} :
    (acknowledge o outcome).status.result = .ok ↔ outcome = .ok () := by
  cases outcome with
  | ok done => exact iff_of_true rfl rfl
  | error e => exact iff_of_false nofun nofun

/-- A file that was stored and loaded is read under the path of its name in the data directory, and loading it was
loading the text from there. -/
theorem storeAndLoad_eq_ok {σ : Type} [Simulation σ] {r : Router σ} {shared sent : Shared σ}
    (h : r.storeAndLoad name content shared = (.ok (), sent)) :
    ∃ file, Path.LastName name file ∧
      let path := Path.join r.dataDirectory file
      sent.files.readText path = .ok content ∧
        ∃ stored : Shared σ, loadScenario (scenarioName path) content stored = (.ok (), sent) := by
  by_cases hname : ∃ file, Path.LastName name file
  · obtain ⟨file, hfile⟩ := hname
    obtain ⟨made, -, ⟨e, hfailed⟩ | ⟨directory, -, -, hwrite, hload⟩⟩ :=
      r.storeAndLoad_stages hfile content shared
    · cases hfailed.symm.trans h
    · have hloaded := hload.symm.trans h
      refine ⟨file, hfile, ?_, _, hloaded⟩
      have hfiles := files_loadScenario (scenarioName (Path.join r.dataDirectory file)) content
        { shared with files := made.set (directory ++ [file]) (.file (Utf8.encode content)) }
      rw [hloaded] at hfiles
      rw [show sent.files = _ from hfiles]
      exact FileStore.readText_of_write hwrite
  · rw [storeAndLoad_of_nameless fun file hfile => hname ⟨file, hfile⟩] at h
    cases h

/-- Once a file was sent and the answer was good, it can be loaded by the path that it has in the data directory,
whatever else the command for that holds. The answer is good again, and everything is as sending has left it. -/
theorem route_load_sent (r : Router World) (name content : String) (subs : Subscriptions)
    (shared : Shared World)
    (hok : (r.route (.sendFile name content) subs shared).response.status.result = .ok) :
    let sent := (r.route (.sendFile name content) subs shared).shared
    ∃ file, Path.LastName name file ∧ ∀ rest subs',
      let loaded := r.route (.load (Path.join r.dataDirectory file :: rest)) subs' sent
      loaded.response = .ok .load ∧ loaded.shared = sent := by
  intro sent
  have hstored : r.storeAndLoad name content shared = (.ok (), sent) :=
    Prod.ext (result_acknowledge_eq_ok_iff.1 hok) rfl
  obtain ⟨file, hfile, hread, stored, hload⟩ := storeAndLoad_eq_ok hstored
  refine ⟨file, hfile, fun rest subs' => ?_⟩
  have hagain : loadFile (Path.join r.dataDirectory file) sent = (.ok (), sent) := by
    rw [loadFile, hread]
    dsimp only
    have hsame := loadScenario_again (scenarioName (Path.join r.dataDirectory file)) content stored
    rwa [hload] at hsame
  have hroute (path : String) (shared : Shared World) : r.route (.load (path :: rest)) subs' shared =
      reply subs' (acknowledge .load (loadFile path shared).1, (loadFile path shared).2) := rfl
  intro loaded
  rw [show loaded = _ from hroute _ sent, hagain]
  exact ⟨rfl, rfl⟩

/-- The name begins with a dot and has another one, and a slash comes last; the text gives no step length. -/
theorem route_load_sent_dotted :
    let r : Router World := ⟨.standard, "data"⟩
    let shared : Shared World :=
      ⟨⟨World.empty ⟨0x3FD999999999999A⟩, 0, 0, .running⟩, .inDirectory ["srv"]⟩
    let sent := (r.route (.sendFile "walks/.walk.v2/" "pedestrian 1 0 0 1 5 0") .empty shared).shared
    let loaded := r.route (.load ["data/.walk.v2"]) .empty sent
    sent.bridge.state.scenario = some ".walk" ∧ loaded.response = .ok .load ∧ loaded.shared = sent := by
  intro r shared sent loaded
  have hok : (r.route (.sendFile "walks/.walk.v2/" "pedestrian 1 0 0 1 5 0") .empty
      shared).response.status.result = .ok := by decide +kernel
  obtain ⟨file, hfile, hload⟩ := route_load_sent r "walks/.walk.v2/" "pedestrian 1 0 0 1 5 0" .empty shared hok
  have hname : Path.LastName "walks/.walk.v2/" ".walk.v2" :=
    Path.fileName?_eq_some_iff.1 (by decide +kernel)
  have hpath : Path.join r.dataDirectory ".walk.v2" = "data/.walk.v2" := by decide +kernel
  obtain rfl := hfile.unique hname
  rw [hpath] at hload
  exact ⟨by decide +kernel, hload [] .empty⟩

end PedestrianControl.Router
