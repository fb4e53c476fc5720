import PedestrianControl.Proofs.Files.Growth
import PedestrianControl.Api.Standard
import PedestrianControl.Router
import PedestrianControl.World.Basic

/-!
# Files sent to the server

A file that a client sends is stored in the data directory under the last component of its name, and nothing
else in the store changes (`Router.route_sendFile`). What the name holds besides, in slashes, dots or other
directories, has no influence.
-/

namespace PedestrianControl.Router

open FileStore

variable {σ : Type} [Simulation σ]

/-- Loading a scenario reads no files and writes none. -/
theorem files_loadScenario (name text : String) (shared : Shared σ) :
    (loadScenario name text shared).2.files = shared.files := rfl

/-- How far storing a file gets. It fails once the directories are made as far as they can be, and nothing is
loaded; or the content is in the data directory, under the name, and all that is left is to load it. -/
theorem storeAndLoad_stages (r : Router σ) {name file : String} (hfile : Path.LastName name file)
    (content : String) (shared : Shared σ) :
    let path := Path.join r.dataDirectory file
    ∃ made, Grows r.dataDirectory shared.files made ∧
      ((∃ e, r.storeAndLoad name content shared = (.error (.io e), { shared with files := made })) ∨
        ∃ directory, made.LeadsTo r.dataDirectory directory ∧
          made.at? (directory ++ [file]) ≠ some .directory ∧
          let stored := made.set (directory ++ [file]) (.file (Utf8.encode content))
          write path (Utf8.encode content) made = .ok ⟨⟩ stored ∧
            r.storeAndLoad name content shared =
              loadScenario (scenarioName path) content { shared with files := stored }) := by
  intro path
  have hgrows := grows_ensureDirectories r.dataDirectory shared.files
  have hbind : (do ensureDirectories r.dataDirectory
                   write path (Utf8.encode content) : FileAction PUnit) shared.files =
      EStateM.bind (ensureDirectories r.dataDirectory) (fun _ => write path (Utf8.encode content))
        shared.files := rfl
  rw [storeAndLoad, Path.fileName?_eq_some_iff.2 hfile]
  dsimp only
  rw [hbind, EStateM.bind]
  cases hensure : ensureDirectories r.dataDirectory shared.files with
  | error e made =>
    rw [hensure] at hgrows
    exact ⟨made, hgrows, .inl ⟨e, rfl⟩⟩
  | ok a made =>
    rw [hensure] at hgrows
    refine ⟨made, hgrows, ?_⟩
    dsimp only
    rcases of_write_join hfile.1 r.dataDirectory (Utf8.encode content) made with
      ⟨e, hwrite⟩ | ⟨directory, hleads, hat, hwrite⟩
    · rw [hwrite]
      exact .inl ⟨e, rfl⟩
    · rw [hwrite]
      exact .inr ⟨directory, hleads, hat, rfl, rfl⟩

/-- What storing a file leaves behind: it fails once the directories are made as far as they can be, or the
content is in the data directory, under the name. -/
theorem storeAndLoad_cases (r : Router σ) {name file : String} (hfile : Path.LastName name file)
    (content : String) (shared : Shared σ) :
    ∃ made, Grows r.dataDirectory shared.files made ∧
      ((∃ e, (r.storeAndLoad name content shared).1 = .error e ∧
          (r.storeAndLoad name content shared).2.files = made) ∨
        ∃ directory, made.LeadsTo r.dataDirectory directory ∧
          made.at? (directory ++ [file]) ≠ some .directory ∧
          (r.storeAndLoad name content shared).2.files =
            made.set (directory ++ [file]) (.file (Utf8.encode content))) := by
  obtain ⟨made, hgrows, ⟨e, hfailed⟩ | ⟨directory, hleads, hat, -, hloaded⟩⟩ :=
    r.storeAndLoad_stages hfile content shared
  · rw [hfailed]
    exact ⟨made, hgrows, .inl ⟨_, rfl, rfl⟩⟩
  · rw [hloaded]
    exact ⟨made, hgrows, .inr ⟨directory, hleads, hat, files_loadScenario ..⟩⟩

/-- Without a last component in its name, a file is refused and nothing is changed. -/
theorem storeAndLoad_of_nameless {r : Router σ} {name content : String} {shared : Shared σ}
    (hnameless : ∀ file, ¬Path.LastName name file) :
    r.storeAndLoad name content shared = (.error (.scenario (.invalidFileName name)), shared) := by
  have hnone : Path.fileName? name = none := by
    rw [Option.eq_none_iff_forall_ne_some]
    exact fun file hsome => hnameless file (Path.fileName?_eq_some_iff.1 hsome)
  rw [storeAndLoad, hnone]

/-- A file sent cannot leave the data directory. Besides missing directories on the way there, nothing changes
in the store but the file that the last component of the name is for; where the answer is good, this file holds
the content. A name without such a component is refused, and the store stays as it is. -/
theorem route_sendFile (r : Router σ) (name content : String) (subs : Subscriptions)
    (shared : Shared σ) :
    let routed := r.route (.sendFile name content) subs shared
    let before := shared.files
    let after := routed.shared.files
    after.workingDirectory = before.workingDirectory ∧
      (∀ file, Path.LastName name file →
        (∀ location, after.at? location ≠ before.at? location →
          (∃ directory, after.LeadsTo r.dataDirectory directory ∧ location = directory ++ [file] ∧
              before.at? location ≠ some .directory ∧
              after.at? location = some (.file (Utf8.encode content))) ∨
            before.at? location = none ∧ after.at? location = some .directory ∧
              after.LeadsThrough r.dataDirectory location) ∧
        (routed.response.status.result = .ok →
          ∃ directory, after.LeadsTo r.dataDirectory directory ∧
            after.at? (directory ++ [file]) = some (.file (Utf8.encode content)))) ∧
      ((∀ file, ¬Path.LastName name file) →
        routed.response.status.result = .error ∧ after = before) := by
  intro routed before after
  have hresponse : routed.response =
      acknowledge .sendFile (r.storeAndLoad name content shared).1 := rfl
  have hafter : after = (r.storeAndLoad name content shared).2.files := rfl
  by_cases hname : ∃ file, Path.LastName name file
  · obtain ⟨file, hfile⟩ := hname
    have honly (file' : String) (hfile' : Path.LastName name file') : file' = file :=
      hfile'.unique hfile
    obtain ⟨made, hgrows, ⟨e, herror, hfiles⟩ | ⟨directory, hleads, hat, hfiles⟩⟩ :=
      r.storeAndLoad_cases hfile content shared
    · -- no file is written, so that only directories can be new
      rw [hafter, hfiles]
      refine ⟨hgrows.workingDirectory_eq, fun file' _ => ⟨fun location hdiffers => ?_, fun hok => ?_⟩,
        fun hnone => absurd hfile (hnone file)⟩
      · exact .inr ((hgrows.at?_cases location).resolve_left hdiffers)
      · rw [hresponse, herror] at hok
        cases hok
    · rw [hfiles] at hafter
      have hself : after.at? (directory ++ [file]) = some (.file (Utf8.encode content)) := by
        rw [hafter]
        exact at?_set_self (by simp) _
      have hleads' : after.LeadsTo r.dataDirectory directory := by
        rw [hafter]
        exact hleads.of_keeps rfl (keeps_set hat _)
      refine ⟨?_, fun file' hfile' => ?_, fun hnone => absurd hfile (hnone file)⟩
      · rw [hafter]
        exact hgrows.workingDirectory_eq
      rw [honly file' hfile']
      refine ⟨fun location hdiffers => ?_, fun _ => ⟨directory, hleads', hself⟩⟩
      rw [hafter] at hdiffers
      rcases hgrows.at?_set_cases hat hdiffers with ⟨rfl, hbefore⟩ | hnew
      · exact .inl ⟨directory, hleads', rfl, hbefore, hself⟩
      · rw [hafter]
        exact .inr hnew
  · have hnone : Path.fileName? name = none := by
      rw [Option.eq_none_iff_forall_ne_some]
      exact fun file hsome => hname ⟨file, Path.fileName?_eq_some_iff.1 hsome⟩
    have hstore : r.storeAndLoad name content shared =
        (.error (.scenario (.invalidFileName name)), shared) := by
      rw [storeAndLoad, hnone]
    rw [hafter, hresponse, hstore]
    exact ⟨rfl, fun file hfile => absurd ⟨file, hfile⟩ hname, fun _ => ⟨rfl, rfl⟩⟩

/-- The name climbs out of the data directory and into another one; only its last component counts. -/
theorem route_sendFile_climbing :
    let name := "../../etc//walk.txt/."
    let r : Router World := ⟨.standard, "data/up"⟩
    let shared : Shared World :=
      ⟨⟨World.empty ⟨0x3FD999999999999A⟩, 0, 0, .running⟩, .inDirectory ["srv"]⟩
    let routed := r.route (.sendFile name "# nobody") .empty shared
    Path.LastName name "walk.txt" ∧ routed.response.status.result = .ok ∧
      ∃ directory, routed.shared.files.LeadsTo r.dataDirectory directory ∧
        routed.shared.files.at? (directory ++ ["walk.txt"]) =
          some (.file (Utf8.encode "# nobody")) := by
  intro name r shared routed
  have hname : Path.LastName name "walk.txt" := Path.fileName?_eq_some_iff.1 (by decide +kernel)
  have hok : routed.response.status.result = .ok := by decide +kernel
  obtain ⟨-, hfiles, -⟩ := route_sendFile r name "# nobody" .empty shared
  exact ⟨hname, hok, (hfiles "walk.txt" hname).2 hok⟩

end PedestrianControl.Router
