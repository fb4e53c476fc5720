import PedestrianControl.Files.Store
import PedestrianControl.Proofs.Text.Size

/-!
# How long the errors of the file store are

Whatever goes wrong with a path, the error says so in a few words of its own: the texts of the operating system
name no file (`FileStore.toldWithin_readText`, `FileStore.failsWithin_write`).
-/

namespace PedestrianControl.FileStore

open Text (ToldWithin)

variable {s : FileStore}

/-! ## Finding a file -/

/-- Following names from a location gives a target or an error of a few words. -/
theorem toldWithin_follow (location : Location) (names : List String) :
    ToldWithin IoError.text 64 (s.follow location names) := by
  induction names generalizing location with
  | nil =>
    rw [follow]
    split
    · exact .ok _
    · exact .error (by decide)
  | cons name rest ih =>
    unfold follow
    split
    · exact .error (by decide)
    · split
      · exact ih _
      · split
        · exact ih _
        · split
          · exact .error (by decide)
          · split
            · exact ih _
            · exact .ok _
            · exact .error (by decide)

/-- Following a path from where it starts gives a target or an error of a few words. -/
theorem toldWithin_trace (path : String) : ToldWithin IoError.text 64 (s.trace path) := by
  rw [trace]
  split
  · exact .error (by decide)
  · split
    · exact .error (by decide)
    · split
      · exact .error (by decide)
      · exact toldWithin_follow _ _

/-- Finding a file gives a target or an error of a few words. -/
theorem toldWithin_locate (path : String) : ToldWithin IoError.text 64 (s.locate path) := by
  rw [locate]
  split
  · split
    · exact .error (by decide)
    · exact .ok _
  · exact toldWithin_trace path

/-- Reading a file as text gives the text or an error of a few words. -/
theorem toldWithin_readText (path : String) : ToldWithin IoError.text 64 (s.readText path) := by
  have hread : ToldWithin IoError.text 64 (s.read path) := by
    refine (toldWithin_locate path).bind fun target _ => ?_
    split
    · exact .ok _
    · exact .error (by decide)
    · exact .error (by decide)
  refine hread.bind fun content _ => ?_
  split
  · exact .ok _
  · exact .error (by decide)

/-! ## Changing files -/

/-- An action that, where it fails, says why in at most so many bytes. -/
def FailsWithin {α : Type} (n : Nat) (action : FileAction α) : Prop :=
  ∀ before e after, action before = .error e after → e.text.utf8ByteSize ≤ n

/-- Of two actions that fail in few words, one after the other does. -/
theorem FailsWithin.bind {α β : Type} {n : Nat} {first : FileAction α} {next : α → FileAction β}
    (hfirst : FailsWithin n first) (hnext : ∀ a, FailsWithin n (next a)) :
    FailsWithin n (first >>= next) := by
  intro before e after h
  replace h : EStateM.bind first next before = .error e after := h
  rw [EStateM.bind] at h
  split at h
  · exact hnext _ _ e after h
  · rename_i hfail
    cases h
    exact hfirst before e after hfail

/-- A write fails in few words. -/
theorem failsWithin_write (path : String) (content : List UInt8) :
    FailsWithin 64 (write path content) := by
  intro before e after h
  rw [write] at h
  split at h
  · cases h
  · split at h
    · cases h
      decide
    · cases h
  · cases h
    decide
  · rename_i hlocate
    cases h
    exact toldWithin_locate path e hlocate

/-- Making one directory fails in few words. -/
theorem failsWithin_makeDirectory (path : String) : FailsWithin 64 (makeDirectory path) := by
  intro before e after h
  rw [makeDirectory] at h
  split at h
  · cases h
  · cases h
    decide
  · rename_i htrace
    cases h
    exact toldWithin_trace path e htrace

/-- Making it unless it is there fails in few words. -/
theorem failsWithin_ensureDirectory (path : String) : FailsWithin 64 (ensureDirectory path) := by
  intro before e after h
  rw [ensureDirectory] at h
  split at h
  · cases h
  · rename_i hmake
    split at h
    · cases h
    · cases h
      exact failsWithin_makeDirectory path before e after hmake

/-- Making several directories fails in few words. -/
theorem failsWithin_ensureTree (paths : List String) : FailsWithin 64 (ensureTree paths) := by
  induction paths with
  | nil => exact fun _ _ _ h => by cases h
  | cons path above ih =>
    have hensure := failsWithin_ensureDirectory path
    intro before e after h
    rw [ensureTree] at h
    dsimp only at h
    split at h
    · rename_i hmade
      split at h
      · exact ih.bind (fun _ => hensure) _ e after h
      · cases h
        exact hensure before e after hmade
    · exact hensure before e after h

/-- Making a directory with all that is missing above it fails in few words. -/
theorem failsWithin_ensureDirectories (path : String) : FailsWithin 64 (ensureDirectories path) := by
  rw [ensureDirectories]
  split
  · exact fun _ _ _ h => by cases h
  · exact failsWithin_ensureTree _

end PedestrianControl.FileStore
