import PedestrianControl.Proofs.Files.Growth

/-!
# Reading what was written

A file is written where its path leads. The new file stands in the way of no path, since nothing goes through
what is no directory, so that the same path leads to the file afterwards, and what is read there is what was
written (`readText_of_write`).
-/

namespace PedestrianControl.FileStore

variable {before after : FileStore} {path : String} {content : List UInt8}

/-- In a store that has all directories of the first, the path leads to what was put where it led before. -/
theorem trace_of_put {target : Target} {entry : Entry} (h : before.trace path = .ok target)
    (hworking : after.workingDirectory = before.workingDirectory)
    (hkeeps : ∀ l, before.at? l = some .directory → after.at? l = some .directory)
    (hput : after.at? target.location = some entry) :
    after.trace path = .ok (.present target.location entry) := by
  have hfollow := follow_of_put hkeeps (trace_eq_ok h) hput
  rw [trace] at h
  split at h
  · cases h
  · rename_i hnul
    split at h
    · cases h
    · rename_i hempty
      split at h
      · cases h
      · rename_i hsize
        rw [trace, if_neg hnul, if_neg hempty, if_neg hsize, hworking]
        exact hfollow

/-- A file that was written is found with the content that was written. -/
theorem locate_of_write (h : write path content before = .ok ⟨⟩ after) :
    ∃ location, after.locate path = .ok (.present location (.file content)) := by
  obtain ⟨e, hfailed⟩ | ⟨target, htrace, hnot, hslash, hwrite⟩ := write_cases path content before
  · cases hfailed.symm.trans h
  · injection hwrite.symm.trans h with _ hafter
    have hroot : target.location ≠ [] := by
      intro hnil
      rw [hnil] at hnot
      exact hnot rfl
    have htraced : after.trace path = .ok (.present target.location (.file content)) := by
      rw [← hafter]
      exact trace_of_put htrace rfl (keeps_set hnot content) (at?_set_self hroot _)
    refine ⟨target.location, ?_⟩
    rw [locate, htraced]
    dsimp only
    rw [hslash, if_neg Bool.false_ne_true]

/-- A text that was written to a file is read there. -/
theorem readText_of_write {text : String} (h : write path (Utf8.encode text) before = .ok ⟨⟩ after) :
    after.readText path = .ok text := by
  obtain ⟨location, hlocate⟩ := locate_of_write h
  have hread : after.read path = .ok (Utf8.encode text) := by
    rw [read, hlocate]
    rfl
  rw [readText, hread]
  simp only [bind, Except.bind, Utf8.decode_encode]

end PedestrianControl.FileStore
