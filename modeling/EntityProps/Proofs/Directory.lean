import EntityProps.Directory
import EntityProps.Proofs.Results

/-!
# Directories after writing

What was written under a path is found there (`fetch_of_write`). Writing a file
makes no directory go away and puts none in the place of the file, so the path
leads to the same place before and after.
-/

namespace EntityProps.Directory

variable {d d' : Directory} {place around : Place} {path text name : String}

/-! ## Putting a file -/

theorem mem_files_put {file : Place × String} :
    file ∈ (d.put place text).files ↔
      file = (place, text) ∨ file ∈ d.files ∧ file.1 ≠ place := by
  simp [put]

theorem find?_put : (d.put place text).find? place = some text := by
  simp [find?, put]

/-- Directories stay: the one file that is replaced is put back at its place. -/
theorem isDirectory_put {p : Place} (h : d.isDirectory p = true) :
    (d.put place text).isDirectory p = true := by
  rw [isDirectory, Bool.or_eq_true] at h ⊢
  refine h.imp_right fun hfiles => ?_
  obtain ⟨file, hfile, hp⟩ := List.any_eq_true.mp hfiles
  by_cases hplace : file.1 = place
  · refine List.any_eq_true.mpr ⟨(place, text), mem_files_put.mpr (Or.inl rfl), ?_⟩
    simpa [← hplace] using hp
  · exact List.any_eq_true.mpr ⟨file, mem_files_put.mpr (Or.inr ⟨hfile, hplace⟩), hp⟩

theorem isDirectory_put_place (h : d.isDirectory place = false) :
    (d.put place text).isDirectory place = false := by
  rw [isDirectory, Bool.or_eq_false_iff] at h ⊢
  refine ⟨h.1, List.any_eq_false.mpr fun file hfile => ?_⟩
  rcases mem_files_put.mp hfile with rfl | ⟨hfile, -⟩
  · simp
  · exact List.any_eq_false.mp h.2 file hfile

/-! ## Following a path -/

theorem enter_put {p p' : Place} (h : d.enter p name = .ok p') :
    (d.put place text).enter p name = .ok p' := by
  rw [enter, bind_eq_ok_iff_exists] at h ⊢
  obtain ⟨q, hq, h⟩ := h
  refine ⟨q, hq, ?_⟩
  split at h
  · next hdirectory => rwa [if_pos (isDirectory_put hdirectory)]
  · split at h <;> cases h

theorem foldlM_enter_put {names : List String} {start stop : Place}
    (h : names.foldlM d.enter start = .ok stop) :
    names.foldlM (d.put place text).enter start = .ok stop := by
  induction names generalizing start with
  | nil => exact h
  | cons name names ih =>
    rw [List.foldlM_cons, bind_eq_ok_iff_exists] at h ⊢
    obtain ⟨p, hp, h⟩ := h
    exact ⟨p, enter_put hp, ih h⟩

theorem parent_put (h : d.parent path = .ok around) :
    (d.put place text).parent path = .ok around := by
  rw [parent] at h ⊢
  split at h; · cases h
  split at h; · cases h
  next hempty hlong => rw [if_neg hempty, if_neg hlong, foldlM_enter_put h]

/-! ## Writing -/

theorem unless_throw_eq_ok_iff {α β : Type} {b : Bool} {e : FileFault}
    {f : α → Except FileFault β} {x : Except FileFault β} {y : β} :
    (if b = true then throw e >>= f else x) = .ok y ↔ b = false ∧ x = .ok y := by
  cases b
  · simp
  · simp [throw, throwThe, MonadExceptOf.throw, bind, Except.bind]

/-- A file is written at the place to which its path leads, which is no directory and not
sealed. -/
theorem write_eq_ok_iff :
    d.write path text = .ok d' ↔
      ∃ around, d.parent path = .ok around ∧
        (isDots (lastName path) || endsWithSlash path) = false ∧
        ∃ place, child around (lastName path) = .ok place ∧ d.isDirectory place = false ∧
          d.isSealed place = false ∧ d.put place text = d' := by
  simp only [write, bind_eq_ok_iff_exists, unless_throw_eq_ok_iff, pure, Except.pure,
    Except.ok.injEq]

/-- **What was written is found** under the same path. -/
theorem fetch_of_write (h : d.write path text = .ok d') : d'.fetch path = .ok text := by
  obtain ⟨around, hparent, hname, place, hchild, hplace, -, rfl⟩ := write_eq_ok_iff.mp h
  have hslash := (Bool.or_eq_false_iff.mp hname).2
  simp only [fetch, parent_put hparent, hchild, isDirectory_put_place hplace, find?_put, hslash,
    bind, Except.bind, Bool.false_eq_true, if_false]
  rfl

theorem look_of_write (h : d.write path text = .ok d') : d'.look path = .text text := by
  rw [look, fetch_of_write h]

end EntityProps.Directory
