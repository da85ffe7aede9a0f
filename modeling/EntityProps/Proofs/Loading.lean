import EntityProps.Manifest
import EntityProps.Proofs.Results

/-!
# Loading files

What loading gives, said of the files. A file holds a value if it is a text that
decodes to it (`FileHolds`). Otherwise there is no file, it cannot be read, or its
text does not decode (`FileFails`).

The configuration that a command works with is in the file that is named for it,
or else in the default file if there is one, or else it is the default
configuration (`Config.Chosen`). A file that is there counts even if it does not
hold a configuration (`Config.ChoiceFails`).
-/

namespace EntityProps

section Files

variable {α : Type} {decode : String → Except DataFault α} {files : Files} {path : String}

/-- A value is found at a path. -/
inductive FileHolds (decode : String → Except DataFault α) (files : Files) (path : String)
    (a : α) : Prop
  | decoded {text : String} (hread : files path = .text text) (hdecode : decode text = .ok a)

/-- Why no value is found at a path. -/
inductive FileFails (decode : String → Except DataFault α) (files : Files) (path : String) :
    LoadFault → Prop
  | missing {fault : FileFault} (hread : files path = .noFile fault) :
      FileFails decode files path (.unreadable path fault)
  | unreadable {fault : FileFault} (hread : files path = .unreadable fault) :
      FileFails decode files path (.unreadable path fault)
  | undecoded {text : String} {fault : DataFault} (hread : files path = .text text)
      (hdecode : decode text = .error fault) : FileFails decode files path (.data fault)

theorem loadText_eq_ok_iff {text : String} :
    loadText files path = .ok text ↔ files path = .text text := by
  rw [loadText, mapError_eq_ok_iff]
  cases files path <;> simp [FileState.content]

theorem loadText_eq_error_iff {fault : LoadFault} :
    loadText files path = .error fault ↔
      ∃ e, (files path = .noFile e ∨ files path = .unreadable e) ∧ .unreadable path e = fault := by
  rw [loadText, mapError_eq_error_iff]
  cases files path <;> simp [FileState.content]

theorem load_eq_ok_iff_holds {a : α} :
    (loadText files path >>= fun text => (decode text).mapError .data) = .ok a ↔
      FileHolds decode files path a := by
  simp only [bind_eq_ok_iff_exists, loadText_eq_ok_iff, mapError_eq_ok_iff]
  constructor
  · rintro ⟨text, hread, hdecode⟩
    exact .decoded hread hdecode
  · rintro ⟨hread, hdecode⟩
    exact ⟨_, hread, hdecode⟩

theorem FileHolds.eq {a b : α} (h : FileHolds decode files path a)
    (h' : FileHolds decode files path b) : a = b :=
  Except.ok.inj ((load_eq_ok_iff_holds.mpr h).symm.trans (load_eq_ok_iff_holds.mpr h'))

theorem load_eq_error_iff_fails {fault : LoadFault} :
    (loadText files path >>= fun text => (decode text).mapError .data) = .error fault ↔
      FileFails decode files path fault := by
  simp only [bind_eq_error_iff_or, loadText_eq_ok_iff, loadText_eq_error_iff,
    mapError_eq_error_iff]
  constructor
  · rintro (⟨e, hread | hread, rfl⟩ | ⟨text, hread, e, hdecode, rfl⟩)
    · exact .missing hread
    · exact .unreadable hread
    · exact .undecoded hread hdecode
  · intro h
    cases h with
    | missing hread => exact Or.inl ⟨_, Or.inl hread, rfl⟩
    | unreadable hread => exact Or.inl ⟨_, Or.inr hread, rfl⟩
    | undecoded hread hdecode => exact Or.inr ⟨_, hread, _, hdecode, rfl⟩

theorem Config.load_eq_ok_iff {c : Config} :
    Config.load files path = .ok c ↔ FileHolds Config.ofToml files path c :=
  load_eq_ok_iff_holds

theorem Config.load_eq_error_iff {fault : LoadFault} :
    Config.load files path = .error fault ↔ FileFails Config.ofToml files path fault :=
  load_eq_error_iff_fails

theorem Manifest.load_eq_ok_iff {m : Manifest} :
    Manifest.load files path = .ok m ↔ FileHolds Manifest.ofToml files path m :=
  load_eq_ok_iff_holds

theorem Manifest.load_eq_error_iff {fault : LoadFault} :
    Manifest.load files path = .error fault ↔ FileFails Manifest.ofToml files path fault :=
  load_eq_error_iff_fails

end Files

/-! ## The configuration of a command -/

namespace Config

variable {files : Files} {config : Option String}

/-- The configuration that a command works with. -/
inductive Chosen (files : Files) : Option String → Config → Prop
  | named {path : String} {c : Config} (h : FileHolds ofToml files path c) :
      Chosen files (some path) c
  | found {c : Config} (hfile : (files defaultFile).isFile = true)
      (h : FileHolds ofToml files defaultFile c) : Chosen files none c
  | default (hfile : (files defaultFile).isFile = false) : Chosen files none {}

/-- Why a command has no configuration to work with. -/
inductive ChoiceFails (files : Files) : Option String → LoadFault → Prop
  | named {path : String} {fault : LoadFault} (h : FileFails ofToml files path fault) :
      ChoiceFails files (some path) fault
  | found {fault : LoadFault} (hfile : (files defaultFile).isFile = true)
      (h : FileFails ofToml files defaultFile fault) : ChoiceFails files none fault

theorem loadChosen_eq_ok_iff {c : Config} :
    loadChosen files config = .ok c ↔ Chosen files config c := by
  cases config with
  | some path =>
    rw [loadChosen, load_eq_ok_iff]
    constructor
    · exact .named
    · rintro ⟨h⟩
      exact h
  | none =>
    rw [loadChosen]
    cases hfile : (files defaultFile).isFile with
    | true =>
      rw [if_pos rfl, load_eq_ok_iff]
      constructor
      · exact .found hfile
      · intro h
        cases h with
        | found _ h => exact h
        | default h => rw [hfile] at h; cases h
    | false =>
      rw [if_neg (by simp)]
      constructor
      · rintro ⟨⟩
        exact .default hfile
      · intro h
        cases h with
        | found h => rw [hfile] at h; cases h
        | default => rfl

theorem loadChosen_eq_error_iff {fault : LoadFault} :
    loadChosen files config = .error fault ↔ ChoiceFails files config fault := by
  cases config with
  | some path =>
    rw [loadChosen, load_eq_error_iff]
    constructor
    · exact .named
    · rintro ⟨h⟩
      exact h
  | none =>
    rw [loadChosen]
    cases hfile : (files defaultFile).isFile with
    | true =>
      rw [if_pos rfl, load_eq_error_iff]
      constructor
      · exact .found hfile
      · intro h
        cases h with
        | found _ h => exact h
    | false =>
      rw [if_neg (by simp)]
      simp only [reduceCtorEq, false_iff]
      intro h
      cases h with
      | found h => rw [hfile] at h; cases h

end Config

end EntityProps
