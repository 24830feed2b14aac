import FrameLog.OpenLog

/-!
# Files that stay found

Once the file at a path has been prepared, preparing it again finds the same file and
changes nothing on the disk, whatever is stored in files meanwhile. All that matters for
this is which directories there are: a walk passes through directories only, and no later
step of the preparation removes one.
-/

set_option autoImplicit false

namespace FrameLog.Disk

/-- Every directory is still one, seen from the same working directory. -/
structure Keeps (before after : Disk) : Prop where
  workingDirectory : after.workingDirectory = before.workingDirectory
  directories : ∀ location, before.nodeAt? location = some .directory →
    after.nodeAt? location = some .directory

/-- There is a directory at the end of these names. No names need none. -/
def HoldsDirectory (disk : Disk) (start : Location) (parts : List String) : Prop :=
  parts = [] ∨
    ∃ place, disk.walk start parts = .ok place ∧ disk.nodeAt? place = some .directory

def Finds (disk : Disk) (text : String) (number : FileNumber) : Prop :=
  ∃ path, Path.ofString? text = some path ∧ path.directoryOnly = false ∧
    disk.HoldsDirectory (disk.startOf path.parent) path.parent.parts ∧
    ∃ place, disk.walk (disk.startOf path) path.parts = .ok place ∧
      disk.nodeAt? place = some (.file number)

variable {before after disk : Disk} {start place : Location} {parts : List String}

theorem nodeAt?_eq_directory_iff {location : Location} :
    disk.nodeAt? location = some .directory ↔ location = [] ∨ location ∈ disk.directories := by
  unfold nodeAt?
  constructor
  · intro standing
    split at standing
    · next listed => exact listed
    · cases named : disk.names.lookup location with
      | none => simp [named] at standing
      | some number => simp [named] at standing
  · intro listed
    exact if_pos listed

/-! ## Walking -/

/-- Where one name leads from a directory. -/
def stepFrom (here : Location) (part : String) : Location :=
  if part = "." then here else if part = ".." then here.dropLast else here ++ [part]

theorem walk_cons_eq_ok_iff {part : String} :
    disk.walk start (part :: parts) = .ok place ↔
      disk.nodeAt? start = some .directory ∧ disk.walk (stepFrom start part) parts = .ok place := by
  rw [Disk.walk]
  cases standing : disk.nodeAt? start with
  | none => simp
  | some node =>
      cases node with
      | file number => simp
      | directory =>
          by_cases dot : part = "."
          · simp [stepFrom, dot]
          · by_cases up : part = ".."
            · simp [stepFrom, up]
            · simp [stepFrom, dot, up]

theorem walk_append_eq_ok {behind : List String}
    (walked : disk.walk start (parts ++ behind) = .ok place) :
    ∃ between, disk.walk start parts = .ok between ∧ disk.walk between behind = .ok place := by
  induction parts generalizing start with
  | nil => exact ⟨start, rfl, walked⟩
  | cons part parts ih =>
      obtain ⟨standing, further⟩ := walk_cons_eq_ok_iff.mp walked
      obtain ⟨between, reached, rest⟩ := ih further
      exact ⟨between, walk_cons_eq_ok_iff.mpr ⟨standing, reached⟩, rest⟩

/-- Dots lead nowhere. -/
theorem walk_filter_dots (walked : disk.walk start parts = .ok place) :
    disk.walk start (parts.filter (· ≠ ".")) = .ok place := by
  induction parts generalizing start with
  | nil => exact walked
  | cons part parts ih =>
      obtain ⟨standing, further⟩ := walk_cons_eq_ok_iff.mp walked
      by_cases dot : part = "."
      · rw [List.filter_cons_of_neg (by simpa using dot)]
        rw [stepFrom, if_pos dot] at further
        exact ih further
      · rw [List.filter_cons_of_pos (by simpa using dot)]
        exact walk_cons_eq_ok_iff.mpr ⟨standing, ih further⟩

theorem walk_significantParts {path : Path}
    (walked : disk.walk start path.parts = .ok place) :
    disk.walk start path.significantParts = .ok place := by
  rw [Path.significantParts]
  split
  · next rest relative leading =>
      rw [leading] at walked
      obtain ⟨standing, further⟩ := walk_cons_eq_ok_iff.mp walked
      exact walk_cons_eq_ok_iff.mpr ⟨standing, walk_filter_dots further⟩
  · exact walk_filter_dots walked

/-- Whoever arrives somewhere has passed through the directory that holds it. -/
theorem holdsDirectory_parent {path : Path}
    (walked : disk.walk (disk.startOf path) path.parts = .ok place) :
    disk.HoldsDirectory (disk.startOf path.parent) path.parent.parts := by
  have significant := walk_significantParts walked
  rw [Path.parent]
  split
  · exact .inl rfl
  · next nonempty =>
      right
      rw [← List.dropLast_concat_getLast nonempty] at significant
      obtain ⟨between, reached, last⟩ := walk_append_eq_ok significant
      exact ⟨between, reached, (walk_cons_eq_ok_iff.mp last).1⟩

/-! ## Directories that are kept -/

theorem Keeps.refl (disk : Disk) : Keeps disk disk := ⟨rfl, fun _ standing => standing⟩

theorem Keeps.trans {between : Disk} (first : Keeps before between)
    (second : Keeps between after) : Keeps before after := by
  refine ⟨second.workingDirectory.trans first.workingDirectory, ?_⟩
  intro location standing
  exact second.directories location (first.directories location standing)

theorem Keeps.startOf (keeps : Keeps before after) (path : Path) :
    after.startOf path = before.startOf path := by
  rw [Disk.startOf, Disk.startOf, keeps.workingDirectory]

theorem Keeps.walk (keeps : Keeps before after) (walked : before.walk start parts = .ok place) :
    after.walk start parts = .ok place := by
  induction parts generalizing start with
  | nil => exact walked
  | cons part parts ih =>
      obtain ⟨standing, further⟩ := walk_cons_eq_ok_iff.mp walked
      exact walk_cons_eq_ok_iff.mpr ⟨keeps.directories start standing, ih further⟩

theorem Keeps.holdsDirectory (keeps : Keeps before after)
    (held : before.HoldsDirectory start parts) : after.HoldsDirectory start parts := by
  rcases held with none | ⟨place, walked, standing⟩
  · exact .inl none
  · exact .inr ⟨place, keeps.walk walked, keeps.directories place standing⟩

theorem keeps_store (disk : Disk) (number : FileNumber) (contents : Bytes) :
    Keeps disk (disk.store number contents) := ⟨rfl, fun _ standing => standing⟩

theorem keeps_addFile (disk : Disk) (location : Location) :
    Keeps disk (disk.addFile location).2 := by
  refine ⟨rfl, ?_⟩
  intro other standing
  rw [nodeAt?_eq_directory_iff] at standing ⊢
  exact standing

theorem keeps_makeDirectory (made : disk.makeDirectory start parts = .ok after) :
    Keeps disk after ∧ after.HoldsDirectory start parts := by
  unfold makeDirectory at made
  cases walked : disk.walk start parts with
  | error cause => simp [walked] at made
  | ok place =>
      cases standing : disk.nodeAt? place with
      | some node => simp [walked, standing] at made
      | none =>
          simp only [walked, standing, Except.ok.injEq] at made
          subst made
          have keeps : Keeps disk { disk with directories := place :: disk.directories } := by
            refine ⟨rfl, ?_⟩
            intro other directory
            rw [nodeAt?_eq_directory_iff] at directory ⊢
            rcases directory with root | listed
            · exact .inl root
            · exact .inr (List.mem_cons_of_mem _ listed)
          refine ⟨keeps, .inr ⟨place, keeps.walk walked, ?_⟩⟩
          exact nodeAt?_eq_directory_iff.mpr (.inr List.mem_cons_self)

/-! ## Making directories -/

theorem keeps_ensureDirectory (ensured : disk.ensureDirectory start parts = .ok after) :
    Keeps disk after ∧ after.HoldsDirectory start parts := by
  unfold ensureDirectory at ensured
  split at ensured
  · split at ensured
    · next standing =>
        cases ensured
        refine ⟨.refl after, .inr ?_⟩
        cases walked : after.walk start parts with
        | error cause => simp [walked, Except.map] at standing
        | ok place =>
            simp only [walked, Except.map, Except.ok.injEq] at standing
            exact ⟨place, rfl, standing⟩
    · cases ensured
  · exact keeps_makeDirectory ensured

theorem ensureDirectory_of_standing (walked : disk.walk start parts = .ok place)
    (standing : disk.nodeAt? place = some .directory) :
    disk.ensureDirectory start parts = .ok disk := by
  simp only [ensureDirectory, makeDirectory, walked, standing, Except.map]

theorem keeps_makeDirectoriesFrom {last : List String}
    (made : disk.makeDirectoriesFrom start last = (.ok (), after)) :
    Keeps disk after ∧ after.HoldsDirectory start last.reverse := by
  induction last generalizing disk after with
  | nil =>
      cases made
      exact ⟨.refl after, .inl rfl⟩
  | cons last above ih =>
      rw [List.reverse_cons]
      unfold makeDirectoriesFrom at made
      cases ensured : disk.ensureDirectory start (above.reverse ++ [last]) with
      | ok reached =>
          simp only [ensured] at made
          cases made
          exact keeps_ensureDirectory ensured
      | error cause =>
          cases cause with
          | notFound =>
              simp only [ensured] at made
              rcases higher : disk.makeDirectoriesFrom start above with ⟨outcome, between⟩
              cases outcome with
              | error cause => simp [higher] at made
              | ok done =>
                  simp only [higher] at made
                  cases again : between.ensureDirectory start (above.reverse ++ [last]) with
                  | error cause => simp [again] at made
                  | ok reached =>
                      simp only [again] at made
                      cases made
                      obtain ⟨keptAbove, _⟩ := ih higher
                      obtain ⟨kept, held⟩ := keeps_ensureDirectory again
                      exact ⟨keptAbove.trans kept, held⟩
          | _ => simp [ensured] at made

theorem HoldsDirectory.makeDirectories {path : Path}
    (held : disk.HoldsDirectory (disk.startOf path) path.parts) :
    disk.makeDirectories path = (.ok (), disk) := by
  unfold Disk.makeDirectories
  cases reversed : path.parts.reverse with
  | nil => rfl
  | cons last above =>
      have parts : path.parts = above.reverse ++ [last] := by
        rw [← List.reverse_reverse path.parts, reversed, List.reverse_cons]
      rcases held with none | ⟨place, walked, standing⟩
      · simp [none] at reversed
      · rw [parts] at walked
        simp only [makeDirectoriesFrom, ensureDirectory_of_standing walked standing]

/-! ## Preparing a file -/

theorem Finds.prepareFile {text : String} {number : FileNumber} (finds : disk.Finds text number) :
    disk.prepareFile text = (.ok number, disk) := by
  obtain ⟨path, parsed, named, held, place, walked, standing⟩ := finds
  simp only [Disk.prepareFile, parsed, held.makeDirectories, openFile, walked, named, standing,
    Bool.false_eq_true, if_false]

theorem Finds.store {text : String} {number : FileNumber} (finds : disk.Finds text number)
    (other : FileNumber) (contents : Bytes) : (disk.store other contents).Finds text number := by
  obtain ⟨path, parsed, named, held, place, walked, standing⟩ := finds
  have keeps := keeps_store disk other contents
  exact ⟨path, parsed, named, keeps.holdsDirectory held, place, keeps.walk walked, standing⟩

theorem openFile_eq_ok {text : String} {path : Path} {number : FileNumber}
    (parsed : Path.ofString? text = some path)
    (opened : disk.openFile text = .ok (number, after)) :
    Keeps disk after ∧ path.directoryOnly = false ∧
      ∃ place, after.walk (after.startOf path) path.parts = .ok place ∧
        after.nodeAt? place = some (.file number) := by
  simp only [openFile, parsed] at opened
  cases walked : disk.walk (disk.startOf path) path.parts with
  | error cause => simp [walked] at opened
  | ok place =>
      cases named : path.directoryOnly with
      | true => simp [walked, named] at opened
      | false =>
          cases standing : disk.nodeAt? place with
          | none =>
              simp only [walked, named, standing, Bool.false_eq_true, if_false,
                Except.ok.injEq] at opened
              cases opened
              have keeps := keeps_addFile disk place
              refine ⟨keeps, rfl, place, keeps.walk walked, ?_⟩
              unfold nodeAt? at standing ⊢
              split at standing
              · cases standing
              · next vacant =>
                  refine (if_neg vacant).trans ?_
                  simp
          | some node =>
              cases node with
              | directory => simp [walked, named, standing] at opened
              | file found =>
                  simp only [walked, named, standing, Bool.false_eq_true, if_false,
                    Except.ok.injEq, Prod.mk.injEq] at opened
                  obtain ⟨rfl, rfl⟩ := opened
                  exact ⟨.refl disk, rfl, place, walked, standing⟩

theorem finds_of_prepareFile {text : String} {number : FileNumber}
    (prepared : disk.prepareFile text = (.ok number, after)) : after.Finds text number := by
  unfold prepareFile at prepared
  cases parsed : Path.ofString? text with
  | none => simp [parsed] at prepared
  | some path =>
      simp only [parsed] at prepared
      rcases made : disk.makeDirectories path.parent with ⟨outcome, between⟩
      cases outcome with
      | error cause => simp [made] at prepared
      | ok done =>
          simp only [made] at prepared
          cases opened : between.openFile text with
          | error cause => simp [opened] at prepared
          | ok found =>
              rcases found with ⟨number, after⟩
              simp only [opened] at prepared
              cases prepared
              obtain ⟨keptByMaking, held⟩ := keeps_makeDirectoriesFrom made
              obtain ⟨keptByOpening, named, place, walked, standing⟩ :=
                openFile_eq_ok parsed opened
              refine ⟨path, parsed, named, ?_, place, walked, standing⟩
              rw [List.reverse_reverse] at held
              rw [(keptByMaking.trans keptByOpening).startOf]
              exact keptByOpening.holdsDirectory held

/-- Opening for appending finds the file that looking it up finds. -/
theorem finds_of_lookupFile {text : String} {number : FileNumber}
    (found : disk.lookupFile text = .ok number) : disk.Finds text number := by
  unfold lookupFile lookup locate at found
  cases parsed : Path.ofString? text with
  | none => simp [parsed, Except.map] at found
  | some path =>
      simp only [parsed] at found
      cases walked : disk.walk (disk.startOf path)
          (path.parts ++ if path.directoryOnly = true then ["."] else []) with
      | error cause => simp [walked, Except.map] at found
      | ok place =>
          cases standing : disk.nodeAt? place with
          | none => simp [walked, standing, Except.map] at found
          | some node =>
              cases node with
              | directory => simp [walked, standing, Except.map] at found
              | file other =>
                  simp only [walked, standing, Except.map, Except.ok.injEq] at found
                  subst found
                  cases named : path.directoryOnly with
                  | true =>
                      rw [named] at walked
                      obtain ⟨between, _, last⟩ := walk_append_eq_ok walked
                      obtain ⟨directory, arrived⟩ := walk_cons_eq_ok_iff.mp last
                      cases arrived
                      rw [stepFrom, if_pos rfl, directory] at standing
                      cases standing
                  | false =>
                      rw [named] at walked
                      simp only [Bool.false_eq_true, if_false, List.append_nil] at walked
                      exact ⟨path, parsed, named, holdsDirectory_parent walked, place, walked,
                        standing⟩

theorem Finds.lookupFile {text : String} {number : FileNumber} (finds : disk.Finds text number) :
    disk.lookupFile text = .ok number := by
  obtain ⟨path, parsed, named, _, place, walked, standing⟩ := finds
  simp only [Disk.lookupFile, lookup, locate, parsed, named, Bool.false_eq_true, if_false,
    List.append_nil, walked, standing, Except.map]

/-! ## Contents of a found file -/

variable {number : FileNumber}

theorem read_store (standing : number < disk.contents.length) (contents : Bytes) :
    (disk.store number contents).read number = contents := by
  rw [read, store, List.getD_eq_getElem?_getD, List.getElem?_set_self standing]
  rfl

theorem store_read (disk : Disk) (number : FileNumber) :
    disk.store number (disk.read number) = disk := by
  have same : disk.contents.set number (disk.contents.getD number []) = disk.contents := by
    rw [List.getD_eq_getElem?_getD]
    by_cases standing : number < disk.contents.length
    · rw [List.getElem?_eq_getElem standing, Option.getD_some, List.set_getElem_self]
    · exact List.set_eq_of_length_le (Nat.le_of_not_lt standing)
  rw [store, read, same]

theorem openLog_of_prepareFile {path : String} {settings : Settings} {prepared : Disk}
    (coherent : settings.Coherent) (found : disk.prepareFile path = (.ok number, prepared))
    (ceiling : Option Nat) :
    disk.openLog path settings ceiling =
      let attachment := Handle.attach path settings ceiling (prepared.read number)
      ⟨attachment.answer.map fun handle => ⟨handle, number⟩,
        prepared.store number attachment.file, attachment.events⟩ := by
  simp only [openLog, Settings.check, if_pos coherent, found]

/-! ## What preparing a file leaves alone -/

theorem contents_of_ensureDirectory (ensured : disk.ensureDirectory start parts = .ok after) :
    after.contents = disk.contents := by
  have made : ∀ {reached}, disk.makeDirectory start parts = .ok reached →
      reached.contents = disk.contents := by
    intro reached made
    unfold makeDirectory at made
    cases walked : disk.walk start parts with
    | error cause => simp [walked] at made
    | ok place =>
        cases standing : disk.nodeAt? place with
        | some node => simp [walked, standing] at made
        | none =>
            simp only [walked, standing, Except.ok.injEq] at made
            subst made
            rfl
  unfold ensureDirectory at ensured
  split at ensured
  · split at ensured
    · cases ensured
      rfl
    · cases ensured
  · exact made ensured

theorem contents_makeDirectoriesFrom (disk : Disk) (start : Location) (last : List String) :
    (disk.makeDirectoriesFrom start last).2.contents = disk.contents := by
  induction last generalizing disk with
  | nil => rfl
  | cons last above ih =>
      unfold makeDirectoriesFrom
      cases ensured : disk.ensureDirectory start (above.reverse ++ [last]) with
      | ok reached => exact contents_of_ensureDirectory ensured
      | error cause =>
          cases cause with
          | notFound =>
              have higher := ih disk
              rcases made : disk.makeDirectoriesFrom start above with ⟨outcome, between⟩
              rw [made] at higher
              cases outcome with
              | error cause => exact higher
              | ok done =>
                  simp only
                  cases again : between.ensureDirectory start (above.reverse ++ [last]) with
                  | error cause => exact higher
                  | ok reached => exact (contents_of_ensureDirectory again).trans higher
          | _ => rfl

/-- The file that was prepared is an old one as it was, or a new one with nothing in it. -/
theorem contents_of_prepareFile {text : String}
    (prepared : disk.prepareFile text = (.ok number, after)) :
    after.contents = disk.contents ∨
      number = disk.contents.length ∧ after.contents = disk.contents ++ [[]] := by
  unfold prepareFile at prepared
  cases parsed : Path.ofString? text with
  | none => simp [parsed] at prepared
  | some path =>
      have kept := contents_makeDirectoriesFrom disk (disk.startOf path.parent)
        path.parent.parts.reverse
      simp only [parsed] at prepared
      rcases made : disk.makeDirectories path.parent with ⟨outcome, between⟩
      rw [← makeDirectories, made] at kept
      cases outcome with
      | error cause => simp [made] at prepared
      | ok done =>
          simp only [made] at prepared
          cases opened : between.openFile text with
          | error cause => simp [opened] at prepared
          | ok found =>
              rcases found with ⟨found, last⟩
              simp only [opened] at prepared
              cases prepared
              rw [← kept]
              simp only [openFile, parsed] at opened
              split at opened
              · cases opened
              · split at opened
                · cases opened
                · split at opened
                  · cases opened
                  · cases opened
                    exact .inl rfl
                  · cases opened
                    exact .inr ⟨rfl, rfl⟩

end FrameLog.Disk
