import AstForge.Proofs.Files.Draft

/-!
# Files — the place of a path

A path names a file at one place, whether or not a file stands there (`place?`).  Writing puts a
file at that place, and never where a directory stands.  So the directories stay what they are
(`SameDirectories`), every path keeps its place, and what was written is read back.

* `SameDirectories.place?_eq`: file systems with the same directories lead every path to the same
  place.
* `read_eq_of_place?`: reading a path gives the text that stands at its place.
* `get?_putTexts`: after several texts were put, the last one for a place stands there.
* `getLast?_of_place?_join`: the place of a file in a directory ends with the name of the file.
-/

namespace AstForge.FileSystem

variable {fs fs' : FileSystem} {path : String} {place : Location}

/-- The place of the file that a path names. -/
def place? (fs : FileSystem) (path : String) : Option Location :=
  if Path.holdsZero path || Path.endsOpen path then none
  else match fs.resolve path with
    | .ok (.named directory name) => some (directory ++ [name])
    | _ => none

/-- A path names a place when it holds no zero, does not end open and leads to a named entry. -/
theorem place?_eq_some_iff :
    fs.place? path = some place ↔
      Path.holdsZero path = false ∧ Path.endsOpen path = false ∧
        ∃ directory name, fs.resolve path = .ok (.named directory name) ∧
          directory ++ [name] = place := by
  rw [place?]
  cases Path.holdsZero path with
  | true => simp
  | false =>
      cases Path.endsOpen path with
      | true => simp
      | false =>
          cases fs.resolve path with
          | error cause => simp
          | ok endpoint => cases endpoint <;> simp

/-- No path names the root as a file. -/
theorem ne_nil_of_place? (h : fs.place? path = some place) : place ≠ [] := by
  obtain ⟨-, -, directory, name, -, rfl⟩ := place?_eq_some_iff.mp h
  simp

/-! ### Writing goes to the place of the path -/

/-- A file is moved to the place that the path names, where no directory stands. -/
theorem place?_of_moveTarget (h : fs.moveTarget path = .ok place) :
    fs.place? path = some place ∧ fs.get? place ≠ some .directory := by
  rw [moveTarget] at h
  split at h
  · cases h
  · next hzero =>
      obtain ⟨endpoint, hresolve, h⟩ := bind_eq_ok_iff.mp h
      cases endpoint with
      | directory => cases h
      | named directory name =>
          simp only at h
          split at h
          · cases h
          · next hopen =>
              split at h
              · cases h
              · next hfile =>
                  cases h
                  refine ⟨place?_eq_some_iff.mpr ?_, hfile⟩
                  exact ⟨by simpa using hzero, by simpa using hopen, directory, name, hresolve, rfl⟩

/-- A file is written to the place that the path names, where no directory stands. -/
theorem place?_of_writeTarget (h : fs.writeTarget path = .ok place) :
    fs.place? path = some place ∧ fs.get? place ≠ some .directory := by
  obtain ⟨_, -, hmove⟩ := bind_eq_ok_iff.mp h
  exact place?_of_moveTarget hmove

/-! ### The directories stay -/

/-- The working directory is the same, and directories stand at the same places. -/
structure SameDirectories (fs fs' : FileSystem) : Prop where
  workingDirectory_eq : fs'.workingDirectory = fs.workingDirectory
  directory_iff : ∀ place, fs'.get? place = some .directory ↔ fs.get? place = some .directory

namespace SameDirectories

theorem refl (fs : FileSystem) : SameDirectories fs fs :=
  ⟨rfl, fun _ => Iff.rfl⟩

theorem symm (h : SameDirectories fs fs') : SameDirectories fs' fs :=
  ⟨h.workingDirectory_eq.symm, fun place => (h.directory_iff place).symm⟩

theorem trans {fs'' : FileSystem} (h : SameDirectories fs fs') (h' : SameDirectories fs' fs'') :
    SameDirectories fs fs'' :=
  ⟨h'.workingDirectory_eq.trans h.workingDirectory_eq,
    fun place => (h'.directory_iff place).trans (h.directory_iff place)⟩

/-- Steps that lead to a directory meet nothing but directories. -/
theorem walk_eq_ok (h : SameDirectories fs fs') {start : Location} {steps : List String}
    (hwalk : fs.walk start steps = .ok place) : fs'.walk start steps = .ok place := by
  induction steps generalizing start with
  | nil => exact hwalk
  | cons step rest ih =>
      rw [walk] at hwalk ⊢
      by_cases hdot : step == "."
      · rw [if_pos hdot] at hwalk ⊢
        exact ih hwalk
      rw [if_neg hdot] at hwalk ⊢
      by_cases hdots : step == ".."
      · rw [if_pos hdots] at hwalk ⊢
        exact ih hwalk
      rw [if_neg hdots] at hwalk ⊢
      by_cases hsize : step.utf8ByteSize > nameLimit
      · rw [if_pos hsize] at hwalk
        cases hwalk
      rw [if_neg hsize] at hwalk ⊢
      split at hwalk
      · next hentry =>
          rw [(h.directory_iff _).mpr hentry]
          exact ih hwalk
      · cases hwalk
      · cases hwalk

/-- Where directories agree, a path that names a place names it in both. -/
theorem place?_eq_some (h : SameDirectories fs fs') (hplace : fs.place? path = some place) :
    fs'.place? path = some place := by
  rw [place?_eq_some_iff] at hplace ⊢
  obtain ⟨hzero, hopen, directory, name, hresolve, rfl⟩ := hplace
  obtain ⟨hsize, hempty, hname, hlast, hwalk⟩ := resolve_eq_named_iff.mp hresolve
  have hstart : fs'.start path = fs.start path := by rw [start, start, h.workingDirectory_eq]
  refine ⟨hzero, hopen, directory, name, resolve_eq_named_iff.mpr ?_, rfl⟩
  exact ⟨hsize, hempty, hname, hlast, hstart ▸ h.walk_eq_ok hwalk⟩

/-- **Places depend on directories alone.** -/
theorem place?_eq (h : SameDirectories fs fs') (path : String) :
    fs'.place? path = fs.place? path :=
  Option.ext fun _ => ⟨h.symm.place?_eq_some, h.place?_eq_some⟩

end SameDirectories

/-- A file put where no directory stands leaves the directories as they were. -/
theorem sameDirectories_insert (hplace : place ≠ []) (hfile : fs.get? place ≠ some .directory)
    (bytes : ByteArray) : SameDirectories fs (fs.insert place (.file bytes)) := by
  refine ⟨rfl, fun other => ?_⟩
  rw [get?_insert hplace]
  split
  · next heq =>
      rw [heq]
      exact iff_of_false (by simp) hfile
  · exact Iff.rfl

/-! ### Reading what stands at the place -/

/-- The bytes of a text are read back as the text. -/
theorem fromUTF8?_toByteArray (text : String) : String.fromUTF8? text.toByteArray = some text :=
  dif_pos text.isValidUTF8

/-- A text that stands at the place of a path is read from the path. -/
theorem read_eq_of_place? {text : String} (hplace : fs.place? path = some place)
    (hfile : fs.get? place = some (.file text.toUTF8)) : fs.read path = .ok text := by
  obtain ⟨hzero, hopen, directory, name, hresolve, rfl⟩ := place?_eq_some_iff.mp hplace
  simp [read, hzero, hopen, hresolve, hfile, ok_bind, fromUTF8?_toByteArray, pure, Except.pure]

/-! ### Several texts -/

/-- The file system after texts were put at places, one after another. -/
def putTexts (fs : FileSystem) (texts : List (Location × String)) : FileSystem :=
  texts.foldl (fun fs text => fs.insert text.1 (.file text.2.toUTF8)) fs

/-- The last of the texts for a place. -/
def lastText? (texts : List (Location × String)) (place : Location) : Option String :=
  texts.reverse.lookup place

theorem putTexts_cons (fs : FileSystem) (place : Location) (text : String)
    (texts : List (Location × String)) :
    fs.putTexts ((place, text) :: texts) = (fs.insert place (.file text.toUTF8)).putTexts texts :=
  rfl

theorem putTexts_append (fs : FileSystem) (texts texts' : List (Location × String)) :
    fs.putTexts (texts ++ texts') = (fs.putTexts texts).putTexts texts' :=
  List.foldl_append

/-- After texts were put, the last text for a place stands there, and elsewhere what was there. -/
theorem get?_putTexts {texts : List (Location × String)} (h : ∀ text ∈ texts, text.1 ≠ [])
    (fs : FileSystem) (place : Location) :
    (fs.putTexts texts).get? place =
      match lastText? texts place with
      | some text => some (.file text.toUTF8)
      | none => fs.get? place := by
  induction texts generalizing fs with
  | nil => rfl
  | cons first texts ih =>
      obtain ⟨other, text⟩ := first
      rw [List.forall_mem_cons] at h
      rw [putTexts_cons, ih h.2, lastText?, lastText?, List.reverse_cons, List.lookup_append,
        get?_insert h.1]
      cases texts.reverse.lookup place with
      | some last => rfl
      | none =>
          by_cases heq : place = other
          · simp [heq]
          · simp [heq, List.lookup_cons, beq_eq_false_iff_ne.mpr heq]

/-- The files at some places hold these texts, and nothing else is changed. -/
structure Changed (fs fs' : FileSystem) (texts : List (Location × String)) : Prop where
  nodup : (texts.map Prod.fst).Nodup
  workingDirectory_eq : fs'.workingDirectory = fs.workingDirectory
  get?_of_mem : ∀ text ∈ texts, fs'.get? text.1 = some (.file text.2.toUTF8)
  get?_of_notMem : ∀ place ∉ texts.map Prod.fst, fs'.get? place = fs.get? place

/-- Texts for different places change these places and nothing else. -/
theorem changed_putTexts {texts : List (Location × String)} (hnodup : (texts.map Prod.fst).Nodup)
    (hplaces : ∀ text ∈ texts, text.1 ≠ []) (fs : FileSystem) :
    Changed fs (fs.putTexts texts) texts := by
  induction texts generalizing fs with
  | nil => exact ⟨hnodup, rfl, by simp, fun _ _ => rfl⟩
  | cons first texts ih =>
      obtain ⟨place, text⟩ := first
      rw [List.map_cons, List.nodup_cons] at hnodup
      rw [List.forall_mem_cons] at hplaces
      have h := ih hnodup.2 hplaces.2 (fs.insert place (.file text.toUTF8))
      refine ⟨List.nodup_cons.mpr hnodup, h.workingDirectory_eq, ?_, fun other hother => ?_⟩
      · rw [List.forall_mem_cons]
        refine ⟨?_, h.get?_of_mem⟩
        rw [putTexts_cons, h.get?_of_notMem place hnodup.1, get?_insert hplaces.1, if_pos rfl]
      · rw [List.map_cons, List.mem_cons, not_or] at hother
        rw [putTexts_cons, h.get?_of_notMem other hother.2, get?_insert hplaces.1,
          if_neg hother.1]

end AstForge.FileSystem

/-! ### The file in a directory -/

namespace AstForge

namespace Path

/-- A separator ends a step. -/
theorem steps_append_separator (front rest : List Char) :
    steps (String.ofList (front ++ separator :: rest)) =
      steps (String.ofList front) ++ steps (String.ofList rest) := by
  simp only [steps, String.toList_ofList, List.splitOn_append_cons_self, List.filter_append,
    List.map_append]

/-- A file name without a separator is one step. -/
theorem steps_of_notMem {file : String} (hne : file ≠ "") (h : separator ∉ file.toList) :
    steps file = [file] := by
  have hchars : file.toList ≠ [] := fun hnil => hne (String.toList_eq_nil_iff.mp hnil)
  simp [steps, List.splitOn_eq_singleton h, hchars]

theorem isAbsolute_of_notMem {file : String} (h : separator ∉ file.toList) :
    isAbsolute file = false := by
  rw [isAbsolute, beq_eq_false_iff_ne]
  exact fun hhead => h (List.mem_of_head? hhead)

/-- In one directory, different file names give different paths. -/
theorem join_inj {directory file file' : String} (h : separator ∉ file.toList)
    (h' : separator ∉ file'.toList) :
    join directory file = join directory file' ↔ file = file' := by
  rw [join, join, isAbsolute_of_notMem h, isAbsolute_of_notMem h']
  split
  · next hfalse => cases hfalse
  · split
    · exact String.append_right_inj directory
    · exact String.append_right_inj (directory ++ "/")

/-- A joined path has the steps of the directory, and then the file name. -/
theorem steps_join {file : String} (hne : file ≠ "") (h : separator ∉ file.toList)
    (directory : String) : steps (join directory file) = steps directory ++ [file] := by
  have hfile : steps (String.ofList file.toList) = [file] := by
    rw [String.ofList_toList, steps_of_notMem hne h]
  rw [join, if_neg (by simp [isAbsolute_of_notMem h])]
  split
  · next hopen =>
      rcases Bool.or_eq_true_iff.mp hopen with hempty | hends
      · obtain rfl : directory = "" := by simpa using hempty
        rw [String.empty_append, steps_of_notMem hne h]
        rfl
      · obtain ⟨front, hfront⟩ := List.getLast?_eq_some_iff.mp (beq_iff_eq.mp hends)
        obtain rfl : directory = String.ofList (front ++ separator :: []) := by
          rw [← hfront, String.ofList_toList]
        have hjoined : String.ofList (front ++ [separator]) ++ file =
            String.ofList (front ++ separator :: file.toList) :=
          String.toList_inj.mp (by simp)
        rw [hjoined, steps_append_separator, steps_append_separator, hfile]
        simp [steps]
  · have hjoined : directory ++ "/" ++ file =
        String.ofList (directory.toList ++ separator :: file.toList) :=
      String.toList_inj.mp (by simp [separator])
    rw [hjoined, steps_append_separator, hfile, String.ofList_toList]

end Path

/-- The place of a joined path ends with the file name. -/
theorem FileSystem.getLast?_of_place?_join {fs : FileSystem} {directory file : String}
    {place : Location} (hne : file ≠ "") (hfile : Path.separator ∉ file.toList)
    (h : fs.place? (Path.join directory file) = some place) : place.getLast? = some file := by
  obtain ⟨-, -, parent, name, hresolve, rfl⟩ := place?_eq_some_iff.mp h
  obtain ⟨-, -, -, hlast, -⟩ := resolve_eq_named_iff.mp hresolve
  rw [Path.steps_join hne hfile, List.getLast?_concat] at hlast
  rw [List.getLast?_concat, hlast]

end AstForge
