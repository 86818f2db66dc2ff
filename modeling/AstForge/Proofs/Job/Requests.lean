import AstForge.Generate
import AstForge.Job
import AstForge.Proofs.Files.Place

/-!
# Jobs — requests to write a file

A request has a path and a text, and puts the text at the place of the path: a job has the path of
its destination and the text of its document, a plain write has what it is given.  A request may
fail for want of a path, for want of a text, or because the path cannot be written; then nothing
changes (`Request.perform_cases`).  Whatever requests are performed, a file holds the text that was
last written to it (`get?_performAll`).

* `requests_all_or_nothing`: what one request does to the files, and what a sequence of them leaves.
-/

namespace AstForge

/-! ### Reading changes nothing -/

theorem bind_apply {σ α β : Type} (x : StateM σ α) (f : α → StateM σ β) (s : σ) :
    (x >>= f) s = f (x s).1 (x s).2 := rfl

/-- Reading a table from a file leaves the files as they are. -/
theorem Table.ofFile_eq (base path : String) (fs : FileSystem) :
    (Table.ofFile base path : StateM FileSystem (Except TableError Table)) fs =
      (match fs.read path with
        | .ok source => Table.ofSource base source
        | .error cause => .error (.read (.file cause)), fs) := by
  simp only [Table.ofFile, bind_apply, Storage.read]
  cases fs.read path with
  | error cause => rfl
  | ok source => rfl

theorem generateFromFile_fst (base path : String) (cfg : Config) (fs : FileSystem) :
    ((generateFromFile base path cfg : StateM FileSystem _) fs).1 =
      ((Table.ofFile base path : StateM FileSystem _) fs).1.mapError .table >>=
        (·.generate cfg) := by
  rw [generateFromFile, bind_apply]
  generalize (Table.ofFile base path : StateM FileSystem _) fs = got
  obtain ⟨table, after⟩ := got
  cases table with
  | error cause => rfl
  | ok t => rfl

namespace Job

variable (job : Job) (fs : FileSystem)

/-- The table of a job, as the files give it. -/
def tableIn : Except GenerationError Table :=
  ((job.table : StateM FileSystem (Except GenerationError Table)) fs).1

/-- The document of a job, as the files give it. -/
def documentIn : Except GenerationError String :=
  ((job.generate : StateM FileSystem (Except GenerationError String)) fs).1

/-- Asking a job for its table leaves the files as they are. -/
theorem table_eq :
    (job.table : StateM FileSystem (Except GenerationError Table)) fs = (job.tableIn fs, fs) := by
  rw [tableIn, table]
  cases job.source with
  | declarations ds => rfl
  | file path =>
      simp only [bind_apply, Table.ofFile_eq]
      rfl

/-- The table of a job for a file is the one that the file holds. -/
theorem tableIn_of_file {job : Job} {path : String} (h : job.source = .file path)
    (fs : FileSystem) :
    job.tableIn fs = ((Table.ofFile job.base path : StateM FileSystem _) fs).1.mapError .table := by
  rw [tableIn, table, h]
  rfl

/-- The document of a job is that of its table, under its settings. -/
theorem documentIn_eq : job.documentIn fs = job.tableIn fs >>= (·.generate job.config) := by
  rw [documentIn, generate]
  simp only [bind_apply, table_eq]
  cases job.tableIn fs with
  | error cause => rfl
  | ok t => rfl

end Job

/-! ### One request -/

/-- A call that writes a file. -/
inductive Request where
  | run (job : Job)
  | write (path contents : String)

namespace Request

/-- The path that a request writes to. -/
def path? : Request → Option String
  | .run job => job.outputPath
  | .write path _ => some path

/-- The text that a request writes, as the files give it. -/
def text : Request → FileSystem → Except GenerationError String
  | .run job, fs => job.documentIn fs
  | .write _ contents, _ => .ok contents

/-- Performs a request; gives the path that was written. -/
def perform : Request → StateM FileSystem (Except GenerationError String)
  | .run job => return (← job.run).result
  | .write path contents => do
    match ← Storage.write path contents with
    | .ok () => return .ok path
    | .error cause => return .error (.write path cause)

/-- Why a request fails. -/
inductive Fails (r : Request) (fs : FileSystem) : GenerationError → Prop where
  | noDestination (hpath : r.path? = none) : Fails r fs .noDestination
  | noText {path : String} {cause : GenerationError} (hpath : r.path? = some path)
      (htext : r.text fs = .error cause) : Fails r fs cause
  | refused {path text : String} {cause : FileError} (hpath : r.path? = some path)
      (htext : r.text fs = .ok text) (htarget : fs.writeTarget path = .error cause) :
      Fails r fs (.write path cause)

/-- Why a request succeeds: its text can be written to its path, and goes to a place. -/
structure Delivers (r : Request) (fs : FileSystem) (path text : String) (place : Location) :
    Prop where
  path_eq : r.path? = some path
  text_eq : r.text fs = .ok text
  target_eq : fs.writeTarget path = .ok place

variable {r : Request} {fs : FileSystem} {path text : String} {place : Location}

/-- **One request**: it fails without a path, without a text, or at the write, and else writes the
text. -/
theorem perform_eq (r : Request) (fs : FileSystem) :
    r.perform fs =
      match r.path?, r.text fs with
      | none, _ => (.error .noDestination, fs)
      | some _, .error cause => (.error cause, fs)
      | some path, .ok text =>
        match fs.writeTarget path with
        | .error cause => (.error (.write path cause), fs)
        | .ok place => (.ok path, fs.insert place (.file text.toUTF8)) := by
  cases r with
  | write path contents =>
      simp only [perform, bind_apply, Storage.write, FileSystem.write_eq, path?, text]
      cases fs.writeTarget path with
      | error cause => rfl
      | ok place => rfl
  | run job =>
      -- Each step of the job is taken only if the one before it succeeded.
      simp only [perform, bind_apply, Job.run, path?, text, Job.documentIn_eq]
      cases job.outputPath with
      | none => rfl
      | some path =>
          simp only [bind_apply, Job.table_eq]
          cases job.tableIn fs with
          | error cause => rfl
          | ok t =>
              simp only [ok_bind]
              cases t.generate job.config with
              | error cause => rfl
              | ok document =>
                  simp only [bind_apply, Storage.write, FileSystem.write_eq]
                  cases fs.writeTarget path with
                  | error cause => rfl
                  | ok place => rfl

/-- **One request.**  Its text is put at the place of its path, or nothing changes. -/
theorem perform_cases (r : Request) (fs : FileSystem) :
    (∃ path text place, r.Delivers fs path text place ∧
      r.perform fs = (.ok path, fs.insert place (.file text.toUTF8))) ∨
    ∃ cause, r.Fails fs cause ∧ r.perform fs = (.error cause, fs) := by
  rw [perform_eq]
  cases hpath : r.path? with
  | none => exact .inr ⟨_, .noDestination hpath, rfl⟩
  | some path =>
      cases htext : r.text fs with
      | error cause => exact .inr ⟨_, .noText hpath htext, rfl⟩
      | ok text =>
          simp only
          cases htarget : fs.writeTarget path with
          | error cause => exact .inr ⟨_, .refused hpath htext htarget, rfl⟩
          | ok place => exact .inl ⟨path, text, place, ⟨hpath, htext, htarget⟩, rfl⟩

theorem Delivers.place?_eq (h : r.Delivers fs path text place) : fs.place? path = some place :=
  (FileSystem.place?_of_writeTarget h.target_eq).1

theorem Delivers.ne_nil (h : r.Delivers fs path text place) : place ≠ [] :=
  FileSystem.ne_nil_of_place? h.place?_eq

/-- What a request writes if it succeeds: the place and the text. -/
def wrote? (r : Request) (fs : FileSystem) : Option (Location × String) :=
  match (r.perform fs).1 with
  | .error _ => none
  | .ok path =>
    match fs.place? path, r.text fs with
    | some place, .ok text => some (place, text)
    | _, _ => none

/-- A request that fails writes nothing. -/
theorem wrote?_of_error {cause : GenerationError} (h : (r.perform fs).1 = .error cause) :
    r.wrote? fs = none := by
  rw [wrote?, h]

/-- A request that succeeds writes the text that it delivers. -/
theorem Delivers.wrote?_eq (h : r.Delivers fs path text place)
    (hperform : (r.perform fs).1 = .ok path) : r.wrote? fs = some (place, text) := by
  simp only [wrote?, hperform, h.place?_eq, h.text_eq]

/-- The files after a request are those before it with what it wrote. -/
theorem perform_snd (r : Request) (fs : FileSystem) :
    (r.perform fs).2 = fs.putTexts (r.wrote? fs).toList := by
  obtain ⟨path, text, place, hdelivers, hperform⟩ | ⟨cause, -, hperform⟩ := r.perform_cases fs
  · rw [hdelivers.wrote?_eq (by rw [hperform]), hperform]
    rfl
  · rw [wrote?_of_error (by rw [hperform]), hperform]
    rfl

/-- A request leaves the directories as they were. -/
theorem sameDirectories_perform (r : Request) (fs : FileSystem) :
    FileSystem.SameDirectories fs (r.perform fs).2 := by
  obtain ⟨path, text, place, hdelivers, hperform⟩ | ⟨cause, -, hperform⟩ := r.perform_cases fs
  · rw [hperform]
    exact FileSystem.sameDirectories_insert hdelivers.ne_nil
      (FileSystem.place?_of_writeTarget hdelivers.target_eq).2 _
  · rw [hperform]
    exact .refl fs

/-- What a request wrote is read back. -/
theorem Delivers.read_eq (h : r.Delivers fs path text place)
    (hperform : (r.perform fs).2 = fs.insert place (.file text.toUTF8)) :
    (r.perform fs).2.read path = .ok text := by
  have hplace : (r.perform fs).2.place? path = some place := by
    rw [(r.sameDirectories_perform fs).place?_eq, h.place?_eq]
  refine FileSystem.read_eq_of_place? hplace ?_
  rw [hperform, FileSystem.get?_insert h.ne_nil, if_pos rfl]

theorem ne_nil_of_wrote? {written : Location × String} (h : written ∈ r.wrote? fs) :
    written.1 ≠ [] := by
  obtain ⟨path, text, place, hdelivers, hperform⟩ | ⟨cause, -, hperform⟩ := r.perform_cases fs
  · rw [hdelivers.wrote?_eq (by rw [hperform]), Option.mem_some_iff] at h
    exact h ▸ hdelivers.ne_nil
  · rw [wrote?_of_error (by rw [hperform])] at h
    cases h

/-! ### A sequence of requests -/

/-- The files after requests were performed, one after another. -/
def performAll (requests : List Request) (fs : FileSystem) : FileSystem :=
  (requests.mapM perform fs).2

/-- What requests write, one after another, with the place of each text. -/
def writes : List Request → FileSystem → List (Location × String)
  | [], _ => []
  | r :: rest, fs => (r.wrote? fs).toList ++ writes rest (r.perform fs).2

theorem performAll_cons (r : Request) (rest : List Request) (fs : FileSystem) :
    performAll (r :: rest) fs = performAll rest (r.perform fs).2 := by
  rw [performAll, List.mapM_cons, bind_apply, bind_apply]
  rfl

/-- **Many requests**: the files after them are those before with what each wrote, in order. -/
theorem performAll_eq (requests : List Request) (fs : FileSystem) :
    performAll requests fs = fs.putTexts (writes requests fs) := by
  induction requests generalizing fs with
  | nil => rfl
  | cons r rest ih =>
      rw [performAll_cons, ih, writes, FileSystem.putTexts_append, ← perform_snd]

theorem sameDirectories_performAll (requests : List Request) (fs : FileSystem) :
    FileSystem.SameDirectories fs (performAll requests fs) := by
  induction requests generalizing fs with
  | nil => exact .refl fs
  | cons r rest ih =>
      rw [performAll_cons]
      exact (sameDirectories_perform r fs).trans (ih _)

theorem ne_nil_of_mem_writes {requests : List Request} {fs : FileSystem}
    {written : Location × String} (h : written ∈ writes requests fs) : written.1 ≠ [] := by
  induction requests generalizing fs with
  | nil => cases h
  | cons r rest ih =>
      rcases List.mem_append.mp h with h | h
      · exact ne_nil_of_wrote? (Option.mem_toList.mp h)
      · exact ih h

/-- What stands at a place after requests: the text that was last written there, or else what stood
there before. -/
theorem get?_performAll (requests : List Request) (fs : FileSystem) (place : Location) :
    (performAll requests fs).get? place =
      match FileSystem.lastText? (writes requests fs) place with
      | some text => some (.file text.toUTF8)
      | none => fs.get? place := by
  rw [performAll_eq]
  exact FileSystem.get?_putTexts (fun _ => ne_nil_of_mem_writes) fs place

/-- **Writing is all or nothing.**  A request that fails leaves the files exactly as they were; one
that succeeds replaces the file at the place of its path by its text, and nothing else.  So after
any sequence of requests a place holds what was last written there, or else what it held at first,
and the table in a file is the table in the text that was last written to it. -/
theorem requests_all_or_nothing (fs : FileSystem) (requests : List Request) :
    (∀ (r : Request) (before : FileSystem),
      match r.perform before with
      | (.error cause, after) => r.Fails before cause ∧ after = before
      | (.ok path, after) =>
        r.path? = some path ∧ after.workingDirectory = before.workingDirectory ∧
        ∃ place text, before.place? path = some place ∧ r.text before = .ok text ∧
          ∀ other, after.get? other =
            if other = place then some (.file text.toUTF8) else before.get? other) ∧
    (∀ place, (performAll requests fs).get? place =
      match FileSystem.lastText? (writes requests fs) place with
      | some text => some (.file text.toUTF8)
      | none => fs.get? place) ∧
    (∀ path, (performAll requests fs).place? path = fs.place? path) ∧
    ∀ base path place text, fs.place? path = some place →
      FileSystem.lastText? (writes requests fs) place = some text →
      ((Table.ofFile base path : StateM FileSystem _) (performAll requests fs)).1 =
        Table.ofSource base text := by
  refine ⟨fun r before => ?_, get?_performAll requests fs,
    (sameDirectories_performAll requests fs).place?_eq, fun base path place text hplace hlast => ?_⟩
  · obtain ⟨path, text, place, hdelivers, hperform⟩ | ⟨cause, hfails, hperform⟩ :=
      r.perform_cases before
    · rw [hperform]
      exact ⟨hdelivers.path_eq, rfl, place, text, hdelivers.place?_eq, hdelivers.text_eq,
        FileSystem.get?_insert hdelivers.ne_nil before _⟩
    · rw [hperform]
      exact ⟨hfails, rfl⟩
  · have hplace' : (performAll requests fs).place? path = some place := by
      rw [(sameDirectories_performAll requests fs).place?_eq, hplace]
    have hfile : (performAll requests fs).get? place = some (.file text.toUTF8) := by
      rw [get?_performAll, hlast]
    rw [Table.ofFile_eq, FileSystem.read_eq_of_place? hplace' hfile]

/-- A table is written, a job makes a document of it, a job without a destination and a write into a
directory that does not exist fail, and the table is written anew. -/
def tableRequests : List Request :=
  let job := (Job.new "Expr").apply (.tableFile "shapes.txt")
  [.write "shapes.txt" "This : Token keyword", .run (job.apply (.outputDirectory ".")), .run job,
    .write "missing/shapes.txt" "Get : Token name", .write "./shapes.txt" "Super : Token keyword"]

theorem requests_all_or_nothing_tableRequests :
    let fs := FileSystem.empty ["work"]
    fs.place? "shapes.txt" = some ["work", "shapes.txt"] ∧
    FileSystem.lastText? (writes tableRequests fs) ["work", "shapes.txt"] =
      some "Super : Token keyword" ∧
    (writes tableRequests fs).map Prod.fst =
      [["work", "shapes.txt"], ["work", "Expr.java"], ["work", "shapes.txt"]] ∧
    ((Table.ofFile "Expr" "shapes.txt" : StateM FileSystem _) (performAll tableRequests fs)).1 =
      Table.ofSource "Expr" "Super : Token keyword" := by
  have hplace : (FileSystem.empty ["work"]).place? "shapes.txt" = some ["work", "shapes.txt"] := by
    decide +kernel
  have hlast : FileSystem.lastText? (writes tableRequests (FileSystem.empty ["work"]))
      ["work", "shapes.txt"] = some "Super : Token keyword" := by
    decide +kernel
  exact ⟨hplace, hlast, by decide +kernel,
    (requests_all_or_nothing _ tableRequests).2.2.2 "Expr" "shapes.txt" _ _ hplace hlast⟩

end Request

end AstForge
