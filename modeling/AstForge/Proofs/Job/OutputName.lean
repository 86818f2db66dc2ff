import AstForge.Proofs.Job.Requests
import AstForge.Proofs.Table.Parsed

/-!
# Jobs — the name of the file

A job that writes into a directory names the file after the base type as the job gives it.  The
table drops the blanks around that name.  So the file is named after the base type of the document
exactly when the job gives the name without blanks around it.

* `Job.file_named_as_given`: the name of the file, and when it is that of the base type.
* `paddedJob_file`: a job whose file is not named after the base type of its document.
-/

namespace AstForge

open Text

/-! ### File names -/

/-- A text that is a word when trimmed holds no slash, since a slash is no blank. -/
theorem slash_notMem_of_trim {cs : List Char} (h : IsWord (trim cs)) : '/' ∉ cs := by
  obtain ⟨-, w, w', hw, hw', hcs⟩ := trim_eq_iff.mp (rfl : trim cs = trim cs)
  have hblank : ∀ v : List Char, (∀ c ∈ v, isBlank c) → '/' ∉ v := fun v hv hmem =>
    absurd (hv '/' hmem) (by decide)
  rw [hcs, List.mem_append, List.mem_append, not_or, not_or]
  exact ⟨⟨hblank w hw, h.notMem (by decide)⟩, hblank w' hw'⟩

namespace Target

/-- A base type without a slash has a file name without a separator. -/
theorem separator_notMem_fileName {base : String} (h : '/' ∉ base.toList) (target : Target) :
    Path.separator ∉ (target.fileName base).toList := by
  cases target with
  | java =>
      rw [fileName, String.toList_append, List.mem_append, not_or]
      exact ⟨h, by decide⟩
  | rust =>
      rw [fileName, String.toList_append, List.mem_append, not_or, toLower, String.toList_ofList]
      exact ⟨slash_notMem_lowerAfter h [], by decide⟩

/-- The file of a base type tells whether there were blanks around the name. -/
theorem fileName_trim_eq_iff {base : String} (h : IsWord (trim base.toList)) (target : Target) :
    target.fileName base = target.fileName (String.ofList (trim base.toList)) ↔
      trim base.toList = base.toList := by
  constructor
  · intro heq
    obtain ⟨-, w, w', -, -, hbase⟩ := trim_eq_iff.mp (rfl : trim base.toList = trim base.toList)
    have hlength : base.toList.length ≤ (trim base.toList).length := by
      cases target with
      | java =>
          have hname := congrArg String.toList ((String.append_left_inj ".java").mp heq)
          rw [String.toList_ofList] at hname
          exact Nat.le_of_eq (congrArg List.length hname)
      | rust =>
          have hname := (String.append_left_inj ".rs").mp heq
          have hlower := String.ofList_injective hname
          rw [String.toList_ofList, lowerAfter_of_isWord h] at hlower
          calc base.toList.length ≤ (lowerAfter [] base.toList).length :=
                length_le_lowerAfter [] base.toList
            _ = (trim base.toList).length := by rw [hlower, List.length_map]
    have hinfix : trim base.toList <:+: base.toList := ⟨w, w', hbase.symm⟩
    exact hinfix.sublist.eq_of_length_le hlength
  · intro heq
    rw [heq, String.ofList_toList]

end Target

/-! ### The table of a job -/

/-- The base type of a table that was read is the given one, trimmed, and an identifier. -/
theorem Table.base_of_ofDeclarations {base : String} {declarations : List String} {t : Table}
    (h : Table.ofDeclarations base declarations = .ok t) :
    t.base = String.ofList (trim base.toList) ∧ isIdentifier (trim base.toList) := by
  obtain ⟨ds, -, rfl, hvalid⟩ := Table.ofDeclarations_eq_ok_iff.mp h
  have hbase := Table.base_foldl_declare ds (Table.empty (String.ofList (trim base.toList)))
  refine ⟨hbase, ?_⟩
  have hidentifier := (Table.validate_eq_ok_iff.mp hvalid).base
  rwa [hbase, Table.empty, String.toList_ofList] at hidentifier

/-- The table of a job is read from declarations, wherever they come from. -/
theorem Job.exists_declarations_of_tableIn {job : Job} {fs : FileSystem} {t : Table}
    (h : job.tableIn fs = .ok t) :
    ∃ declarations, Table.ofDeclarations job.base declarations = .ok t := by
  cases hsource : job.source with
  | declarations ds =>
      rw [Job.tableIn, Job.table, hsource] at h
      exact ⟨ds, mapError_eq_ok_iff.mp h⟩
  | file path =>
      rw [Job.tableIn_of_file hsource, mapError_eq_ok_iff, Table.ofFile_eq] at h
      cases hread : fs.read path with
      | error cause =>
          rw [hread] at h
          cases h
      | ok source =>
          rw [hread] at h
          exact ⟨sourceDeclarations source, h⟩

/-! ### The file of a job -/

/-- **The file is named as the job names the base type.**  The document in the file declares the
base type under the name of the table, which has no blanks around it.  So the file is named after
the base type that it declares exactly when the job names it without blanks around it. -/
theorem Job.file_named_as_given {job : Job} {fs : FileSystem} {directory path : String}
    (hdestination : job.destination = some (.directory directory))
    (hrun : ((job.run : StateM FileSystem Outcome) fs).1.result = .ok path) :
    ∃ t document, job.tableIn fs = .ok t ∧ t.generate job.config = .ok document ∧
      ((job.run : StateM FileSystem Outcome) fs).2.read path = .ok document ∧
      path = Path.join directory (job.target.fileName job.base) ∧
      (path = Path.join directory (job.target.fileName t.base) ↔
        trim job.base.toList = job.base.toList) := by
  have hresult : ((Request.run job).perform fs).1 = .ok path := hrun
  obtain ⟨path', document, place, hdelivers, hperform⟩ | ⟨cause, -, hperform⟩ :=
    (Request.run job).perform_cases fs
  · rw [hperform] at hresult
    obtain rfl := Except.ok.inj hresult
    have hdocument : job.documentIn fs = .ok document := hdelivers.text_eq
    rw [Job.documentIn_eq] at hdocument
    obtain ⟨t, htable, hgenerate⟩ := bind_eq_ok_iff.mp hdocument
    have hpath : path' = Path.join directory (job.target.fileName job.base) := by
      have hgiven : job.outputPath = some path' := hdelivers.path_eq
      rw [Job.outputPath, hdestination] at hgiven
      exact (Option.some.inj hgiven).symm
    obtain ⟨declarations, hdeclarations⟩ := Job.exists_declarations_of_tableIn htable
    obtain ⟨hbase, hidentifier⟩ := Table.base_of_ofDeclarations hdeclarations
    have hword : IsWord (trim job.base.toList) := isWord_of_isIdentifier hidentifier
    have hslash := Target.separator_notMem_fileName (slash_notMem_of_trim hword) job.target
    have hslash' : Path.separator ∉ (job.target.fileName t.base).toList := by
      refine Target.separator_notMem_fileName ?_ job.target
      rw [hbase, String.toList_ofList]
      exact hword.notMem (by decide)
    refine ⟨t, document, htable, hgenerate, hdelivers.read_eq (by rw [hperform]), hpath, ?_⟩
    rw [hpath, Path.join_inj hslash hslash', hbase]
    exact Target.fileName_trim_eq_iff hword job.target
  · rw [hperform] at hresult
    cases hresult

/-- A job whose table is read from a file and whose document goes to a directory below. -/
def plainJob : Job :=
  [Setting.tableFile "shapes.txt", .target .rust, .outputDirectory "out/"].foldl Job.apply
    (Job.new "Expr")

/-- The same job, with blanks around the name of the base type. -/
def paddedJob : Job :=
  { plainJob with base := " Expr " }

/-- The file of a table and the directory for a document. -/
def shapesDirectory : FileSystem :=
  ((FileSystem.empty ["work"]).makeFile ["work", "shapes.txt"] "This : Token keyword\n".toUTF8
    ).makeDirectory ["work", "out"]

theorem file_named_as_given_plainJob :
    plainJob.destination = some (.directory "out/") ∧
    ((plainJob.run : StateM FileSystem Job.Outcome) shapesDirectory).1.result =
      .ok "out/expr.rs" ∧
    ∃ t document, plainJob.tableIn shapesDirectory = .ok t ∧
      t.generate plainJob.config = .ok document ∧
      ((plainJob.run : StateM FileSystem Job.Outcome) shapesDirectory).2.read "out/expr.rs" =
        .ok document ∧
      "out/expr.rs" = Path.join "out/" (Target.fileName .rust t.base) := by
  have hrun : ((plainJob.run : StateM FileSystem Job.Outcome) shapesDirectory).1.result =
      .ok "out/expr.rs" := by
    decide +kernel
  obtain ⟨t, document, htable, hgenerate, hread, -, hnamed⟩ := Job.file_named_as_given rfl hrun
  exact ⟨rfl, hrun, t, document, htable, hgenerate, hread, hnamed.mpr (by decide +kernel)⟩

/-- The document declares `Expr`, and its file is not the file of `Expr`. -/
theorem paddedJob_file :
    paddedJob.destination = some (.directory "out/") ∧
    ((paddedJob.run : StateM FileSystem Job.Outcome) shapesDirectory).1.result =
      .ok "out/ expr .rs" ∧
    (paddedJob.tableIn shapesDirectory).map Table.base = .ok "Expr" ∧
    "out/ expr .rs" ≠ Path.join "out/" (Target.fileName .rust "Expr") := by
  decide +kernel

end AstForge
