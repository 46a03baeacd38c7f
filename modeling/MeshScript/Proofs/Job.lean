import MeshScript.Job
/-!
# MeshScript.Proofs.Job -- how a job ends

`Job.Ends job files outcome after` says that the job, started on `files`, has that outcome and
leaves the file system `after`; the events are left out. One lemma for each way a job is
made tells where it can end: a sequence ends where its first part fails, or where the
second ends after it (`ends_bind`). The lemmas for an operation that starts a sequence follow.

`Job.Keeps job inv` says that the job leads from every file system with the property to one with
the property, however it ends. `Job.FailsOnly job possible` says that the job has no other failures
than those; a failure that the rest of a sequence does not have comes from its first part
(`ends_bind_of_failsOnly`).
-/

namespace MeshScript.Job

variable {α β : Type} {files after : FileSystem}

/-- **The job ends** with the outcome and leaves the file system. -/
def Ends (job : Job α) (files : FileSystem) (outcome : Except JobError α) (after : FileSystem) :
    Prop :=
  (job.run files).outcome = outcome ∧ (job.run files).files = after

theorem ends_run (job : Job α) (files : FileSystem) :
    Ends job files (job.run files).outcome (job.run files).files :=
  ⟨rfl, rfl⟩

theorem ends_pure {a : α} {outcome : Except JobError α} :
    Ends (pure a) files outcome after ↔ outcome = .ok a ∧ after = files := by
  rw [Ends, run_pure, eq_comm, eq_comm (a := files)]

theorem ends_fail {e : JobError} {outcome : Except JobError α} :
    Ends (fail e) files outcome after ↔ outcome = .error e ∧ after = files := by
  rw [Ends, eq_comm, eq_comm (a := (run (fail e : Job α) files).files)]
  rfl

theorem ends_bind_of_error {first : Job α} {next : α → Job β} {outcome : Except JobError β}
    {e : JobError} {mid : FileSystem} (h : Ends first files (.error e) mid) :
    Ends (first >>= next) files outcome after ↔ outcome = .error e ∧ after = mid := by
  obtain ⟨houtcome, rfl⟩ := h
  rw [Ends, run_bind_of_error houtcome, eq_comm, eq_comm (a := (first.run files).files)]

theorem ends_bind_of_ok {first : Job α} {next : α → Job β} {outcome : Except JobError β}
    {a : α} {mid : FileSystem} (h : Ends first files (.ok a) mid) :
    Ends (first >>= next) files outcome after ↔ Ends (next a) mid outcome after := by
  obtain ⟨houtcome, rfl⟩ := h
  rw [Ends, run_bind_of_ok houtcome, Ends]

/-- **A sequence** ends where its first part fails, or where its second part ends. -/
theorem ends_bind {first : Job α} {next : α → Job β} {outcome : Except JobError β} :
    Ends (first >>= next) files outcome after ↔
      (∃ e, Ends first files (.error e) after ∧ outcome = .error e) ∨
        ∃ a mid, Ends first files (.ok a) mid ∧ Ends (next a) mid outcome after := by
  -- the first part has one outcome, so one of the two sides is empty
  cases houtcome : (first.run files).outcome with
  | error e =>
    rw [ends_bind_of_error ⟨houtcome, rfl⟩]
    constructor
    · rintro ⟨rfl, rfl⟩
      exact Or.inl ⟨e, ⟨houtcome, rfl⟩, rfl⟩
    · rintro (⟨e', ⟨he, rfl⟩, rfl⟩ | ⟨a, mid, ⟨ha, -⟩, -⟩)
      · cases houtcome.symm.trans he
        exact ⟨rfl, rfl⟩
      · cases houtcome.symm.trans ha
  | ok a =>
    rw [ends_bind_of_ok ⟨houtcome, rfl⟩]
    constructor
    · intro h
      exact Or.inr ⟨a, _, ⟨houtcome, rfl⟩, h⟩
    · rintro (⟨e, ⟨he, -⟩, -⟩ | ⟨a', mid, ⟨ha, rfl⟩, h⟩)
      · cases houtcome.symm.trans he
      · cases houtcome.symm.trans ha
        exact h

section Sequence

variable {outcome : Except JobError β}

theorem ends_note_bind {event : Event} {next : Unit → Job β} :
    Ends (note event >>= next) files outcome after ↔ Ends (next ()) files outcome after :=
  ends_bind_of_ok ⟨rfl, rfl⟩

theorem ends_inspect_bind {view : FileSystem → α} {next : α → Job β} :
    Ends (inspect view >>= next) files outcome after ↔
      Ends (next (view files)) files outcome after :=
  ends_bind_of_ok ⟨rfl, rfl⟩

theorem ends_query_bind {path : Path} {operation : FileSystem → Except FileError α}
    {next : α → Job β} :
    Ends (query path operation >>= next) files outcome after ↔
      (∃ cause, operation files = .error cause ∧ outcome = .error (.fileFailed path cause) ∧
        after = files) ∨
      ∃ a, operation files = .ok a ∧ Ends (next a) files outcome after := by
  have hquery : Ends (query path operation) files ((operation files).mapError (.fileFailed path))
      files := ⟨rfl, rfl⟩
  cases hoperation : operation files with
  | error cause =>
    rw [hoperation] at hquery
    rw [ends_bind_of_error hquery]
    simp
  | ok a =>
    rw [hoperation] at hquery
    rw [ends_bind_of_ok hquery]
    simp

theorem ends_access_bind {path : Path} {operation : FileSystem → Except FileError FileSystem}
    {next : Unit → Job β} :
    Ends (access path operation >>= next) files outcome after ↔
      (∃ cause, operation files = .error cause ∧ outcome = .error (.fileFailed path cause) ∧
        after = files) ∨
      ∃ changed, operation files = .ok changed ∧ Ends (next ()) changed outcome after := by
  cases hoperation : operation files with
  | error cause =>
    have haccess : Ends (access path operation) files (.error (.fileFailed path cause)) files := by
      simp only [Ends, run, access, hoperation, and_self]
    rw [ends_bind_of_error haccess]
    simp
  | ok changed =>
    have haccess : Ends (access path operation) files (.ok ()) changed := by
      simp only [Ends, run, access, hoperation, and_self]
    rw [ends_bind_of_ok haccess]
    simp

theorem ends_through_bind {γ : Type} {stage : Stage γ α} {input : γ} {next : α → Job β} :
    Ends (through stage input >>= next) files outcome after ↔
      (∃ cause, (stage.run input).outcome = .error cause ∧
        outcome = .error (.stageFailed cause) ∧ after = files) ∨
      ∃ a, (stage.run input).outcome = .ok a ∧ Ends (next a) files outcome after := by
  have hthrough : Ends (through stage input) files
      ((stage.run input).outcome.mapError .stageFailed) files := ⟨rfl, rfl⟩
  cases hstage : (stage.run input).outcome with
  | error cause =>
    rw [hstage] at hthrough
    rw [ends_bind_of_error hthrough]
    simp
  | ok a =>
    rw [hstage] at hthrough
    rw [ends_bind_of_ok hthrough]
    simp

end Sequence

/-! ## What a job keeps -/

variable {inv : FileSystem → Prop}

/-- **The job keeps** a property of file systems, whether it succeeds or fails. -/
def Keeps (job : Job α) (inv : FileSystem → Prop) : Prop :=
  ∀ files, inv files → inv (job.run files).files

/-- A job that leaves the file system as it is keeps everything. -/
theorem keeps_of_files_eq {job : Job α} (h : ∀ files, (job.run files).files = files) :
    Keeps job inv :=
  fun files hinv => (h files).symm ▸ hinv

/-- **A sequence keeps** what its parts keep; the second part follows a success of the first. -/
theorem keeps_bind_of_ok {first : Job α} {next : α → Job β} (hfirst : Keeps first inv)
    (hnext : ∀ files a, inv files → (first.run files).outcome = .ok a → Keeps (next a) inv) :
    Keeps (first >>= next) inv := by
  intro files hinv
  have hmid := hfirst files hinv
  cases houtcome : (first.run files).outcome with
  | error e =>
    rw [run_bind_of_error houtcome]
    exact hmid
  | ok a =>
    rw [run_bind_of_ok houtcome]
    exact hnext files a hinv houtcome _ hmid

theorem keeps_bind {first : Job α} {next : α → Job β} (hfirst : Keeps first inv)
    (hnext : ∀ a, Keeps (next a) inv) : Keeps (first >>= next) inv :=
  keeps_bind_of_ok hfirst fun _ a _ _ => hnext a

theorem keeps_note_bind {event : Event} {next : Unit → Job α} (hnext : Keeps (next ()) inv) :
    Keeps (note event >>= next) inv :=
  keeps_bind (keeps_of_files_eq fun _ => rfl) fun _ => hnext

theorem keeps_query_bind {path : Path} {operation : FileSystem → Except FileError α}
    {next : α → Job β} (hnext : ∀ a, Keeps (next a) inv) :
    Keeps (query path operation >>= next) inv :=
  keeps_bind (keeps_of_files_eq fun _ => rfl) hnext

theorem keeps_through_bind {γ : Type} {stage : Stage γ α} {input : γ} {next : α → Job β}
    (hnext : ∀ a, Keeps (next a) inv) : Keeps (through stage input >>= next) inv :=
  keeps_bind (keeps_of_files_eq fun _ => rfl) hnext

/-- An operation keeps what it keeps when it succeeds; a failed one changes nothing. -/
theorem keeps_access {path : Path} {operation : FileSystem → Except FileError FileSystem}
    (h : ∀ files changed, inv files → operation files = .ok changed → inv changed) :
    Keeps (access path operation) inv := by
  intro files hinv
  simp only [run, access]
  split
  · rename_i changed hchanged
    exact h files changed hinv hchanged
  · exact hinv

/-! ## How a job can fail -/

variable {possible : JobError → Prop}

/-- **The job fails only** with errors of that kind, on every file system. -/
def FailsOnly (job : Job α) (possible : JobError → Prop) : Prop :=
  ∀ files e, (job.run files).outcome = .error e → possible e

theorem failsOnly_pure (a : α) : FailsOnly (pure a) possible := by
  intro files e h
  cases h

theorem failsOnly_note (event : Event) : FailsOnly (note event) possible := by
  intro files e h
  cases h

theorem failsOnly_query {path : Path} {operation : FileSystem → Except FileError α}
    (h : ∀ cause, possible (.fileFailed path cause)) :
    FailsOnly (query path operation) possible := by
  intro files e he
  simp only [run, query] at he
  cases hoperation : operation files with
  | error cause =>
    rw [hoperation] at he
    cases he
    exact h cause
  | ok a =>
    rw [hoperation] at he
    cases he

theorem failsOnly_access {path : Path} {operation : FileSystem → Except FileError FileSystem}
    (h : ∀ cause, possible (.fileFailed path cause)) :
    FailsOnly (access path operation) possible := by
  intro files e he
  simp only [run, access] at he
  split at he
  · cases he
  · rename_i cause _
    cases he
    exact h cause

theorem failsOnly_through {γ : Type} {stage : Stage γ α} {input : γ}
    (h : ∀ cause, possible (.stageFailed cause)) : FailsOnly (through stage input) possible := by
  intro files e he
  simp only [run, through] at he
  cases houtcome : (stage.run input).outcome with
  | error cause =>
    rw [houtcome] at he
    cases he
    exact h cause
  | ok a =>
    rw [houtcome] at he
    cases he

/-- **A sequence fails only** as one of its parts does. -/
theorem failsOnly_bind {first : Job α} {next : α → Job β} (hfirst : FailsOnly first possible)
    (hnext : ∀ a, FailsOnly (next a) possible) : FailsOnly (first >>= next) possible := by
  intro files e he
  rcases ends_bind.1 ⟨he, rfl⟩ with ⟨e', ⟨hfails, -⟩, heq⟩ | ⟨a, mid, -, ⟨hfails, -⟩⟩
  · cases heq
    exact hfirst files e hfails
  · exact hnext a mid e hfails

/-- **Where a sequence fails.** An error that the second part does not have comes from the first. -/
theorem ends_bind_of_failsOnly {first : Job α} {next : α → Job β} {e : JobError}
    (hnext : ∀ a, FailsOnly (next a) possible) (he : ¬ possible e) :
    Ends (first >>= next) files (.error e) after ↔ Ends first files (.error e) after := by
  rw [ends_bind]
  constructor
  · rintro (⟨e', hends, heq⟩ | ⟨a, mid, -, ⟨hfails, -⟩⟩)
    · cases heq
      exact hends
    · exact absurd (hnext a mid e hfails) he
  · intro hends
    exact Or.inl ⟨e, hends, rfl⟩

end MeshScript.Job
