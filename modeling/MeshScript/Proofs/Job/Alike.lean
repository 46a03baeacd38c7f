import MeshScript.Proofs.Job
import MeshScript.Proofs.FileSystem.Differences
/-!
# MeshScript.Proofs.Job.Alike -- one job on two file systems

`Job.Alike job files others post` compares two runs of a job: they have the same outcome, and
the outcome and the two file systems left satisfy `post`. A sequence is alike if its
first part is and leaves two file systems on which the rest is alike (`alike_bind`), so a proof
about a whole run is one application for each operation.

An operation that reads must give the same in both. One that writes must be `Matched`.
-/

namespace MeshScript.Job

open FileSystem (Matched)

variable {α β γ : Type} {files others : FileSystem}
  {post : Except JobError β → FileSystem → FileSystem → Prop}

/-- **The job does alike** on the two file systems, and `post` relates what it leaves. -/
def Alike (job : Job α) (files others : FileSystem)
    (post : Except JobError α → FileSystem → FileSystem → Prop) : Prop :=
  ∃ outcome after after', Ends job files outcome after ∧ Ends job others outcome after' ∧
    post outcome after after'

theorem Alike.outcome_eq {job : Job β} (h : Alike job files others post) :
    (job.run files).outcome = (job.run others).outcome := by
  obtain ⟨outcome, after, after', ⟨houtcome, -⟩, ⟨houtcome', -⟩, -⟩ := h
  rw [houtcome, houtcome']

theorem Alike.left {job : Job β} (h : Alike job files others post) :
    post (job.run files).outcome (job.run files).files (job.run others).files := by
  obtain ⟨outcome, after, after', ⟨rfl, rfl⟩, ⟨-, rfl⟩, hpost⟩ := h
  exact hpost

theorem Alike.mono {job : Job β} {post' : Except JobError β → FileSystem → FileSystem → Prop}
    (h : Alike job files others post')
    (himp : ∀ outcome after after', post' outcome after after' → post outcome after after') :
    Alike job files others post := by
  obtain ⟨outcome, after, after', hends, hends', hpost⟩ := h
  exact ⟨outcome, after, after', hends, hends', himp _ _ _ hpost⟩

/-- One file system is treated like itself. -/
theorem alike_self {job : Job β} (h : ∀ outcome after, post outcome after after) :
    Alike job files files post :=
  ⟨_, _, _, ends_run job files, ends_run job files, h _ _⟩

theorem alike_pure {b : β} (h : post (.ok b) files others) :
    Alike (pure b) files others post :=
  ⟨_, _, _, ends_pure.2 ⟨rfl, rfl⟩, ends_pure.2 ⟨rfl, rfl⟩, h⟩

/-- **A sequence** goes on from the two file systems that its first part left. -/
theorem alike_bind {first : Job α} {next : α → Job β}
    (h : Alike first files others fun outcome after after' =>
      match outcome with
      | .error e => post (.error e) after after'
      | .ok a => Alike (next a) after after' post) :
    Alike (first >>= next) files others post := by
  obtain ⟨outcome, mid, mid', hends, hends', h⟩ := h
  cases outcome with
  | error e =>
    exact ⟨_, _, _, (ends_bind_of_error hends).2 ⟨rfl, rfl⟩,
      (ends_bind_of_error hends').2 ⟨rfl, rfl⟩, h⟩
  | ok a =>
    obtain ⟨outcome, after, after', hrest, hrest', hpost⟩ := h
    exact ⟨outcome, after, after', (ends_bind_of_ok hends).2 hrest,
      (ends_bind_of_ok hends').2 hrest', hpost⟩

theorem alike_note {event : Event} {post : Except JobError Unit → FileSystem → FileSystem → Prop}
    (h : post (.ok ()) files others) : Alike (note event) files others post :=
  ⟨_, _, _, ⟨rfl, rfl⟩, ⟨rfl, rfl⟩, h⟩

theorem alike_note_bind {event : Event} {next : Unit → Job β}
    (h : Alike (next ()) files others post) : Alike (note event >>= next) files others post :=
  alike_bind (alike_note h)

theorem alike_through_bind {stage : Stage γ α} {input : γ} {next : α → Job β}
    (herror : ∀ cause, (stage.run input).outcome = .error cause →
      post (.error (.stageFailed cause)) files others)
    (hok : ∀ a, (stage.run input).outcome = .ok a → Alike (next a) files others post) :
    Alike (through stage input >>= next) files others post := by
  apply alike_bind
  refine ⟨_, _, _, ⟨rfl, rfl⟩, ⟨rfl, rfl⟩, ?_⟩
  show match (stage.run input).outcome.mapError .stageFailed with
    | .error e => post (.error e) files others
    | .ok a => Alike (next a) files others post
  cases houtcome : (stage.run input).outcome with
  | error cause => exact herror cause houtcome
  | ok a => exact hok a houtcome

/-- An operation that reads gives the same in both. -/
theorem alike_query_bind {path : Path} {operation : FileSystem → Except FileError α}
    {next : α → Job β} (hsame : operation files = operation others)
    (herror : ∀ cause, operation files = .error cause →
      post (.error (.fileFailed path cause)) files others)
    (hok : ∀ a, operation files = .ok a → Alike (next a) files others post) :
    Alike (query path operation >>= next) files others post := by
  cases hfiles : operation files with
  | error cause =>
    exact ⟨_, _, _, ends_query_bind.2 (.inl ⟨cause, hfiles, rfl, rfl⟩),
      ends_query_bind.2 (.inl ⟨cause, hsame ▸ hfiles, rfl, rfl⟩), herror cause hfiles⟩
  | ok a =>
    obtain ⟨outcome, after, after', hends, hends', hpost⟩ := hok a hfiles
    exact ⟨outcome, after, after', ends_query_bind.2 (.inr ⟨a, hfiles, hends⟩),
      ends_query_bind.2 (.inr ⟨a, hsame ▸ hfiles, hends'⟩), hpost⟩

/-- An operation that writes is matched. -/
theorem alike_access_bind {path : Path} {operation : FileSystem → Except FileError FileSystem}
    {next : Unit → Job β} {related : FileSystem → FileSystem → Prop}
    (hmatched : Matched related (operation files) (operation others))
    (herror : ∀ cause, post (.error (.fileFailed path cause)) files others)
    (hok : ∀ changed changed', related changed changed' →
      Alike (next ()) changed changed' post) :
    Alike (access path operation >>= next) files others post := by
  generalize hfiles : operation files = result at hmatched
  generalize hothers : operation others = result' at hmatched
  cases hmatched with
  | error cause =>
    exact ⟨_, _, _, ends_access_bind.2 (.inl ⟨cause, hfiles, rfl, rfl⟩),
      ends_access_bind.2 (.inl ⟨cause, hothers, rfl, rfl⟩), herror cause⟩
  | ok hrelated =>
    obtain ⟨outcome, after, after', hends, hends', hpost⟩ := hok _ _ hrelated
    exact ⟨outcome, after, after', ends_access_bind.2 (.inr ⟨_, hfiles, hends⟩),
      ends_access_bind.2 (.inr ⟨_, hothers, hends'⟩), hpost⟩

end MeshScript.Job
