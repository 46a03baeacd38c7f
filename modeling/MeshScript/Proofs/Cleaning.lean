import MeshScript.Normalize
/-!
# MeshScript.Proofs.Cleaning -- a chain of cleaning stages is one filter

Chains are put together from `Stage.identity` by adding one stage at the end, or a whole chain
that was put together before. `CleaningChain` is that syntax for the stages that only take lines
out, with stages that fail among them; `CleaningChain.steps` forgets how a chain is grouped.

`stage_outcome` says what a chain gives: the error of its first failing step, or else the lines
that every one of its steps keeps. Nothing in this refers to the grouping. Order and repetition
enter through the first failing step alone, so they have no influence as long as no two steps fail
in different ways (`cleanedBy_congr`).

Normalization as one chain is cleaning and then the rest for the same reason
(`normalize_eq_andThen`): chaining is associative, and `Stage.identity` is neutral in front.
-/

namespace MeshScript

/-! ## Steps and chains -/

/-- **A cleaning step**: a stage that only takes lines out, or one that fails. -/
inductive CleaningStep
  /-- Blank lines are dropped. -/
  | blank
  /-- Excluded lines are dropped. -/
  | excluded
  /-- Blank lines are dropped, and then excluded ones. -/
  | both
  /-- Fails on every script. -/
  | failing (error : StageError)
  deriving DecidableEq, Repr

namespace CleaningStep

/-- The stage of the step. -/
def stage : CleaningStep → Stage Script Script
  | blank => dropBlank
  | excluded => dropExcluded
  | both => clean
  | failing error => .failing error

/-- The error with which the step fails, if it does. -/
def failure? : CleaningStep → Option StageError
  | failing error => some error
  | _ => none

/-- The step drops blank lines. -/
def dropsBlank : CleaningStep → Bool
  | blank | both => true
  | _ => false

/-- The step drops excluded lines. -/
def dropsExcluded : CleaningStep → Bool
  | excluded | both => true
  | _ => false

theorem failure?_eq_some_iff {step : CleaningStep} {error : StageError} :
    step.failure? = some error ↔ step = failing error := by
  cases step <;> simp [failure?]

end CleaningStep

/-- **A chain of cleaning stages**, as it is put together. -/
inductive CleaningChain
  /-- The chain without a step. -/
  | identity
  /-- One more step at the end. -/
  | andThen (front : CleaningChain) (step : CleaningStep)
  /-- Another chain at the end. -/
  | andThenChain (front back : CleaningChain)

namespace CleaningChain

/-- The stage of the chain. -/
def stage : CleaningChain → Stage Script Script
  | identity => .identity
  | andThen front step => front.stage.andThen step.stage
  | andThenChain front back => front.stage.andThen back.stage

/-- The steps of the chain, first to last. -/
def steps : CleaningChain → List CleaningStep
  | identity => []
  | andThen front step => front.steps ++ [step]
  | andThenChain front back => front.steps ++ back.steps

end CleaningChain

/-! ## What a list of steps leaves -/

/-- The line is kept by all of the steps: it is not blank if one of them drops blank lines, and no
exclusion pattern stands in it if one of them drops excluded lines. -/
def keptBy (steps : List CleaningStep) (line : Text) : Bool :=
  !(steps.any (·.dropsBlank) && line.all isWhiteSpace) &&
    !(steps.any (·.dropsExcluded) &&
      Exclusion.table.any fun exclusion => line.includes exclusion.pattern)

/-- **What the steps leave of a script**: the error of the first one that fails, or else the lines
that all of them keep, in order. -/
def cleanedBy (steps : List CleaningStep) (script : Script) : Except StageError Script :=
  match steps.findSome? CleaningStep.failure? with
  | some error => .error error
  | none => .ok ⟨script.lines.filter (keptBy steps)⟩

theorem isExcluded_eq_any (line : Text) :
    line.isExcluded = Exclusion.table.any fun exclusion => line.includes exclusion.pattern := by
  rw [Bool.eq_iff_iff, Text.isExcluded_iff, List.any_eq_true]
  simp only [Text.includes_iff]

theorem keptBy_nil : keptBy [] = fun _ => true :=
  rfl

theorem keptBy_singleton (step : CleaningStep) :
    keptBy [step] = fun line => !(step.dropsBlank && line.isBlank) &&
      !(step.dropsExcluded && line.isExcluded) := by
  funext line
  rw [isExcluded_eq_any]
  simp only [keptBy, List.any_cons, List.any_nil, Bool.or_false, Text.isBlank]

theorem keptBy_append (front back : List CleaningStep) :
    keptBy (front ++ back) = fun line => keptBy front line && keptBy back line := by
  funext line
  simp only [keptBy, List.any_append]
  cases front.any (·.dropsBlank) <;> cases back.any (·.dropsBlank) <;>
    cases front.any (·.dropsExcluded) <;> cases back.any (·.dropsExcluded) <;> grind

/-- **Steps go on from what the steps before them leave.** -/
theorem cleanedBy_append (front back : List CleaningStep) (script : Script) :
    cleanedBy (front ++ back) script = cleanedBy front script >>= cleanedBy back := by
  unfold cleanedBy
  rw [List.findSome?_append]
  cases front.findSome? CleaningStep.failure? with
  | some error => rfl
  | none =>
    cases back.findSome? CleaningStep.failure? with
    | some error => rfl
    | none => simp [bind, Except.bind, List.filter_filter, keptBy_append, Bool.and_comm]

/-- One step. -/
theorem CleaningStep.stage_outcome (step : CleaningStep) (script : Script) :
    (step.stage.run script).outcome = cleanedBy [step] script := by
  cases step with
  | blank =>
    rw [stage, dropBlank_outcome]
    simp [cleanedBy, failure?, keptBy_singleton, dropsBlank, dropsExcluded, Script.filter]
  | excluded =>
    rw [stage, dropExcluded_outcome]
    simp [cleanedBy, failure?, keptBy_singleton, dropsBlank, dropsExcluded, Script.filter]
  | both =>
    rw [stage, clean_outcome]
    simp [cleanedBy, failure?, keptBy_singleton, dropsBlank, dropsExcluded, Script.filter,
      List.filter_filter, Bool.and_comm]
  | failing error => rfl

/-- **What a chain gives** depends on its steps only, not on their grouping. -/
theorem CleaningChain.stage_outcome (chain : CleaningChain) (script : Script) :
    (chain.stage.run script).outcome = cleanedBy chain.steps script := by
  induction chain generalizing script with
  | identity =>
    show Except.ok script = Except.ok ⟨script.lines.filter (keptBy [])⟩
    rw [keptBy_nil, List.filter_eq_self.2 fun _ _ => rfl]
  | andThen front step ih =>
    rw [stage, Stage.andThen_outcome, ih, steps, cleanedBy_append]
    exact congrArg _ (funext step.stage_outcome)
  | andThenChain front back ihfront ihback =>
    rw [stage, Stage.andThen_outcome, ihfront, steps, cleanedBy_append]
    exact congrArg _ (funext ihback)

/-! ## Order and repetition -/

theorem keptBy_congr {steps steps' : List CleaningStep}
    (h : ∀ step, step ∈ steps ↔ step ∈ steps') : keptBy steps = keptBy steps' := by
  have hany : ∀ drops : CleaningStep → Bool, steps.any drops = steps'.any drops := by
    intro drops
    rw [Bool.eq_iff_iff, List.any_eq_true, List.any_eq_true]
    simp only [h]
  funext line
  rw [keptBy, keptBy, hany, hany]

/-- **The steps that occur decide**, not their order or repetition, if no two of them fail in
different ways. -/
theorem cleanedBy_congr {steps steps' : List CleaningStep}
    (h : ∀ step, step ∈ steps ↔ step ∈ steps')
    (hfailing : ∀ error error', .failing error ∈ steps → .failing error' ∈ steps →
      error = error') (script : Script) :
    cleanedBy steps script = cleanedBy steps' script := by
  have hmem : ∀ {steps : List CleaningStep} {error},
      steps.findSome? CleaningStep.failure? = some error → .failing error ∈ steps := by
    intro steps error hfirst
    obtain ⟨step, hstep, hfailure⟩ := List.exists_of_findSome?_eq_some hfirst
    rwa [CleaningStep.failure?_eq_some_iff.1 hfailure] at hstep
  have hnone : ∀ {steps : List CleaningStep} {error},
      steps.findSome? CleaningStep.failure? = none → .failing error ∉ steps := by
    intro steps error hfirst hstep
    cases List.findSome?_eq_none_iff.1 hfirst _ hstep
  unfold cleanedBy
  cases hfirst : steps.findSome? CleaningStep.failure? with
  | some error =>
    have hstep := hmem hfirst
    cases hfirst' : steps'.findSome? CleaningStep.failure? with
    | some error' => rw [hfailing error error' hstep ((h _).2 (hmem hfirst'))]
    | none => exact absurd ((h _).1 hstep) (hnone hfirst')
  | none =>
    cases hfirst' : steps'.findSome? CleaningStep.failure? with
    | some error' => exact absurd ((h _).2 (hmem hfirst')) (hnone hfirst)
    | none => rw [keptBy_congr h]

/-! ## Chains -/

/-- **Normalization is cleaning and then the rest**, with all its events. -/
theorem normalize_eq_andThen (base : Text) : normalize base = clean.andThen (retarget base) := by
  unfold normalize retarget
  simp only [Stage.identity_andThen, Stage.andThen_assoc]

/-- **A chain of cleaning stages is one filter.** It gives the error of its first failing step,
whatever follows; without one it gives the lines that all its steps keep, as they were and in
order. Another chain with the same steps in it, whatever their order, grouping and repetition, gives
the same, unless there are steps that fail in different ways. And to clean, substitute and append
the block in one chain is to clean first and then to do the rest. -/
theorem cleaningChain_filters (chain : CleaningChain) (script : Script) :
    (chain.stage.run script).outcome =
        (match chain.steps.findSome? CleaningStep.failure? with
        | some error => .error error
        | none => .ok ⟨script.lines.filter (keptBy chain.steps)⟩) ∧
      (∀ other : CleaningChain, (∀ step, step ∈ chain.steps ↔ step ∈ other.steps) →
        (∀ error error', .failing error ∈ chain.steps → .failing error' ∈ chain.steps →
          error = error') →
        (other.stage.run script).outcome = (chain.stage.run script).outcome) ∧
      ∀ base, normalize base = clean.andThen (retarget base) := by
  refine ⟨chain.stage_outcome script, ?_, normalize_eq_andThen⟩
  intro other hsteps hfailing
  rw [chain.stage_outcome, other.stage_outcome, cleanedBy_congr hsteps hfailing]

/-- Blank lines, a comment behind a statement, and a statement that stays. -/
def sampleUncleaned : Script :=
  ⟨[ "".toList, "lc = 1; // size".toList, " \t".toList, "  Save \"a.unv\";".toList ]⟩

/-- A chain with a chain in it, which drops blank lines twice. -/
def sampleChain : CleaningChain :=
  .andThenChain (.andThen .identity .blank) (.andThen (.andThen .identity .excluded) .blank)

/-- The same steps the other way round, once each and without the inner chain. -/
theorem cleaningChain_filters_sample :
    (sampleChain.stage.run sampleUncleaned).outcome = .ok ⟨["  Save \"a.unv\";".toList]⟩ ∧
      (((CleaningChain.identity.andThen .excluded).andThen .blank).stage.run
          sampleUncleaned).outcome = .ok ⟨["  Save \"a.unv\";".toList]⟩ := by
  obtain ⟨hgives, hother, -⟩ := cleaningChain_filters sampleChain sampleUncleaned
  have hkept : sampleUncleaned.lines.filter (keptBy sampleChain.steps) =
      ["  Save \"a.unv\";".toList] := by
    decide +kernel
  rw [hkept] at hgives
  refine ⟨hgives, ?_⟩
  rw [hother, hgives]
  · rfl
  · intro step
    simp [sampleChain, CleaningChain.steps, or_comm]
  · simp [sampleChain, CleaningChain.steps]

/-- Of two failures the first one counts, and nothing behind it. -/
example (script : Script) :
    ((((CleaningChain.identity.andThen .both).andThen (.failing (.noSurfaceList ['a']))).andThen
        (.failing (.noSurfaceList ['b']))).stage.run script).outcome =
      .error (.noSurfaceList ['a']) :=
  rfl

end MeshScript
