import NovaHarness.PipelinePhases

namespace NovaHarness.PipelineFrames

open NovaHarness.RecordValidation
open NovaHarness.EarlyExit
open NovaHarness.OrchestrationMachine
open NovaHarness.Driver
open NovaHarness.ToolInterfaceSchema
open NovaHarness.ApprovalSafetySchema
open NovaHarness.Pipeline
open NovaHarness.PipelineRun
open NovaHarness.PipelinePhases

variable {rt : Runtime} {x : PipelineExecutor} {input : PipelineInput}

/-- What the statements found all over a run respect. -/
structure Respected (rt : Runtime) (R : Session → Session → Prop) : Prop where
  refl : ∀ s, R s s
  trans : ∀ s t u, R s t → R t u → R s u
  moved : ∀ s event resolved toState, R s (s.moved rt event resolved toState)
  driver : ∀ s d, d.machine = s.driver.machine → d.currentStateId = state s →
    R s { s with driver := d }
  recording : ∀ s step, R s (s.recording step)

section Statements

variable {R : Session → Session → Prop} (hR : Respected rt R)

include hR

theorem frames_trigger (event : RunEvent) (guardResults : Option GuardResults) :
    Frames R (trigger rt event guardResults) := by
  constructor
  · intro s u t h
    obtain ⟨toState, -, rfl⟩ := (run_trigger_eq_ok_next rt event guardResults s t u).mp h
    exact hR.moved s event _ toState
  · intro s e t h
    rw [run_trigger] at h
    rcases hcall : s.driver.trigger event guardResults (rt.now (.transition event)) with
      ⟨msg | toState, d⟩
    · rw [hcall] at h
      obtain ⟨-, rfl⟩ := EStateM.Result.error.inj h
      obtain ⟨⟨hmachine, hstate⟩, -⟩ := StateDriver.of_trigger_error hcall
      exact hR.driver s d hmachine hstate
    · simp [hcall] at h

theorem frames_record (step : ExecutionStepResult) : Frames R (record step) :=
  Frames.update fun s => hR.recording s step

theorem frames_pure {α : Type} (a : α) : Frames R (pure a : RunM α) :=
  have : Std.Refl R := ⟨hR.refl⟩
  Frames.pure a

theorem frames_exit {α : Type} (e : Exit) : Frames R (exit e : RunM α) :=
  have : Std.Refl R := ⟨hR.refl⟩
  Frames.exit e

theorem frames_attempt {α : Type} (v : Except PyException α) : Frames R (attempt v) :=
  have : Std.Refl R := ⟨hR.refl⟩
  Frames.ofExcept _ v

theorem frames_attempt_bind {α β : Type} {v : Except PyException α} {f : α → RunM β}
    (hf : ∀ a, v = .ok a → Frames R (f a)) : Frames R (attempt v >>= f) :=
  have : Std.Refl R := ⟨hR.refl⟩
  Frames.ofExcept_bind hf

theorem frames_bind {α β : Type} {p : RunM α} {f : α → RunM β} (hp : Frames R p)
    (hf : ∀ a, Frames R (f a)) : Frames R (p >>= f) :=
  have : IsTrans Session R := ⟨hR.trans⟩
  Frames.bind hp hf

theorem frames_orReturn {p : RunM Unit} (hp : Frames R p) : Frames R (orReturn p) := by
  have : IsTrans Session R := ⟨hR.trans⟩
  exact Frames.rescue hp (holds_of_handled fun _ => frames_exit hR _)

theorem frames_orPass {p : RunM Unit} (hp : Frames R p) : Frames R (orPass p) := by
  have : IsTrans Session R := ⟨hR.trans⟩
  exact Frames.rescue hp (holds_of_handled fun _ => frames_pure hR ())

end Statements

section Phases

variable {R : Session → Session → Prop} (hR : Respected rt R)

include hR

theorem frames_startRun : Frames R (startRun rt) :=
  frames_orReturn hR (frames_trigger hR _ _)

theorem frames_assemblePrompt : Frames R (assemblePrompt rt input) := by
  refine frames_bind hR (frames_attempt hR _) fun _ => ?_
  exact frames_bind hR (frames_attempt hR _) fun _ => frames_record hR _

theorem frames_advance : Frames R (advance rt) := by
  apply frames_orReturn hR
  refine frames_bind hR (frames_trigger hR _ _) fun _ => ?_
  exact frames_bind hR (frames_trigger hR _ _) fun _ => frames_trigger hR _ _

theorem frames_followNoPolicy (invocation : ToolInvocation) :
    Frames R (followNoPolicy rt invocation) := by
  refine frames_bind hR (frames_trigger hR _ _) fun _ => ?_
  refine frames_bind hR (frames_attempt hR _) fun _ => ?_
  exact frames_bind hR (frames_record hR _) fun _ => frames_pure hR _

theorem frames_followDecision (invocation : ToolInvocation) (d : SafetyDecision)
    (hpending : d.safetyAction = .requireApproval →
      ∀ s, R s (s.holding { invocation with approvalState := .pending })) :
    Frames R (followDecision rt invocation d) := by
  unfold followDecision
  split
  · refine frames_bind hR (frames_trigger hR _ _) fun _ => ?_
    refine frames_bind hR (frames_trigger hR _ _) fun _ => ?_
    refine frames_bind hR (frames_attempt hR _) fun _ => ?_
    exact frames_bind hR (frames_record hR _) fun _ => frames_exit hR _
  · rename_i haction
    refine frames_bind hR (frames_trigger hR _ _) fun _ => ?_
    refine frames_bind hR (Frames.update (hpending haction)) fun _ => ?_
    refine frames_bind hR (frames_attempt hR _) fun _ => ?_
    refine frames_bind hR (frames_record hR _) fun _ => ?_
    exact frames_bind hR (frames_trigger hR _ _) fun _ => frames_pure hR _
  · refine frames_bind hR (frames_trigger hR _ _) fun _ => ?_
    refine frames_bind hR (frames_attempt hR _) fun _ => ?_
    exact frames_bind hR (frames_record hR _) fun _ => frames_pure hR _

theorem frames_approvalSafety
    (hrequested : ∀ s, R s (s.holding (requested rt x input)))
    (hpending : action x input = .requireApproval →
      ∀ s, R s (s.holding (reviewed rt x input))) :
    Frames R (approvalSafety rt x input) := by
  apply frames_attempt_bind hR
  intro invocation hinvocation
  rw [construct_eq_ok, invocationParts_validate_eq_ok] at hinvocation
  obtain ⟨-, rfl⟩ := hinvocation
  refine frames_bind hR (Frames.update hrequested) fun _ => ?_
  split
  · rename_i policy hpolicy
    apply frames_attempt_bind hR
    intro d hd
    obtain ⟨-, rfl⟩ := (makeSafetyDecision_requested rt x input policy.1 d).mp hd
    apply frames_followDecision hR
    intro haction
    have hrequire := (decision_safetyAction rt x input hpolicy).symm.trans haction
    rw [← reviewed_of_eq rt x input hrequire]
    exact hpending hrequire
  · exact frames_followNoPolicy hR _

theorem frames_prepare
    (hrequested : ∀ s, R s (s.holding (requested rt x input)))
    (hpending : action x input = .requireApproval →
      ∀ s, R s (s.holding (reviewed rt x input))) :
    Frames R (prepare rt x input) := by
  refine frames_bind hR (frames_startRun hR) fun _ => ?_
  refine frames_bind hR (frames_assemblePrompt hR) fun _ => ?_
  refine frames_bind hR (frames_advance hR) fun _ => ?_
  exact frames_approvalSafety hR hrequested hpending

theorem frames_recordVerification (status : TraceSchemas.TraceEventStatus) (outcome : String)
    (count : Nat) : Frames R (recordVerification rt status outcome count) :=
  frames_bind hR (frames_attempt hR _) fun _ => frames_record hR _

theorem frames_verification (result : ToolResult) : Frames R (verification rt input result) := by
  refine frames_bind hR (frames_attempt hR _) fun content => ?_
  refine frames_bind hR (frames_attempt hR _) fun traces => ?_
  split
  · exact frames_bind hR (frames_trigger hR _ _) fun _ => frames_recordVerification hR _ _ _
  · exact frames_bind hR (frames_trigger hR _ _) fun _ => frames_recordVerification hR _ _ _

theorem frames_toolModelExecution (hcalling : ∀ s : Session, R s s.calling)
    (invocation : ToolInvocation) : Frames R (toolModelExecution rt x input invocation) := by
  refine frames_bind hR ?_ fun result => ?_
  · unfold executeTool
    split
    · refine frames_bind hR (frames_attempt hR _) fun _ => ?_
      exact frames_bind hR (Frames.update hcalling) fun _ => frames_attempt hR _
    · exact frames_bind hR (Frames.update hcalling) fun _ => frames_attempt hR _
  · refine frames_bind hR (frames_record hR _) fun _ => ?_
    split
    · exact frames_bind hR (frames_orPass hR (frames_trigger hR _ _)) fun _ => frames_pure hR _
    · exact frames_bind hR (frames_orPass hR (frames_trigger hR _ _)) fun _ => frames_exit hR _

/-- A whole run respects what its updates of the invocation and its call respect. -/
theorem frames_body
    (hrequested : ∀ s, R s (s.holding (requested rt x input)))
    (hpending : action x input = .requireApproval →
      ∀ s, R s (s.holding (reviewed rt x input)))
    (hcalling : ∀ s : Session, R s s.calling) : Frames R (body rt x input) := by
  refine frames_bind hR (frames_prepare hR hrequested hpending) fun invocation => ?_
  refine frames_bind hR (frames_toolModelExecution hR hcalling invocation) fun result => ?_
  exact frames_verification hR result

end Phases

theorem respected_machine :
    Respected rt (fun s t => t.driver.machine = s.driver.machine) where
  refl _ := rfl
  trans _ _ _ hst htu := htu.trans hst
  moved _ _ _ _ := rfl
  driver _ _ hmachine _ := hmachine
  recording _ _ := rfl

theorem run_session :
    (run rt x input).session = lastState ((body rt x input).run (initialSession input)) := by
  unfold run
  rcases (body rt x input).run (initialSession input) with ⟨u, t⟩ | ⟨error | e, t⟩ <;> rfl

/-- A run ends on the machine it started on. -/
theorem machine_run : (run rt x input).session.driver.machine = input.driver.machine := by
  have hframes : Frames (fun s t => t.driver.machine = s.driver.machine) (body rt x input) :=
    frames_body respected_machine (fun _ => rfl) (fun _ _ => rfl) fun _ => rfl
  rw [run_session]
  exact hframes.lastState (initialSession input)

end NovaHarness.PipelineFrames
