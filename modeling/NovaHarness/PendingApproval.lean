import NovaHarness.EffectGating

namespace NovaHarness.PendingApproval

open NovaHarness.Text
open NovaHarness.RecordValidation
open NovaHarness.EarlyExit
open NovaHarness.OrchestrationMachine
open NovaHarness.Driver
open NovaHarness.TaskContractSchema
open NovaHarness.ToolInterfaceSchema
open NovaHarness.ApprovalSafetySchema
open NovaHarness.Pipeline
open NovaHarness.PipelineRun
open NovaHarness.PipelinePhases
open NovaHarness.PipelineFrames
open NovaHarness.EffectGating

variable (rt : Runtime) (x : PipelineExecutor) (input : PipelineInput)

/-- In every moment so far the approval was not pending. -/
def ClearLog (s : Session) : Prop :=
  ∀ m ∈ s.log, m.approvalState ≠ some .pending

/-- Neither is it now. -/
structure Unpended (s : Session) : Prop where
  log : ClearLog s
  invocation : s.invocation.map (·.approvalState) ≠ some .pending

section Unpended

theorem clearLog_append {s t : Session} {effect : Effect} (hs : Unpended s)
    (hlog : t.log = s.log ++ [s.moment effect]) : ClearLog t := by
  intro m hm
  rw [hlog, List.mem_append, List.mem_singleton] at hm
  rcases hm with hm | rfl
  · exact hs.log m hm
  · exact hs.invocation

theorem respected_unpended : Respected rt (fun s t => Unpended s → Unpended t) where
  refl _ := id
  trans _ _ _ hst htu hs := htu (hst hs)
  moved _ _ _ _ hs := ⟨clearLog_append hs rfl, hs.invocation⟩
  driver _ _ _ _ hs := ⟨hs.log, hs.invocation⟩
  recording _ _ hs := ⟨hs.log, hs.invocation⟩

theorem unpended_calling {s : Session} (hs : Unpended s) : Unpended s.calling :=
  ⟨clearLog_append hs rfl, hs.invocation⟩

theorem unpended_requested {s : Session} (hs : Unpended s) :
    Unpended (s.holding (requested rt x input)) :=
  ⟨hs.log, by simp [Session.holding, requested, ToolInvocation.normalized, invocationParts]⟩

theorem unpended_initialSession : Unpended (initialSession input) :=
  ⟨by simp [ClearLog, initialSession], by simp [initialSession]⟩

/-- Without a decision that requires approval, it never gets pending. -/
theorem unpended_run (hno : action x input ≠ .requireApproval) :
    Unpended (run rt x input).session := by
  have hframes : Frames (fun s t => Unpended s → Unpended t) (body rt x input) :=
    frames_body (respected_unpended rt) (fun _ => unpended_requested rt x input)
      (fun h => absurd h hno) fun _ => unpended_calling
  rw [run_session]
  exact hframes.lastState (initialSession input) (unpended_initialSession input)

end Unpended

section Required

theorem clearLog_of_trigger {event : RunEvent} {guardResults : Option GuardResults}
    {s t : Session} {e : Exit} (hs : ClearLog s)
    (h : (trigger rt event guardResults).run s = .error e t) : ClearLog t := by
  obtain ⟨-, hsame⟩ := of_run_trigger_eq_error rt event guardResults h
  intro m hm
  exact hs m (hsame.log ▸ hm)

/-- Nothing happens between the moment the approval gets pending and the trigger
that the driver takes for granting it. -/
theorem clearLog_of_followDecision {d : SafetyDecision} {s t : Session} {e : Exit}
    (hrequire : d.safetyAction = .requireApproval) (hs : Unpended s)
    (h : (followDecision rt (requested rt x input) d).run s = .error e t) : ClearLog t := by
  simp only [followDecision, hrequire] at h
  refine Frames.error_bind (frames_trigger (respected_unpended rt) _ _) hs h (·.log) ?_
  rintro _ m - hm hrest
  rw [run_update_bind] at hrest
  rcases (run_bind_eq_error _ _ e _ t).mp hrest with htrace | ⟨pt, m₁, htrace, hrest₁⟩
  · obtain ⟨ex, -, -, rfl⟩ := (run_ofExcept_eq_error ..).mp htrace
    exact hm.log
  · obtain ⟨-, rfl⟩ := (run_attempt_eq_ok ..).mp htrace
    rw [record, run_update_bind] at hrest₁
    rcases (run_bind_eq_error _ _ e _ t).mp hrest₁ with hgranted | ⟨_, _, -, hpure⟩
    · refine clearLog_of_trigger rt ?_ hgranted
      exact hm.log
    · exact absurd hpure (run_pure_ne_error _ _ _ _)

theorem clearLog_of_prepare {t : Session} {e : Exit}
    (h : (prepare rt x input).run (initialSession input) = .error e t) : ClearLog t := by
  have hR := respected_unpended rt
  by_cases hrequire : action x input = .requireApproval
  · refine Frames.error_bind (frames_startRun hR) (unpended_initialSession input) h (·.log) ?_
    rintro _ s₁ - hs₁ h₁
    refine Frames.error_bind (frames_assemblePrompt hR) hs₁ h₁ (·.log) ?_
    intro _ s₂ hassemble hs₂ h₂
    obtain ⟨⟨htask, hrun, -⟩, -⟩ := (assemblePrompt_eq_ok ..).mp hassemble
    refine Frames.error_bind (frames_advance hR) hs₂ h₂ (·.log) ?_
    rintro _ s₃ - hs₃ h₃
    by_cases hmodel : IsBlank input.modelName
    · obtain ⟨ex, hex⟩ := approvalSafety_raises rt x input (fun h => h.2 hmodel) s₃
      rw [hex] at h₃
      obtain ⟨-, rfl⟩ := EStateM.Result.error.inj h₃
      exact hs₃.log
    · rw [run_approvalSafety rt x input htask hrun hmodel] at h₃
      rcases hpolicy : input.safetyPolicy with _ | policy
      · simp [action, hpolicy] at hrequire
      · simp only [hpolicy] at h₃
        exact clearLog_of_followDecision rt x input
          ((decision_safetyAction rt x input hpolicy).trans hrequire)
          (unpended_requested rt x input hs₃) h₃
  · have hframes : Frames (fun s t => Unpended s → Unpended t) (prepare rt x input) :=
      frames_prepare hR (fun _ => unpended_requested rt x input) fun h => absurd h hrequire
    exact (hframes.2 _ e t h (unpended_initialSession input)).log

end Required

section Calls

/-- The call is made with the invocation as the review left it. -/
theorem approvalState_of_call {m : Moment} (hm : m ∈ calls (run rt x input).session) :
    (FilledIn input ∧ action x input ≠ .block ∧
      (prepared rt x input (initialSession input)).isSome) ∧
    m.approvalState = some (reviewed rt x input).approvalState := by
  rcases calls_cases rt x input with hnone | ⟨t, hfilled, hgo, hprepared, hone⟩
  · rw [hnone] at hm
    exact absurd hm List.not_mem_nil
  · rw [hone, List.mem_singleton] at hm
    refine ⟨⟨hfilled, hgo, by simp [hprepared]⟩, ?_⟩
    rw [hm, Session.moment, (prepared_keeps rt x input hprepared).invocation]
    rfl

theorem exists_pending_call (hrequire : action x input = .requireApproval)
    (hfilled : FilledIn input)
    (hwalk : (input.driver.machine.walk input.driver.currentStateId
      (route .requireApproval)).isSome) :
    ∃ m ∈ (run rt x input).session.log, m.effect = .called ∧
      m.approvalState = some .pending := by
  have hsome : (prepared rt x input (initialSession input)).isSome := by
    rw [isSome_prepared_iff, hrequire]
    exact hwalk
  obtain ⟨t, hprepared⟩ := Option.isSome_iff_exists.mp hsome
  have hgo : action x input ≠ .block := by
    rw [hrequire]
    decide
  have hcall : t.moment .called ∈ calls (run rt x input).session := by
    rw [calls_of_prepared rt x input hfilled hgo hprepared]
    exact List.mem_singleton_self _
  obtain ⟨-, happroval⟩ := approvalState_of_call rt x input hcall
  refine ⟨_, List.mem_of_mem_filter hcall, rfl, ?_⟩
  rw [happroval, reviewed_of_eq rt x input hrequire]

end Calls

/-- What is executed at this moment does not wait for an approval. -/
structure Cleared (m : Moment) : Prop where
  called : m.effect = .called →
    m.approvalState = some .notRequired ∨ m.approvalState = some .approved
  moved : ∀ event, m.effect = .moved event .toolRunning → m.driverState = .awaitingApproval →
    m.approvalState ≠ some .pending

theorem cleared_iff :
    (∀ m ∈ (run rt x input).session.log, Cleared m) ↔
      ¬ (action x input = .requireApproval ∧ FilledIn input ∧
        (input.driver.machine.walk input.driver.currentStateId
          (route .requireApproval)).isSome) := by
  constructor
  · rintro hcleared ⟨hrequire, hfilled, hwalk⟩
    obtain ⟨m, hm, hcalled, hpending⟩ := exists_pending_call rt x input hrequire hfilled hwalk
    rcases (hcleared m hm).called hcalled with happroval | happroval <;>
      simp [hpending] at happroval
  · intro h m hm
    have hcall : m.effect = .called → action x input ≠ .requireApproval ∧
        m.approvalState = some (reviewed rt x input).approvalState := by
      intro hcalled
      obtain ⟨⟨hfilled, -, hsome⟩, happroval⟩ := approvalState_of_call rt x input
        (List.mem_filter.mpr ⟨hm, decide_eq_true hcalled⟩)
      refine ⟨fun hrequire => h ⟨hrequire, hfilled, ?_⟩, happroval⟩
      rw [isSome_prepared_iff, hrequire] at hsome
      exact hsome
    have hlog : ClearLog (run rt x input).session := by
      by_cases hrequire : action x input = .requireApproval
      -- Once granted, the run gets to the back end, which `h` rules out.
      · rcases hprepare : (prepare rt x input).run (initialSession input) with
          ⟨invocation, t⟩ | ⟨e, t⟩
        · obtain ⟨hfilled, -, hprepared, -⟩ := (prepare_eq_ok ..).mp hprepare
          refine absurd ⟨hrequire, hfilled, ?_⟩ h
          have hwalk := (isSome_prepared_iff rt x input (initialSession input)).mp
            (by rw [hprepared]; rfl)
          rwa [hrequire] at hwalk
        · rw [run_session, body, EStateM.run_bind, hprepare]
          exact clearLog_of_prepare rt x input hprepare
      · exact (unpended_run rt x input hrequire).log
    constructor
    · intro hcalled
      obtain ⟨hno, happroval⟩ := hcall hcalled
      left
      rw [happroval, reviewed_of_ne rt x input hno]
      rfl
    · intro _ _ _
      exact hlog m hm

def requireMockTool : Accepted ApprovalSafetyPolicy :=
  build (mockToolPolicy [("req-approval", .requireApproval)]) (by decide)

def requiringInput : PipelineInput :=
  minimalInput (some requireMockTool)

theorem requiringInput_calls_pending :
    ¬ ∀ m ∈ (run asciiRuntime {} requiringInput).session.log, Cleared m := by
  intro hcleared
  have hfilled : FilledIn requiringInput := filledIn_minimalInput _
  obtain ⟨m, hm, hcalled, hpending⟩ :=
    exists_pending_call asciiRuntime {} requiringInput (by decide) hfilled (by decide)
  rcases (hcleared m hm).called hcalled with happroval | happroval <;>
    simp [hpending] at happroval

end NovaHarness.PendingApproval
