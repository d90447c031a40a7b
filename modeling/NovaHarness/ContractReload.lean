import NovaHarness.SettledFields
import NovaHarness.AcceptanceDone
import NovaHarness.AuditTrail
import NovaHarness.BudgetEnvelopes
import NovaHarness.CapabilityNegotiation
import NovaHarness.DelegationChain
import NovaHarness.EnvironmentSecrets
import NovaHarness.ClarificationClosure
import NovaHarness.RetryRecovery
import NovaHarness.ApprovalQuorum
import NovaHarness.RoutingConstraints
import NovaHarness.SkillActivation
import NovaHarness.ToolReceipts
import NovaHarness.VerificationResults
import NovaHarness.HumanApprovals
import NovaHarness.RunningLoops
import NovaHarness.JoinRecheck
import NovaHarness.SynthesisFinalization
import NovaHarness.Revalidation
import NovaHarness.ApprovalSafetySchema
import NovaHarness.OrchestrationMachine

namespace NovaHarness.ContractReload

open NovaHarness.Text
open NovaHarness.RecordValidation
open NovaHarness.SettledFields

section Acceptance

open NovaHarness.AcceptanceDone

theorem stable_acceptanceCriterionRecord : Stable AcceptanceCriterionRecord.validate :=
  stable_fields (by simp) (by simp [strip_strip])

theorem stable_acceptanceCriteriaSet : Stable AcceptanceCriteriaSet.validate := by
  have hcriteria := settles_list stable_acceptanceCriterionRecord "criteria"
  refine Settles.stable_twoLayers ⟨fun raw h => ?_, fun raw h => ?_⟩
  all_goals simp only [List.append_eq_nil_iff, idField_eq_nil] at h
  · simp only [List.append_eq_nil_iff, idField_eq_nil, isBlank_strip, h, hcriteria.passes,
      not_false_eq_true, and_self]
  · simp only [strip_strip, h, hcriteria.again]

theorem stable_definitionOfDoneCheck : Stable DefinitionOfDoneCheck.validate :=
  stable_twoLayers (by simp) (by simp [strip_strip])

theorem stable_definitionOfDoneProfile : Stable DefinitionOfDoneProfile.validate := by
  have hchecks := settles_list stable_definitionOfDoneCheck "checks"
  refine Settles.stable_fields ⟨fun raw h => ?_, fun raw h => ?_⟩
  all_goals simp only [List.append_eq_nil_iff, idField_eq_nil] at h
  · simp only [List.append_eq_nil_iff, idField_eq_nil, isBlank_strip, h, hchecks.passes,
      not_false_eq_true, and_self]
  · simp only [strip_strip, h, hchecks.again]

theorem stable_completionEvidenceRecord : Stable CompletionEvidenceRecord.validate :=
  stable_fields (by simp) (by simp [strip_strip])

theorem stable_completionAssessmentRecord : Stable CompletionAssessmentRecord.validate :=
  stable_fields (by simp) (by simp [strip_strip])

theorem stable_completionDecisionRecord : Stable CompletionDecisionRecord.validate :=
  stable_twoLayers (by simp) (by simp [strip_strip])

theorem stable_acceptanceDoneEnvelope : Stable AcceptanceDoneEnvelope.validate := by
  have hacceptanceCriteriaSet :=
    settles_record stable_acceptanceCriteriaSet "acceptance_criteria_set"
  have hdefinitionOfDoneProfile :=
    settles_record stable_definitionOfDoneProfile "definition_of_done_profile"
  have hevidenceRecords := settles_list stable_completionEvidenceRecord "evidence_records"
  have hassessment := settles_record stable_completionAssessmentRecord "assessment"
  have hdecision := settles_record stable_completionDecisionRecord "decision"
  refine Settles.stable_twoLayers ⟨fun raw h => ?_, fun raw h => ?_⟩
  all_goals simp only [List.append_eq_nil_iff, idField_eq_nil] at h
  · simp only [List.append_eq_nil_iff, idField_eq_nil, isBlank_strip, h,
      hacceptanceCriteriaSet.passes, hdefinitionOfDoneProfile.passes, hevidenceRecords.passes,
      hassessment.passes, hdecision.passes, not_false_eq_true, and_self]
  · simp only [strip_strip, h, hacceptanceCriteriaSet.again, hdefinitionOfDoneProfile.again,
      hevidenceRecords.again, hassessment.again, hdecision.again]

end Acceptance

section Audit

open NovaHarness.AuditTrail

theorem stable_auditEventRef : Stable AuditEventRef.validate :=
  stable_fields (by simp) (by simp [strip_strip])

theorem stable_eventEvidenceRef : Stable EventEvidenceRef.validate :=
  stable_fields (by simp) (by simp [strip_strip])

theorem stable_auditMetadata : Stable AuditMetadata.validate := by
  have hactorRef := settles_option stable_auditEventRef "actor_ref"
  refine Settles.stable_twoLayers ⟨fun raw h => ?_, fun raw h => ?_⟩
  all_goals simp only [List.append_eq_nil_iff, filled_eq_nil] at h
  · simp only [List.append_eq_nil_iff, filled_eq_nil, isBlank_strip, h, hactorRef.passes,
      not_false_eq_true, and_self]
  · simp only [strip_strip, h, hactorRef.again]

theorem stable_auditEventRecord : Stable AuditEventRecord.validate := by
  have hmetadata := settles_record stable_auditMetadata "metadata"
  have heventRefs := settles_list stable_auditEventRef "event_refs"
  have hevidenceRefs := settles_list stable_eventEvidenceRef "evidence_refs"
  refine Settles.stable_twoLayers ⟨fun raw h => ?_, fun raw h => ?_⟩
  all_goals simp only [List.append_eq_nil_iff, nonBlank_eq_nil] at h
  · simp only [AuditEventRecord.normalized, List.append_eq_nil_iff, nonBlank_eq_nil, isBlank_strip,
      h, hmetadata.passes, heventRefs.passes, hevidenceRefs.passes, not_false_eq_true, and_self]
  · simp only [AuditEventRecord.normalized, strip_strip, h, hmetadata.again, heventRefs.again,
      hevidenceRefs.again]

theorem stable_auditTrailEnvelope : Stable AuditTrailEnvelope.validate := by
  have hevents := settles_list stable_auditEventRecord "events"
  refine Settles.stable_twoLayers ⟨fun raw h => ?_, fun raw h => ?_⟩
  all_goals simp only [List.append_eq_nil_iff, filled_eq_nil] at h
  · simp only [AuditTrailEnvelope.normalized, List.append_eq_nil_iff, filled_eq_nil, isBlank_strip,
      h, hevents.passes, not_false_eq_true, and_self]
  · simp only [AuditTrailEnvelope.normalized, strip_strip, h, hevents.again]

end Audit

section Budgets

open NovaHarness.BudgetEnvelopes

theorem stable_executionBudgetEnvelope : Stable ExecutionBudgetEnvelope.validate :=
  stable_fields (by simp) (by simp [strip_strip])

theorem stable_resourceBudgetLine : Stable ResourceBudgetLine.validate :=
  stable_twoLayers (by simp) (by simp [strip_strip])

theorem stable_resourceReservationRecord : Stable ResourceReservationRecord.validate :=
  stable_fields (by simp) (by simp [strip_strip])

theorem stable_resourceUsageRecord : Stable ResourceUsageRecord.validate :=
  stable_fields (by simp) (by simp [strip_strip])

theorem stable_budgetThresholdPolicy : Stable BudgetThresholdPolicy.validate :=
  stable_twoLayers (by simp) (by simp [strip_strip])

theorem stable_budgetAlertRecord : Stable BudgetAlertRecord.validate :=
  stable_fields (by simp) (by simp [strip_strip])

theorem stable_budgetDecisionRecord : Stable BudgetDecisionRecord.validate :=
  stable_twoLayers (by simp) (by simp [strip_strip])

theorem stable_budgetResourceEnvelope : Stable BudgetResourceEnvelope.validate := by
  have hbudget := settles_record stable_executionBudgetEnvelope "budget"
  have hbudgetLines := settles_list stable_resourceBudgetLine "budget_lines"
  have hreservations := settles_list stable_resourceReservationRecord "reservations"
  have husageRecords := settles_list stable_resourceUsageRecord "usage_records"
  have hthresholdPolicies := settles_list stable_budgetThresholdPolicy "threshold_policies"
  have halerts := settles_list stable_budgetAlertRecord "alerts"
  have hdecisions := settles_list stable_budgetDecisionRecord "decisions"
  refine Settles.stable_twoLayers ⟨fun raw h => ?_, fun raw h => ?_⟩
  all_goals simp only [List.append_eq_nil_iff, idField_eq_nil] at h
  · simp only [BudgetResourceEnvelope.normalized, List.append_eq_nil_iff, idField_eq_nil,
      isBlank_strip, h, hbudget.passes, hbudgetLines.passes, hreservations.passes,
      husageRecords.passes, hthresholdPolicies.passes, halerts.passes, hdecisions.passes,
      not_false_eq_true, and_self]
  · simp only [BudgetResourceEnvelope.normalized, strip_strip, h, hbudget.again, hbudgetLines.again,
      hreservations.again, husageRecords.again, hthresholdPolicies.again, halerts.again,
      hdecisions.again]

end Budgets

section Delegations

open NovaHarness.DelegationChain

theorem stable_delegationRequest : Stable DelegationRequest.validate :=
  Settles.stable_bind ⟨by simp, by simp [strip_strip]⟩ unchanged_return.after

theorem stable_delegationContextSlice : Stable DelegationContextSlice.validate :=
  Settles.stable_bind ⟨by simp, by simp [strip_strip]⟩ unchanged_return.after

theorem stable_delegationConstraintSet : Stable DelegationConstraintSet.validate :=
  stable_fields (by simp) (by simp [strip_strip])

theorem stable_delegateSelectionRecord : Stable DelegateSelectionRecord.validate :=
  stable_fields (by simp) (by simp [strip_strip])

theorem stable_delegationAssignment : Stable DelegationAssignment.validate := by
  have hdelegationRequest := settles_record stable_delegationRequest "delegation_request"
  have hcontextSlice := settles_record stable_delegationContextSlice "context_slice"
  have hconstraints := settles_record stable_delegationConstraintSet "constraints"
  have hselection := settles_record stable_delegateSelectionRecord "selection"
  refine Settles.stable_bind ⟨fun raw h => ?_, fun raw h => ?_⟩ unchanged_return.after
  all_goals simp only [List.append_eq_nil_iff, filled_eq_nil] at h
  · simp only [List.append_eq_nil_iff, filled_eq_nil, isBlank_strip, h, hdelegationRequest.passes,
      hcontextSlice.passes, hconstraints.passes, hselection.passes, not_false_eq_true, and_self]
  · simp only [strip_strip, h, hdelegationRequest.again, hcontextSlice.again, hconstraints.again,
      hselection.again]

theorem stable_delegationReturnRecord : Stable DelegationReturnRecord.validate :=
  stable_fields (by simp) (by simp [strip_strip])

theorem stable_supervisorReviewRecord : Stable SupervisorReviewRecord.validate :=
  Settles.stable_bind ⟨by simp, by simp [strip_strip]⟩ unchanged_return.after.after.after

theorem stable_delegationEnvelope : Stable DelegationEnvelope.validate := by
  have hdelegationRequest := settles_record stable_delegationRequest "delegation_request"
  have hdelegationAssignment := settles_record stable_delegationAssignment "delegation_assignment"
  have hdelegationReturn := settles_option stable_delegationReturnRecord "delegation_return"
  have hsupervisorReview := settles_option stable_supervisorReviewRecord "supervisor_review"
  refine Settles.stable_bind ⟨fun raw h => ?_, fun raw h => ?_⟩ unchanged_return.after.after.after
  all_goals simp only [List.append_eq_nil_iff, filled_eq_nil] at h
  · simp only [DelegationEnvelope.normalized, List.append_eq_nil_iff, filled_eq_nil, isBlank_strip,
      h, hdelegationRequest.passes, hdelegationAssignment.passes, hdelegationReturn.passes,
      hsupervisorReview.passes, not_false_eq_true, and_self]
  · simp only [DelegationEnvelope.normalized, strip_strip, h, hdelegationRequest.again,
      hdelegationAssignment.again, hdelegationReturn.again, hsupervisorReview.again]

end Delegations

section Environments

open NovaHarness.EnvironmentSecrets

theorem stable_configKeyRef : Stable ConfigKeyRef.validate :=
  stable_fields (by simp) (by simp [strip_strip])

theorem stable_secretRef : Stable SecretRef.validate :=
  stable_fields (by simp) (by simp [strip_strip])

theorem stable_runtimeSettingRef : Stable RuntimeSettingRef.validate := by
  have hkeyRef := settles_record stable_configKeyRef "key_ref"
  have hsecretRef := settles_option stable_secretRef "secret_ref"
  refine Settles.stable_twoLayers ⟨fun raw h => ?_, fun raw h => ?_⟩
  all_goals simp only [List.append_eq_nil_iff, filled_eq_nil] at h
  · simp only [List.append_eq_nil_iff, filled_eq_nil, isBlank_strip, h, hkeyRef.passes,
      hsecretRef.passes, not_false_eq_true, and_self]
  · simp only [strip_strip, h, hkeyRef.again, hsecretRef.again]

theorem stable_environmentProfile : Stable EnvironmentProfile.validate := by
  have hconfigKeys := settles_list stable_configKeyRef "config_keys"
  have hsecrets := settles_list stable_secretRef "secrets"
  have hruntimeSettings := settles_list stable_runtimeSettingRef "runtime_settings"
  refine Settles.stable_twoLayers ⟨fun raw h => ?_, fun raw h => ?_⟩
  all_goals simp only [List.append_eq_nil_iff, filled_eq_nil] at h
  · simp only [List.append_eq_nil_iff, filled_eq_nil, isBlank_strip, h, hconfigKeys.passes,
      hsecrets.passes, hruntimeSettings.passes, not_false_eq_true, and_self]
  · simp only [strip_strip, h, hconfigKeys.again, hsecrets.again, hruntimeSettings.again]

theorem stable_configBundle : Stable ConfigBundle.validate := by
  have hprofile := settles_record stable_environmentProfile "profile"
  refine Settles.stable_twoLayers ⟨fun raw h => ?_, fun raw h => ?_⟩
  all_goals simp only [List.append_eq_nil_iff, nonBlank_eq_nil] at h
  · simp only [List.append_eq_nil_iff, nonBlank_eq_nil, isBlank_strip, h, hprofile.passes,
      not_false_eq_true, and_self]
  · simp only [strip_strip, h, hprofile.again]

theorem stable_secretsManifest : Stable SecretsManifest.validate := by
  have hsecrets := settles_list stable_secretRef "secrets"
  refine Settles.stable_twoLayers ⟨fun raw h => ?_, fun raw h => ?_⟩
  all_goals simp only [List.append_eq_nil_iff, filled_eq_nil] at h
  · simp only [List.append_eq_nil_iff, filled_eq_nil, isBlank_strip, h, hsecrets.passes,
      not_false_eq_true, and_self]
  · simp only [strip_strip, h, hsecrets.again]

theorem stable_environmentContractEnvelope : Stable EnvironmentContractEnvelope.validate := by
  have hbundle := settles_record stable_configBundle "bundle"
  have hsecretsManifest := settles_record stable_secretsManifest "secrets_manifest"
  refine Settles.stable_twoLayers ⟨fun raw h => ?_, fun raw h => ?_⟩
  all_goals simp only [List.append_eq_nil_iff, nonBlank_eq_nil] at h
  · simp only [List.append_eq_nil_iff, nonBlank_eq_nil, isBlank_strip, h, hbundle.passes,
      hsecretsManifest.passes, not_false_eq_true, and_self]
  · simp only [strip_strip, h, hbundle.again, hsecretsManifest.again]

end Environments

section Clarifications

open NovaHarness.ResolutionPolicies

theorem stable_missingInfoGapRecord : Stable MissingInfoGapRecord.validate :=
  Settles.stable_bind ⟨by simp, by simp [strip_strip]⟩ unchanged_return.after

theorem stable_clarificationQuestionRecord : Stable ClarificationQuestionRecord.validate :=
  stable_fields (by simp) (by simp [strip_strip])

theorem stable_resolutionAttemptRecord : Stable ResolutionAttemptRecord.validate :=
  Settles.stable_bind ⟨by simp, by simp [strip_strip]⟩ unchanged_return.after

theorem stable_fieldResolutionRecord : Stable FieldResolutionRecord.validate :=
  Settles.stable_bind ⟨by simp, by simp [strip_strip]⟩ unchanged_return.after

theorem stable_clarificationSessionRecord (tables : UnicodeTables) :
    Stable (ClarificationSessionRecord.validate tables) :=
  Settles.stable_bind ⟨by simp, by simp [strip_strip]⟩ unchanged_return.after

theorem stable_clarificationDecisionRecord : Stable ClarificationDecisionRecord.validate :=
  Settles.stable_bind ⟨by simp, by simp [strip_strip]⟩ unchanged_return.after

theorem stable_clarificationResolutionEnvelope (tables : UnicodeTables) :
    Stable (ClarificationResolutionEnvelope.validate tables) := by
  have hgaps := settles_list stable_missingInfoGapRecord "gaps"
  have hquestions := settles_list stable_clarificationQuestionRecord "questions"
  have hattempts := settles_list stable_resolutionAttemptRecord "attempts"
  have hfieldResolutions := settles_list stable_fieldResolutionRecord "field_resolutions"
  have hpolicies := settles_list ResolutionPolicyRecord.stable_validate "policies"
  have hsession := settles_record (stable_clarificationSessionRecord tables) "session"
  have hdecision := settles_record stable_clarificationDecisionRecord "decision"
  refine Settles.stable_bind ⟨fun raw h => ?_, fun raw h => ?_⟩
    unchanged_return.after.after.after.after.after.after.after.after.after
  all_goals simp only [List.append_eq_nil_iff, idField_eq_nil] at h
  · simp only [ClarificationResolutionEnvelope.normalized, List.append_eq_nil_iff, idField_eq_nil,
      isBlank_strip, h, hgaps.passes, hquestions.passes, hattempts.passes, hfieldResolutions.passes,
      hpolicies.passes, hsession.passes, hdecision.passes, not_false_eq_true, and_self]
  · simp only [ClarificationResolutionEnvelope.normalized, strip_strip, h, hgaps.again,
      hquestions.again, hattempts.again, hfieldResolutions.again, hpolicies.again, hsession.again,
      hdecision.again]

end Clarifications

section Recoveries

open NovaHarness.RetryRecovery

theorem stable_retryRecoveryCompensationEnvelope :
    Stable RetryRecoveryCompensationEnvelope.validate := by
  have hfailure := settles_record stable_failureRecord "failure"
  have hretryPolicy := settles_option stable_retryPolicyRecord "retry_policy"
  have hretryAttempts := settles_list stable_retryAttemptRecord "retry_attempts"
  have hrecoveryPlan := settles_option stable_recoveryPlanRecord "recovery_plan"
  have hrecoveryExecution := settles_option stable_recoveryExecutionRecord "recovery_execution"
  have hcompensationPlan := settles_option stable_compensationPlanRecord "compensation_plan"
  refine Settles.stable_twoLayers ⟨fun raw h => ?_, fun raw h => ?_⟩
  all_goals
    simp only [RetryRecoveryCompensationEnvelope.errors, List.append_eq_nil_iff,
      idField_eq_nil] at h
  · simp only [RetryRecoveryCompensationEnvelope.normalized,
      RetryRecoveryCompensationEnvelope.errors, List.append_eq_nil_iff, idField_eq_nil,
      isBlank_strip, h, hfailure.passes, hretryPolicy.passes, hretryAttempts.passes,
      hrecoveryPlan.passes, hrecoveryExecution.passes, hcompensationPlan.passes, not_false_eq_true,
      and_self]
  · simp only [RetryRecoveryCompensationEnvelope.normalized, strip_strip, h, hfailure.again,
      hretryPolicy.again, hretryAttempts.again, hrecoveryPlan.again, hrecoveryExecution.again,
      hcompensationPlan.again]

end Recoveries

section Escalations

open NovaHarness.RiskApprovalSchema

theorem stable_riskAssessmentRecord : Stable RiskAssessmentRecord.validate :=
  stable_fields (by simp) (by simp [strip_strip])

theorem stable_riskThresholdPolicy : Stable RiskThresholdPolicy.validate :=
  Settles.stable_bind ⟨by simp, by simp [strip_strip]⟩ unchanged_return.after.after

theorem stable_escalationRequestRecord : Stable EscalationRequestRecord.validate :=
  stable_fields (by simp) (by simp [strip_strip])

theorem stable_approvalRequirementRecord : Stable ApprovalRequirementRecord.validate :=
  stable_fields (by simp) (by simp [strip_strip])

theorem stable_humanApprovalRecord : Stable HumanApprovalRecord.validate :=
  Settles.stable_bind ⟨by simp, by simp [strip_strip]⟩ unchanged_return.after

theorem stable_escalationPathRecord : Stable EscalationPathRecord.validate :=
  Settles.stable_bind ⟨by simp, by simp [strip_strip]⟩ unchanged_return.after

theorem stable_escalationDecisionRecord : Stable EscalationDecisionRecord.validate :=
  Settles.stable_bind ⟨by simp, by simp [strip_strip]⟩ unchanged_return.after.after

theorem stable_riskEscalationApprovalEnvelope : Stable RiskEscalationApprovalEnvelope.validate := by
  have hriskAssessment := settles_record stable_riskAssessmentRecord "risk_assessment"
  have hthresholdPolicy := settles_option stable_riskThresholdPolicy "threshold_policy"
  have hescalationRequest := settles_option stable_escalationRequestRecord "escalation_request"
  have happrovalRequirement :=
    settles_option stable_approvalRequirementRecord "approval_requirement"
  have happrovalRecords := settles_list stable_humanApprovalRecord "approval_records"
  have hescalationPath := settles_option stable_escalationPathRecord "escalation_path"
  have hdecision := settles_option stable_escalationDecisionRecord "decision"
  refine Settles.stable_bind ⟨fun raw h => ?_, fun raw h => ?_⟩ unchanged_return.after.after
  all_goals simp only [List.append_eq_nil_iff, idField_eq_nil] at h
  · simp only [RiskEscalationApprovalEnvelope.normalized, List.append_eq_nil_iff, idField_eq_nil,
      isBlank_strip, h, hriskAssessment.passes, hthresholdPolicy.passes, hescalationRequest.passes,
      happrovalRequirement.passes, happrovalRecords.passes, hescalationPath.passes,
      hdecision.passes, not_false_eq_true, and_self]
  · simp only [RiskEscalationApprovalEnvelope.normalized, strip_strip, h, hriskAssessment.again,
      hthresholdPolicy.again, hescalationRequest.again, happrovalRequirement.again,
      happrovalRecords.again, hescalationPath.again, hdecision.again]

end Escalations

section Routings

open NovaHarness.RoutingConstraints

theorem stable_routingInputRecord : Stable RoutingInputRecord.validate :=
  stable_fields (by simp) (by simp [strip_strip])

theorem stable_routeCandidate : Stable RouteCandidate.validate :=
  stable_fields (by simp) (by simp [strip_strip])

theorem stable_routeScoreRecord : Stable RouteScoreRecord.validate :=
  stable_fields (by simp) (by simp [strip_strip])

theorem stable_routingDecisionRecord : Stable RoutingDecisionRecord.validate :=
  Settles.stable_bind ⟨by simp, by simp [strip_strip]⟩ unchanged_return.after.after

theorem stable_arbitrationRecord : Stable ArbitrationRecord.validate :=
  Settles.stable_bind ⟨by simp, by simp [strip_strip]⟩ unchanged_return.after.after

theorem stable_routingFallbackRecord : Stable RoutingFallbackRecord.validate :=
  stable_fields (by simp) (by simp [strip_strip])

theorem stable_routingEnvelope : Stable RoutingEnvelope.validate := by
  have hroutingInput := settles_record stable_routingInputRecord "routing_input"
  have hcandidates := settles_list stable_routeCandidate "candidates"
  have hscores := settles_list stable_routeScoreRecord "scores"
  have hconstraints := settles_record RoutingConstraintSet.stable_validate "constraints"
  have hdecision := settles_option stable_routingDecisionRecord "decision"
  have harbitration := settles_option stable_arbitrationRecord "arbitration"
  have hfallback := settles_option stable_routingFallbackRecord "fallback"
  refine Settles.stable_bind ⟨fun raw h => ?_, fun raw h => ?_⟩ unchanged_return.after.after.after
  all_goals simp only [List.append_eq_nil_iff, filled_eq_nil] at h
  · simp only [RoutingEnvelope.normalized, List.append_eq_nil_iff, filled_eq_nil, isBlank_strip, h,
      hroutingInput.passes, hcandidates.passes, hscores.passes, hconstraints.passes,
      hdecision.passes, harbitration.passes, hfallback.passes, not_false_eq_true, and_self]
  · simp only [RoutingEnvelope.normalized, strip_strip, h, hroutingInput.again, hcandidates.again,
      hscores.again, hconstraints.again, hdecision.again, harbitration.again, hfallback.again]

end Routings

section Skills

open NovaHarness.SkillActivation

theorem notBlank_eq_nil (loc value : String) : notBlank loc value = [] ↔ ¬ IsBlank value :=
  nonBlank_eq_nil loc _ value

theorem stable_skillManifest : Stable SkillManifest.validate :=
  stable_fields (by simp [notBlank]) (by simp [strip_strip])

theorem stable_skillInputSpec : Stable SkillInputSpec.validate :=
  stable_fields (by simp [notBlank]) (by simp [strip_strip])

theorem stable_skillOutputSpec : Stable SkillOutputSpec.validate :=
  stable_fields (by simp [notBlank]) (by simp [strip_strip])

theorem stable_skillDependencyRecord : Stable SkillDependencyRecord.validate :=
  stable_fields (by simp [notBlank]) (by simp [strip_strip])

theorem stable_skillActivationRule : Stable SkillActivationRule.validate :=
  stable_fields (by simp [notBlank]) (by simp [strip_strip])

theorem stable_skillActivationDecision : Stable SkillActivationDecision.validate :=
  stable_fields (by simp [notBlank]) (by simp [strip_strip])

theorem stable_skillPermissionProfile : Stable SkillPermissionProfile.validate :=
  Settles.stable_bind ⟨by simp [notBlank], by simp [strip_strip]⟩ unchanged_return.after

theorem stable_skillActivationRecord : Stable SkillActivationRecord.validate :=
  Settles.stable_bind ⟨by simp [notBlank], by simp [strip_strip]⟩ unchanged_return.after

/-- A requester that was left out is stored as an empty text, and that is refused. -/
theorem skillActivationRequest_again {raw request : SkillActivationRequest}
    (h : raw.validate = .ok request) :
    (request.requestedBy ≠ some "" → request.validate = .ok request) ∧
      (request.requestedBy = some "" → ∀ again, request.validate ≠ .ok again) := by
  simp only [SkillActivationRequest.validate, fields_eq_ok, List.append_eq_nil_iff,
    notBlank_eq_nil] at h
  obtain ⟨⟨⟨hid, hskill⟩, hrequester⟩, rfl⟩ := h
  constructor
  · intro hnamed
    cases hraw : raw.requestedBy with
    | none => simp [hraw] at hnamed
    | some requester =>
        simp only [hraw, Option.map_some, Option.getD_some, notBlank_eq_nil] at hrequester
        simp [SkillActivationRequest.validate, notBlank_eq_nil, hid, hskill, hrequester,
          strip_strip]
  · intro hunnamed again hagain
    have hempty : IsBlank "" := by decide
    simp only [SkillActivationRequest.validate, fields_eq_ok, List.append_eq_nil_iff,
      Option.map_some, Option.getD_some, notBlank_eq_nil] at hagain
    rw [Option.some.inj hunnamed] at hagain
    exact hagain.1.2 hempty

/-- Who asks for the activation, where something does, is said. -/
def NamesRequester (envelope : SkillEnvelope) : Prop :=
  ∀ request ∈ envelope.activationRequest, request.requestedBy ≠ some ""

instance (envelope : SkillEnvelope) : Decidable (NamesRequester envelope) :=
  inferInstanceAs (Decidable (∀ request ∈ _, _))

/-- The rules behind the fields give the envelope back as they were given it. -/
theorem unchanged_skillRules : Unchanged fun envelope : SkillEnvelope => do
    envelope.executionRequiresApprovedDecision
    envelope.activationDecisionMatchesRequest
    envelope.activationRecordMatchesRequest
    return envelope :=
  unchanged_return.after.after.after

theorem request_of_skillEnvelope {raw envelope : SkillEnvelope} (h : raw.validate = .ok envelope) :
    (∀ request ∈ raw.activationRequest, ∃ accepted, request.validate = .ok accepted) ∧
      envelope.activationRequest =
        optionValue SkillActivationRequest.validate raw.activationRequest := by
  obtain ⟨checked, hfields, hchecked⟩ := (bind_eq_ok _ _ _).mp h
  obtain rfl := unchanged_skillRules _ _ hchecked
  obtain ⟨herrors, rfl⟩ := (fields_eq_ok _ _ _).mp hfields
  simp only [List.append_eq_nil_iff, optionErrors_eq_nil] at herrors
  exact ⟨herrors.1.1.2, rfl⟩

/-- All but the request is accepted again. -/
theorem skillEnvelope_again {raw envelope : SkillEnvelope} (h : raw.validate = .ok envelope)
    (hrequest : ∀ request ∈ envelope.activationRequest, request.validate = .ok request) :
    envelope.validate = .ok envelope := by
  have hmanifest := settles_record stable_skillManifest "manifest"
  have hinputs := settles_list stable_skillInputSpec "inputs"
  have houtputs := settles_list stable_skillOutputSpec "outputs"
  have hpermissionProfile := settles_record stable_skillPermissionProfile "permission_profile"
  have hdependencies := settles_list stable_skillDependencyRecord "dependencies"
  have hactivationRules := settles_list stable_skillActivationRule "activation_rules"
  have hactivationDecision := settles_option stable_skillActivationDecision "activation_decision"
  have hactivationRecord := settles_option stable_skillActivationRecord "activation_record"
  obtain ⟨checked, hfields, hchecked⟩ := (bind_eq_ok _ _ _).mp h
  obtain rfl := unchanged_skillRules _ _ hchecked
  obtain ⟨herrors, rfl⟩ := (fields_eq_ok _ _ _).mp hfields
  have hpasses : optionErrors "activation_request" SkillActivationRequest.validate
      raw.normalized.activationRequest = [] :=
    (optionErrors_eq_nil ..).mpr fun request hmem => ⟨request, hrequest request hmem⟩
  have hagain := optionValue_eq_self hrequest
  simp only [SkillEnvelope.normalized] at hpasses hagain
  simp only [List.append_eq_nil_iff, notBlank_eq_nil] at herrors
  refine (bind_eq_ok _ _ _).mpr ⟨_, (fields_eq_ok _ _ _).mpr ⟨?_, ?_⟩, hchecked⟩
  · simp only [SkillEnvelope.normalized, List.append_eq_nil_iff, notBlank_eq_nil, isBlank_strip,
      herrors, hmanifest.passes, hinputs.passes, houtputs.passes, hpermissionProfile.passes,
      hdependencies.passes, hactivationRules.passes, hpasses, hactivationDecision.passes,
      hactivationRecord.passes, not_false_eq_true, and_self]
  · simp only [SkillEnvelope.normalized, strip_strip, herrors, hmanifest.again, hinputs.again,
      houtputs.again, hpermissionProfile.again, hdependencies.again, hactivationRules.again,
      hagain, hactivationDecision.again, hactivationRecord.again]

theorem skillEnvelope_reloads {raw envelope : SkillEnvelope} (h : raw.validate = .ok envelope) :
    if NamesRequester envelope then envelope.validate = .ok envelope
    else ∀ again, envelope.validate ≠ .ok again := by
  obtain ⟨hraw, hvalue⟩ := request_of_skillEnvelope h
  have haccepted : ∀ request ∈ envelope.activationRequest, ∃ given : SkillActivationRequest,
      given.validate = .ok request := by
    rw [hvalue]
    intro request hmem
    obtain ⟨given, -, hgiven⟩ := exists_of_mem_optionValue hraw hmem
    exact ⟨given, hgiven⟩
  split
  · rename_i hnamed
    refine skillEnvelope_again h fun request hmem => ?_
    obtain ⟨given, hgiven⟩ := haccepted request hmem
    exact (skillActivationRequest_again hgiven).1 (hnamed request hmem)
  · rename_i hunnamed
    intro again hagain
    apply hunnamed
    intro request hmem hempty
    obtain ⟨given, hgiven⟩ := haccepted request hmem
    obtain ⟨accepted, haccept⟩ := (request_of_skillEnvelope hagain).1 request hmem
    exact (skillActivationRequest_again hgiven).2 hempty accepted haccept

end Skills

section Receipts

open NovaHarness.ToolReceipts

theorem stable_toolInvocationRef : Stable ToolInvocationRef.validate :=
  stable_fields (by simp) (by simp [strip_strip])

theorem stable_executionTiming : Stable ExecutionTiming.validate :=
  stable_fields (by simp) (by simp [strip_strip])

theorem stable_resultReference : Stable ResultReference.validate :=
  stable_fields (by simp) (by simp [strip_strip])

theorem stable_sideEffectSummary : Stable SideEffectSummary.validate :=
  stable_fields (by simp [strip_strip]) (by simp [strip_strip])

theorem stable_integrityMetadata : Stable IntegrityMetadata.validate :=
  unchanged_return.after.after.after.stable

theorem stable_toolExecutionResult : Stable ToolExecutionResult.validate := by
  have hresultReferences := settles_list stable_resultReference "result_references"
  have hsideEffects := settles_list stable_sideEffectSummary "side_effects"
  refine Settles.stable_twoLayers ⟨fun raw h => ?_, fun raw h => ?_⟩
  all_goals simp only [List.append_eq_nil_iff, nonBlank_eq_nil] at h
  · simp only [ToolExecutionResult.normalized, List.append_eq_nil_iff, nonBlank_eq_nil,
      isBlank_strip, h, hresultReferences.passes, hsideEffects.passes, not_false_eq_true, and_self]
  · simp only [ToolExecutionResult.normalized, strip_strip, h, hresultReferences.again,
      hsideEffects.again]

theorem stable_toolInvocationReceipt : Stable ToolInvocationReceipt.validate := by
  have hinvocation := settles_record stable_toolInvocationRef "invocation"
  have htiming := settles_record stable_executionTiming "timing"
  have hexecutionResult := settles_record stable_toolExecutionResult "execution_result"
  have hintegrity := settles_record stable_integrityMetadata "integrity"
  refine Settles.stable_twoLayers ⟨fun raw h => ?_, fun raw h => ?_⟩
  all_goals simp only [List.append_eq_nil_iff, filled_eq_nil] at h
  · simp only [ToolInvocationReceipt.normalized, List.append_eq_nil_iff, filled_eq_nil,
      isBlank_strip, h, hinvocation.passes, htiming.passes, hexecutionResult.passes,
      hintegrity.passes, not_false_eq_true, and_self]
  · simp only [ToolInvocationReceipt.normalized, strip_strip, h, hinvocation.again, htiming.again,
      hexecutionResult.again, hintegrity.again]

theorem stable_receiptEnvelope : Stable ReceiptEnvelope.validate := by
  have hreceipt := settles_record stable_toolInvocationReceipt "receipt"
  refine Settles.stable_fields ⟨fun raw h => ?_, fun raw h => ?_⟩
  all_goals simp only [List.append_eq_nil_iff, filled_eq_nil] at h
  · simp only [List.append_eq_nil_iff, filled_eq_nil, isBlank_strip, h, hreceipt.passes,
      not_false_eq_true, and_self]
  · simp only [strip_strip, h, hreceipt.again]

end Receipts

section Verifications

open NovaHarness.VerificationResults

theorem stable_verificationEvidence : Stable VerificationEvidence.validate :=
  stable_twoLayers (by simp) (by simp [strip_strip])

theorem stable_verificationCheck : Stable VerificationCheck.validate := by
  have hevidence := settles_list stable_verificationEvidence "evidence"
  refine Settles.stable_twoLayers ⟨fun raw h => ?_, fun raw h => ?_⟩
  all_goals simp only [List.append_eq_nil_iff, nonBlank_eq_nil] at h
  · simp only [List.append_eq_nil_iff, nonBlank_eq_nil, isBlank_strip, h, hevidence.passes,
      not_false_eq_true, and_self]
  · simp only [strip_strip, h, hevidence.again]

theorem stable_verificationPlan : Stable VerificationPlan.validate := by
  have hchecks := settles_list stable_verificationCheck "checks"
  refine Settles.stable_twoLayers ⟨fun raw h => ?_, fun raw h => ?_⟩
  all_goals simp only [List.append_eq_nil_iff, nonBlank_eq_nil] at h
  · simp only [List.append_eq_nil_iff, nonBlank_eq_nil, isBlank_strip, h, hchecks.passes,
      not_false_eq_true, and_self]
  · simp only [strip_strip, h, hchecks.again]

theorem stable_verificationVerdict : Stable VerificationVerdict.validate :=
  (unchanged_twoLayers _).stable

theorem stable_verificationResult : Stable VerificationResult.validate := by
  have hchecks := settles_list stable_verificationCheck "checks"
  have hverdict := settles_record stable_verificationVerdict "verdict"
  refine Settles.stable_twoLayers ⟨fun raw h => ?_, fun raw h => ?_⟩
  all_goals simp only [List.append_eq_nil_iff, nonBlank_eq_nil] at h
  · simp only [List.append_eq_nil_iff, nonBlank_eq_nil, isBlank_strip, h, hchecks.passes,
      hverdict.passes, not_false_eq_true, and_self]
  · simp only [strip_strip, h, hchecks.again, hverdict.again]

end Verifications

section Joins

open NovaHarness.ParallelJoinSchema
open NovaHarness.ParallelJoinSchema.ParallelJoinEnvelope
open NovaHarness.ParallelJoins
open NovaHarness.JoinRecheck

variable {raw : ParallelJoinEnvelope}

theorem partsValid_normalized (h : FieldsAccepted raw) : PartsValid raw.normalized := by
  have hassignments := (andThen_eq_nil _ _).mp h.assignments
  have houtputs := (andThen_eq_nil _ _).mp h.outputs
  have hconflicts := (andThen_eq_nil _ _).mp h.conflicts
  have hrequirements := (andThen_eq_nil _ _).mp h.requirements
  have hmerge := (andThen_eq_nil _ _).mp h.merge
  obtain ⟨request, hrequest⟩ := (errorsUnder_eq_nil _ _).mp h.request
  obtain ⟨requirements, hreq⟩ := (errorsUnder_eq_nil _ _).mp hrequirements.1
  refine ⟨?_, ⟨raw.parallelRequest, ?_⟩, fun b hb => ?_, fun o ho => ?_, fun c hc => ?_,
    ⟨raw.joinRequirements, ?_⟩, fun e he => ?_, fun m hm => ?_⟩
  · simpa only [normalized, isBlank_strip] using h.envelopeId
  · rw [normalized, hrequest, valueD_ok]
  · obtain ⟨b', -, hb'⟩ :=
      exists_of_mem_listValues ((listErrors_eq_nil _ _ _).mp hassignments.1) hb
    exact ⟨b', hb'⟩
  · obtain ⟨o', -, ho'⟩ :=
      exists_of_mem_listValues ((listErrors_eq_nil _ _ _).mp houtputs.1) ho
    exact ⟨o', ho'⟩
  · obtain ⟨c', -, hc'⟩ :=
      exists_of_mem_listValues ((listErrors_eq_nil _ _ _).mp hconflicts.1) hc
    exact ⟨c', hc'⟩
  · rw [normalized, hreq, valueD_ok]
  · obtain ⟨e', -, he'⟩ :=
      exists_of_mem_optionValue ((optionErrors_eq_nil _ _ _).mp h.execution) he
    exact ⟨e', he'⟩
  · obtain ⟨m', -, hm'⟩ :=
      exists_of_mem_optionValue ((optionErrors_eq_nil _ _ _).mp hmerge.1) hm
    exact ⟨m', hm'⟩

theorem branchesKnown_normalized (h : FieldsAccepted raw) : BranchesKnown raw.normalized := by
  obtain ⟨-, hone, hnodup, -⟩ : _ ∧ _ ∧ _ ∧ _ := by
    simpa only [assignmentErrors, andThen_eq_nil, minItems_eq_nil, check_eq_nil] using h.assignments
  obtain ⟨-, houtputs⟩ := (andThen_eq_nil _ _).mp h.outputs
  obtain ⟨-, hconflicts⟩ := (andThen_eq_nil _ _).mp h.conflicts
  rw [fieldCheck_eq_nil, unknownBranch_eq_ok] at houtputs hconflicts
  refine ⟨?_, hnodup, List.forall_mem_map.mp houtputs, List.forall_mem_flatMap.mp hconflicts⟩
  intro hnone
  have hlength := congrArg List.length hnone
  rw [normalized, listValues, List.length_map, List.length_nil] at hlength
  omega

/-- The field validators of the second construction are the rules of the first. -/
theorem stable_parallelJoinEnvelope : Stable ParallelJoinEnvelope.validate := by
  intro raw envelope h
  have hfields := (exists_validate_iff raw).mp ⟨envelope, h⟩
  obtain rfl : raw.normalized = envelope := ((fields_eq_ok _ _ _).mp h).2
  have hparts := partsValid_normalized hfields
  have hrules := checkAllEnvelopeRules_of_accepted ⟨raw.normalized, asciiTables, raw, h⟩
  obtain ⟨envelope, henvelope⟩ := (exists_validate_iff raw.normalized).mpr
    (hparts.fieldsAccepted_iff.mpr ⟨branchesKnown_normalized hfields, hrules⟩)
  obtain rfl : raw.normalized.normalized = envelope := ((fields_eq_ok _ _ _).mp henvelope).2
  have hagain : raw.normalized.normalized = raw.normalized := by
    rw [hparts.normalized_eq]
    simp only [normalized, strip_strip]
  rw [hagain] at henvelope
  exact henvelope

end Joins

section Syntheses

open NovaHarness.SynthesisFinalization
open NovaHarness.SynthesisFinalization.SynthesisFinalizationEnvelope

theorem stable_synthesisSourceRecord : Stable SynthesisSourceRecord.validate :=
  stable_fields (by simp) (by simp [strip_strip])

theorem stable_normalizationRecord : Stable NormalizationRecord.validate :=
  stable_fields (by simp) (by simp [strip_strip])

theorem stable_synthesisConflictRecord : Stable SynthesisConflictRecord.validate :=
  stable_fields (by simp) (by simp [strip_strip])

theorem stable_synthesisDecisionRecord : Stable SynthesisDecisionRecord.validate :=
  stable_fields (by simp) (by simp [strip_strip])

theorem stable_validationSummaryRecord : Stable ValidationSummaryRecord.validate :=
  stable_fields (by simp) (by simp [strip_strip])

theorem stable_finalizationRecord : Stable FinalizationRecord.validate :=
  Settles.stable_bind ⟨by simp, by simp [strip_strip]⟩ unchanged_return.after.after.after

theorem stable_synthesisOutputRecord : Stable SynthesisOutputRecord.validate :=
  stable_fields (by simp) (by simp [strip_strip])

theorem settles_sources :
    Settles sourceErrors (listValues SynthesisSourceRecord.validate) where
  passes sources h := by
    have hsources := settles_list stable_synthesisSourceRecord "sources"
    simp only [sourceErrors, andThen_eq_nil, minItems_eq_nil, check_eq_nil] at h ⊢
    obtain ⟨haccepted, hone, heligible⟩ := h
    refine ⟨hsources.passes _ haccepted, ?_, ?_⟩
    · rwa [listValues, List.length_map]
    · rwa [hsources.again _ haccepted]
  again sources h :=
    (settles_list stable_synthesisSourceRecord "sources").again _ ((andThen_eq_nil _ _).mp h).1

/-- The check of the conflicts looks at a field that is left as it is. -/
theorem settles_summary (conflicts : List SynthesisConflictRecord) :
    Settles (summaryErrors conflicts) fun summary => valueD summary.validate summary where
  passes summary h := by
    obtain ⟨haccepted, hreview⟩ := (andThen_eq_nil _ _).mp h
    refine (andThen_eq_nil _ _).mpr
      ⟨(settles_record stable_validationSummaryRecord _).passes _ haccepted, ?_⟩
    obtain ⟨value, hvalue⟩ := (errorsUnder_eq_nil _ _).mp haccepted
    obtain ⟨-, rfl⟩ := (fields_eq_ok _ _ _).mp hvalue
    rw [hvalue, valueD_ok]
    exact hreview
  again summary h :=
    (settles_record stable_validationSummaryRecord _).again _ ((andThen_eq_nil _ _).mp h).1

theorem settles_output (finalization : Option FinalizationRecord) :
    Settles (outputErrors finalization) fun output => valueD output.validate output where
  passes output h := by
    obtain ⟨haccepted, hrefs⟩ := (andThen_eq_nil _ _).mp h
    refine (andThen_eq_nil _ _).mpr
      ⟨(settles_record stable_synthesisOutputRecord _).passes _ haccepted, ?_⟩
    obtain ⟨value, hvalue⟩ := (errorsUnder_eq_nil _ _).mp haccepted
    obtain ⟨-, rfl⟩ := (fields_eq_ok _ _ _).mp hvalue
    rw [hvalue, valueD_ok]
    exact hrefs
  again output h :=
    (settles_record stable_synthesisOutputRecord _).again _ ((andThen_eq_nil _ _).mp h).1

theorem stable_synthesisFinalizationEnvelope : Stable SynthesisFinalizationEnvelope.validate := by
  have hnormalizations := settles_list stable_normalizationRecord "normalizations"
  have hconflicts := settles_list stable_synthesisConflictRecord "conflicts"
  have hdecision := settles_record stable_synthesisDecisionRecord "decision"
  have hfinalization := settles_record stable_finalizationRecord "finalization"
  intro raw envelope h
  simp only [SynthesisFinalizationEnvelope.validate, fields_eq_ok, List.append_eq_nil_iff,
    idField_eq_nil] at h ⊢
  obtain ⟨⟨⟨⟨⟨⟨⟨⟨hid, hsources⟩, hnorm⟩, hconf⟩, hdec⟩, hsummary⟩, hfinal⟩, houtput⟩, rfl⟩ := h
  rw [ifValid_eq_some hconf, Option.getD_some] at hsummary
  rw [ifValid_eq_some hfinal] at houtput
  have hagain : raw.normalized.normalized = raw.normalized := by
    simp only [normalized, strip_strip, settles_sources.again _ hsources,
      hnormalizations.again _ hnorm, hconflicts.again _ hconf, hdecision.again _ hdec,
      (settles_summary _).again _ hsummary, hfinalization.again _ hfinal,
      (settles_output _).again _ houtput]
  have hconf' := hconflicts.passes _ hconf
  have hfinal' := hfinalization.passes _ hfinal
  refine ⟨⟨⟨⟨⟨⟨⟨⟨?_, settles_sources.passes _ hsources⟩, hnormalizations.passes _ hnorm⟩,
    hconf'⟩, hdecision.passes _ hdec⟩, ?_⟩, hfinal'⟩, ?_⟩, hagain⟩
  · rwa [normalized, isBlank_strip]
  · rw [hagain, normalized, ifValid_eq_some hconf', Option.getD_some]
    exact (settles_summary _).passes _ hsummary
  · rw [hagain, normalized, ifValid_eq_some hfinal']
    exact (settles_output _).passes _ houtput

end Syntheses

section Approvals

open NovaHarness.HumanApprovals

theorem stable_approvalEnvelope (tables : UnicodeTables) :
    Stable (ApprovalEnvelope.validate tables) := by
  intro raw envelope h
  obtain rfl := ((validate_eq_ok tables raw envelope).mp h).2
  exact h

end Approvals

section Harness

open NovaHarness.ApprovalSafetySchema
open NovaHarness.OrchestrationMachine

theorem stable_actionRiskRule : Stable ActionRiskRule.validate :=
  Settles.stable_bind
    ⟨by simp [ActionRiskRule.normalized], by simp [ActionRiskRule.normalized, strip_strip]⟩
    unchanged_return.after.after.after

theorem stable_approvalSafetyPolicy : Stable ApprovalSafetyPolicy.validate := by
  have hrules := settles_list stable_actionRiskRule "rules"
  refine Settles.stable_bind ⟨fun raw h => ?_, fun raw h => ?_⟩ unchanged_return.after
  all_goals simp only [List.append_eq_nil_iff, nonBlank_eq_nil] at h
  · simp only [ApprovalSafetyPolicy.normalized, List.append_eq_nil_iff, nonBlank_eq_nil,
      isBlank_strip, h, hrules.passes, not_false_eq_true, and_self]
  · simp only [ApprovalSafetyPolicy.normalized, strip_strip, h, hrules.again]

theorem stable_transitionGuard : Stable TransitionGuard.validate :=
  stable_fields (by simp) (by simp [strip_strip])

theorem stable_transitionRule : Stable TransitionRule.validate := by
  have hguards := settles_list stable_transitionGuard "guards"
  exact Settles.stable_fields
    ⟨fun raw h => hguards.passes _ h, fun raw h => by simp only [hguards.again, h]⟩

theorem stable_orchestrationStateMachine : Stable OrchestrationStateMachine.validate := by
  have htransitions := settles_list stable_transitionRule "transitions"
  refine Settles.stable_bind ⟨fun raw h => ?_, fun raw h => ?_⟩
    unchanged_return.after.after.after.after
  all_goals simp only [List.append_eq_nil_iff, nonBlank_eq_nil] at h
  · simp only [OrchestrationStateMachine.normalized, List.append_eq_nil_iff, nonBlank_eq_nil,
      isBlank_strip, h, htransitions.passes, not_false_eq_true, and_self]
  · simp only [OrchestrationStateMachine.normalized, strip_strip, h, htransitions.again]

end Harness

section Graphs

open NovaHarness.SessionGraphSchema

theorem stable_sessionGraphEnvelope : Stable SessionGraphEnvelope.validate := by
  have hgraph := settles_record Revalidation.stable_multiAgentSessionGraph "graph"
  refine Settles.stable_fields ⟨fun raw h => ?_, fun raw h => ?_⟩
  all_goals simp only [List.append_eq_nil_iff, idField_eq_nil] at h
  · simp only [List.append_eq_nil_iff, idField_eq_nil, isBlank_strip, h, hgraph.passes,
      not_false_eq_true, and_self]
  · simp only [strip_strip, h, hgraph.again]

end Graphs

section Negotiations

open NovaHarness.CapabilityNegotiation

theorem stable_capabilityDeclaration : Stable CapabilityDeclaration.validate :=
  stable_fields (by simp) (by simp [strip_strip])

theorem stable_compatibilityEvaluationRecord : Stable CompatibilityEvaluationRecord.validate :=
  stable_twoLayers (by simp) (by simp [strip_strip])

theorem stable_negotiatedCapabilitySet : Stable NegotiatedCapabilitySet.validate :=
  stable_fields (by simp) (by simp [strip_strip])

theorem stable_compatibilityGapRecord : Stable CompatibilityGapRecord.validate :=
  stable_fields (by simp) (by simp [strip_strip])

theorem stable_negotiationDecisionRecord : Stable NegotiationDecisionRecord.validate :=
  stable_twoLayers (by simp) (by simp [strip_strip])

theorem stable_capabilityNegotiationEnvelope : Stable CapabilityNegotiationEnvelope.validate := by
  have hrequest := settles_record stable_capabilityDeclaration "request_declaration"
  have hoffer := settles_record stable_capabilityDeclaration "offer_declaration"
  have hevaluation := settles_record stable_compatibilityEvaluationRecord "evaluation"
  have hset := settles_option stable_negotiatedCapabilitySet "negotiated_set"
  have hgaps := settles_list stable_compatibilityGapRecord "gaps"
  have hdecision := settles_option stable_negotiationDecisionRecord "decision"
  refine Settles.stable_twoLayers ⟨fun raw h => ?_, fun raw h => ?_⟩
  all_goals simp only [List.append_eq_nil_iff, idField_eq_nil] at h
  · simp only [CapabilityNegotiationEnvelope.normalized, List.append_eq_nil_iff, idField_eq_nil,
      isBlank_strip, h, hrequest.passes, hoffer.passes, hevaluation.passes, hset.passes,
      hgaps.passes, hdecision.passes, not_false_eq_true, and_self]
  · simp only [CapabilityNegotiationEnvelope.normalized, strip_strip, h, hrequest.again,
      hoffer.again, hevaluation.again, hset.again, hgaps.again, hdecision.again]

end Negotiations

/-- What each kind of contract returns from its construction, it returns again, but for
a skill whose request was accepted without a requester. -/
structure Reloads (tables : UnicodeTables) : Prop where
  task : Stable (TaskContractSchema.TaskContract.validate tables)
  safetyPolicy : Stable ApprovalSafetySchema.ApprovalSafetyPolicy.validate
  machine : Stable OrchestrationMachine.OrchestrationStateMachine.validate
  sessionGraph : Stable SessionGraphSchema.SessionGraphEnvelope.validate
  parallelJoin : Stable ParallelJoinSchema.ParallelJoinEnvelope.validate
  synthesis : Stable SynthesisFinalization.SynthesisFinalizationEnvelope.validate
  skill : ∀ raw envelope, SkillActivation.SkillEnvelope.validate raw = .ok envelope →
    if NamesRequester envelope then SkillActivation.SkillEnvelope.validate envelope = .ok envelope
    else ∀ again, SkillActivation.SkillEnvelope.validate envelope ≠ .ok again
  routing : Stable RoutingConstraints.RoutingEnvelope.validate
  delegation : Stable DelegationChain.DelegationEnvelope.validate
  clarification : Stable (ResolutionPolicies.ClarificationResolutionEnvelope.validate tables)
  negotiation : Stable CapabilityNegotiation.CapabilityNegotiationEnvelope.validate
  riskEscalation : Stable RiskApprovalSchema.RiskEscalationApprovalEnvelope.validate
  humanApproval : Stable (HumanApprovals.ApprovalEnvelope.validate tables)
  retryRecovery : Stable RetryRecovery.RetryRecoveryCompensationEnvelope.validate
  runningLoop : Stable RunningLoops.RunningLoopContractEnvelope.validate
  budget : Stable BudgetEnvelopes.BudgetResourceEnvelope.validate
  environment : Stable EnvironmentSecrets.EnvironmentContractEnvelope.validate
  auditTrail : Stable AuditTrail.AuditTrailEnvelope.validate
  toolReceipt : Stable ToolReceipts.ReceiptEnvelope.validate
  verificationPlan : Stable VerificationResults.VerificationPlan.validate
  verification : Stable VerificationResults.VerificationResult.validate
  acceptance : Stable AcceptanceDone.AcceptanceDoneEnvelope.validate

/-- An accepted contract that is saved can be loaded: its own validators, and those of
every record in it, accept what they have normalized and leave it as it is. -/
theorem contracts_reload (tables : UnicodeTables) : Reloads tables where
  task := fun _ _ h => Revalidation.taskContract_revalidates h tables
  safetyPolicy := stable_approvalSafetyPolicy
  machine := stable_orchestrationStateMachine
  sessionGraph := stable_sessionGraphEnvelope
  parallelJoin := stable_parallelJoinEnvelope
  synthesis := stable_synthesisFinalizationEnvelope
  skill := fun _ _ h => skillEnvelope_reloads h
  routing := stable_routingEnvelope
  delegation := stable_delegationEnvelope
  clarification := stable_clarificationResolutionEnvelope tables
  negotiation := stable_capabilityNegotiationEnvelope
  riskEscalation := stable_riskEscalationApprovalEnvelope
  humanApproval := stable_approvalEnvelope tables
  retryRecovery := stable_retryRecoveryCompensationEnvelope
  runningLoop := RunningLoops.stable_envelope
  budget := stable_budgetResourceEnvelope
  environment := stable_environmentContractEnvelope
  auditTrail := stable_auditTrailEnvelope
  toolReceipt := stable_receiptEnvelope
  verificationPlan := stable_verificationPlan
  verification := stable_verificationResult
  acceptance := stable_acceptanceDoneEnvelope

end NovaHarness.ContractReload
