import NovaHarness.LinkWalks
import NovaHarness.RecordValidation

namespace NovaHarness.AuditTrail

open NovaHarness.Text
open NovaHarness.RecordValidation
open NovaHarness.LinkWalks

section Records

structure AuditEventRef where
  refId : String
  refType : String
  deriving DecidableEq, Repr

def AuditEventRef.validate (raw : AuditEventRef) : Validated AuditEventRef :=
  fields (filled "ref_id" raw.refId ++ filled "ref_type" raw.refType)
    { refId := strip raw.refId
      refType := strip raw.refType }

structure EventEvidenceRef where
  evidenceId : String
  evidenceType : String
  deriving DecidableEq, Repr

def EventEvidenceRef.validate (raw : EventEvidenceRef) : Validated EventEvidenceRef :=
  fields (filled "evidence_id" raw.evidenceId ++ filled "evidence_type" raw.evidenceType)
    { evidenceId := strip raw.evidenceId
      evidenceType := strip raw.evidenceType }

structure AuditMetadata where
  eventId : String
  runId : String
  timestamp : String
  actorRef : Option AuditEventRef := none
  parentEventId : Option String := none
  deriving DecidableEq, Repr

def AuditMetadata.parentEventIdNotSelf (metadata : AuditMetadata) : Validated Unit :=
  require (metadata.parentEventId ≠ some metadata.eventId)
    "parent_event_id must not equal event_id"

def AuditMetadata.validate (raw : AuditMetadata) : Validated AuditMetadata :=
  twoLayers
    (filled "event_id" raw.eventId ++ filled "run_id" raw.runId ++
      filled "timestamp" raw.timestamp ++
      optionErrors "actor_ref" AuditEventRef.validate raw.actorRef)
    { raw with
      eventId := strip raw.eventId
      runId := strip raw.runId
      timestamp := strip raw.timestamp
      actorRef := optionValue AuditEventRef.validate raw.actorRef }
    parentEventIdNotSelf

structure AuditEventRecord where
  metadata : AuditMetadata
  summary : String
  eventRefs : List AuditEventRef := []
  evidenceRefs : List EventEvidenceRef := []
  redacted : Bool := false
  supersededBy : Option String := none
  deriving DecidableEq, Repr

namespace AuditEventRecord

def normalized (raw : AuditEventRecord) : AuditEventRecord :=
  { raw with
    metadata := valueD raw.metadata.validate raw.metadata
    summary := strip raw.summary
    eventRefs := listValues AuditEventRef.validate raw.eventRefs
    evidenceRefs := listValues EventEvidenceRef.validate raw.evidenceRefs }

def rules (event : AuditEventRecord) : Validated Unit := do
  require (event.supersededBy ≠ some event.metadata.eventId)
    "superseded_by must not point to the same event"
  whenever (event.redacted = true)
    (require (event.metadata.eventId ≠ "" ∧ event.metadata.runId ≠ "" ∧
        event.metadata.timestamp ≠ "")
      "redacted event must preserve event_id, run_id, and timestamp")

def validate (raw : AuditEventRecord) : Validated AuditEventRecord :=
  twoLayers
    (errorsUnder "metadata" raw.metadata.validate ++
      nonBlank "summary" "summary must not be blank" raw.summary ++
      listErrors "event_refs" AuditEventRef.validate raw.eventRefs ++
      listErrors "evidence_refs" EventEvidenceRef.validate raw.evidenceRefs)
    raw.normalized rules

end AuditEventRecord

structure AuditTrailEnvelope where
  envelopeId : String
  events : List AuditEventRecord := []
  deriving DecidableEq, Repr

namespace AuditTrailEnvelope

def eventIds (envelope : AuditTrailEnvelope) : List String :=
  envelope.events.map (·.metadata.eventId)

def normalized (raw : AuditTrailEnvelope) : AuditTrailEnvelope where
  envelopeId := strip raw.envelopeId
  events := listValues AuditEventRecord.validate raw.events

def eventIdsUnique (envelope : AuditTrailEnvelope) : Validated Unit :=
  require (envelope.eventIds.length = envelope.eventIds.toFinset.card)
    "event_ids must be unique within the envelope"

def validate (raw : AuditTrailEnvelope) : Validated AuditTrailEnvelope :=
  twoLayers
    (filled "envelope_id" raw.envelopeId ++
      listErrors "events" AuditEventRecord.validate raw.events)
    raw.normalized eventIdsUnique

instance : Schema AuditTrailEnvelope := ⟨fun _ => validate⟩

end AuditTrailEnvelope

end Records

open AuditTrailEnvelope

section Links

/-- The two references from an event to another one. -/
inductive EventLink where
  | parent
  | replacement
  deriving DecidableEq, Repr

def EventLink.target : EventLink → AuditEventRecord → Option String
  | .parent, e => e.metadata.parentEventId
  | .replacement, e => e.supersededBy

variable (envelope : AuditTrailEnvelope) (link : EventLink)

/-- Where the link of the event with this id leads, if it names an event of the
envelope. -/
def follow (id : String) : Option String :=
  ((envelope.events.find? fun e => e.metadata.eventId = id).bind link.target).filter
    (· ∈ envelope.eventIds)

/-- From every event the walk ends in time and comes back nowhere. -/
def IsAcyclic : Prop :=
  ∀ e ∈ envelope.events,
    EndsWithin (follow envelope link) envelope.events.length e.metadata.eventId ∧
      NeverReturns (follow envelope link) e.metadata.eventId

/-- What the validators say about the links, each looking at one event. -/
structure EventsApart : Prop where
  nodup : envelope.eventIds.Nodup
  target_ne : ∀ e ∈ envelope.events, ∀ link : EventLink,
    link.target e ≠ some e.metadata.eventId

variable {envelope link}

theorem parentEventId_ne_of_validate {raw metadata : AuditMetadata}
    (h : raw.validate = .ok metadata) : metadata.parentEventId ≠ some metadata.eventId := by
  obtain ⟨⟨-, hparent⟩, -⟩ := (twoLayers_eq_ok _ _ _ _).mp h
  exact (require_eq_ok _ _ _).mp hparent

theorem target_ne_of_validate {raw event : AuditEventRecord} (h : raw.validate = .ok event)
    (link : EventLink) : link.target event ≠ some event.metadata.eventId := by
  obtain ⟨⟨herrors, hrules⟩, rfl⟩ := (twoLayers_eq_ok _ _ _ _).mp h
  cases link with
  | replacement =>
      simp only [AuditEventRecord.rules, unit_bind_eq_ok, require_eq_ok] at hrules
      exact hrules.1
  | parent =>
      simp only [List.append_eq_nil_iff, errorsUnder_eq_nil] at herrors
      obtain ⟨metadata, hmetadata⟩ := herrors.1.1.1
      have hnormal : raw.normalized.metadata = metadata := by
        rw [AuditEventRecord.normalized, hmetadata, valueD_ok]
      rw [EventLink.target, hnormal]
      exact parentEventId_ne_of_validate hmetadata

theorem eventsApart (envelope : Accepted AuditTrailEnvelope) : EventsApart envelope.1 := by
  obtain ⟨_, raw, h⟩ := envelope.2
  change raw.validate = .ok envelope.1 at h
  obtain ⟨⟨herrors, hunique⟩, henvelope⟩ := (twoLayers_eq_ok _ _ _ _).mp h
  have hnodup := Multiset.toFinset_card_eq_card_iff_nodup.mp ((require_eq_ok _ _ _).mp hunique).symm
  refine ⟨Multiset.coe_nodup.mp hnodup, fun e he link => ?_⟩
  rw [← henvelope] at he
  simp only [List.append_eq_nil_iff, listErrors_eq_nil] at herrors
  obtain ⟨source, -, hsource⟩ := exists_of_mem_listValues herrors.2 he
  exact target_ne_of_validate hsource link

theorem follow_mem {id target : String} (h : target ∈ follow envelope link id) :
    target ∈ envelope.eventIds := by
  obtain ⟨-, hmem⟩ := Option.filter_eq_some_iff.mp h
  simpa using hmem

theorem card_eventIds (hapart : EventsApart envelope) :
    envelope.eventIds.toFinset.card = envelope.events.length := by
  rw [List.toFinset_card_of_nodup hapart.nodup, eventIds, List.length_map]

/-- No validator looks at two events together.  So a walk along a link ends in
time or meets an event that is on a cycle, never of that event alone, and all
walks end when there is no such event. -/
theorem event_links (envelope : Accepted AuditTrailEnvelope) (link : EventLink) :
    EventsApart envelope.1 ∧
      (∀ e ∈ envelope.1.events,
        EndsWithin (follow envelope.1 link) envelope.1.events.length e.metadata.eventId ∨
          ∃ k ≤ envelope.1.events.length,
            ∃ m ∈ climb (follow envelope.1 link) k e.metadata.eventId,
              OnCycle (follow envelope.1 link) m) ∧
      (IsAcyclic envelope.1 link ↔
        ∀ e ∈ envelope.1.events, ¬ OnCycle (follow envelope.1 link) e.metadata.eventId) := by
  have hapart := eventsApart envelope
  have hclosed : ∀ id ∈ envelope.1.eventIds.toFinset, ∀ target ∈ follow envelope.1 link id,
      target ∈ envelope.1.eventIds.toFinset :=
    fun _ _ _ h => List.mem_toFinset.mpr (follow_mem h)
  have hstart : ∀ e ∈ envelope.1.events,
      e.metadata.eventId ∈ envelope.1.eventIds.toFinset :=
    fun e he => List.mem_toFinset.mpr (List.mem_map_of_mem he)
  rw [IsAcyclic, ← card_eventIds hapart]
  refine ⟨hapart, fun e he => endsWithin_or_cycle hclosed (hstart e he), ?_, ?_⟩
  · intro hacyclic e he
    exact (neverReturns_iff _).mp (hacyclic e he).2 0 _ rfl
  · intro hcycles e he
    have hwalk : ∀ k, ∀ m ∈ climb (follow envelope.1 link) k e.metadata.eventId,
        ¬ OnCycle (follow envelope.1 link) m := by
      intro k m hm
      have hmem := List.mem_toFinset.mp (mem_of_climb hclosed (hstart e he) hm)
      obtain ⟨e', he', rfl⟩ := List.mem_map.mp hmem
      exact hcycles e' he'
    exact ⟨(endsWithin_iff hclosed (hstart e he)).mpr hwalk, (neverReturns_iff _).mpr hwalk⟩

def eventOf (id other : String) : AuditEventRecord where
  metadata := { eventId := id, runId := "run-1", timestamp := "t-1", parentEventId := some other }
  summary := "one of two events"
  supersededBy := some other

/-- Two events that caused and replaced each other. -/
def mutualTrail : Accepted AuditTrailEnvelope :=
  build { envelopeId := "env-1", events := [eventOf "e-1" "e-2", eventOf "e-2" "e-1"] } (by decide)

theorem mutualTrail_not_acyclic :
    ¬ IsAcyclic mutualTrail.1 .parent ∧ ¬ IsAcyclic mutualTrail.1 .replacement := by
  have hevent : eventOf "e-1" "e-2" ∈ mutualTrail.1.events := by decide
  constructor
  · exact fun h => (h _ hevent).2 0 2 (by decide) "e-1" (by decide) (by decide)
  · exact fun h => (h _ hevent).2 0 2 (by decide) "e-1" (by decide) (by decide)

end Links

end NovaHarness.AuditTrail
