import Mathlib.Data.List.Dedup
import Mathlib.Data.Prod.Lex
import Mathlib.Data.String.Basic
import ControlTower.Foundation.Means
import ControlTower.Trust.Effects

/-! Reliability scorecards: one card for each provider and agent, over the decisions on
its actions and over the runs of its tasks. -/

set_option autoImplicit false

namespace ControlTower

open Foundation
open Foundation.Means

section Records

inductive AgentRunEventType where
  | runCreated | runStateChanged | runLeaseAcquired | runHeartbeat | runLeaseReleased | capabilityLeaseAttached
  | trustPolicyEvaluated | stepReady | stepStarted | stepHeartbeat | stepSucceeded | stepRetryScheduled | stepNeedsHuman
  | stepBlocked | stepFailed | stepCancelled | staleLeaseRecovered | duplicateDeliveryIgnored | evidenceRecorded
  | faultInjected | operatorAction
  deriving DecidableEq, Repr

structure AgentRunEvent where
  id : String
  runId : String
  eventType : AgentRunEventType
  deriving DecidableEq

/-- The collections that the reports read. -/
structure ReportingStore extends Store where
  agentRunEvents : Table String AgentRunEvent

structure AgentReliabilityScorecard where
  provider : AgentProvider
  agentId : Option String
  evaluatedActions : Nat
  allowedActions : Nat
  blockedActions : Nat
  approvalEscalations : Nat
  scopeAdherenceRate : Rat
  firstAttemptSuccessRate : Rat
  recoverySuccessRate : Rat
  humanInterventionRate : Rat
  policyBlockRate : Rat
  evidenceCompletionRate : Rat
  averageRuntimeSeconds : Rat
  totalCostUsd : Rat
  confidence : Rat

/-- A provider and an agent that a card is for. -/
abbrev CardKey := AgentProvider × Option String

end Records

section Cards

def ProposedAction.cardKey (action : ProposedAction) : CardKey := (action.provider, action.agentId)

def AgentTask.cardKey (task : AgentTask) : CardKey := (task.provider, task.externalAgentId)

def AgentReliabilityScorecard.cardKey (card : AgentReliabilityScorecard) : CardKey := (card.provider, card.agentId)

/-- `part / whole if whole else 0.0`. -/
def rateOf (part : Rat) (whole : Nat) : Rat := if whole ≠ 0 then part / whole else 0

variable (store : ReportingStore)

/-- The latest decisions on the actions that have one. -/
def effectiveDecisions : List PolicyDecision :=
  store.proposedActions.values.filterMap fun action => store.latestPolicyDecision action.id

def cardActions (key : CardKey) : List ProposedAction :=
  store.proposedActions.values.filter fun action => action.provider == key.1 && action.agentId == key.2

def cardDecisions (key : CardKey) : List PolicyDecision :=
  let actionIds := (cardActions store key).map (·.id)
  (effectiveDecisions store).filter fun decision => actionIds.contains decision.proposedActionId

def cardTasks (key : CardKey) : List AgentTask :=
  store.agentTasks.values.filter fun task => task.provider == key.1 && task.externalAgentId == key.2

def cardRuns (key : CardKey) : List DurableRun :=
  let taskIds := (cardTasks store key).map (·.id)
  store.agentRuns.values.filter fun durable => taskIds.contains durable.run.taskId

/-- A run that succeeded with no step tried twice. -/
def firstAttemptSuccess (durable : DurableRun) : Bool :=
  durable.run.status == .succeeded && !durable.steps.isEmpty && durable.steps.all fun step => decide (step.attemptCount ≤ 1)

/-- The runs of a card that were recovered from a stale lease, each once. -/
def recoveredRuns (runs : List DurableRun) : List String :=
  let runIds := runs.map (·.run.id)
  ((store.agentRunEvents.values.filter fun event =>
    event.eventType == .staleLeaseRecovered && runIds.contains event.runId).map (·.runId)).dedup

/-- The time from the start to the completion of a run, in seconds. -/
def runDuration (durable : DurableRun) : Option Rat := do
  let started ← durable.run.startedAt
  let completed ← durable.run.completedAt
  return ((completed : Rat) - (started : Rat)) / 1000000

def buildScorecard (key : CardKey) : AgentReliabilityScorecard :=
  let actionIds := (cardActions store key).map (·.id)
  let decisions := cardDecisions store key
  let allowed := decisions.countP fun decision => decision.decision == .allow
  let blocked := decisions.countP fun decision => decision.decision == .block
  let escalated := decisions.countP fun decision => decision.decision == .requireApproval
  let runs := cardRuns store key
  let firstAttemptSuccesses := runs.countP firstAttemptSuccess
  let recovered := recoveredRuns store runs
  let recoveredSuccesses := runs.countP fun durable =>
    recovered.contains durable.run.id && durable.run.status == .succeeded
  let interventions := runs.countP fun durable => durable.run.status == .needsHuman
  let completedWithEvidence := runs.countP fun durable => Text.present durable.run.finalEvidenceHash
  let durations := runs.filterMap runDuration
  let totalCost := ((store.actionConsumptions.rows.filter fun row => actionIds.contains row.1).map (·.2.actualCostUsd)).sum
  let evaluated := decisions.length
  { provider := key.1
    agentId := key.2
    evaluatedActions := evaluated
    allowedActions := allowed
    blockedActions := blocked
    approvalEscalations := escalated
    scopeAdherenceRate := rateOf allowed evaluated
    firstAttemptSuccessRate := rateOf firstAttemptSuccesses runs.length
    recoverySuccessRate := rateOf recoveredSuccesses recovered.length
    humanInterventionRate := rateOf interventions runs.length
    policyBlockRate := rateOf blocked evaluated
    evidenceCompletionRate := rateOf completedWithEvidence runs.length
    averageRuntimeSeconds := rateOf durations.sum durations.length
    totalCostUsd := totalCost
    confidence := min 1 (((evaluated : Rat) + runs.length) / 30) }

/-- The providers and agents of all actions and tasks, each once. -/
def cardKeys : List CardKey :=
  (store.proposedActions.values.map (·.cardKey) ++ store.agentTasks.values.map (·.cardKey)).dedup

/-- By the provider, then by the agent, with no agent as the empty name. -/
def keyBefore (first second : CardKey) : Bool :=
  decide (first.1.value < second.1.value) ||
    (first.1.value == second.1.value && decide (first.2.getD "" ≤ second.2.getD ""))

def buildReliabilityScorecards : List AgentReliabilityScorecard :=
  ((cardKeys store).mergeSort keyBefore).map (buildScorecard store)

end Cards

section Filed

/-- Actions, tasks and runs are stored under their identifiers. -/
structure ReportingStore.Indexed (store : ReportingStore) : Prop where
  actions : ∀ actionId action, store.proposedActions.get? actionId = some action → action.id = actionId
  tasks : ∀ taskId task, store.agentTasks.get? taskId = some task → task.id = taskId
  runs : ∀ runId durable, store.agentRuns.get? runId = some durable → durable.run.id = runId

/-- Records under their identifiers have different ones. -/
theorem nodup_ids {α : Type} {table : Table String α} {name : α → String}
    (filed : ∀ key value, table.get? key = some value → name value = key) : (table.values.map name).Nodup := by
  have same : table.values.map name = table.keys := by
    unfold Table.values Table.keys
    rw [List.map_map]
    apply List.map_congr_left
    intro row member
    exact filed row.1 row.2 (Table.get?_eq_some.mpr member)
  rw [same]
  exact table.distinct

theorem eq_of_id {α : Type} {items : List α} {name : α → String} (distinct : (items.map name).Nodup) {one other : α}
    (first : one ∈ items) (second : other ∈ items) (same : name one = name other) : one = other :=
  List.inj_on_of_nodup_map distinct first second same

end Filed

section Partition

variable {store : ReportingStore}

theorem latestPolicyDecision_action {store : Store} {actionId : String} {decision : PolicyDecision}
    (latest : store.latestPolicyDecision actionId = some decision) : decision.proposedActionId = actionId := by
  have member := Selection.pick_mem latest
  exact beq_iff_eq.mp (List.mem_filter.mp member).2

/-- No decision on an action is later than its latest one. -/
theorem latestPolicyDecision_latest {store : Store} {actionId : String} {decision : PolicyDecision}
    (latest : store.latestPolicyDecision actionId = some decision) :
    ∀ other ∈ store.policyDecisions.values, other.proposedActionId = actionId →
      toLex (other.evaluatedAt, other.id) ≤ toLex (decision.evaluatedAt, decision.id) := by
  intro other member same
  have compares (best item : PolicyDecision) : laterDecision best item = true ↔
      toLex (best.evaluatedAt, best.id) < toLex (item.evaluatedAt, item.id) := by
    unfold laterDecision
    rw [Prod.Lex.toLex_lt_toLex]
    simp
  exact Selection.key_le_greatest compares latest other (List.mem_filter.mpr ⟨member, beq_iff_eq.mpr same⟩)

theorem effectiveDecisions_nodup (indexed : store.Indexed) : (effectiveDecisions store).Nodup := by
  have ids : ((effectiveDecisions store).map (·.proposedActionId)).Sublist (store.proposedActions.values.map (·.id)) :=
    filterMap_sublist (fun _ _ latest => latestPolicyDecision_action latest) _
  exact List.Nodup.of_map _ (ids.nodup (nodup_ids indexed.actions))

/-- A decision counts for the card of its action only. -/
theorem decision_card (indexed : store.Indexed) {action : ProposedAction} (member : action ∈ store.proposedActions.values)
    {decision : PolicyDecision} (latest : store.latestPolicyDecision action.id = some decision) (key : CardKey) :
    ((cardActions store key).map (·.id)).contains decision.proposedActionId = true ↔ key = action.cardKey := by
  rw [List.contains_iff_mem, List.mem_map, latestPolicyDecision_action latest]
  unfold cardActions
  constructor
  · rintro ⟨other, present, same⟩
    obtain ⟨listed, keyed⟩ := List.mem_filter.mp present
    cases eq_of_id (nodup_ids indexed.actions) listed member same
    obtain ⟨provider, agent⟩ : action.provider = key.1 ∧ action.agentId = key.2 := by simpa using keyed
    exact Prod.ext provider.symm agent.symm
  · rintro rfl
    exact ⟨action, List.mem_filter.mpr ⟨member, by simp [ProposedAction.cardKey]⟩, rfl⟩

/-- A run counts for the card of its task only. -/
theorem run_card (indexed : store.Indexed) {task : AgentTask} (member : task ∈ store.agentTasks.values)
    {durable : DurableRun} (named : task.id = durable.run.taskId) (key : CardKey) :
    ((cardTasks store key).map (·.id)).contains durable.run.taskId = true ↔ key = task.cardKey := by
  rw [List.contains_iff_mem, List.mem_map, ← named]
  unfold cardTasks
  constructor
  · rintro ⟨other, present, same⟩
    obtain ⟨listed, keyed⟩ := List.mem_filter.mp present
    cases eq_of_id (nodup_ids indexed.tasks) listed member same
    obtain ⟨provider, agent⟩ : task.provider = key.1 ∧ task.externalAgentId = key.2 := by simpa using keyed
    exact Prod.ext provider.symm agent.symm
  · rintro rfl
    exact ⟨task, List.mem_filter.mpr ⟨member, by simp [AgentTask.cardKey]⟩, rfl⟩

/-- The keys in the order of the cards. -/
def sortedKeys (store : ReportingStore) : List CardKey := (cardKeys store).mergeSort keyBefore

theorem sortedKeys_nodup (store : ReportingStore) : (sortedKeys store).Nodup :=
  (List.mergeSort_perm _ _).nodup_iff.mpr (List.nodup_dedup _)

theorem action_key_listed {action : ProposedAction} (member : action ∈ store.proposedActions.values) :
    action.cardKey ∈ sortedKeys store := by
  apply (List.mergeSort_perm _ _).mem_iff.mpr
  exact List.mem_dedup.mpr (List.mem_append_left _ (List.mem_map_of_mem member))

theorem task_key_listed {task : AgentTask} (member : task ∈ store.agentTasks.values) : task.cardKey ∈ sortedKeys store := by
  apply (List.mergeSort_perm _ _).mem_iff.mpr
  exact List.mem_dedup.mpr (List.mem_append_right _ (List.mem_map_of_mem member))

/-- What is read off the keys of all cards is read off the keys. -/
theorem map_cards {α : Type} (store : ReportingStore) (read : CardKey → α) :
    ((buildReliabilityScorecards store).map fun card => read card.cardKey) = (sortedKeys store).map read := by
  unfold buildReliabilityScorecards sortedKeys
  rw [List.map_map]
  rfl

theorem decision_counted_once (indexed : store.Indexed) {action : ProposedAction}
    (member : action ∈ store.proposedActions.values) {decision : PolicyDecision}
    (latest : store.latestPolicyDecision action.id = some decision) :
    ((buildReliabilityScorecards store).map fun card => (cardDecisions store card.cardKey).count decision).sum = 1 := by
  rw [map_cards store fun key => (cardDecisions store key).count decision]
  apply sum_count_once (effectiveDecisions_nodup indexed)
  · exact List.mem_filterMap.mpr ⟨action, member, latest⟩
  · exact countP_own (sortedKeys_nodup store) (action_key_listed member) (decision_card indexed member latest)

theorem run_counted_once (indexed : store.Indexed) {durable : DurableRun} (present : durable ∈ store.agentRuns.values)
    {task : AgentTask} (member : task ∈ store.agentTasks.values) (named : task.id = durable.run.taskId) :
    ((buildReliabilityScorecards store).map fun card => (cardRuns store card.cardKey).count durable).sum = 1 := by
  rw [map_cards store fun key => (cardRuns store key).count durable]
  apply sum_count_once (List.Nodup.of_map _ (nodup_ids indexed.runs)) present
  exact countP_own (sortedKeys_nodup store) (task_key_listed member) (run_card indexed member named)

/-- The evaluated counts add up to the actions with a decision. -/
theorem evaluated_total (indexed : store.Indexed) :
    ((buildReliabilityScorecards store).map (·.evaluatedActions)).sum =
      store.proposedActions.values.countP fun action => (store.latestPolicyDecision action.id).isSome := by
  have counts : (buildReliabilityScorecards store).map (·.evaluatedActions) =
      (sortedKeys store).map fun key => (cardDecisions store key).length := by
    unfold buildReliabilityScorecards sortedKeys
    rw [List.map_map]
    rfl
  have size : (effectiveDecisions store).length =
      store.proposedActions.values.countP fun action => (store.latestPolicyDecision action.id).isSome := by
    unfold effectiveDecisions
    rw [List.length_filterMap_eq_countP]
  rw [counts, ← size]
  apply sum_filter_length
  intro decision effective
  obtain ⟨action, member, latest⟩ := List.mem_filterMap.mp effective
  exact countP_own (sortedKeys_nodup store) (action_key_listed member) (decision_card indexed member latest)

end Partition

section Rates

theorem rateOf_unit {part whole : Nat} (bounded : part ≤ whole) : InUnit (rateOf part whole) := by
  unfold rateOf
  split
  · exact unit_part (Nat.cast_nonneg part) (Nat.cast_le.mpr bounded)
  · exact unit_zero

theorem verdict_counts (decisions : List PolicyDecision) :
    (decisions.countP fun decision => decision.decision == .allow) +
        (decisions.countP fun decision => decision.decision == .block) +
        (decisions.countP fun decision => decision.decision == .requireApproval) = decisions.length := by
  induction decisions with
  | nil => rfl
  | cons decision rest ih =>
    simp only [List.countP_cons, List.length_cons]
    cases decision.decision <;> simp <;> omega

/-- Runs with different identifiers that were recovered are no more than the recovered ones. -/
theorem recovered_bounded {recovered : List String} {runs : List DurableRun} (distinct : (runs.map (·.run.id)).Nodup)
    (succeeds : DurableRun → Bool) :
    (runs.countP fun durable => recovered.contains durable.run.id && succeeds durable) ≤ recovered.length := by
  rw [List.countP_eq_length_filter, ← List.length_map (·.run.id)]
  apply List.Subperm.length_le
  apply List.Nodup.subperm
  · exact (List.filter_sublist.map _).nodup distinct
  · intro runId member
    obtain ⟨durable, present, rfl⟩ := List.mem_map.mp member
    have kept := (List.mem_filter.mp present).2
    exact List.contains_iff_mem.mp (Bool.and_eq_true_iff.mp kept).1

/-- The rates of a card and its confidence. -/
structure RatesInUnit (card : AgentReliabilityScorecard) : Prop where
  scopeAdherence : InUnit card.scopeAdherenceRate
  firstAttemptSuccess : InUnit card.firstAttemptSuccessRate
  recoverySuccess : InUnit card.recoverySuccessRate
  humanIntervention : InUnit card.humanInterventionRate
  policyBlock : InUnit card.policyBlockRate
  evidenceCompletion : InUnit card.evidenceCompletionRate
  confidence : InUnit card.confidence

theorem buildScorecard_rates {store : ReportingStore} (indexed : store.Indexed) (key : CardKey) :
    RatesInUnit (buildScorecard store key) := by
  have distinct : ((cardRuns store key).map (·.run.id)).Nodup :=
    (List.filter_sublist.map _).nodup (nodup_ids indexed.runs)
  constructor
  · exact rateOf_unit List.countP_le_length
  · exact rateOf_unit List.countP_le_length
  · exact rateOf_unit (recovered_bounded distinct _)
  · exact rateOf_unit List.countP_le_length
  · exact rateOf_unit List.countP_le_length
  · exact rateOf_unit List.countP_le_length
  · constructor
    · exact le_min zero_le_one (div_nonneg (add_nonneg (Nat.cast_nonneg _) (Nat.cast_nonneg _)) (by norm_num))
    · exact min_le_left 1 _

end Rates

section Scorecards

/-- The cards divide the evidence of a store among them. -/
structure PartitionsEvidence (store : ReportingStore) (cards : List AgentReliabilityScorecard) : Prop where
  distinct : (cards.map (·.cardKey)).Nodup
  evaluated : ∀ card ∈ cards, card.evaluatedActions = (cardDecisions store card.cardKey).length
  allowed : ∀ card ∈ cards,
    card.allowedActions = (cardDecisions store card.cardKey).countP fun decision => decision.decision == .allow
  blocked : ∀ card ∈ cards,
    card.blockedActions = (cardDecisions store card.cardKey).countP fun decision => decision.decision == .block
  escalated : ∀ card ∈ cards, card.approvalEscalations =
    (cardDecisions store card.cardKey).countP fun decision => decision.decision == .requireApproval
  decided : ∀ action ∈ store.proposedActions.values, ∀ decision, store.latestPolicyDecision action.id = some decision →
    (cards.map fun card => (cardDecisions store card.cardKey).count decision).sum = 1
  latest : ∀ action ∈ store.proposedActions.values, ∀ decision, store.latestPolicyDecision action.id = some decision →
    ∀ other ∈ store.policyDecisions.values, other.proposedActionId = action.id →
      toLex (other.evaluatedAt, other.id) ≤ toLex (decision.evaluatedAt, decision.id)
  verdicts : ∀ card ∈ cards,
    card.allowedActions + card.blockedActions + card.approvalEscalations = card.evaluatedActions
  rates : ∀ card ∈ cards, RatesInUnit card
  total : (cards.map (·.evaluatedActions)).sum =
    store.proposedActions.values.countP fun action => (store.latestPolicyDecision action.id).isSome
  runs : ∀ durable ∈ store.agentRuns.values, (∃ task ∈ store.agentTasks.values, task.id = durable.run.taskId) →
    (cards.map fun card => (cardRuns store card.cardKey).count durable).sum = 1

/-- An action that was escalated and then allowed. -/
def reportedAction : ProposedAction where
  id := "action_1"
  leaseId := none
  provider := .codex
  agentId := some "agent_1"
  runId := none
  taskId := none
  projectId := none
  actionType := .createBranch
  repository := none
  branch := none
  paths := []
  command := none
  networkDomains := []
  estimatedRuntimeSeconds := 0
  estimatedCostUsd := 0
  retryNumber := 0
  metadata := []
  createdAt := 0

def reportedDecision (id : String) (decision : PolicyDecisionType) (evaluatedAt : Instant) : PolicyDecision where
  id
  proposedActionId := "action_1"
  leaseId := none
  decision
  riskLevel := .low
  reasons := []
  obligations := []
  evaluatedPolicyVersion := "v1"
  evaluatedAt

def reportedStore : ReportingStore where
  ticks := 0
  projects := []
  workOrders := []
  externalAgents := .empty
  agentTasks := .empty
  agentTaskEvents := .empty
  approvalRequests := .empty
  agentRuns := .empty
  capabilityLeases := .empty
  reviewerAttestations := .empty
  proposedActions := Table.empty.set "action_1" reportedAction
  policyDecisions := (Table.empty.set "decision_1" (reportedDecision "decision_1" .requireApproval 1)).set "decision_2"
    (reportedDecision "decision_2" .allow 2)
  actionAuthorizations := .empty
  actionConsumptions := .empty
  trustEvents := .empty
  agentTaskRows := .empty
  agentRunEvents := .empty

theorem reportedStore_indexed : reportedStore.Indexed := by
  constructor
  · intro actionId action stored
    have lookup : (Table.empty.set "action_1" reportedAction).get? actionId = some action := stored
    rw [Table.get?_set] at lookup
    split at lookup
    · rename_i same
      cases lookup
      exact same.symm
    · cases lookup
  · intro taskId task stored
    cases stored
  · intro runId durable stored
    cases stored

end Scorecards

end ControlTower
