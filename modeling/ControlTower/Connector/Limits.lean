import ControlTower.Foundation.RateWindow
import ControlTower.Connector.Replay

/-! The rate limits of external agents and of connectors. Both are fixed windows over
the times of the requests; they keep different books on the requests they reject. -/

set_option autoImplicit false

namespace ControlTower.Connectors

open Foundation
open Foundation.Procedure
open Foundation.RateWindow

section Agent

/-- A credential with the attributes that the rate limit reads and writes. -/
structure AgentCredentialRecord where
  agentId : String
  rateLimitPerMinute : Int
  rateLimitWindowStartedAt : Option Instant
  rateLimitRequestCount : Int
  updatedAt : Instant

structure AgentAuthStore where
  ticks : Nat
  externalAgentCredentials : Table String AgentCredentialRecord

instance : Clocked AgentAuthStore where
  ticks := AgentAuthStore.ticks
  tick store := { store with ticks := store.ticks + 1 }

abbrev AgentAuthProcedure := Procedure AgentAuthStore Raised

variable (runtime : Runtime)

def agentRateLimitWindow : Nat := 60000000

def saveCredential (agentId : String) (credential : AgentCredentialRecord) : AgentAuthProcedure Unit :=
  .modify fun store =>
    { store with externalAgentCredentials := store.externalAgentCredentials.set agentId credential }

def newCredential (agentId : String) : AgentAuthProcedure AgentCredentialRecord := do
  let updatedAt ← readClock runtime
  let credential : AgentCredentialRecord := ⟨agentId, 60, none, 0, updatedAt⟩
  saveCredential agentId credential
  return credential

def credentialFor (agentId : String) : AgentAuthProcedure AgentCredentialRecord := do
  let store ← Procedure.state
  match store.externalAgentCredentials.get? agentId with
  | some credential => return credential
  | none => newCredential runtime agentId

/-- `window_started is None or window_started + AGENT_RATE_LIMIT_WINDOW <= now`; none where it raises. -/
def agentWindowStarts (started : Option Instant) (now : Instant) : Option Bool :=
  match started with
  | none => some true
  | some started =>
      if ((started + agentRateLimitWindow : Nat) : Int) < endOfTime then
        some (decide (started + agentRateLimitWindow ≤ now))
      else none

def enforceAgentRateLimit (agentId : String) : AgentAuthProcedure Unit := do
  let credential ← credentialFor runtime agentId
  let now ← readClock runtime
  let starts ← found (agentWindowStarts credential.rateLimitWindowStartedAt now) internalError
  if starts then
    saveCredential agentId { credential with rateLimitWindowStartedAt := some now, rateLimitRequestCount := 1, updatedAt := now }
  else if credential.rateLimitPerMinute ≤ credential.rateLimitRequestCount then do
    saveCredential agentId { credential with updatedAt := now }
    raise (.http 429 "External agent rate limit exceeded")
  else
    saveCredential agentId { credential with
      rateLimitRequestCount := credential.rateLimitRequestCount + 1
      updatedAt := now }

end Agent

section Runs

/-- The state after a number of executions, whatever their outcomes. -/
def after {σ : Type} (body : Procedure σ Raised Unit) (start : σ) : Nat → σ
  | 0 => start
  | count + 1 => (body.run (after body start count)).2

/-- The outcome of an execution behind all earlier ones. -/
def outcome {σ : Type} (body : Procedure σ Raised Unit) (start : σ) (index : Nat) : Except Raised Unit :=
  (body.run (after body start index)).1

def RateLimited (outcome : Except Raised Unit) : Prop := ∃ detail, outcome = .error (.http 429 detail)

/-- A limiter with a window that each request belongs to bounds the load. -/
structure BoundsLoad {γ : Type} (time : Nat → Instant) (limit : Int) (outcome : Nat → Except Raised Unit)
    (window : Nat → γ) : Prop where
  windows : ∀ (opened : γ) (requests : Finset Nat),
    (∀ index ∈ requests, outcome index = .ok () ∧ window index = opened) → (requests.card : Int) ≤ limit
  intervals : ∀ requests : Finset Nat, (∀ index ∈ requests, outcome index = .ok ()) →
    (∀ index ∈ requests, ∀ other ∈ requests, time other < time index + rateLimitWindow) →
    (requests.card : Int) ≤ 2 * limit
  rejections : ∀ index, RateLimited (outcome index) → ∃ requests : Finset Nat,
    (∀ earlier ∈ requests, earlier < index ∧ outcome earlier = .ok () ∧ time index < time earlier + rateLimitWindow) ∧
      limit ≤ (requests.card : Int)

/-- What a limiter answers for a verdict. -/
def answerFor (detail : String) : Verdict → Except Raised Unit
  | .accepted => .ok ()
  | .rejected => .error (.http 429 detail)
  | .stuck => .error internalError

theorem answerFor_ok {detail : String} {verdict : Verdict} : answerFor detail verdict = .ok () ↔ verdict = .accepted := by
  cases verdict <;> simp [answerFor]

theorem answerFor_rateLimited {detail : String} {verdict : Verdict} :
    RateLimited (answerFor detail verdict) ↔ verdict = .rejected := by
  cases verdict <;> simp [answerFor, RateLimited, internalError]

/-- The load that a limiter sees whose first request reads the clock at a tick. -/
def rateLoad (runtime : Runtime) (ticks : Nat) (limit : Int) : Load where
  time index := runtime.clock (ticks + index)
  length := rateLimitWindow
  limit := limit.toNat
  horizon := endOfTime.toNat

theorem rateLoad_positive {runtime : Runtime} {ticks : Nat} {limit : Int} (positive : 1 ≤ limit) :
    1 ≤ (rateLoad runtime ticks limit).limit := by
  change 1 ≤ limit.toNat
  omega

theorem rateLoad_ordered {runtime : Runtime} (ordered : Monotone runtime.clock) (ticks : Nat) (limit : Int) :
    Monotone (rateLoad runtime ticks limit).time := by
  intro index later order
  exact ordered (Nat.add_le_add_left order ticks)

/-- A limiter that answers as the fixed windows do, and shows when a window opened. -/
theorem boundsLoad {γ : Type} {runtime : Runtime} {ticks : Nat} {limit : Int} (positive : 1 ≤ limit)
    (ordered : Monotone runtime.clock) (shown : Instant → γ) {outcome : Nat → Except Raised Unit} {detail : String}
    (answers : ∀ index, outcome index = answerFor detail (verdict (rateLoad runtime ticks limit) index))
    {window : Nat → γ} (shows : ∀ tick other,
      shown (runtime.clock tick) = shown (runtime.clock other) → runtime.clock tick = runtime.clock other)
    (windows : ∀ index, window index =
      shown (runtime.clock (ticks + opener (rateLoad runtime ticks limit) index))) :
    BoundsLoad (fun index => runtime.clock (ticks + index)) limit outcome window := by
  have bound := @rateLoad_positive runtime ticks limit positive
  have times := rateLoad_ordered ordered ticks limit
  have accepts (index : Nat) : outcome index = .ok () ↔ verdict (rateLoad runtime ticks limit) index = .accepted := by
    rw [answers, answerFor_ok]
  have size : ((rateLoad runtime ticks limit).limit : Int) = limit := Int.toNat_of_nonneg (by omega)
  constructor
  · intro opened requests accepted
    -- requests of one window: the first of them names the window, and the others are accepted in it
    rcases Finset.eq_empty_or_nonempty requests with rfl | ⟨first, present⟩
    · simp only [Finset.card_empty]
      omega
    · rw [← size]
      apply Int.ofNat_le.mpr
      apply card_le_of_window bound
      intro index member
      constructor
      · exact (accepts index).mp (accepted index member).1
      · apply opener_eq_of_time bound times (by decide : 0 < rateLimitWindow)
        apply shows
        rw [← windows, ← windows, (accepted index member).2, (accepted first present).2]
  · -- requests that close together fall into at most two windows
    intro requests accepted close
    rw [← size]
    have counted := card_le_of_interval bound times (fun index member => (accepts index).mp (accepted index member)) close
    omega
  · intro index limited
    rw [answers, answerFor_rateLimited] at limited
    -- a request is limited only behind a full window
    refine ⟨acceptedBehind (rateLoad runtime ticks limit) index, ?_, ?_⟩
    · intro earlier member
      have parts := Finset.mem_filter.mp member
      have below := mem_acceptedBelow.mp parts.1
      exact ⟨below.1, (accepts earlier).mpr below.2, parts.2⟩
    · rw [← size]
      exact Int.ofNat_le.mpr (rejected_full bound times limited)

end Runs

section Steps

theorem horizon_le {started : Nat} : endOfTime.toNat ≤ started + rateLimitWindow ↔
    ¬ ((started + rateLimitWindow : Nat) : Int) < endOfTime := by
  have size : (endOfTime.toNat : Int) = endOfTime := rfl
  omega

end Steps

section AgentLimit

variable {runtime : Runtime} {ticks : Nat} {limit : Int} {agentId : String}

/-- A credential shows the window that a limiter is in. -/
structure CredentialShows (runtime : Runtime) (ticks : Nat) (limit : Int) (window : Option Window)
    (credential : AgentCredentialRecord) : Prop where
  perMinute : credential.rateLimitPerMinute = limit
  started : credential.rateLimitWindowStartedAt = window.map fun window => runtime.clock (ticks + window.opener)
  used : ∀ opened, window = some opened → credential.rateLimitRequestCount = opened.used

/-- The store of the agents before a request. -/
structure AgentTracks (runtime : Runtime) (ticks : Nat) (limit : Int) (agentId : String) (index : Nat)
    (window : Option Window) (store : AgentAuthStore) : Prop where
  counted : store.ticks = ticks + index
  stored : ∃ credential, store.externalAgentCredentials.get? agentId = some credential ∧
    CredentialShows runtime ticks limit window credential

theorem AgentTracks.save {index : Nat} {window : Option Window} {store : AgentAuthStore} {credential : AgentCredentialRecord}
    (counted : store.ticks = ticks + index) (shows : CredentialShows runtime ticks limit window credential) :
    AgentTracks runtime ticks limit agentId index window
      { store with externalAgentCredentials := store.externalAgentCredentials.set agentId credential } := by
  constructor
  · exact counted
  · exact ⟨credential, Table.get?_set_self _ _ _, shows⟩

/-- The agent limiter answers as the fixed windows do. -/
theorem enforceAgentRateLimit_step {index : Nat} {window : Option Window} {store : AgentAuthStore}
    (tracks : AgentTracks runtime ticks limit agentId index window store) :
    (enforceAgentRateLimit runtime agentId).Ends store fun outcome after =>
      outcome = answerFor "External agent rate limit exceeded" (judge (rateLoad runtime ticks limit) window index).1 ∧
        AgentTracks runtime ticks limit agentId (index + 1) (judge (rateLoad runtime ticks limit) window index).2 after := by
  obtain ⟨credential, stored, shows⟩ := tracks.stored
  have now : Clocked.ticks store = ticks + index := tracks.counted
  have next : (Clocked.tick store).ticks = ticks + (index + 1) := congrArg (· + 1) tracks.counted
  have found_ : (credentialFor runtime agentId).Ends store fun outcome after =>
      outcome = .ok credential ∧ after = store := by
    unfold credentialFor
    apply ends_read
    rw [stored]
    exact ⟨rfl, rfl⟩
  unfold enforceAgentRateLimit
  apply Ends.bind found_
  · rintro _ _ ⟨same, rfl⟩
    cases same
    rw [ends_bind, ends_readClock, now]
    -- no window is open, so the request opens one
    cases window with
    | none =>
      rw [shows.started]
      refine ⟨rfl, AgentTracks.save next ⟨shows.perMinute, rfl, ?_⟩⟩
      intro opened same
      cases same
      rfl
    | some window =>
      have used := shows.used window rfl
      -- the stored time of the window is the instant that opened it
      have started : agentWindowStarts credential.rateLimitWindowStartedAt (runtime.clock (ticks + index)) =
          if ((runtime.clock (ticks + window.opener) + rateLimitWindow : Nat) : Int) < endOfTime then
            some (decide (runtime.clock (ticks + window.opener) + rateLimitWindow ≤ runtime.clock (ticks + index)))
          else none := by
        rw [shows.started]
        rfl
      rw [continue_ok, started]
      by_cases soon : ((runtime.clock (ticks + window.opener) + rateLimitWindow : Nat) : Int) < endOfTime
      · have early : ¬ (rateLoad runtime ticks limit).horizon ≤ (rateLoad runtime ticks limit).time window.opener +
            (rateLoad runtime ticks limit).length := fun late => horizon_le.mp late soon
        rw [if_pos soon, ends_bind, ends_found_some, continue_ok]
        -- the window has passed, so the request opens the next one
        by_cases passed : runtime.clock (ticks + window.opener) + rateLimitWindow ≤ runtime.clock (ticks + index)
        · rw [judge_passed early passed, if_pos (decide_eq_true passed)]
          refine ⟨rfl, AgentTracks.save next ⟨shows.perMinute, rfl, ?_⟩⟩
          intro opened same
          cases same
          rfl
        · rw [if_neg (by simpa using passed), shows.perMinute, used]
          -- the window is open: it takes the request if there is room
          by_cases free : window.used < limit.toNat
          · rw [judge_free early passed free, if_neg (by omega)]
            refine ⟨rfl, AgentTracks.save next ⟨rfl, shows.started, ?_⟩⟩
            intro opened same
            cases same
            rfl
          · rw [judge_full early passed free, if_pos (by omega)]
            refine ⟨rfl, AgentTracks.save next ⟨rfl, shows.started, ?_⟩⟩
            intro opened same
            cases same
            rfl
      · -- the end of the window is past the end of time, which raises
        rw [if_neg soon, judge_stuck (horizon_le.mpr soon)]
        exact ⟨rfl, next, credential, stored, shows⟩
  · rintro error _ ⟨same, -⟩
    cases same

end AgentLimit

section ConnectorLimit

variable {runtime : ConnectorRuntime} {ticks : Nat} {limit : Int}

/-- The times of requests read back as they were written. -/
def ReadsBack (runtime : ConnectorRuntime) : Prop :=
  ∀ tick, runtime.isoformat (runtime.clock tick) ≠ "" ∧
    runtime.fromIsoformat (runtime.isoformat (runtime.clock tick)) = some ⟨runtime.clock tick, some 0⟩

/-- A configuration without a window of the rate limit. -/
structure EmptyRateWindow (runtime : ConnectorRuntime) (config : Config) : Prop where
  started : parseIsoDatetime runtime (config.value "rate_limit_window_started_at") = none
  count : ∃ count, requestCount runtime config = some count

/-- A connector shows the window that a limiter is in. It goes on counting where it rejects. -/
structure ConnectorShows (runtime : ConnectorRuntime) (ticks : Nat) (limit : Int) (window : Option Window)
    (connector : AgentConnector) : Prop where
  perMinute : connector.rateLimitPerMinute = some limit
  empty : window = none → EmptyRateWindow runtime connector.config
  started : ∀ opened, window = some opened → connector.config.get? "rate_limit_window_started_at" =
    some (.text (runtime.isoformat (runtime.clock (ticks + opened.opener))))
  counted : ∀ opened, window = some opened → ∃ count : Int,
    connector.config.get? "rate_limit_request_count" = some (.number count) ∧
      (count = opened.used ∨ limit ≤ opened.used ∧ limit ≤ count)

/-- A connector before a request. -/
structure ConnectorTracks (runtime : ConnectorRuntime) (ticks : Nat) (limit : Int) (index : Nat) (window : Option Window)
    (state : ConnectorCase) : Prop where
  counted : state.ticks = ticks + index
  shows : ConnectorShows runtime ticks limit window state.connector

theorem requestCount_number {config : Config} {count : Int}
    (stored : config.get? "rate_limit_request_count" = some (.number count)) :
    requestCount runtime config = some count := by
  unfold requestCount Config.value
  rw [stored]
  by_cases zero : count = 0
  · subst zero
    rfl
  · have truthy : (Document.number count).truthy = true := bne_iff_ne.mpr zero
    exact if_pos truthy

theorem windowStarts_shown (reads : ReadsBack runtime) {window : Window} {connector : AgentConnector}
    (shows : ConnectorShows runtime ticks limit (some window) connector) (now : Instant) :
    windowStarts runtime connector.config now =
      if ((runtime.clock (ticks + window.opener) + rateLimitWindow : Nat) : Int) < endOfTime then
        some (decide (runtime.clock (ticks + window.opener) + rateLimitWindow ≤ now))
      else none := by
  have date := reads (ticks + window.opener)
  unfold windowStarts Config.value
  rw [shows.started window rfl]
  dsimp only [Option.getD_some, parseIsoDatetime]
  rw [if_neg date.1, date.2]
  dsimp only [windowPassed]
  by_cases soon : ((runtime.clock (ticks + window.opener) + rateLimitWindow : Nat) : Int) < endOfTime
  · rw [if_pos soon, if_pos (by exact_mod_cast soon)]
    simp only [Option.map_some, Option.some.injEq, decide_eq_decide, Int.sub_zero]
    exact Int.ofNat_le
  · rw [if_neg soon, if_neg (by exact_mod_cast soon)]

/-- A new window of a connector. -/
theorem ConnectorShows.opens {connector : AgentConnector} {index : Nat}
    (perMinute : connector.rateLimitPerMinute = some limit) :
    ConnectorShows runtime ticks limit (some ⟨index, 1⟩)
      { connector with
        config := (connector.config.set "rate_limit_window_started_at"
          (.text (runtime.isoformat (runtime.clock (ticks + index))))).set "rate_limit_request_count" (.number 1)
        updatedAt := runtime.clock (ticks + index) } := by
  constructor
  · exact perMinute
  · intro impossible
    cases impossible
  · intro opened same
    cases same
    dsimp only
    rw [Table.get?_set_other _ _ (by decide), Table.get?_set_self]
  · intro opened same
    cases same
    exact ⟨1, Table.get?_set_self _ _ _, .inl rfl⟩

/-- One more request in the window of a connector. -/
theorem ConnectorShows.counts {connector : AgentConnector} {window : Window} {count : Int} {used : Nat}
    (shows : ConnectorShows runtime ticks limit (some window) connector) (now : Instant)
    (counted : count + 1 = used ∨ limit ≤ used ∧ limit ≤ count + 1) :
    ConnectorShows runtime ticks limit (some ⟨window.opener, used⟩)
      { connector with
        config := connector.config.set "rate_limit_request_count" (.number (count + 1))
        updatedAt := now } := by
  constructor
  · exact shows.perMinute
  · intro impossible
    cases impossible
  · intro opened same
    cases same
    dsimp only
    rw [Table.get?_set_other _ _ (by decide), shows.started window rfl]
  · intro opened same
    cases same
    exact ⟨count + 1, Table.get?_set_self _ _ _, counted⟩

/-- The connector limiter answers as the fixed windows do. -/
theorem enforceConnectorRateLimit_step (reads : ReadsBack runtime) {index : Nat} {window : Option Window}
    {state : ConnectorCase} (tracks : ConnectorTracks runtime ticks limit index window state) :
    (enforceConnectorRateLimit runtime).Ends state fun outcome after =>
      outcome = answerFor "Connector webhook rate limit exceeded"
          (judge (rateLoad runtime.toRuntime ticks limit) window index).1 ∧
        ConnectorTracks runtime ticks limit (index + 1) (judge (rateLoad runtime.toRuntime ticks limit) window index).2
          after := by
  have now : Clocked.ticks state = ticks + index := tracks.counted
  have next : (Clocked.tick state).ticks = ticks + (index + 1) := congrArg (· + 1) tracks.counted
  have shows := tracks.shows
  unfold enforceConnectorRateLimit
  rw [ends_bind, ends_currentConnector, continue_ok, ends_bind, ends_readClock, continue_ok, now]
  cases window with
  -- no window is open, so the request opens one
  | none =>
    obtain ⟨count, read⟩ := (shows.empty rfl).count
    have starts : windowStarts runtime state.connector.config (runtime.clock (ticks + index)) = some true := by
      unfold windowStarts
      rw [(shows.empty rfl).started]
    rw [read, starts]
    exact ⟨rfl, next, ConnectorShows.opens shows.perMinute⟩
  | some window =>
    obtain ⟨count, stored, counted⟩ := shows.counted window rfl
    rw [requestCount_number stored, windowStarts_shown reads shows, ends_bind, ends_found_some, continue_ok]
    by_cases soon : ((runtime.clock (ticks + window.opener) + rateLimitWindow : Nat) : Int) < endOfTime
    · have early : ¬ (rateLoad runtime.toRuntime ticks limit).horizon ≤
          (rateLoad runtime.toRuntime ticks limit).time window.opener +
            (rateLoad runtime.toRuntime ticks limit).length := fun late => horizon_le.mp late soon
      rw [if_pos soon, ends_bind, ends_found_some, continue_ok]
      -- the window has passed, so the request opens the next one
      by_cases passed : runtime.clock (ticks + window.opener) + rateLimitWindow ≤ runtime.clock (ticks + index)
      · rw [judge_passed early passed, if_pos (decide_eq_true passed)]
        exact ⟨rfl, next, ConnectorShows.opens shows.perMinute⟩
      · rw [if_neg (by simpa using passed), shows.perMinute, ends_bind, ends_found_some, continue_ok, ends_bind,
          ends_changeConnector, continue_ok, ends_demand]
        -- the window is open: it takes the request if there is room
        by_cases free : window.used < limit.toNat
        · rw [judge_free early passed free]
          constructor
          · intro _
            exact ⟨rfl, next, shows.counts _ (by omega)⟩
          · intro refused
            omega
        · rw [judge_full early passed free]
          constructor
          · intro allowed
            omega
          · intro _
            exact ⟨rfl, next, shows.counts _ (by omega)⟩
    · -- the end of the window is past the end of time, which raises
      rw [if_neg soon, judge_stuck (horizon_le.mpr soon)]
      exact ⟨rfl, next, shows⟩

end ConnectorLimit

section Claim

/-- A limiter whose steps follow the verdicts follows them in every run. -/
theorem tracks_run {σ : Type} {load : Load} {detail : String} {body : Procedure σ Raised Unit}
    {tracks : Nat → Option Window → σ → Prop}
    (step : ∀ {index : Nat} {window : Option Window} {state : σ}, tracks index window state →
      body.Ends state fun outcome after => outcome = answerFor detail (judge load window index).1 ∧
        tracks (index + 1) (judge load window index).2 after)
    {start : σ} (begins : tracks 0 none start) (index : Nat) : tracks index (before load index) (after body start index) := by
  induction index with
  | zero => exact begins
  | succ index ih => exact (step ih).2

/-- The window after a request is the one that its opener opened. -/
theorem before_opener {load : Load} (index : Nat) :
    ∃ window, before load (index + 1) = some window ∧ window.opener = opener load index := by
  obtain ⟨window, state⟩ := @before_some load _ (Nat.succ_pos index)
  exact ⟨window, state, (opener_eq state).symm⟩

variable {runtime : ConnectorRuntime} {limit : Int} {agentId : String}

/-- The start of the window that a credential is in. -/
def windowStartedAt (agentId : String) (store : AgentAuthStore) : Option Instant :=
  (store.externalAgentCredentials.get? agentId).bind (·.rateLimitWindowStartedAt)

theorem agent_boundsLoad (positive : 1 ≤ limit) (ordered : Monotone runtime.clock) {agents : AgentAuthStore}
    (begins : AgentTracks runtime.toRuntime agents.ticks limit agentId 0 none agents) :
    BoundsLoad (fun index => runtime.clock (agents.ticks + index)) limit
      (outcome (enforceAgentRateLimit runtime.toRuntime agentId) agents)
      fun index => windowStartedAt agentId (after (enforceAgentRateLimit runtime.toRuntime agentId) agents (index + 1)) := by
  have runs := tracks_run enforceAgentRateLimit_step begins
  apply boundsLoad positive ordered some
  · intro index
    exact (enforceAgentRateLimit_step (runs index)).1
  · intro tick other same
    exact Option.some.inj same
  · intro index
    obtain ⟨window, state, opened⟩ := @before_opener (rateLoad runtime.toRuntime agents.ticks limit) index
    obtain ⟨credential, stored, shows⟩ := (runs (index + 1)).stored
    unfold windowStartedAt
    rw [stored, Option.bind_some, shows.started, state, Option.map_some, opened]

theorem connector_boundsLoad (reads : ReadsBack runtime) (positive : 1 ≤ limit) (ordered : Monotone runtime.clock)
    {connectors : ConnectorCase} (begins : ConnectorTracks runtime connectors.ticks limit 0 none connectors) :
    BoundsLoad (fun index => runtime.clock (connectors.ticks + index)) limit
      (outcome (enforceConnectorRateLimit runtime) connectors)
      fun index => (after (enforceConnectorRateLimit runtime) connectors (index + 1)).connector.config.get?
        "rate_limit_window_started_at" := by
  have runs := tracks_run (enforceConnectorRateLimit_step reads) begins
  apply boundsLoad positive ordered fun instant => some (Document.text (runtime.isoformat instant))
  · intro index
    exact (enforceConnectorRateLimit_step reads (runs index)).1
  · intro tick other same
    have written : runtime.isoformat (runtime.clock tick) = runtime.isoformat (runtime.clock other) := by
      injection same with texts
      injection texts
    have dates := (reads tick).2.symm.trans (written ▸ (reads other).2)
    injection dates with dates
    injection dates with walls
    exact Int.ofNat_inj.mp walls
  · intro index
    obtain ⟨window, state, opened⟩ := @before_opener (rateLoad runtime.toRuntime connectors.ticks limit) index
    rw [(runs (index + 1)).shows.started window state, opened]

end Claim

section Sample

/-- Five requests in the first second and all later ones a minute later. -/
def twoBursts (tick : Nat) : Nat := if tick < 5 then 0 else 61000000

def ConnectorRuntime.timed (runtime : ConnectorRuntime) (clock : Nat → Instant) (isoformat : Instant → String)
    (fromIsoformat : String → Option DateTime) : ConnectorRuntime :=
  { runtime with clock, isoformat, fromIsoformat }

def burstRuntime : ConnectorRuntime :=
  (ConnectorRuntime.plain []).timed twoBursts
    (fun instant => if instant = 0 then "1970-01-01T00:00:00+00:00" else "1970-01-01T00:01:01+00:00")
    fun text =>
      if text = "1970-01-01T00:00:00+00:00" then some ⟨0, some 0⟩
      else if text = "1970-01-01T00:01:01+00:00" then some ⟨61000000, some 0⟩
      else none

theorem burstRuntime_readsBack : ReadsBack burstRuntime := by
  intro tick
  by_cases first : tick < 5
  · have time : burstRuntime.clock tick = 0 := if_pos first
    rw [time]
    decide
  · have time : burstRuntime.clock tick = 61000000 := if_neg first
    rw [time]
    decide

theorem burstRuntime_ordered : Monotone burstRuntime.clock := by
  intro tick later order
  change twoBursts tick ≤ twoBursts later
  unfold twoBursts
  split <;> split <;> omega

def burstAgents : AgentAuthStore := ⟨0, Table.empty.set "agent_1" ⟨"agent_1", 2, none, 0, 0⟩⟩

def burstConnector : ConnectorCase :=
  ⟨0, { signedConnector with rateLimitPerMinute := some 2, config := .empty }⟩

end Sample

end ControlTower.Connectors
