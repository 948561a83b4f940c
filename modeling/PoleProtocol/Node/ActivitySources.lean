import PoleProtocol.Framework.Run
import PoleProtocol.Framework.Text
import PoleProtocol.Framework.Word
import PoleProtocol.Node.CrossValidation

/-!
# Activity sources

A tick asks every configured source, each with its retries, and keeps a count of failures for each.
A tick in which no source answers fails before the counts are saved, so that the saved counts are
those of the other ticks only.
-/

namespace PoleProtocol.Node

open Framework Ledger OrderedMap

/-! ## Asking a source -/

inductive ActivityCollectorError where
  | http (err : String)
  | invalidJson (err : String)
  | missingPlayerCount
  | missingConfidence
  | missingEndpoint
  | missingInlineJson
  | untrustedEndpoint (url : String)
  deriving DecidableEq

def ActivityCollectorError.text : ActivityCollectorError → String
  | .http err => "activity http error: " ++ err
  | .invalidJson err => "invalid activity response json: " ++ err
  | .missingPlayerCount => "activity response missing player count"
  | .missingConfidence => "activity response missing confidence ppm"
  | .missingEndpoint => "activity source missing endpoint url"
  | .missingInlineJson => "community activity source missing inline json"
  | .untrustedEndpoint url =>
      "activity source endpoint url is not trusted for this source kind: " ++ url

/-- The HTTP client, over the states of the network, and the readers of the JSON answers. -/
structure SourceClient (N : Type) where
  debugAssertions : Bool
  getText : String → N → N × Except ActivityCollectorError String
  parseResponse : ActivitySourceKind → ℕ → ℕ → String →
    Except ActivityCollectorError ActivitySample

def officialEndpoints : ActivitySourceKind → List String
  | .steam => ["https://api.steampowered.com/"]
  | .epic => ["https://api.epicgames.dev/", "https://store.epicgames.com/",
      "https://api.epicgames.com/"]
  | .ea => ["https://api.ea.com/"]
  | .gog => ["https://api.gog.com/"]
  | .community => [""]

/-- Debug builds trust the local host as well. -/
def isTrustedSourceEndpoint (debugAssertions : Bool) (sourceKind : ActivitySourceKind)
    (url : String) : Bool :=
  let lower := String.ofList ((trim url).toList.map Char.toLower)
  let localHost := beginsWith lower "http://127.0.0.1" || beginsWith lower "http://localhost"
  (debugAssertions && localHost) || (officialEndpoints sourceKind).any (beginsWith lower)

structure ActivitySourceConfig where
  appId : ℕ
  sourceKind : ActivitySourceKind
  endpointUrl : Option String
  inlineJson : Option String
  retries : ℕ
  deriving DecidableEq

def currentPlayersUrl (appId : ℕ) : String :=
  "https://api.steampowered.com/ISteamUserStats/GetNumberOfCurrentPlayers/v1/?appid=" ++
    toString appId

section Client

variable {N : Type} (client : SourceClient N)

/-- A community source stands in the configuration itself, every other is fetched. -/
def collectConfiguredActivitySource (observedAtMillis : ℕ) (source : ActivitySourceConfig)
    (network : N) : N × Except ActivityCollectorError ActivitySample :=
  if source.endpointUrl.all (isTrustedSourceEndpoint client.debugAssertions source.sourceKind) then
    if source.sourceKind = .community then
      match source.inlineJson with
      | none => (network, .error .missingInlineJson)
      | some body =>
          (network, client.parseResponse source.sourceKind source.appId observedAtMillis body)
    else
      match source.endpointUrl with
      | none => (network, .error .missingEndpoint)
      | some endpoint =>
          let (network, answer) := client.getText endpoint network
          (network, answer >>= client.parseResponse source.sourceKind source.appId observedAtMillis)
  else (network, .error (.untrustedEndpoint (source.endpointUrl.getD "")))

/-- Ask again after a failure, as often as the retries allow. -/
def collectSourceWithRetry (observedAtMillis : ℕ) (source : ActivitySourceConfig) :
    (retries : ℕ) → N → N × Except ActivityCollectorError ActivitySample
  | 0, network => collectConfiguredActivitySource client observedAtMillis source network
  | retries + 1, network =>
      match collectConfiguredActivitySource client observedAtMillis source network with
      | (network, .ok sample) => (network, .ok sample)
      | (network, .error _) => collectSourceWithRetry observedAtMillis source retries network

end Client

/-! ## The health of the sources -/

/-- The failures of each source since it last answered, and the sources with too many of them. -/
structure ActivitySourceHealthState where
  consecutiveFailures : OrderedMap String ℕ
  degraded : Finset String

namespace ActivitySourceHealthState

def degradeThreshold : ℕ := 3

def empty : ActivitySourceHealthState := ⟨∅, ∅⟩

variable (health : ActivitySourceHealthState) (key : String)

def recordSuccess : ActivitySourceHealthState where
  consecutiveFailures := health.consecutiveFailures.erase key
  degraded := health.degraded.erase key

/-- The count wraps around the word. -/
def recordFailure : ActivitySourceHealthState :=
  let count := wrap32 (health.consecutiveFailures[key]?.getD 0 + 1)
  { consecutiveFailures := health.consecutiveFailures.insert key count
    degraded :=
      if degradeThreshold ≤ count then insert key health.degraded else health.degraded }

def isDegraded : Bool := key ∈ health.degraded

/-- What became of one source. -/
def record (outcome : String × Bool) : ActivitySourceHealthState :=
  if outcome.2 then health.recordSuccess outcome.1 else health.recordFailure outcome.1

end ActivitySourceHealthState

/-! ## Asking all sources -/

/-- A source with the name its health is kept under, and the name its failures are reported by. -/
structure SourceRequest where
  key : String
  label : String
  source : ActivitySourceConfig

def sourceKindName : ActivitySourceKind → String
  | .steam => "Steam"
  | .epic => "Epic"
  | .ea => "Ea"
  | .gog => "Gog"
  | .community => "Community"

structure ActivitySettings where
  targetAppIds : List ℕ
  activitySources : List ActivitySourceConfig

/-- A Steam source without an endpoint is asked at the official one. -/
def resolvedEndpoint (source : ActivitySourceConfig) : Option String :=
  match source.endpointUrl, source.sourceKind with
  | some template, _ => some (template.replace "\x7bapp_id\x7d" (toString source.appId))
  | none, .steam => some (currentPlayersUrl source.appId)
  | none, _ => none

/-- Without configured sources, Steam is asked for every app. -/
def ActivitySettings.requests (settings : ActivitySettings) : List SourceRequest :=
  if settings.activitySources = [] then
    settings.targetAppIds.map fun appId =>
      { key := toString appId ++ ":Steam"
        label := "app_id=" ++ toString appId ++ " steam: "
        source :=
          { appId
            sourceKind := .steam
            endpointUrl := some (currentPlayersUrl appId)
            inlineJson := none
            retries := 0 } }
  else
    settings.activitySources.map fun source =>
      { key := toString source.appId ++ ":" ++ sourceKindName source.sourceKind
        label := "app_id=" ++ toString source.appId ++ " kind=" ++
          sourceKindName source.sourceKind ++ ": "
        source := { source with endpointUrl := resolvedEndpoint source } }

/-- What a tick has collected so far. -/
structure Collection where
  health : ActivitySourceHealthState
  samples : List ActivitySample
  failedSources : List String

structure ActivityCollectionReport where
  samples : List ActivitySample
  failedSources : List String
  crossValidatedSamples : ℕ

def Collection.add (collection : Collection) (request : SourceRequest) :
    Except ActivityCollectorError ActivitySample → Collection
  | .ok sample =>
      { collection with
        health := collection.health.recordSuccess request.key
        samples := collection.samples ++ [sample] }
  | .error err =>
      let health := collection.health.recordFailure request.key
      let degraded := if health.isDegraded request.key then " (degraded)" else ""
      { collection with
        health
        failedSources := collection.failedSources ++ [request.label ++ err.text ++ degraded] }

section Client

variable {N : Type} (client : SourceClient N) (observedAtMillis : ℕ)

/-- Ask one source, whatever became of the others. -/
def collectRequest (state : N × Collection) (request : SourceRequest) : N × Collection :=
  let (network, answer) := collectSourceWithRetry client observedAtMillis request.source
    request.source.retries state.1
  (network, state.2.add request answer)

def collectActivitySamples (settings : ActivitySettings) (health : ActivitySourceHealthState)
    (network : N) :
    N × ActivitySourceHealthState × Except String ActivityCollectionReport :=
  let (network, collection) :=
    settings.requests.foldl (collectRequest client observedAtMillis) (network, ⟨health, [], []⟩)
  if collection.samples = [] ∧ collection.failedSources ≠ [] then
    (network, collection.health, .error ("all activity sources failed: " ++
      "; ".intercalate collection.failedSources))
  else
    let validated := crossValidateSamples collection.samples
    (network, collection.health,
      .ok ⟨validated.samples, collection.failedSources, validated.adjusted⟩)

end Client

/-! ## Ticks -/

/-- What a tick asks, and when. -/
structure SourceTick where
  observedAtMillis : ℕ
  settings : ActivitySettings

/-- The network, and the health in the file. -/
structure SourceState (N : Type) where
  network : N
  savedHealth : ActivitySourceHealthState

/-- The health is saved after the samples are there. -/
def SourceState.next {N : Type} (client : SourceClient N) (s : SourceState N) (tick : SourceTick) :
    SourceState N :=
  match collectActivitySamples client tick.observedAtMillis tick.settings s.savedHealth
    s.network with
  | (network, savedHealth, .ok _) => { network, savedHealth }
  | (network, _, .error _) => { s with network }

/-! ## What the sources answered -/

section Answers

variable {N : Type} (client : SourceClient N)

/-- The network after the requests, and what became of each. -/
def answers (observedAtMillis : ℕ) :
    List SourceRequest → N → N × List (SourceRequest × Except ActivityCollectorError ActivitySample)
  | [], network => (network, [])
  | request :: requests, network =>
      let (network, answer) := collectSourceWithRetry client observedAtMillis request.source
        request.source.retries network
      let (network, rest) := answers observedAtMillis requests network
      (network, (request, answer) :: rest)

/-- Whether each of the sources answered, under the names of their health. -/
def outcomes (answered : List (SourceRequest × Except ActivityCollectorError ActivitySample)) :
    List (String × Bool) :=
  answered.map fun entry => (entry.1.key, entry.2.toOption.isSome)

/-- The outcomes of the ticks in which a source answered. -/
def keptOutcomes : List SourceTick → N → List (String × Bool)
  | [], _ => []
  | tick :: ticks, network =>
      let (network, answered) := answers client tick.observedAtMillis tick.settings.requests network
      (if (outcomes answered).any (·.2) then outcomes answered else []) ++
        keptOutcomes ticks network

end Answers

/-- How often the source has failed since it last answered. -/
def streak (key : String) (history : List (String × Bool)) : ℕ :=
  history.foldl (fun failures outcome =>
    if outcome.1 = key then if outcome.2 then 0 else failures + 1 else failures) 0

/-! ## One outcome -/

theorem streak_append (key : String) (history : List (String × Bool)) (outcome : String × Bool) :
    streak key (history ++ [outcome]) =
      if outcome.1 = key then if outcome.2 then 0 else streak key history + 1
      else streak key history := by
  unfold streak
  rw [List.foldl_append]
  rfl

/-- The health is the one that the history leaves. -/
def ActivitySourceHealthState.Follows (health : ActivitySourceHealthState)
    (history : List (String × Bool)) : Prop :=
  ∀ key, health.consecutiveFailures[key]? =
      (if streak key history = 0 then none else some (wrap32 (streak key history))) ∧
    (key ∈ health.degraded ↔ degradeThreshold ≤ streak key history)

namespace ActivitySourceHealthState

variable {health : ActivitySourceHealthState} {history : List (String × Bool)}

theorem follows_empty : empty.Follows [] := by
  intro key
  simp [empty, streak, degradeThreshold]

theorem follows_recordSuccess (h : health.Follows history) (name : String) :
    (health.recordSuccess name).Follows (history ++ [(name, true)]) := by
  intro key
  obtain ⟨hcount, hdegraded⟩ := h key
  rw [streak_append]
  by_cases hkey : name = key
  · subst hkey
    simp [recordSuccess, degradeThreshold]
  · have hother : key ≠ name := Ne.symm hkey
    simp [recordSuccess, get_erase, hkey, hother, hcount, hdegraded]

theorem wrap32_count (failures : ℕ) :
    wrap32 ((if failures = 0 then none else some (wrap32 failures)).getD 0 + 1) =
      wrap32 (failures + 1) := by
  by_cases hnone : failures = 0
  · simp [hnone]
  · simp only [if_neg hnone, Option.getD_some, wrap32]
    omega

theorem follows_recordFailure (h : health.Follows history) (name : String) :
    (health.recordFailure name).Follows (history ++ [(name, false)]) := by
  intro key
  obtain ⟨hcount, hdegraded⟩ := h key
  rw [streak_append]
  by_cases hkey : name = key
  · subst hkey
    constructor
    · simp only [recordFailure, get_insert_self, hcount, wrap32_count]
      simp
    · simp only [recordFailure, hcount, wrap32_count, if_true, Bool.false_eq_true, if_false]
      have hwrapped : wrap32 (streak name history + 1) ≤ streak name history + 1 :=
        Nat.mod_le _ _
      unfold degradeThreshold at hdegraded ⊢
      by_cases hmany : 3 ≤ streak name history
      · have hin : name ∈ health.degraded := hdegraded.mpr hmany
        split <;> simp [hin] <;> omega
      · have hcounted : wrap32 (streak name history + 1) = streak name history + 1 :=
          Nat.mod_eq_of_lt (by omega)
        have hout : name ∉ health.degraded := fun hin => hmany (hdegraded.mp hin)
        rw [hcounted]
        split
        · simp only [Finset.mem_insert_self, true_iff]
          assumption
        · simp only [hout, false_iff]
          assumption
  · have hother : key ≠ name := Ne.symm hkey
    constructor
    · simp [recordFailure, get_insert_ne _ _ hkey, hkey, hcount]
    · simp only [recordFailure, hkey, if_false]
      split
      · simp [hother, hdegraded]
      · exact hdegraded

theorem follows_record (h : health.Follows history) (outcome : String × Bool) :
    (health.record outcome).Follows (history ++ [outcome]) := by
  rcases outcome with ⟨name, _ | _⟩
  · exact follows_recordFailure h name
  · exact follows_recordSuccess h name

theorem follows_foldl (h : health.Follows history) (later : List (String × Bool)) :
    (later.foldl record health).Follows (history ++ later) := by
  induction later generalizing health history with
  | nil =>
      rw [List.append_nil]
      exact h
  | cons outcome later ih =>
      rw [List.append_cons]
      exact ih (follows_record h outcome)

end ActivitySourceHealthState

/-! ## One tick -/

section Tick

variable {N : Type} (client : SourceClient N) (observedAtMillis : ℕ)

/-- The pass over the requests asks as `answers` does, and keeps what it is told. -/
theorem foldl_collectRequest (requests : List SourceRequest) (network : N)
    (collection : Collection) :
    requests.foldl (collectRequest client observedAtMillis) (network, collection) =
      ((answers client observedAtMillis requests network).1,
        (answers client observedAtMillis requests network).2.foldl
          (fun collection entry => collection.add entry.1 entry.2) collection) := by
  induction requests generalizing network collection with
  | nil => rfl
  | cons request requests ih =>
      rw [List.foldl_cons]
      exact ih _ _

theorem health_foldl_add
    (answered : List (SourceRequest × Except ActivityCollectorError ActivitySample))
    (collection : Collection) :
    (answered.foldl (fun collection entry => collection.add entry.1 entry.2) collection).health =
      (outcomes answered).foldl ActivitySourceHealthState.record collection.health := by
  induction answered generalizing collection with
  | nil => rfl
  | cons entry answered ih =>
      rw [List.foldl_cons, ih]
      rcases entry with ⟨request, _ | sample⟩ <;> rfl

theorem samples_foldl_add
    (answered : List (SourceRequest × Except ActivityCollectorError ActivitySample))
    (collection : Collection) :
    (answered.foldl (fun collection entry => collection.add entry.1 entry.2) collection).samples =
      collection.samples ++ answered.filterMap (·.2.toOption) := by
  induction answered generalizing collection with
  | nil => simp
  | cons entry answered ih =>
      rw [List.foldl_cons, ih]
      rcases entry with ⟨request, _ | sample⟩ <;>
        simp [Collection.add, Except.toOption]

theorem failed_foldl_add
    (answered : List (SourceRequest × Except ActivityCollectorError ActivitySample))
    (collection : Collection) :
    (answered.foldl (fun collection entry => collection.add entry.1 entry.2)
        collection).failedSources.length =
      collection.failedSources.length + (outcomes answered).countP (!·.2) := by
  induction answered generalizing collection with
  | nil => rfl
  | cons entry answered ih =>
      rw [List.foldl_cons, ih]
      rcases entry with ⟨request, _ | sample⟩
      · simp only [Collection.add, outcomes, Except.toOption, List.length_append, List.map_cons,
          List.length_singleton, List.countP_cons, Option.isSome_none, Bool.not_false, if_true]
        omega
      · simp [Collection.add, outcomes, Except.toOption]

/-- No source answered, and there was one to ask. -/
def AllFailed (answered : List (SourceRequest × Except ActivityCollectorError ActivitySample)) :
    Prop :=
  answered ≠ [] ∧ ∀ entry ∈ answered, entry.2.toOption = none

theorem allFailed_iff
    {answered : List (SourceRequest × Except ActivityCollectorError ActivitySample)} :
    AllFailed answered ↔ answered ≠ [] ∧ answered.filterMap (·.2.toOption) = [] := by
  unfold AllFailed
  rw [List.filterMap_eq_nil_iff]

variable (settings : ActivitySettings) (health : ActivitySourceHealthState) (network : N)

/-- Whatever the answers are, the health records all of them. -/
theorem collectActivitySamples_health :
    (collectActivitySamples client observedAtMillis settings health network).1 =
        (answers client observedAtMillis settings.requests network).1 ∧
      (collectActivitySamples client observedAtMillis settings health network).2.1 =
        (outcomes (answers client observedAtMillis settings.requests network).2).foldl
          ActivitySourceHealthState.record health := by
  unfold collectActivitySamples
  rw [foldl_collectRequest]
  dsimp only
  split <;> exact ⟨rfl, health_foldl_add _ _⟩

/-- A tick fails when no source answers, and reports all the samples there are otherwise. -/
theorem collectActivitySamples_report :
    (AllFailed (answers client observedAtMillis settings.requests network).2 ∧
      ∃ err, (collectActivitySamples client observedAtMillis settings health network).2.2 =
        .error err) ∨
    (¬ AllFailed (answers client observedAtMillis settings.requests network).2 ∧
      ∃ report, (collectActivitySamples client observedAtMillis settings health network).2.2 =
          .ok report ∧
        report.samples = (crossValidateSamples ((answers client observedAtMillis
          settings.requests network).2.filterMap (·.2.toOption))).samples ∧
        report.failedSources.length = (outcomes (answers client observedAtMillis
          settings.requests network).2).countP (!·.2)) := by
  unfold collectActivitySamples
  rw [foldl_collectRequest]
  dsimp only
  generalize hanswered : (answers client observedAtMillis settings.requests network).2 = answered
  have hsamples := samples_foldl_add answered ⟨health, [], []⟩
  have hfailed := failed_foldl_add answered ⟨health, [], []⟩
  rw [List.nil_append] at hsamples
  have hlost : answered.filterMap (·.2.toOption) = [] →
      (outcomes answered).countP (!·.2) = answered.length := by
    intro hnone
    have hall := List.filterMap_eq_nil_iff.mp hnone
    unfold outcomes
    rw [List.countP_map, List.countP_eq_length]
    intro entry hmem
    simp [hall entry hmem]
  by_cases hall : AllFailed answered
  · left
    refine ⟨hall, ?_⟩
    obtain ⟨hsome, hnone⟩ := allFailed_iff.mp hall
    rw [hnone] at hsamples
    have hreported : (answered.foldl (fun (collection : Collection) entry =>
        collection.add entry.1 entry.2) ⟨health, [], []⟩).failedSources ≠ [] := by
      intro hempty
      rw [hempty, hlost hnone] at hfailed
      exact hsome (List.length_eq_zero_iff.mp (by simpa using hfailed.symm))
    rw [if_pos ⟨hsamples, hreported⟩]
    exact ⟨_, rfl⟩
  · right
    refine ⟨hall, ?_⟩
    rw [if_neg]
    · refine ⟨_, rfl, ?_, ?_⟩
      · exact congrArg (fun samples => (crossValidateSamples samples).samples) hsamples
      · exact hfailed.trans (Nat.zero_add _)
    · rintro ⟨hempty, hreported⟩
      rw [hsamples] at hempty
      refine hall (allFailed_iff.mpr ⟨?_, hempty⟩)
      rintro rfl
      exact hreported rfl

/-- The network after the source was asked so often. -/
def askedTimes (source : ActivitySourceConfig) : ℕ → N → N
  | 0, network => network
  | times + 1, network => askedTimes source times
      (collectConfiguredActivitySource client observedAtMillis source network).1

/-- A source is asked until it answers, and at most once more than it has retries. -/
theorem collectSourceWithRetry_attempt (source : ActivitySourceConfig) (retries : ℕ)
    (network : N) :
    ∃ attempt ≤ retries,
      collectSourceWithRetry client observedAtMillis source retries network =
        collectConfiguredActivitySource client observedAtMillis source
          (askedTimes client observedAtMillis source attempt network) ∧
      (∀ earlier < attempt, (collectConfiguredActivitySource client observedAtMillis source
        (askedTimes client observedAtMillis source earlier network)).2.toOption = none) ∧
      (attempt < retries → (collectConfiguredActivitySource client observedAtMillis source
        (askedTimes client observedAtMillis source attempt network)).2.toOption ≠ none) := by
  induction retries generalizing network with
  | zero => exact ⟨0, le_rfl, rfl, by simp, by simp⟩
  | succ retries ih =>
      rcases hasked : collectConfiguredActivitySource client observedAtMillis source network with
        ⟨after, err | sample⟩
      · obtain ⟨attempt, hle, hsame, hearlier, hanswered⟩ := ih after
        refine ⟨attempt + 1, by omega, ?_, ?_, ?_⟩
        · rw [collectSourceWithRetry, hasked, askedTimes, hasked]
          exact hsame
        · intro earlier hlt
          cases earlier with
          | zero =>
              rw [askedTimes, hasked]
              rfl
          | succ earlier =>
              rw [askedTimes, hasked]
              exact hearlier earlier (by omega)
        · intro hlt
          rw [askedTimes, hasked]
          exact hanswered (by omega)
      · refine ⟨0, Nat.zero_le _, ?_, by simp, ?_⟩
        · rw [collectSourceWithRetry, askedTimes, hasked]
        · intro _
          rw [askedTimes, hasked]
          simp [Except.toOption]

end Tick

/-! ## Runs -/

section Runs

variable {N : Type} (client : SourceClient N)

theorem next_network (s : SourceState N) (tick : SourceTick) :
    (s.next client tick).network =
      (answers client tick.observedAtMillis tick.settings.requests s.network).1 := by
  have hnetwork := (collectActivitySamples_health client tick.observedAtMillis tick.settings
    s.savedHealth s.network).1
  unfold SourceState.next
  split <;> next hcollected => rw [← hnetwork, hcollected]

/-- A tick in which no source answers leaves the saved health alone. -/
theorem next_follows {s : SourceState N} {history : List (String × Bool)} (tick : SourceTick)
    (h : s.savedHealth.Follows history) :
    (s.next client tick).savedHealth.Follows (history ++
      if (outcomes (answers client tick.observedAtMillis tick.settings.requests
          s.network).2).any (·.2) then
        outcomes (answers client tick.observedAtMillis tick.settings.requests s.network).2
      else []) := by
  have hhealth := (collectActivitySamples_health client tick.observedAtMillis tick.settings
    s.savedHealth s.network).2
  have hreport := collectActivitySamples_report client tick.observedAtMillis tick.settings
    s.savedHealth s.network
  have hanswers : ∀ answered : List (SourceRequest × Except ActivityCollectorError ActivitySample),
      (outcomes answered).any (·.2) = true ↔ ∃ entry ∈ answered, entry.2.toOption ≠ none := by
    intro answered
    simp [outcomes, List.any_map, Option.isSome_iff_ne_none]
  generalize (answers client tick.observedAtMillis tick.settings.requests s.network).2 = answered
    at hhealth hreport ⊢
  unfold SourceState.next
  rcases hcollected : collectActivitySamples client tick.observedAtMillis tick.settings
    s.savedHealth s.network with ⟨network, health, report⟩
  rw [hcollected] at hhealth hreport
  rcases hreport with ⟨⟨_, hnone⟩, err, hfailed⟩ | ⟨hsome, _, hok, _⟩
  · have hquiet : ¬ (outcomes answered).any (·.2) = true := by
      rw [hanswers]
      rintro ⟨entry, hmem, hanswered⟩
      exact hanswered (hnone entry hmem)
    rw [if_neg hquiet, List.append_nil]
    subst hfailed
    exact h
  · subst hok
    change health.Follows _
    change health = _ at hhealth
    rw [hhealth]
    split
    · exact ActivitySourceHealthState.follows_foldl h _
    · next hquiet =>
        have hempty : answered = [] := by
          by_contra hthere
          refine hsome ⟨hthere, fun entry hmem => ?_⟩
          by_contra hanswered
          exact hquiet ((hanswers answered).mpr ⟨entry, hmem, hanswered⟩)
        subst hempty
        exact ActivitySourceHealthState.follows_foldl h _

theorem run_follows (ticks : List SourceTick) {s : SourceState N} {history : List (String × Bool)}
    (h : s.savedHealth.Follows history) :
    (run (SourceState.next client) s ticks).savedHealth.Follows
      (history ++ keptOutcomes client ticks s.network) := by
  induction ticks generalizing s history with
  | nil =>
      rw [keptOutcomes, List.append_nil]
      exact h
  | cons tick ticks ih =>
      have hrest := ih (next_follows client tick h)
      rw [next_network, List.append_assoc] at hrest
      exact hrest

/-- Over any ticks, with any settings and any answers of the network, the saved health of a source
is its run of failures in the ticks in which some source answered, as the others leave no trace.
Each tick reports every sample there is, judged against the others, and fails only when no source
answered; each source is asked until it answers, and at most once more than it has retries. -/
theorem source_health_follows (ticks : List SourceTick) (network : N) :
    let s := run (SourceState.next client) ⟨network, .empty⟩ ticks
    (∀ key, s.savedHealth.consecutiveFailures[key]? =
        (if streak key (keptOutcomes client ticks network) = 0 then none
          else some (wrap32 (streak key (keptOutcomes client ticks network)))) ∧
      (s.savedHealth.isDegraded key = true ↔
        3 ≤ streak key (keptOutcomes client ticks network))) ∧
    (∀ tick : SourceTick,
      let answered := (answers client tick.observedAtMillis tick.settings.requests s.network).2
      let report := (collectActivitySamples client tick.observedAtMillis tick.settings
        s.savedHealth s.network).2.2
      (AllFailed answered ∧ ∃ err, report = .error err) ∨
        (¬ AllFailed answered ∧ ∃ collected, report = .ok collected ∧
          collected.samples =
            (crossValidateSamples (answered.filterMap (·.2.toOption))).samples ∧
          collected.failedSources.length = (outcomes answered).countP (!·.2))) ∧
    ∀ (observedAtMillis retries : ℕ) (source : ActivitySourceConfig),
      ∃ attempt ≤ retries,
        collectSourceWithRetry client observedAtMillis source retries s.network =
          collectConfiguredActivitySource client observedAtMillis source
            (askedTimes client observedAtMillis source attempt s.network) ∧
        (∀ earlier < attempt, (collectConfiguredActivitySource client observedAtMillis source
          (askedTimes client observedAtMillis source earlier s.network)).2.toOption = none) ∧
        (attempt < retries → (collectConfiguredActivitySource client observedAtMillis source
          (askedTimes client observedAtMillis source attempt s.network)).2.toOption ≠ none) := by
  intro s
  have hfollows : s.savedHealth.Follows ([] ++ keptOutcomes client ticks network) :=
    run_follows client ticks ActivitySourceHealthState.follows_empty
  refine ⟨fun key => ⟨(hfollows key).1, ?_⟩, fun tick => ?_,
    fun observedAtMillis retries source => ?_⟩
  · unfold ActivitySourceHealthState.isDegraded
    rw [decide_eq_true_eq]
    exact (hfollows key).2
  · exact collectActivitySamples_report client tick.observedAtMillis tick.settings s.savedHealth
      s.network
  · exact collectSourceWithRetry_attempt client observedAtMillis source retries s.network

end Runs

end PoleProtocol.Node
