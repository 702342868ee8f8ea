import Manbaa.Core.Http
import Manbaa.Lib.Json
import Manbaa.Lib.Sessions
import Manbaa.Lib.Table

/-!
# The cache of the health checks

A call answers from the cache while its entry is fresh.  Otherwise it runs all checks, which take
time while other calls and pings go on, and caches what they find.  What follows the checks runs in
one turn of the event loop, at one time.  Times are milliseconds; what the checks find is given.
-/

namespace Manbaa.Health

open Manbaa.Lib

/-! ## What the checks find -/

/-- The status of a service. -/
inductive Status where
  | ok
  | degraded
  | down
  deriving DecidableEq

/-- `WORKER_TYPES`. -/
inductive WorkerType where
  | aiOrchestrator
  | documentWorker
  | researchWorker
  | mediaWorker
  | exportWorker
  deriving DecidableEq

/-- The text of a type. -/
def WorkerType.text : WorkerType → String
  | .aiOrchestrator => "ai-orchestrator"
  | .documentWorker => "document-worker"
  | .researchWorker => "research-worker"
  | .mediaWorker => "media-worker"
  | .exportWorker => "export-worker"

/-- The types in the order of the source. -/
def workerTypes : List WorkerType :=
  [.aiOrchestrator, .documentWorker, .researchWorker, .mediaWorker, .exportWorker]

/-- What an indicator returns. -/
structure Probe where
  status : String
  latencyMs : Nat
  error : Option String
  version : Option String
  jetstream : Option Bool
  deriving DecidableEq

/-- What `getWorkerHealth` returns: the last heartbeat stored under the key of a type, which names
the type of its sender. -/
structure WorkerHealth where
  workerType : WorkerType
  status : String
  heartbeat : List (String × Json)
  deriving DecidableEq

/-- What all checks of a call find. -/
structure Outcome where
  postgres : Probe
  pgvector : Probe
  nats : Probe
  minio : Probe
  fastapi : Probe
  elsa : Probe
  redis : Probe
  worker : WorkerType → WorkerHealth

/-- The configuration of the workers. -/
structure HealthConfig where
  aiEnabled : Bool
  workerEnabled : WorkerType → Bool

/-- `HealthStatus`. -/
structure HealthStatus where
  status : Status
  latencyMs : Option Nat
  error : Option String
  version : Option String
  jetstream : Option Bool
  enabled : Option Bool
  heartbeat : List (String × Json)
  deriving DecidableEq

/-- The services of an answer under their names. -/
abbrev Services := List (String × HealthStatus)

/-- `mapStatus`. -/
def mapStatus (status : String) : Status :=
  if status = "down" then .down
  else if status = "degraded" then .degraded
  else .ok

/-- The entry of an indicator. -/
def Probe.entry (name : String) (probe : Probe) : String × HealthStatus :=
  (name, ⟨mapStatus probe.status, some probe.latencyMs, probe.error, probe.version,
    probe.jetstream, none, []⟩)

/-- `listWorkerHealth`. -/
def Outcome.workers (outcome : Outcome) : List WorkerHealth :=
  workerTypes.map outcome.worker

/-- The name of a worker among the services. -/
def WorkerType.service (type : WorkerType) : String := "worker:" ++ type.text

/-- The status of an enabled worker. -/
def workerStatus (status : String) : Status :=
  if status = "healthy" then .ok
  else if status = "degraded" ∨ status = "stale" then .degraded
  else .down

/-- The entry of a worker, as in `mapWorkerHealth`. -/
def WorkerHealth.entry (config : HealthConfig) (worker : WorkerHealth) : String × HealthStatus :=
  if config.aiEnabled && config.workerEnabled worker.workerType then
    (worker.workerType.service,
      ⟨workerStatus worker.status, none, none, none, none, some true, worker.heartbeat⟩)
  else
    (worker.workerType.service, ⟨.ok, none, none, none, none, some false, worker.heartbeat⟩)

/-- All entries, before those of one name are put together. -/
def Outcome.entries (config : HealthConfig) (outcome : Outcome) : Services :=
  [outcome.postgres.entry "postgres", outcome.pgvector.entry "pgvector",
    outcome.nats.entry "nats", outcome.minio.entry "minio", outcome.fastapi.entry "fastapi",
    outcome.elsa.entry "elsa", outcome.redis.entry "redis"] ++
    outcome.workers.map (WorkerHealth.entry config)

/-- What `runAllHealthChecks` returns; of two entries of one name the last one counts. -/
def runAllHealthChecks (config : HealthConfig) (outcome : Outcome) : Services :=
  (outcome.entries config).foldl (Table.save Prod.fst) []

/-- `calculateAggregateStatus`. -/
def calculateAggregateStatus (services : Services) : Status :=
  if services.any fun entry => entry.2.status == .down then .down
  else if services.any fun entry => entry.2.status == .degraded then .degraded
  else .ok

/-! ## The service -/

/-- `CACHE_TTL_MS`. -/
def CACHE_TTL_MS : Nat := 30000

/-- `CachedHealthResult`. -/
structure CachedHealthResult where
  result : Services
  timestamp : Nat
  pingTimestamp : Option Nat
  deriving DecidableEq

/-- What `checkHealth` returns. -/
structure HealthReport where
  status : Status
  services : Services
  timestamp : Nat
  deriving DecidableEq

/-- An alert to the administrators. -/
structure HealthAlert where
  service : String
  status : Status
  previousStatus : Option Status
  timestamp : Nat
  details : HealthStatus
  deriving DecidableEq

/-- An answer, the time it was given at, and the time of the last ping if the call asked for
details. -/
structure Answer where
  time : Nat
  health : HealthReport
  pingTimestamp : Option (Option Nat)
  deriving DecidableEq

/-- The clock, the cache, and what has happened so far: the checks that completed, with their time
and result, the alerts and the answers. -/
structure HealthStore where
  now : Nat
  cache : Option CachedHealthResult
  completed : List (Nat × Services)
  emitted : List HealthAlert
  answers : List Answer
  deriving DecidableEq

/-- The entry of the cache while it is fresh. -/
def HealthStore.fresh? (store : HealthStore) : Option CachedHealthResult :=
  store.cache.filter fun entry => store.now - entry.timestamp < CACHE_TTL_MS

/-- Answer with services and their time. -/
def HealthStore.answer (store : HealthStore) (details : Bool) (services : Services)
    (timestamp : Nat) : HealthStore :=
  { store with
    answers := store.answers ++
      [⟨store.now, ⟨calculateAggregateStatus services, services, timestamp⟩,
        if details then some (store.cache.bind CachedHealthResult.pingTimestamp) else none⟩] }

/-- `checkAndEmitAlerts`. -/
def HealthStore.alerts (store : HealthStore) (result : Services) : List HealthAlert :=
  match store.cache with
  | none => []
  | some entry => result.filterMap fun (name, status) =>
      let previous := (Table.get? Prod.fst entry.result name).map fun old => old.2.status
      if previous ≠ some status.status ∧ status.status ≠ .ok then
        some ⟨name, status.status, previous, store.now, status⟩
      else none

/-- The checks of a call complete: alerts are sent and the result is cached. -/
def HealthStore.complete (store : HealthStore) (result : Services) : HealthStore :=
  { store with
    completed := store.completed ++ [(store.now, result)]
    emitted := store.emitted ++ store.alerts result
    cache := some ⟨result, store.now, store.cache.bind CachedHealthResult.pingTimestamp⟩ }

/-- The entry after a ping. -/
def HealthStore.pinged (store : HealthStore) : CachedHealthResult :=
  match store.cache with
  | none => ⟨[], store.now, some store.now⟩
  | some entry => { entry with pingTimestamp := some store.now }

/-- Time passes, a ping arrives or a client calls. -/
inductive HealthRequest where
  | wait (elapsed : Nat)
  | ping
  | checkHealth
  | checkHealthDetails
  deriving DecidableEq

/-- A call, before and after it has looked at the cache. -/
inductive HealthStage where
  | called (details : Bool)
  | checking (details : Bool)
  | answered
  deriving DecidableEq

/-- A call goes on.  If the checks throw, it throws too. -/
def HealthStage.advance (config : HealthConfig) (store : HealthStore)
    (stage : HealthStage) (found : Except Exception Outcome) :
    Option (HealthStore × HealthStage) :=
  match stage with
  | .called details =>
      match store.fresh? with
      | some entry => some (store.answer details entry.result entry.timestamp, .answered)
      | none => some (store, .checking details)
  | .checking details =>
      match found with
      | .ok outcome =>
          let result := runAllHealthChecks config outcome
          some ((store.complete result).answer details result store.now, .answered)
      | .error _ => some (store, .answered)
  | .answered => none

/-- What a request does at once. -/
def HealthRequest.start (store : HealthStore) : HealthRequest → HealthStore × Option HealthStage
  | .wait elapsed => ({ store with now := store.now + elapsed }, none)
  | .ping => ({ store with cache := some store.pinged }, none)
  | .checkHealth => (store, some (.called false))
  | .checkHealthDetails => (store, some (.called true))

/-- Calls beside each other and pings. -/
def healthSystem (config : HealthConfig) :
    Sessions HealthStore HealthStage HealthRequest (Except Exception Outcome) where
  start := HealthRequest.start
  advance store _ stage found := stage.advance config store found

/-! ## What is promised -/

/-- The names of all dependencies. -/
def dependencies : List String :=
  ["postgres", "pgvector", "nats", "minio", "fastapi", "elsa", "redis"] ++
    workerTypes.map WorkerType.service

/-- The services list every dependency. -/
def Lists (services : Services) : Prop :=
  ∀ name ∈ dependencies, name ∈ services.map Prod.fst

/-- Every dependency is well. -/
def AllOk (services : Services) : Prop :=
  ∀ name ∈ dependencies, ∃ entry ∈ services, entry.1 = name ∧ entry.2.status = .ok

/-- If an answer is ok, all checks have completed within the lifetime of the cache before it, with
every dependency ok, and the answer lists every dependency. -/
def Truthful (store : HealthStore) : Prop :=
  ∀ answer ∈ store.answers, answer.health.status = .ok →
    (∃ check ∈ store.completed, check.1 ≤ answer.time ∧ answer.time < check.1 + CACHE_TTL_MS ∧
      AllOk check.2) ∧ Lists answer.health.services

/-- What the answers report. -/
def HealthStore.reports (store : HealthStore) : List (Nat × HealthReport) :=
  store.answers.map fun answer => (answer.time, answer.health)

/-- An action is a ping. -/
def isPing : Sessions.Action HealthRequest (Except Exception Outcome) → Bool
  | .start .ping => true
  | _ => false

/-- The same actions without the pings. -/
def withoutPings (actions : List (Sessions.Action HealthRequest (Except Exception Outcome))) :
    List (Sessions.Action HealthRequest (Except Exception Outcome)) :=
  actions.filter fun action => !isPing action

/-- No call finds a fresh entry that a ping has made, and each worker is found under its own type
if all that is found is ok. -/
def Unmasked (config : HealthConfig) (store : HealthStore) (_ : List HealthStage)
    (stage : HealthStage) (found : Except Exception Outcome) : Prop :=
  match stage, found with
  | .called _, _ => ∀ entry ∈ store.fresh?, entry.result ≠ []
  | .checking _, .ok outcome =>
      calculateAggregateStatus (runAllHealthChecks config outcome) = .ok →
        ∀ type ∈ workerTypes, ∃ worker ∈ outcome.workers, worker.workerType = type
  | _, _ => True

instance (config : HealthConfig) (store : HealthStore) (others : List HealthStage)
    (stage : HealthStage) (found : Except Exception Outcome) :
    Decidable (Unmasked config store others stage found) :=
  match stage, found with
  | .called _, _ => inferInstanceAs (Decidable (∀ entry ∈ store.fresh?, entry.result ≠ []))
  | .checking _, .ok outcome => inferInstanceAs (Decidable (_ = _ → ∀ type ∈ workerTypes,
      ∃ worker ∈ outcome.workers, worker.workerType = type))
  | .checking _, .error _ => .isTrue trivial
  | .answered, _ => .isTrue trivial

variable {config : HealthConfig} {outcome : Outcome} {store : HealthStore} {services : Services}

/-! ## The checks -/

theorem calculateAggregateStatus_eq_ok_iff :
    calculateAggregateStatus services = .ok ↔ ∀ entry ∈ services, entry.2.status = .ok := by
  rw [calculateAggregateStatus]
  split
  · rename_i down
    obtain ⟨entry, entryMem, isDown⟩ := List.any_eq_true.mp down
    refine iff_of_false (by simp) ?_
    intro every
    rw [every entry entryMem] at isDown
    cases isDown
  · rename_i notDown
    split
    · rename_i degraded
      obtain ⟨entry, entryMem, isDegraded⟩ := List.any_eq_true.mp degraded
      refine iff_of_false (by simp) ?_
      intro every
      rw [every entry entryMem] at isDegraded
      cases isDegraded
    · rename_i notDegraded
      refine iff_of_true rfl ?_
      intro entry entryMem
      cases statusEq : entry.2.status with
      | ok => rfl
      | down => exact absurd (List.any_eq_true.mpr ⟨entry, entryMem, by simp [statusEq]⟩) notDown
      | degraded =>
          exact absurd (List.any_eq_true.mpr ⟨entry, entryMem, by simp [statusEq]⟩) notDegraded

theorem mem_names_save {entry : String × HealthStatus} {name : String} :
    name ∈ (Table.save Prod.fst services entry).map Prod.fst ↔
      name = entry.1 ∨ name ∈ services.map Prod.fst := by
  constructor
  · intro nameMem
    obtain ⟨other, otherMem, rfl⟩ := List.mem_map.mp nameMem
    rcases Table.mem_save_iff.mp otherMem with rfl | ⟨old, _⟩
    · exact Or.inl rfl
    · exact Or.inr (List.mem_map_of_mem old)
  · intro known
    by_cases own : name = entry.1
    · rw [own]
      exact List.mem_map_of_mem (Table.mem_save_iff.mpr (Or.inl rfl))
    · obtain ⟨other, otherMem, rfl⟩ := List.mem_map.mp (known.resolve_left own)
      exact List.mem_map_of_mem (Table.mem_save_iff.mpr (Or.inr ⟨otherMem, own⟩))

/-- Saving entries one after the other keeps their names. -/
theorem mem_names_foldl_save {entries : Services} {name : String} :
    name ∈ (entries.foldl (Table.save Prod.fst) services).map Prod.fst ↔
      name ∈ entries.map Prod.fst ∨ name ∈ services.map Prod.fst := by
  induction entries generalizing services with
  | nil => simp
  | cons entry rest ih =>
      rw [List.foldl_cons, ih, mem_names_save, List.map_cons, List.mem_cons, or_left_comm,
        or_assoc]

theorem entry_fst {worker : WorkerHealth} :
    (worker.entry config).1 = worker.workerType.service := by
  rw [WorkerHealth.entry]
  split <;> rfl

theorem service_injective {first second : WorkerType} (same : first.service = second.service) :
    first = second := by
  cases first <;> cases second <;> first | rfl | exact absurd same (by decide)

/-- The checks list every dependency exactly if each worker is found under its own type. -/
theorem lists_iff :
    Lists (runAllHealthChecks config outcome) ↔
      ∀ type ∈ workerTypes, ∃ worker ∈ outcome.workers, worker.workerType = type := by
  have names : ∀ name, name ∈ (runAllHealthChecks config outcome).map Prod.fst ↔
      name ∈ ["postgres", "pgvector", "nats", "minio", "fastapi", "elsa", "redis"] ∨
        ∃ worker ∈ outcome.workers, worker.workerType.service = name := by
    intro name
    rw [runAllHealthChecks, mem_names_foldl_save, List.map_nil, or_iff_left List.not_mem_nil,
      Outcome.entries, List.map_append, List.mem_append]
    apply or_congr Iff.rfl
    simp only [List.mem_map, exists_exists_and_eq_and, entry_fst]
  constructor
  · intro lists type typeMem
    have listed := lists type.service
      (List.mem_append_right _ (List.mem_map_of_mem typeMem))
    rcases (names type.service).mp listed with indicator | ⟨worker, workerMem, same⟩
    · exact absurd indicator (by cases type <;> decide)
    · exact ⟨worker, workerMem, service_injective same⟩
  · intro each name nameMem
    apply (names name).mpr
    rcases List.mem_append.mp nameMem with indicator | isWorker
    · exact Or.inl indicator
    · obtain ⟨type, typeMem, rfl⟩ := List.mem_map.mp isWorker
      obtain ⟨worker, workerMem, typeEq⟩ := each type typeMem
      exact Or.inr ⟨worker, workerMem, by rw [typeEq]⟩

theorem allOk_of_lists (lists : Lists services)
    (aggregate : calculateAggregateStatus services = .ok) : AllOk services := by
  intro name nameMem
  obtain ⟨entry, entryMem, nameEq⟩ := List.mem_map.mp (lists name nameMem)
  exact ⟨entry, entryMem, nameEq, calculateAggregateStatus_eq_ok_iff.mp aggregate entry entryMem⟩

theorem runAllHealthChecks_ne_nil : runAllHealthChecks config outcome ≠ [] := by
  intro empty
  have first : "postgres" ∈ (runAllHealthChecks config outcome).map Prod.fst := by
    rw [runAllHealthChecks, mem_names_foldl_save]
    exact Or.inl List.mem_cons_self
  rw [empty] at first
  cases first

/-! ## What the cache holds -/

/-- An entry of the cache is not of the future, and what it holds, if it holds anything, has been
found by checks that completed at its time. -/
structure Cached (store : HealthStore) (entry : CachedHealthResult) : Prop where
  past : entry.timestamp ≤ store.now
  checked : entry.result ≠ [] → (entry.timestamp, entry.result) ∈ store.completed
  lists : entry.result ≠ [] → calculateAggregateStatus entry.result = .ok → Lists entry.result

/-- What the service keeps. -/
structure Sound (store : HealthStore) : Prop where
  cached : ∀ entry ∈ store.cache, Cached store entry
  truthful : Truthful store

theorem lists_ne_nil (lists : Lists services) : services ≠ [] := by
  rintro rfl
  exact absurd (lists "postgres" (by decide)) List.not_mem_nil

theorem truthful_answer (truthful : Truthful store) {details : Bool} {timestamp : Nat}
    (backed : calculateAggregateStatus services = .ok →
      (∃ check ∈ store.completed, check.1 ≤ store.now ∧ store.now < check.1 + CACHE_TTL_MS ∧
        AllOk check.2) ∧ Lists services) :
    Truthful (store.answer details services timestamp) := by
  intro answer answerMem isOk
  rcases List.mem_append.mp answerMem with old | new
  · exact truthful answer old isOk
  · rw [List.mem_singleton.mp new] at isOk ⊢
    exact backed isOk

theorem lists_of_truthful_answer {details : Bool} {timestamp : Nat}
    (truthful : Truthful (store.answer details services timestamp))
    (aggregate : calculateAggregateStatus services = .ok) : Lists services :=
  (truthful _ (List.mem_append_right _ List.mem_cons_self) aggregate).2

theorem truthful_complete (truthful : Truthful store) : Truthful (store.complete services) := by
  intro answer answerMem isOk
  obtain ⟨⟨check, checkMem, inTime⟩, lists⟩ := truthful answer answerMem isOk
  exact ⟨⟨check, List.mem_append_left _ checkMem, inTime⟩, lists⟩

theorem fresh?_eq_some_iff {entry : CachedHealthResult} :
    store.fresh? = some entry ↔
      store.cache = some entry ∧ store.now - entry.timestamp < CACHE_TTL_MS := by
  rw [HealthStore.fresh?, Option.filter_eq_some_iff, decide_eq_true_iff]

theorem sound_ping (sound : Sound store) : Sound { store with cache := some store.pinged } where
  cached := by
    intro entry entryMem
    cases entryMem
    rw [HealthStore.pinged]
    cases cacheEq : store.cache with
    | none => exact ⟨le_rfl, fun filled => absurd rfl filled, fun filled => absurd rfl filled⟩
    | some old =>
        have cached := sound.cached old cacheEq
        exact ⟨cached.past, cached.checked, cached.lists⟩
  truthful := sound.truthful

theorem sound_wait (sound : Sound store) (elapsed : Nat) :
    Sound { store with now := store.now + elapsed } where
  cached := by
    intro entry entryMem
    have cached := sound.cached entry entryMem
    exact ⟨Nat.le_add_right_of_le cached.past, cached.checked, cached.lists⟩
  truthful := sound.truthful

/-- An answer from an entry that no ping has made. -/
theorem sound_cached_answer (sound : Sound store) {entry : CachedHealthResult} {details : Bool}
    (freshEq : store.fresh? = some entry) (filled : entry.result ≠ []) :
    Sound (store.answer details entry.result entry.timestamp) := by
  obtain ⟨cacheEq, inTime⟩ := fresh?_eq_some_iff.mp freshEq
  have cached := sound.cached entry cacheEq
  constructor
  · intro other otherMem
    have otherCached := sound.cached other otherMem
    exact ⟨otherCached.past, otherCached.checked, otherCached.lists⟩
  · apply truthful_answer sound.truthful
    intro aggregate
    have lists := cached.lists filled aggregate
    refine ⟨⟨_, cached.checked filled, cached.past, ?_, allOk_of_lists lists aggregate⟩, lists⟩
    have past := cached.past
    change store.now < entry.timestamp + CACHE_TTL_MS
    omega

/-- An answer after the checks. -/
theorem sound_checked_answer (sound : Sound store) {details : Bool}
    (lists : calculateAggregateStatus services = .ok → Lists services) :
    Sound ((store.complete services).answer details services store.now) := by
  constructor
  · intro entry entryMem
    cases entryMem
    exact ⟨le_rfl, fun _ => List.mem_append_right _ List.mem_cons_self, fun _ => lists⟩
  · apply truthful_answer (truthful_complete sound.truthful)
    intro aggregate
    refine ⟨⟨(store.now, services), List.mem_append_right _ List.mem_cons_self, le_rfl, ?_,
      allOk_of_lists (lists aggregate) aggregate⟩, lists aggregate⟩
    exact Nat.lt_add_of_pos_right (by decide)

theorem keeps_sound :
    (healthSystem config).Keeps (fun _ => True) (Unmasked config) Sound (fun _ _ => True)
      fun _ _ => True where
  started := by
    intro store request sound _
    refine ⟨?_, fun _ _ => trivial, fun _ _ => ⟨trivial, fun _ => ⟨trivial, trivial⟩⟩⟩
    cases request with
    | wait elapsed => exact sound_wait sound elapsed
    | ping => exact sound_ping sound
    | checkHealth => exact sound
    | checkHealthDetails => exact sound
  advanced := by
    intro store others stage found store' stage' leaves unmasked advanceEq
    refine ⟨?_, trivial, fun _ _ => trivial, fun _ _ => ⟨trivial, trivial⟩⟩
    have advanceEq : stage.advance config store found = some (store', stage') := advanceEq
    cases stage with
    | called details =>
        rw [HealthStage.advance] at advanceEq
        cases freshEq : store.fresh? with
        | none =>
            rw [freshEq] at advanceEq
            cases advanceEq
            exact leaves.holds
        | some entry =>
            rw [freshEq] at advanceEq
            cases advanceEq
            exact sound_cached_answer leaves.holds freshEq (unmasked entry freshEq)
    | checking details =>
        cases found with
        | error exception =>
            cases advanceEq
            exact leaves.holds
        | ok outcome =>
            cases advanceEq
            exact sound_checked_answer leaves.holds fun aggregate =>
              lists_iff.mpr (unmasked aggregate)
    | answered => cases advanceEq

/-- A step that masks a dependency gives an answer that is not truthful. -/
theorem not_truthful_of_masked {others : List HealthStage} {stage stage' : HealthStage}
    {found : Except Exception Outcome} {store' : HealthStore}
    (masked : ¬ Unmasked config store others stage found)
    (advanceEq : stage.advance config store found = some (store', stage')) :
    ¬ Truthful store' := by
  intro truthful
  apply masked
  cases stage with
  | called details =>
      rintro entry freshEq empty
      rw [HealthStage.advance, Option.mem_def.mp freshEq] at advanceEq
      cases advanceEq
      have aggregate : calculateAggregateStatus entry.result = .ok := by
        rw [empty]
        rfl
      exact lists_ne_nil (lists_of_truthful_answer truthful aggregate) empty
  | checking details =>
      cases found with
      | error exception => exact trivial
      | ok outcome =>
          intro aggregate
          cases advanceEq
          exact lists_iff.mp (lists_of_truthful_answer truthful aggregate)
  | answered => exact trivial

/-! ## A run and the same run without pings -/

/-- What the entry of the cache shows, unless a ping has made it. -/
def HealthStore.shown (store : HealthStore) : Option (Services × Nat) :=
  (store.cache.filter fun entry => decide (entry.result ≠ [])).map fun entry =>
    (entry.result, entry.timestamp)

/-- Pings have made no difference that an answer reports. -/
structure Alike (store quiet : HealthStore) : Prop where
  now : store.now = quiet.now
  reports : store.reports = quiet.reports
  shown : store.shown = quiet.shown
  filled : ∀ entry ∈ quiet.cache, entry.result ≠ []

/-- The calls of two such stores are at the same stage. -/
structure AlikeStates (state quiet : Sessions.State HealthStore HealthStage) : Prop where
  stores : Alike state.store quiet.store
  sessions : state.sessions = quiet.sessions

variable {quiet : HealthStore}

theorem shown_eq_some_iff {timestamp : Nat} :
    store.shown = some (services, timestamp) ↔ services ≠ [] ∧
      ∃ entry, store.cache = some entry ∧ entry.result = services ∧
        entry.timestamp = timestamp := by
  rw [HealthStore.shown, Option.map_eq_some_iff]
  constructor
  · rintro ⟨entry, entryEq, same⟩
    obtain ⟨cacheEq, filled⟩ := Option.filter_eq_some_iff.mp entryEq
    cases same
    exact ⟨of_decide_eq_true filled, entry, cacheEq, rfl, rfl⟩
  · rintro ⟨filled, entry, cacheEq, rfl, rfl⟩
    exact ⟨entry, Option.filter_eq_some_iff.mpr ⟨cacheEq, decide_eq_true filled⟩, rfl⟩

theorem shown_ping : ({ store with cache := some store.pinged } : HealthStore).shown =
    store.shown := by
  rw [HealthStore.shown, HealthStore.shown, HealthStore.pinged]
  cases store.cache with
  | none => rfl
  | some entry => by_cases filled : entry.result = [] <;> simp [Option.filter, filled]

/-- A fresh entry that no ping has made is there without the pings too. -/
theorem Alike.fresh?_of_filled (alike : Alike store quiet) {entry : CachedHealthResult}
    (freshEq : store.fresh? = some entry) (filled : entry.result ≠ []) :
    ∃ other, quiet.fresh? = some other ∧ other.result = entry.result ∧
      other.timestamp = entry.timestamp := by
  obtain ⟨cacheEq, inTime⟩ := fresh?_eq_some_iff.mp freshEq
  have shownEq := shown_eq_some_iff.mpr ⟨filled, entry, cacheEq, rfl, rfl⟩
  rw [alike.shown] at shownEq
  obtain ⟨_, other, otherEq, resultEq, timestampEq⟩ := shown_eq_some_iff.mp shownEq
  refine ⟨other, fresh?_eq_some_iff.mpr ⟨otherEq, ?_⟩, resultEq, timestampEq⟩
  rw [timestampEq, ← alike.now]
  exact inTime

theorem Alike.fresh?_of_none (alike : Alike store quiet) (freshEq : store.fresh? = none) :
    quiet.fresh? = none := by
  rw [Option.eq_none_iff_forall_ne_some]
  intro other otherEq
  obtain ⟨cacheEq, inTime⟩ := fresh?_eq_some_iff.mp otherEq
  have shownEq := shown_eq_some_iff.mpr ⟨alike.filled other cacheEq, other, cacheEq, rfl, rfl⟩
  rw [← alike.shown] at shownEq
  obtain ⟨_, entry, entryEq, _, timestampEq⟩ := shown_eq_some_iff.mp shownEq
  rw [← timestampEq, ← alike.now] at inTime
  rw [fresh?_eq_some_iff.mpr ⟨entryEq, inTime⟩] at freshEq
  cases freshEq

theorem Alike.answer (alike : Alike store quiet) (details : Bool) (services : Services)
    (timestamp : Nat) :
    Alike (store.answer details services timestamp) (quiet.answer details services timestamp) where
  now := alike.now
  reports := by
    have reports := alike.reports
    rw [HealthStore.reports, HealthStore.reports] at reports ⊢
    rw [HealthStore.answer, HealthStore.answer, List.map_append, List.map_append, reports,
      alike.now]
    rfl
  shown := alike.shown
  filled := alike.filled

theorem Alike.complete (alike : Alike store quiet) (filled : services ≠ []) :
    Alike (store.complete services) (quiet.complete services) where
  now := alike.now
  reports := alike.reports
  shown := by
    rw [HealthStore.shown, HealthStore.shown, HealthStore.complete, HealthStore.complete, alike.now]
    simp [Option.filter, filled]
  filled := by
    intro entry entryMem
    cases entryMem
    exact filled

/-- A call goes on in the same way without the pings. -/
theorem Alike.advance (alike : Alike store quiet) {others : List HealthStage}
    {stage stage' : HealthStage} {found : Except Exception Outcome} {store' : HealthStore}
    (unmasked : Unmasked config store others stage found)
    (advanceEq : stage.advance config store found = some (store', stage')) :
    ∃ quiet', stage.advance config quiet found = some (quiet', stage') ∧ Alike store' quiet' := by
  cases stage with
  | called details =>
      rw [HealthStage.advance] at advanceEq ⊢
      cases freshEq : store.fresh? with
      | none =>
          rw [freshEq] at advanceEq
          cases advanceEq
          rw [alike.fresh?_of_none freshEq]
          exact ⟨quiet, rfl, alike⟩
      | some entry =>
          rw [freshEq] at advanceEq
          cases advanceEq
          obtain ⟨other, otherEq, resultEq, timestampEq⟩ :=
            alike.fresh?_of_filled freshEq (unmasked entry freshEq)
          rw [otherEq, ← resultEq, ← timestampEq]
          exact ⟨_, rfl, alike.answer details other.result other.timestamp⟩
  | checking details =>
      cases found with
      | error exception =>
          cases advanceEq
          exact ⟨quiet, rfl, alike⟩
      | ok outcome =>
          cases advanceEq
          refine ⟨_, rfl, ?_⟩
          rw [alike.now]
          exact (alike.complete runAllHealthChecks_ne_nil).answer details _ quiet.now
  | answered => cases advanceEq

variable {state reached next quietState :
    Sessions.State HealthStore HealthStage}
  {action : Sessions.Action HealthRequest (Except Exception Outcome)}
  {actions : List (Sessions.Action HealthRequest (Except Exception Outcome))}

theorem AlikeStates.ping (alike : AlikeStates state quietState)
    (stepEq : (healthSystem config).step state (.start .ping) = some next) :
    AlikeStates next quietState := by
  cases stepEq
  constructor
  · exact ⟨alike.stores.now, alike.stores.reports, shown_ping.trans alike.stores.shown,
      alike.stores.filled⟩
  · exact (List.append_nil _).trans alike.sessions

theorem AlikeStates.step (alike : AlikeStates state quietState) (noPing : isPing action = false)
    (met : Sessions.Guard (fun _ => True) (Unmasked config) state action)
    (stepEq : (healthSystem config).step state action = some next) :
    ∃ quietNext, (healthSystem config).step quietState action = some quietNext ∧
      AlikeStates next quietNext := by
  cases action with
  | start request =>
      cases stepEq
      refine ⟨_, rfl, ?_⟩
      have appended : ∀ more : List HealthStage,
          state.sessions ++ more = quietState.sessions ++ more := fun more =>
        congrArg (· ++ more) alike.sessions
      cases request with
      | ping => cases noPing
      | wait elapsed =>
          refine ⟨⟨?_, alike.stores.reports, alike.stores.shown, alike.stores.filled⟩, ?_⟩
          · exact congrArg (· + elapsed) alike.stores.now
          · exact appended []
      | checkHealth => exact ⟨alike.stores, appended [.called false]⟩
      | checkHealthDetails => exact ⟨alike.stores, appended [.called true]⟩
  | advance index found =>
      obtain ⟨stage, stageEq, restEq⟩ := Option.bind_eq_some_iff.mp stepEq
      obtain ⟨⟨store', stage'⟩, advanceEq, nextEq⟩ := Option.map_eq_some_iff.mp restEq
      cases nextEq
      obtain ⟨quiet', quietEq, alikeNext⟩ := alike.stores.advance (met stage stageEq) advanceEq
      rw [alike.sessions] at stageEq
      refine ⟨⟨quiet', quietState.sessions.set index stage'⟩, ?_, alikeNext,
        congrArg (·.set index stage') alike.sessions⟩
      rw [Sessions.step, stageEq, Option.bind_some]
      exact congrArg _ quietEq

/-- A run in which no ping masks a dependency reports the same without its pings. -/
theorem AlikeStates.run (alike : AlikeStates state quietState)
    (met : (healthSystem config).step.Meets
      (Sessions.Guard (fun _ => True) (Unmasked config)) state actions)
    (runEq : (healthSystem config).step.run state actions = some reached) :
    ∃ quietReached, (healthSystem config).step.run quietState (withoutPings actions) =
      some quietReached ∧ AlikeStates reached quietReached := by
  induction actions generalizing state quietState with
  | nil =>
      cases runEq
      exact ⟨quietState, rfl, alike⟩
  | cons action rest ih =>
      obtain ⟨next, stepEq, restEq⟩ := Step.run_cons_eq_some_iff.mp runEq
      cases noPing : isPing action with
      | true =>
          rw [withoutPings, List.filter_cons_of_neg (by simp [noPing])]
          have isPing : action = .start .ping := by
            cases action with
            | start request => cases request <;> first | rfl | cases noPing
            | advance index found => cases noPing
          cases isPing
          exact ih (alike.ping stepEq) (met.2 next stepEq) restEq
      | false =>
          rw [withoutPings, List.filter_cons_of_pos (by simp [noPing])]
          obtain ⟨quietNext, quietStep, alikeNext⟩ := alike.step noPing met.1 stepEq
          obtain ⟨quietReached, quietRun, alikeReached⟩ :=
            ih alikeNext (met.2 next stepEq) restEq
          exact ⟨quietReached, Step.run_cons_eq_some_iff.mpr ⟨quietNext, quietStep, quietRun⟩,
            alikeReached⟩

/-! ## The cache masks nothing -/

/-- The service when it has started: nothing is cached. -/
def HealthStore.started (now : Nat) : HealthStore := ⟨now, none, [], [], []⟩

/-- In the runs of a service that has started, the answers are truthful and the pings make no
difference to what they report exactly as long as no call finds a fresh entry that a ping has
made, and each worker is found under its own type if all that is found is ok. -/
theorem health_unmasked {now : Nat}
    (runEq : (healthSystem config).step.run ⟨.started now, []⟩ actions = some reached) :
    ((healthSystem config).step.Always (fun state => Truthful state.store) ⟨.started now, []⟩
        actions ∧
      ∃ quietReached, (healthSystem config).step.run ⟨.started now, []⟩ (withoutPings actions) =
        some quietReached ∧ quietReached.store.reports = reached.store.reports) ↔
      (healthSystem config).step.Meets (Sessions.Guard (fun _ => True) (Unmasked config))
        ⟨.started now, []⟩ actions := by
  have sound : Sound (.started now) := ⟨by simp [HealthStore.started],
    by simp [HealthStore.started, Truthful]⟩
  have truthful := keeps_sound.always_iff_meets (fun _ sound => sound.truthful)
    (fun _ _ _ _ _ _ _ masked advanceEq => not_truthful_of_masked masked advanceEq)
    (Sessions.Invariant.of_no_sessions sound rfl) runEq
  constructor
  · rintro ⟨always, _⟩
    exact truthful.mp always
  · intro met
    have alike : AlikeStates ⟨.started now, []⟩ ⟨.started now, []⟩ :=
      ⟨⟨rfl, rfl, rfl, by simp [HealthStore.started]⟩, rfl⟩
    obtain ⟨quietReached, quietRun, alikeReached⟩ := alike.run met runEq
    exact ⟨truthful.mpr met, quietReached, quietRun, alikeReached.stores.reports.symm⟩

/-! ## Examples -/

/-- All workers are enabled. -/
def exampleConfig : HealthConfig := ⟨true, fun _ => true⟩

/-- All checks are passed, and the heartbeat of a worker is stored under the key of a type. -/
def exampleOutcome (worker : WorkerType → WorkerType) : Outcome :=
  let up : Probe := ⟨"up", 3, none, none, none⟩
  { postgres := up
    pgvector := up
    nats := up
    minio := up
    fastapi := up
    elsa := up
    redis := up
    worker := fun type => ⟨worker type, "healthy", []⟩ }

/-- A call checks all dependencies, and after a ping another one answers from the cache. -/
def exampleCalls : List (Sessions.Action HealthRequest (Except Exception Outcome)) :=
  [.start .checkHealth, .advance 0 (.error (.error "")), .start (.wait 200),
    .advance 0 (.ok (exampleOutcome id)), .start .ping, .start (.wait 900),
    .start .checkHealthDetails, .advance 1 (.error (.error ""))]

/-- A ping finds no entry, and a call comes after it. -/
def examplePing : List (Sessions.Action HealthRequest (Except Exception Outcome)) :=
  [.start .ping, .start .checkHealth, .advance 0 (.error (.error ""))]

/-- A call finds the heartbeat of another worker under the key of a type. -/
def exampleHeartbeat : List (Sessions.Action HealthRequest (Except Exception Outcome)) :=
  [.start .checkHealth, .advance 0 (.error (.error "")),
    .advance 0 (.ok (exampleOutcome fun _ => .mediaWorker))]

/-- The example calls get truthful answers, the same with and without the ping. -/
theorem health_unmasked_example :
    ∃ reached, (healthSystem exampleConfig).step.run ⟨.started 5, []⟩ exampleCalls =
        some reached ∧
      (healthSystem exampleConfig).step.Always (fun state => Truthful state.store)
        ⟨.started 5, []⟩ exampleCalls := by
  have met : (healthSystem exampleConfig).step.Meets
      (Sessions.Guard (fun _ => True) (Unmasked exampleConfig)) ⟨.started 5, []⟩ exampleCalls := by
    decide +kernel
  have taken : ((healthSystem exampleConfig).step.run ⟨.started 5, []⟩ exampleCalls).isSome := by
    decide +kernel
  obtain ⟨reached, runEq⟩ := Option.isSome_iff_exists.mp taken
  exact ⟨reached, runEq, ((health_unmasked runEq).mpr met).1⟩

/-- After the ping the answer is ok without a check and lists nothing; and the heartbeat of one
worker hides that four others have sent none. -/
theorem health_masked :
    ((healthSystem exampleConfig).step.run ⟨.started 5, []⟩ examplePing).map
        (fun state => (state.store.completed, state.store.answers)) =
      some ([], [⟨5, ⟨.ok, [], 5⟩, none⟩]) ∧
    ((healthSystem exampleConfig).step.run ⟨.started 5, []⟩ exampleHeartbeat).map
        (fun state => state.store.answers.map fun answer => (answer.health.status,
          decide ("worker:ai-orchestrator" ∈ answer.health.services.map Prod.fst))) =
      some [(.ok, false)] := by
  decide +kernel

end Manbaa.Health
