import LikedYou.Cache.Basic

/-!
# Health reports

A service is healthy when its store and its cache are. A cache only makes answers faster, so a
service whose cache fails is merely degraded; without its store it is unhealthy.
-/

namespace LikedYou.Api

/-- How a service, or a part of it, is. -/
inductive HealthStatus where
  | healthy
  | unhealthy
  | degraded
  deriving DecidableEq, Repr

namespace HealthStatus

/-- The statuses as they are written in documents. -/
def names : List String := ["healthy", "unhealthy", "degraded"]

/-- The place of a status in `names`. -/
def index : HealthStatus → Fin 3
  | healthy => 0
  | unhealthy => 1
  | degraded => 2

/-- The status at a place in `names`. -/
def ofIndex : Fin 3 → HealthStatus
  | 0 => healthy
  | 1 => unhealthy
  | 2 => degraded

theorem ofIndex_index (status : HealthStatus) : ofIndex status.index = status := by
  cases status <;> rfl

theorem index_ofIndex : ∀ i : Fin 3, (ofIndex i).index = i := by decide

end HealthStatus

instance : Json.Document HealthStatus where
  shape := .choice HealthStatus.names
  toData := HealthStatus.index
  ofData := HealthStatus.ofIndex
  ofData_toData := HealthStatus.ofIndex_index
  toData_ofData := HealthStatus.index_ofIndex

/-! ## Reports -/

/-- How a cache was used, with the share of reads that found something. -/
structure CacheStatsView where
  hits : UInt64
  misses : UInt64
  entryCount : UInt64
  evictions : UInt64
  hitRate : Float

/-- How a part of the service is. -/
structure ComponentHealth where
  status : HealthStatus
  latencyMs : Option UInt64
  error : Option String

/-- How the parts of the service are. -/
structure HealthDetails where
  store : ComponentHealth
  cache : ComponentHealth
  cacheStats : Option CacheStatsView
  version : String
  uptimeSeconds : UInt64

/-- How the service is. -/
structure HealthReport where
  status : HealthStatus
  message : Option String
  details : Option HealthDetails

instance : Json.Document CacheStatsView where
  shape := .record "CacheStatsView" <|
    .cons (.required "hits") .uint64 <|
    .cons (.required "misses") .uint64 <|
    .cons (.required "entry_count") .uint64 <|
    .cons (.required "evictions") .uint64 <|
    .cons (.required "hit_rate") .float .nil
  toData v := (v.hits, v.misses, v.entryCount, v.evictions, v.hitRate, ())
  ofData := fun (hits, misses, entryCount, evictions, hitRate, ()) =>
    ⟨hits, misses, entryCount, evictions, hitRate⟩

instance : Json.Document ComponentHealth where
  shape := .record "ComponentHealth" <|
    .cons (.required "status") (.choice HealthStatus.names) <|
    .cons (.ifAnyInObject "latency_ms") (.option .uint64) <|
    .cons (.ifAnyInObject "error") (.option .text) .nil
  toData c := (c.status.index, c.latencyMs, c.error, ())
  ofData := fun (status, latencyMs, error, ()) => ⟨HealthStatus.ofIndex status, latencyMs, error⟩
  ofData_toData c :=
    congrArg (ComponentHealth.mk · c.latencyMs c.error) (HealthStatus.ofIndex_index c.status)
  toData_ofData := fun (status, latencyMs, error, ()) =>
    congrArg (·, latencyMs, error, ()) (HealthStatus.index_ofIndex status)

instance : Json.Document HealthDetails where
  shape := .record "HealthDetails" <|
    .cons (.required "store") (Json.Document.shape ComponentHealth) <|
    .cons (.required "cache") (Json.Document.shape ComponentHealth) <|
    .cons (.ifAnyInObject "cache_stats") (.option (Json.Document.shape CacheStatsView)) <|
    .cons (.required "version") .text <|
    .cons (.required "uptime_seconds") .uint64 .nil
  toData d := (Json.Document.toData d.store, Json.Document.toData d.cache,
    d.cacheStats.map Json.Document.toData, d.version, d.uptimeSeconds, ())
  ofData := fun (store, cache, cacheStats, version, uptimeSeconds, ()) =>
    ⟨Json.Document.ofData store, Json.Document.ofData cache,
      cacheStats.map Json.Document.ofData, version, uptimeSeconds⟩
  ofData_toData d := by
    simp only [Json.Document.ofData_toData, Json.optionMap_ofData_toData]
  toData_ofData := fun (store, cache, cacheStats, version, uptimeSeconds, ()) => by
    simp only [Json.Document.toData_ofData]
    exact congrArg (store, cache, ·, version, uptimeSeconds, ())
      (Json.optionMap_toData_ofData (α := CacheStatsView) cacheStats)

instance : Json.Document HealthReport where
  shape := .record "HealthResponse" <|
    .cons (.required "status") (.choice HealthStatus.names) <|
    .cons (.ifAnyInObject "message") (.option .text) <|
    .cons (.ifAnyInObject "details") (.option (Json.Document.shape HealthDetails)) .nil
  toData r := (r.status.index, r.message, r.details.map Json.Document.toData, ())
  ofData := fun (status, message, details, ()) =>
    ⟨HealthStatus.ofIndex status, message, details.map Json.Document.ofData⟩
  ofData_toData r := by
    simp only [HealthStatus.ofIndex_index, Json.optionMap_ofData_toData]
  toData_ofData := fun (status, message, details, ()) =>
    (congrArg (·, message, _, ()) (HealthStatus.index_ofIndex status)).trans
      (congrArg (status, message, ·, ())
        (Json.optionMap_toData_ofData (α := HealthDetails) details))

/-! ## What is reported -/

/-- The statistics as they are reported. -/
def CacheStatsView.ofStats (s : CacheStats) : CacheStatsView :=
  ⟨s.hits, s.misses, s.entryCount, s.evictions, s.hitRate⟩

/-- That the process runs. -/
def HealthReport.alive : HealthReport := ⟨.healthy, some "Process is alive", none⟩

/-- A store that was asked whether it can be reached. -/
def ComponentHealth.ofStore : Except StorageFault Unit → ComponentHealth
  | .ok () => ⟨.healthy, some 0, none⟩
  | .error f => ⟨.unhealthy, none, some s!"Store check failed: {f.message}"⟩

/-- A cache that was asked for its statistics. -/
def ComponentHealth.ofCache : Except StorageFault CacheStats → ComponentHealth
  | .ok _ => ⟨.healthy, none, none⟩
  | .error f => ⟨.degraded, none, some s!"Cache check failed: {f.message}"⟩

/-- A service is as well as its store allows; a cache that is not well degrades it. -/
def HealthStatus.overall : HealthStatus → HealthStatus → HealthStatus
  | .healthy, .healthy => .healthy
  | .healthy, _ => .degraded
  | _, _ => .unhealthy

/-- The version of the service. -/
def version : String := "0.1.0"

/-- Whether the service can answer requests. -/
def HealthReport.readiness (store : Except StorageFault Unit) (stats : Except StorageFault CacheStats)
    (uptime : Time.Duration) : HealthReport :=
  let storeHealth := ComponentHealth.ofStore store
  let cacheHealth := ComponentHealth.ofCache stats
  { status := storeHealth.status.overall cacheHealth.status
    message := none
    details := some {
      store := storeHealth
      cache := cacheHealth
      cacheStats := stats.toOption.map .ofStats
      version := version
      uptimeSeconds := UInt64.ofNat (uptime / 1000000000) } }

/-- The HTTP status with which a report is sent. -/
def HealthReport.httpStatus (r : HealthReport) : Nat :=
  if r.status = .unhealthy then 503 else 200

end LikedYou.Api
