import LikedYou.Fault
import LikedYou.Json.Document
import LikedYou.Time.Clock

/-!
# Caches

A cache keeps texts under keys, each for a length of time after which it reads as missing. A fault
of a cache never stops a request, so every operation may fail.

Operations take the cache and give it back, changed or not, also when they fail.
-/

namespace LikedYou

/-! ## Statistics -/

/-- How a cache was used so far. -/
structure CacheStats where
  hits : UInt64
  misses : UInt64
  /-- How many entries are stored, those included whose time is over. -/
  entryCount : UInt64
  /-- How many entries were removed because their time was over. -/
  evictions : UInt64
  deriving DecidableEq, Repr

namespace CacheStats

/-- The share of reads that found something. -/
def hitRate (s : CacheStats) : Float :=
  let total := s.hits + s.misses
  if total = 0 then 0.0 else s.hits.toFloat / total.toFloat

end CacheStats

instance : Json.Document CacheStats where
  shape := .record "CacheStats" <|
    .cons (.required "hits") .uint64 <|
    .cons (.required "misses") .uint64 <|
    .cons (.required "entry_count") .uint64 <|
    .cons (.required "evictions") .uint64 .nil
  toData s := (s.hits, s.misses, s.entryCount, s.evictions, ())
  ofData := fun (hits, misses, entryCount, evictions, ()) => ⟨hits, misses, entryCount, evictions⟩

/-! ## Operations -/

/-- A cache whose state is of type `κ`. -/
class Cache (κ : Type) where
  /-- The text under a key, unless its time is over. -/
  get (key : String) (clock : Time.Clock) (cache : κ) : Except OperationFault (Option String) × κ
  /-- Keep a text under a key for a length of time, in place of any other text. -/
  set (key value : String) (ttl : Time.Duration) (clock : Time.Clock) (cache : κ) :
    Except OperationFault Unit × κ
  /-- Remove keys, and tell how many of them were stored. -/
  delete (keys : List String) (cache : κ) : Except StorageFault Nat × κ
  stats (cache : κ) : Except StorageFault CacheStats

namespace Cache

/-- The value that the text under a key tells. -/
def getJson (α : Type) [Json.Document α] {κ : Type} [Cache κ] (key : String) (clock : Time.Clock)
    (cache : κ) : Except OperationFault (Option α) × κ :=
  match get key clock cache with
  | (.error f, cache) => (.error f, cache)
  | (.ok none, cache) => (.ok none, cache)
  | (.ok (some text), cache) =>
    match Json.decodeString text with
    | .ok a => (.ok (some a), cache)
    | .error e =>
      let fault : StorageFault := .serialization s!"cached value for {key} is not valid: {e}"
      (.error (.storage fault), cache)

/-- Keep the document of a value. -/
def setJson {α : Type} [Json.Document α] {κ : Type} [Cache κ] (key : String) (a : α)
    (ttl : Time.Duration) (clock : Time.Clock) (cache : κ) : Except OperationFault Unit × κ :=
  set key (Json.encodeString a) ttl clock cache

end Cache

end LikedYou
