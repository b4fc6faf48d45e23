import LikedYou.Api.Error
import LikedYou.Cache.ReadThrough
import LikedYou.Settings.Host
import LikedYou.Text.Blank

/-!
# Settings of the service

Settings are taken from named variables. What is not set has a default, and so has what is set to
something that cannot be understood; only the address to listen on is an error then, and not before
it is needed.
-/

namespace LikedYou

/-- Variables with their values. -/
abbrev Environment := List (String × String)

namespace Environment

/-- A number of at most `limit`, or its default. -/
def number (env : Environment) (name : String) (limit default : Nat) : Nat :=
  ((env.lookup name).bind (Decimal.ofSetting? limit)).getD default

/-- A number of 64 bits, or its default. -/
def size (env : Environment) (name : String) (default : Nat) : Nat :=
  env.number name (UInt64.size - 1) default

/-- A text, or its default. -/
def text (env : Environment) (name default : String) : String := (env.lookup name).getD default

end Environment

/-! ## Choices -/

/-- A name without blanks around it and in lower case, where only letters of ASCII have a case. -/
def plainName (s : String) : String := String.ofList ((Text.trim s.toList).map Char.toLower)

/-- Which store is used. -/
inductive StoreChoice where
  | postgres
  | memory
  deriving DecidableEq, Repr

/-- Which cache is used. -/
inductive CacheChoice where
  | memory
  | durable
  deriving DecidableEq, Repr

/-- How log lines are written. -/
inductive LogFormat where
  | json
  | pretty
  deriving DecidableEq, Repr

/-- The store of a name. -/
def StoreChoice.ofString? (s : String) : Option StoreChoice :=
  let name := plainName s
  if ["postgres", "postgresql", "pg"].contains name then some .postgres
  else if ["memory", "mem"].contains name then some .memory
  else none

/-- The cache of a name. -/
def CacheChoice.ofString? (s : String) : Option CacheChoice :=
  let name := plainName s
  if ["memory", "mem"].contains name then some .memory
  else if name = "lmdb" then some .durable
  else none

/-- The log format of a name: anything but `pretty`, in any case of its letters, is the default. -/
def LogFormat.ofString (s : String) : LogFormat :=
  if s.toList.map Char.toLower = "pretty".toList then .pretty else .json

/-! ## Settings -/

/-- Settings of the cache. -/
structure CacheSettings where
  backend : CacheChoice
  path : String
  maxSizeMb : Nat
  /-- How many seconds lists, lists of the undecided, and counts are kept. -/
  likersSeconds : Nat
  newLikersSeconds : Nat
  countSeconds : Nat
  deriving DecidableEq, Repr

/-- Settings of the service. -/
structure ServiceSettings where
  bind : String
  /-- The port as it was given. It is looked at when the address is needed. -/
  port : String
  store : StoreChoice
  cache : CacheSettings
  logFormat : LogFormat
  deriving DecidableEq, Repr

namespace CacheSettings

/-- The settings of the cache in an environment. -/
def ofEnvironment (env : Environment) : CacheSettings where
  backend := ((env.lookup "EXPLORE_CACHE_BACKEND").bind CacheChoice.ofString?).getD .memory
  path := env.text "EXPLORE_CACHE_PATH" "./data/explore-cache"
  maxSizeMb := env.size "EXPLORE_CACHE_MAX_SIZE_MB" 256
  likersSeconds := env.size "EXPLORE_CACHE_TTL_LIKERS_SECS" 30
  newLikersSeconds := env.size "EXPLORE_CACHE_TTL_NEW_LIKERS_SECS" 20
  countSeconds := env.size "EXPLORE_CACHE_TTL_COUNT_SECS" 15

/-- How long answers are kept. -/
def ttls (c : CacheSettings) : Ttls :=
  ⟨.ofSeconds c.likersSeconds, .ofSeconds c.newLikersSeconds, .ofSeconds c.countSeconds⟩

end CacheSettings

namespace ServiceSettings

/-- The settings of the service in an environment. -/
def ofEnvironment (env : Environment) : ServiceSettings where
  bind := env.text "EXPLORE_API_BIND" "0.0.0.0"
  port := ((env.lookup "PORT").or (env.lookup "EXPLORE_API_PORT")).getD "8080"
  store := ((env.lookup "EXPLORE_STORE").bind StoreChoice.ofString?).getD .postgres
  cache := .ofEnvironment env
  logFormat := (env.lookup "EXPLORE_LOG_FORMAT").elim .json LogFormat.ofString

/-- The address to listen on. -/
def address (s : ServiceSettings) : Except Api.Error String :=
  match Decimal.ofSetting? 65535 s.port with
  | none => .error ⟨.invalidInput, s!"Invalid port value: {s.port}"⟩
  | some port =>
    match Host.ofString? s.bind with
    | none =>
      .error ⟨.invalidInput,
        s!"Invalid bind address {s.bind}:{port}: invalid socket address syntax"⟩
    | some host => .ok (host.withPort port)

end ServiceSettings

end LikedYou
