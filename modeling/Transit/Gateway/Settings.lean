import Transit.Number.Text
import Transit.SocketAddress
import Transit.Text.Blank
import Transit.Text.Quoted
set_option autoImplicit false

/-!
Settings of a gateway: how it batches, how much a listing may return, and how far queries reach.
They have defaults and may be overridden by named variables.
-/

namespace Transit

structure Settings where
  /-- Keys in a batch of an ordinary loader. -/
  loaderBatchSize : Nat := 100
  /-- Keys in a batch of the two loaders of stop times. -/
  stopTimeBatchSize : Nat := 100
  /-- Milliseconds that a batch waits for more keys. -/
  loaderWait : Nat := 2
  defaultLimit : Nat := 100
  maxLimit : Nat := 1000
  /-- The greatest limit for listings of stops and trips. -/
  maxLimitLarge : Nat := 1000
  /-- Meters. -/
  maxRadius : Float := 100000.0
  /-- How many seconds of the previous service day a query for a date looks at. -/
  lookbehind : Int := 21600
  serviceWindowCacheCapacity : Nat := 10000
  listenAddress : SocketAddress := .v4 [127, 0, 0, 1] 8080
  dataDirectory : Option String := none
  deriving DecidableEq, Repr

/-- A variable whose text does not read as a value of its kind. -/
structure SettingsError where
  name : String
  value : String
  deriving DecidableEq, Repr

def SettingsError.message (e : SettingsError) : String :=
  "invalid value for " ++ e.name ++ ": " ++ Text.quoted e.value

namespace Settings

/-- What the names of all variables begin with. -/
def variableStart : String := "TRANSIT_GATEWAY_"

/-- The cap on rows, which the greatest limit for listings of stops and trips obeys. -/
def rowCap : Nat := 10000

def natOfText? (s : String) : Option Nat :=
  (Number.intOfText? .nat64 s).map Int.toNat

/-- A setting from its variable, or its default when the variable is not there. -/
def setting {α : Type} (lookup : String → Option String) (name : String) (read : String → Option α)
    (absent : α) : Except SettingsError α :=
  let name := variableStart ++ name
  match lookup name with
  | none => .ok absent
  | some value =>
    match read (Text.trim value) with
    | some a => .ok a
    | none => .error ⟨name, value⟩

/-- The defaults, overridden by whatever `lookup` has under the names of the variables. -/
def ofVariables (lookup : String → Option String) : Except SettingsError Settings := do
  let d : Settings := {}
  let loaderWait ← setting lookup "LOADER_WAIT_MS" natOfText? d.loaderWait
  let loaderBatchSize ← setting lookup "LOADER_BATCH_SIZE" natOfText? d.loaderBatchSize
  let stopTimeBatchSize ←
    setting lookup "LOADER_STOP_TIME_BATCH_SIZE" natOfText? d.stopTimeBatchSize
  let defaultLimit ← setting lookup "DEFAULT_LIMIT" natOfText? d.defaultLimit
  let maxLimit ← setting lookup "MAX_LIMIT" natOfText? d.maxLimit
  let maxLimitLarge ← setting lookup "MAX_LIMIT_LARGE" natOfText? d.maxLimitLarge
  let maxRadius ← setting lookup "MAX_RADIUS" Number.floatOfText? d.maxRadius
  let lookbehind ← setting lookup "LOOKBEHIND_SECS" (Number.intOfText? .int32) d.lookbehind
  let serviceWindowCacheCapacity ←
    setting lookup "SERVICE_WINDOW_CACHE_CAPACITY" natOfText? d.serviceWindowCacheCapacity
  let listenAddress ← setting lookup "LISTEN_ADDR" SocketAddress.ofText? d.listenAddress
  let dataDirectory := (lookup (variableStart ++ "DATA_DIR")).filter (!Text.isBlankText ·)
  .ok { loaderBatchSize, stopTimeBatchSize, loaderWait, defaultLimit, maxLimit, maxLimitLarge,
        maxRadius, lookbehind, serviceWindowCacheCapacity, listenAddress, dataDirectory }

/-- A batch holds at least one key. -/
def loaderCapacity (s : Settings) : Nat := max s.loaderBatchSize 1
def stopTimeCapacity (s : Settings) : Nat := max s.stopTimeBatchSize 1

/-- The greatest limit for listings of stops and trips. -/
def largeLimit (s : Settings) : Nat :=
  min (max s.maxLimitLarge s.maxLimit) rowCap

end Settings

end Transit
