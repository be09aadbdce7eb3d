import CampusView.Json.Codec
import CampusView.Settings

/-!
# Configuration of the server

Where the server listens and keeps its data, and the settings of the service in whole milliseconds
and seconds. What is not given has a default.
-/

namespace CampusView

open Json Time

/-- The configuration of the server. -/
structure ServerConfig where
  host : String := "127.0.0.1"
  listenAt : UInt16 := 3000
  storePath : String := "portal.db"
  /-- The folder of the files about campus systems. -/
  fixturesDir : String := "fixtures"
  timeoutMillis : UInt64 := 5000
  cacheTtlSeconds : UInt64 := 28800
  failureTtlSeconds : UInt64 := 60
  heldTtlSeconds : UInt64 := 60
  features : FeatureFlags := {}
deriving DecidableEq

namespace ServerConfig

/-- The members of `ServerConfig`. -/
def layout : Layout := [
  ("host", .text),
  ("port", .any),
  ("store_path", .text),
  ("fixtures_dir", .text),
  ("upstream_timeout_ms", .any),
  ("cache_ttl_secs", .any),
  ("failure_ttl_secs", .any),
  ("held_applicant_ttl_secs", .any),
  ("features", .record FeatureFlags.layout)]

instance : Encode ServerConfig := ⟨fun c => .object [
  ("host", .string c.host),
  ("port", encode c.listenAt),
  ("store_path", .string c.storePath),
  ("fixtures_dir", .string c.fixturesDir),
  ("upstream_timeout_ms", encode c.timeoutMillis),
  ("cache_ttl_secs", encode c.cacheTtlSeconds),
  ("failure_ttl_secs", encode c.failureTtlSeconds),
  ("held_applicant_ttl_secs", encode c.heldTtlSeconds),
  ("features", encode c.features)]⟩

instance : Decode ServerConfig := ⟨.record layout, fun v => do
  let r ← v.record? layout
  let d : ServerConfig := {}
  return {
    host := ← r.getD? "host" d.host
    listenAt := ← r.getD? "port" d.listenAt
    storePath := ← r.getD? "store_path" d.storePath
    fixturesDir := ← r.getD? "fixtures_dir" d.fixturesDir
    timeoutMillis := ← r.getD? "upstream_timeout_ms" d.timeoutMillis
    cacheTtlSeconds := ← r.getD? "cache_ttl_secs" d.cacheTtlSeconds
    failureTtlSeconds := ← r.getD? "failure_ttl_secs" d.failureTtlSeconds
    heldTtlSeconds := ← r.getD? "held_applicant_ttl_secs" d.heldTtlSeconds
    features := ← r.getD? "features" d.features }⟩

/-- The settings that a configuration gives the service. -/
def settings (c : ServerConfig) : Settings where
  flags := c.features
  timeout := millis c.timeoutMillis.toNat
  cacheTtl := seconds c.cacheTtlSeconds.toNat
  failureTtl := seconds c.failureTtlSeconds.toNat
  heldTtl := seconds c.heldTtlSeconds.toNat

end ServerConfig

end CampusView
