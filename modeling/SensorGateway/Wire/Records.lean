import SensorGateway.Bus.Basic
import SensorGateway.Reload
import SensorGateway.Wire.Layout

/-!
The forms in which records, settings and counts are written and read.
-/

namespace SensorGateway.Wire

/-- A span is written in whole seconds and nanoseconds. Of the latter more than a second
may be given, but no other member. -/
def spanLayout : Layout Span where
  label := "Duration"
  fields := [⟨"secs", long, none⟩, ⟨"nanos", word "u32" maxHalfWord, none⟩]
  closed := true
  items := .record "Duration"
  row span := (span.seconds.toNat, span.nanos.val, ())
  build := fun (seconds, nanos, ()) =>
    match Span.ofParts? seconds nanos with
    | some span => .ok span
    | none => .error (.refused "overflow deserializing Duration")

def span : Codec Span := spanLayout.codec

def sensorLayout : Layout SensorRecord where
  label := "SensorRecord"
  fields := [⟨"id", objectId, none⟩, ⟨"owner", uuid, none⟩, ⟨"secret", text, none⟩,
    ⟨"name", text, none⟩, ⟨"storage_enabled", flag, none⟩,
    ⟨"live_data_targets", listOf text, none⟩]
  row s := (s.id, s.owner, s.secret, s.name, s.storageEnabled, s.liveDataTargets, ())
  build := fun (id, owner, secret, name, storage, targets, ()) =>
    .ok ⟨id, owner, secret, name, storage, targets⟩

def sensor : Codec SensorRecord := sensorLayout.codec

def userLayout : Layout UserRecord where
  label := "UserRecord"
  fields := [⟨"id", uuid, none⟩, ⟨"email", text, none⟩, ⟨"suspended", flag, none⟩]
  row u := (u.id, u.email, u.suspended, ())
  build := fun (id, email, suspended, ()) => .ok ⟨id, email, suspended⟩

def user : Codec UserRecord := userLayout.codec

/-- The sensor of a key may be left out. -/
def apiKeyLayout : Layout ApiKeyRecord where
  label := "ApiKeyRecord"
  fields := [⟨"key", text, none⟩, ⟨"owner", uuid, none⟩,
    ⟨"sensor", optional objectId, some none⟩, ⟨"revoked", flag, none⟩]
  row k := (k.key, k.owner, k.sensor, k.revoked, ())
  build := fun (key, owner, sensor, revoked, ()) => .ok ⟨key, owner, sensor, revoked⟩

def apiKey : Codec ApiKeyRecord := apiKeyLayout.codec

def measurementLayout : Layout Measurement where
  label := "RawMeasurement"
  fields := [⟨"sensor_id", objectId, none⟩, ⟨"payload", text, none⟩]
  row m := (m.sensorId, m.payload, ())
  build := fun (id, payload, ()) => .ok ⟨id, payload⟩

def measurement : Codec Measurement := measurementLayout.codec

def statsLayout : Layout CacheStats where
  label := "CacheStats"
  fields := [⟨"sensors", count, none⟩, ⟨"users", count, none⟩, ⟨"keys", count, none⟩,
    ⟨"blacklisted", count, none⟩]
  row s := (s.sensors, s.users, s.keys, s.blacklisted, ())
  build := fun (sensors, users, keys, blacklisted, ()) =>
    .ok ⟨sensors, users, keys, blacklisted⟩

def stats : Codec CacheStats := statsLayout.codec

def summaryLayout : Layout ReloadSummary where
  label := "ReloadSummary"
  fields := [⟨"sensors", count, none⟩, ⟨"users", count, none⟩, ⟨"keys", count, none⟩,
    ⟨"flushed", count, none⟩]
  row s := (s.sensors, s.users, s.keys, s.flushed, ())
  build := fun (sensors, users, keys, flushed, ()) => .ok ⟨sensors, users, keys, flushed⟩

def summary : Codec ReloadSummary := summaryLayout.codec

def authorizationConfigLayout : Layout AuthorizationConfig where
  label := "AuthorizationConfig"
  fields := [⟨"timeout", span, none⟩]
  row c := (c.timeout, ())
  build := fun (timeout, ()) => .ok ⟨timeout⟩

def authorizationConfig : Codec AuthorizationConfig := authorizationConfigLayout.codec

def reloadSettingsLayout : Layout ReloadSettings where
  label := "DataReloadSettings"
  fields := [⟨"data_reload_interval", span, none⟩, ⟨"start_delay", span, none⟩,
    ⟨"timeout_scan_interval", span, none⟩, ⟨"page_size", count, none⟩]
  row s := (s.reloadInterval, s.startDelay, s.scanInterval, s.pageSize, ())
  build := fun (interval, delay, scan, pageSize, ()) => .ok ⟨interval, delay, scan, pageSize⟩

def reloadSettings : Codec ReloadSettings := reloadSettingsLayout.codec

def ingestionConfigLayout : Layout IngestionConfig where
  label := "IngestionConfig"
  fields := [⟨"capacity", count, none⟩]
  row c := (c.capacity, ())
  build := fun (capacity, ()) => .ok ⟨capacity⟩

def ingestionConfig : Codec IngestionConfig := ingestionConfigLayout.codec

def telemetryConfigLayout : Layout TelemetryConfig where
  label := "TelemetryConfig"
  fields := [⟨"service_name", text, none⟩, ⟨"log_level", text, none⟩,
    ⟨"console_output", flag, none⟩, ⟨"json_logs", flag, none⟩]
  row c := (c.serviceName, c.logLevel, c.consoleOutput, c.jsonLogs, ())
  build := fun (name, level, console, json, ()) => .ok ⟨name, level, console, json⟩

def telemetryConfig : Codec TelemetryConfig := telemetryConfigLayout.codec

def batchLayout : Layout TaggedBatch where
  label := "MeasurementBatch"
  fields := [⟨"id", uuid, none⟩, ⟨"topic", text, none⟩, ⟨"payloads", listOf text, none⟩,
    ⟨"published_at", long, none⟩]
  row b := (b.id, b.topic, b.payloads, b.publishedAt, ())
  build := fun (id, topic, payloads, publishedAt, ()) =>
    .ok ⟨⟨topic, payloads, publishedAt⟩, id⟩

def batch : Codec TaggedBatch := batchLayout.codec

end SensorGateway.Wire
