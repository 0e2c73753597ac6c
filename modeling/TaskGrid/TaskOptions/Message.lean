import TaskGrid.TaskOptions.Basic
import TaskGrid.Wire.Messages

/-!
Task options as a message of the control plane. A duration on the wire is signed: its parts count as
zero when they are negative, and nanoseconds of a second or more are carried.
-/

namespace TaskGrid

open Wire

/-- The duration as a message; seconds that do not fit wrap around. -/
def Duration.toMessage (d : Duration) : Message.duration.Value :=
  (d.seconds.toInt64, Int32.ofNat d.nanos, ())

def Duration.ofMessage : Message.duration.Value → Duration
  | (seconds, nanos, ()) =>
    Duration.ofNanos ((Int64.toInt seconds).toNat * Duration.nanosPerSecond + (Int32.toInt nanos).toNat)

def TaskOptions.toMessage (o : TaskOptions) : Message.taskOptions.Value :=
  (o.extra, some o.maxDuration.toMessage, o.maxRetries, o.priority, o.partition, o.applicationName,
    o.applicationVersion, o.applicationNamespace, o.applicationService, o.engineType, ())

/-- The options of a message; without a duration it is zero. -/
def TaskOptions.ofMessage : Message.taskOptions.Value → TaskOptions
  | (extra, maxDuration, maxRetries, priority, partition, name, version, space, service, engine, ()) =>
    { applicationName := name
      applicationVersion := version
      applicationNamespace := space
      applicationService := service
      partition := partition
      engineType := engine
      priority := priority
      maxRetries := maxRetries
      maxDuration := (maxDuration.map Duration.ofMessage).getD Duration.zero
      extra := extra }

end TaskGrid
