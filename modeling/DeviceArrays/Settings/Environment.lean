import DeviceArrays.Environment
import DeviceArrays.Settings

/-!
# Settings from the environment

Three variables override the default settings, each one field. A text that cannot be read leaves
the default, and so does a device count of zero.
-/
namespace DeviceArrays

/-- The default settings with the environment's overrides. -/
def Settings.ofEnvironment (env : Environment) : Settings where
  deviceCount := ((env.natural? "OFFLOAD_DEVICE_COUNT").filter (0 < ·)).getD 1
  blockingLaunches := (env.truth? "OFFLOAD_BLOCKING_LAUNCHES").getD false
  threshold := env.natural? "OFFLOAD_PERF_THRESHOLD_US"

end DeviceArrays
