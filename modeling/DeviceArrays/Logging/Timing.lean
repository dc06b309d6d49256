import DeviceArrays.FloatBits

/-!
# Timings

Kernels and copies are timed under a log target of their own. A span may ask to be logged only from
some duration on; a copy is logged with its bandwidth.
-/
namespace DeviceArrays.Logging

/-- The target of all timings. -/
def timingTarget : String := "offload_perf"

/-- A piece of work that is timed. Work that takes fewer microseconds than the threshold is not
logged. -/
structure TimedSpan where
  name : String
  threshold : Option Nat
  deriving DecidableEq, Repr

/-- Mebibytes per second for bytes moved in some microseconds; zero for no time at all. -/
def bandwidth (bytes microseconds : Nat) : FloatBits .double :=
  if microseconds = 0 then .zero
  else
    let moved := (FloatBits.nearest .double bytes 0).toDouble
    let time := (FloatBits.nearest .double microseconds 0).toDouble
    FloatBits.ofDouble (moved / time * 1000000.0 / (1024.0 * 1024.0))

end DeviceArrays.Logging
