import DeviceArrays.Stream

/-!
# Platforms

A platform is a row of devices with the standard library, numbered from zero.
-/
namespace DeviceArrays

structure Platform where
  devices : List Device
  settings : Settings

namespace Platform

/-- Opens as many devices as the settings ask for, at least one. -/
def create (settings : Settings) : Call Platform := do
  if settings.deviceCount = 0 then throw (.invalidArgument .emptyPlatform)
  let devices ← (List.range settings.deviceCount).mapM fun index =>
    Device.create ⟨index⟩ Library.standard
  return ⟨devices, settings⟩

/-- The device at an index. -/
def device (p : Platform) (index : Nat) : Except Error Device :=
  match p.devices[index]? with
  | some d => .ok d
  | none => .error (.invalidArgument (.unknownDevice index p.devices.length))

/-- Opens a stream on the device at an index, with the options of the settings. -/
def stream (p : Platform) (index : Nat) : Call Stream := do
  let device ← Call.check (p.device index)
  Stream.create device p.settings.streamOptions

end Platform

end DeviceArrays
