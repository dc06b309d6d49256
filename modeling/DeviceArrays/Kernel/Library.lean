import DeviceArrays.Kernel.Elementwise
import DeviceArrays.Text.Quoted

/-!
# Kernel libraries

A library is a named table of kernels. Registering a kernel replaces the one of the same name.
-/
namespace DeviceArrays

/-- What memory is when a call of a kernel fails, which may have written by then. -/
class Remains (run : Memory → List Argument → Attempt Memory) where
  memory : Memory → List Argument → Memory

/-- Unless it is said otherwise, a kernel writes once nothing can fail any more. -/
instance (priority := low) (run : Memory → List Argument → Attempt Memory) : Remains run :=
  ⟨fun m _ => m⟩

/-- A kernel under its name: work on a device's memory with a list of arguments. -/
structure Kernel where
  name : String
  run : Memory → List Argument → Attempt Memory
  [remains : Remains run]

/-- The memory that a failing call leaves. -/
def Kernel.left (k : Kernel) (m : Memory) (arguments : List Argument) : Memory :=
  k.remains.memory m arguments

def ElementwiseKernel.toKernel (k : ElementwiseKernel) : Kernel := ⟨k.name, k.run⟩

def Kernel.description (k : Kernel) : String :=
  "KernelEntry \x7b name: " ++ quoted k.name ++ " \x7d"

/-- A table of kernels, no two of one name. -/
structure Library where
  name : String
  kernels : List Kernel

namespace Library

def empty (name : String) : Library := ⟨name, []⟩

def find? (l : Library) (name : String) : Option Kernel := l.kernels.find? (·.name = name)

/-- Adds a kernel, in place of any kernel of its name. -/
def register (l : Library) (k : Kernel) : Library :=
  { l with kernels := l.kernels.filter (·.name ≠ k.name) ++ [k] }

/-- The kernel of a given name, or the refusal of an unknown name. -/
def get (l : Library) (name : String) : Except DeviceError Kernel :=
  match l.find? name with
  | some k => .ok k
  | none => .error (.unknownKernel name)

def contains (l : Library) (name : String) : Bool := (l.find? name).isSome

def size (l : Library) : Nat := l.kernels.length

/-- The names in ascending order. -/
def names (l : Library) : List String := (l.kernels.map (·.name)).mergeSort (fun a b => a ≤ b)

/-- The library every array relies on. -/
def standard : Library :=
  (ElementwiseKernel.all.map ElementwiseKernel.toKernel).foldl register (empty "offload_array")

end Library

end DeviceArrays
