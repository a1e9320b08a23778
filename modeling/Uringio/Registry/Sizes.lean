import Uringio.Registry.Partition

/-!
# The size of a new registry

`UringioLoop_new` parses its argument as an `int` and hands it to `registry_new` as an `unsigned`.
For a size below `2^31` that is the registry of `registryNew`. A negative argument becomes a size
from `2^31` on, whose conversion back to `int` is negative: the loop that fills the stack does not
run, and `top` is below zero (`NewRegistry.stuck`).

How many slots a registry has for its user is a question to `registry_add`: how many calls in a row
get one (`grants_iff`). A new registry has as many as was asked for exactly if the number was not
negative (`NewRegistry.serves_iff`).
-/

namespace Uringio

/-- What `registry_new` makes of a size, where the allocations succeed. -/
inductive NewRegistry
  /-- The registry of a size that is an `int`. -/
  | serving (reg : RequestRegistry)
  /-- The registry of a larger size: no cell of its stack was written, and `top` is what `int`
  arithmetic makes of `(int)size - 1`. -/
  | stuck (size : ℕ) (top : ℤ)

/-- `registry_new`, for any `unsigned` size. -/
def registryNewUnsigned (size : ℕ) : NewRegistry :=
  if h : size < 2^31 then .serving (registryNew size h)
  else .stuck size (CInt.toInt (CInt.toInt size - 1))

/-- `UringioLoop_new`, up to the registry: `none` when it raises. -/
def uringioLoopNew (registry_size : ℤ) (memory : Bool) : Option NewRegistry :=
  if CInt.IsInt registry_size ∧ memory then
    some (registryNewUnsigned (CInt.toUnsigned registry_size))
  else none

namespace NewRegistry

/-- `registry_add`: the index and the registry after the call; `none` where it reads a cell of the
stack that was never written. -/
def add (req : Request) : NewRegistry → Option (ℤ × NewRegistry)
  | .serving reg => some ((registryAdd reg req).1, .serving (registryAdd reg req).2.1)
  | .stuck size top => if top < 0 then some (-1, .stuck size top) else none

/-- The calls of `registry_add` for the requests, one after the other, get a slot each. -/
def grants (reg : NewRegistry) : List Request → Prop
  | [] => True
  | req :: reqs => ∃ index reg', reg.add req = some (index, reg') ∧ 0 ≤ index ∧ reg'.grants reqs

/-- The registry has as many usable slots as was asked for, where `0` asks for the default. -/
def Serves (reg : NewRegistry) (registry_size : ℤ) : Prop :=
  ∀ reqs : List Request, reg.grants reqs ↔
    (reqs.length : ℤ) ≤ if registry_size = 0 then (DEFAULT_REGISTRY_SIZE : ℤ) else registry_size

end NewRegistry

end Uringio
