import TapTracker.Adapter.Class
import TapTracker.Adapter.Failure
import TapTracker.Adapter.Set

/-!
# Platforms

A `Platform` is what the operations on adapters ask of an operating system.  Its answers are
actions of some monad, so that the same operations run over a simulated system, whose state can be
inspected, and over a real one.

`Platform.capture` is one enumeration collected as a set.
-/

namespace TapTracker

/-- The operations on the adapters of a system. -/
structure Platform (m : Type → Type) where
  /-- The adapters of a class, as the system lists them. -/
  enumerate : AdapterClass → m (Except EnumerateError (List TapAdapter))
  /-- Removes the adapter with an identifier. -/
  remove : String → m (Except RemoveError Unit)
  /-- Gives an adapter another alias. -/
  rename : TapAdapter → String → m (Except RenameError Unit)

namespace Platform

variable {m : Type → Type} [Monad m]

/-- The set of the adapters of a class that are present, from one enumeration. -/
def capture (p : Platform m) (cls : AdapterClass) : m (Except EnumerateError AdapterSet) := do
  let answer ← p.enumerate cls
  return answer.map AdapterSet.ofList

/-- The platform that can do nothing. -/
def unsupported : Platform m where
  enumerate _ := pure (.error .unsupported)
  remove _ := pure (.error .unsupported)
  rename _ _ := pure (.error .unsupported)

end Platform

end TapTracker
