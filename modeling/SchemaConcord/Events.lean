import SchemaConcord.Text.Edit

/-!
# Event registries

A registry has a fixed set of event names and listeners for them. An event goes to its listeners in the order in
which they were added; what a listener does has no influence on the others.
-/

namespace SchemaConcord

open Text

structure EventRegistry (ι : Type) where
  names : List String
  /-- Listeners with the events they wait for, in the order they were added. -/
  listeners : List (String × ι) := []

structure UnknownEvent where
  name : String
  known : List String
  deriving DecidableEq, Repr

def UnknownEvent.message (e : UnknownEvent) : String :=
  "Unknown event '" ++ e.name ++ "' (expected one of: " ++ joinWith ", " e.known ++ ")"

namespace EventRegistry

def sortedNames (r : EventRegistry ι) : List String := sortTexts r.names.eraseDups

def add (r : EventRegistry ι) (event : String) (listener : ι) : Except UnknownEvent (EventRegistry ι) :=
  if r.names.contains event then .ok { r with listeners := r.listeners ++ [(event, listener)] }
  else .error ⟨event, r.sortedNames⟩

def receivers (r : EventRegistry ι) (event : String) : List ι :=
  (r.listeners.filter (·.1 = event)).map (·.2)

end EventRegistry

end SchemaConcord
