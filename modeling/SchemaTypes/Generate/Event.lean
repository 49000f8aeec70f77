import SchemaTypes.Declaration.Reading
import SchemaTypes.Generate.Failure

/-!
# `SchemaTypes.Generate.Event`: what a run reports

A run reports what it does as it goes. `Logged` is a computation that
may fail together with what it reported; a failure keeps the events that
came before it.
-/

set_option autoImplicit false

namespace SchemaTypes

/-- How much an event matters. -/
inductive Level where
  | info
  | warning
  | error
deriving Repr, DecidableEq, Inhabited

/-- The number of a level; a higher one matters more. -/
def Level.rank : Level → Nat
  | .info => 20
  | .warning => 30
  | .error => 40

/-- The name of a level. -/
def Level.text : Level → String
  | .info => "INFO"
  | .warning => "WARNING"
  | .error => "ERROR"

/-- Something a run reports. -/
inductive Event where
  | loading (path : String)
  | loadingTypeMap (path : String)
  | skipping (what : Skipped)
  | built (summary : String)
  | writing (paths : List String)
  | generated (types : Nat)
  | failed (code message : String)
deriving Repr, DecidableEq, Inhabited

/-- How much an event matters. -/
def Event.level : Event → Level
  | .skipping _ => .warning
  | .failed _ _ => .error
  | _ => .info

/-- What is said of an event. -/
def Event.message : Event → String
  | .loading path => "Load " ++ path
  | .loadingTypeMap path => "Load type map " ++ path
  | .skipping what => what.message
  | .built summary => summary
  | .writing paths => "Write " ++ Text.joinWith ", " paths
  | .generated types => s!"Generated {types} types"
  | .failed code message => code ++ ": " ++ message

/-- A computation that may fail, with what it reported. -/
structure Logged (α : Type) where
  events : List Event := []
  result : Except Failure α

namespace Logged

/-- Reports an event. -/
def report (event : Event) : Logged Unit :=
  ⟨[event], .ok ()⟩

/-- Fails. -/
def fail {α : Type} (failure : Failure) : Logged α :=
  ⟨[], .error failure⟩

/-- A result without events. -/
def ofExcept {α : Type} (result : Except Failure α) : Logged α :=
  ⟨[], result⟩

/-- One computation after another. -/
def andThen {α β : Type} (first : Logged α) (next : α → Logged β) : Logged β :=
  match first.result with
  | .ok value => ⟨first.events ++ (next value).events, (next value).result⟩
  | .error failure => ⟨first.events, .error failure⟩

instance : Monad Logged where
  pure value := ⟨[], .ok value⟩
  bind := andThen

/-- A computation for each item of a list, in order. -/
def forEach {α β : Type} (f : α → Logged β) : List α → Logged (List β)
  | [] => pure []
  | item :: items => do
    let value ← f item
    let values ← forEach f items
    return value :: values

end Logged

end SchemaTypes
