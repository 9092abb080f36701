import BoundKey.Json.Value
import BoundKey.Log

set_option autoImplicit false

/-!
The log as others read it: every event as an object with its level, its wording
and its particulars.
-/

namespace BoundKey

def FieldValue.toValue : FieldValue → Json.Value
  | text value => .string value
  | number value => .int value
  | flag value => .bool value

def LogEvent.toValue (event : LogEvent) : Json.Value :=
  .object [("level", .string event.level.name),
    ("message", .string event.message),
    ("fields", .object (event.fields.map fun (name, value) =>
      (name, value.toValue)))]

def Signal.events (signals : List Signal) : List LogEvent :=
  signals.filterMap fun
    | .log event => some event
    | .mark _ => none

end BoundKey
