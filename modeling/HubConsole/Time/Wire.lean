import HubConsole.Json.Record
import HubConsole.Time.Rfc3339

namespace HubConsole.Time.Instant

open HubConsole.Json

def read : Reader Instant
  | _, .string (some s) =>
    match ofText? s with
    | some t => .ok t
    | none => .error .malformed
  | _, _ => .error .malformed

def write (t : Instant) : Value := .string t.text

instance : Wire Instant := ⟨read, write⟩

end HubConsole.Time.Instant
