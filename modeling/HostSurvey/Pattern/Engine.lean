import HostSurvey.Text.Utf8

/-!
# Pattern engines

An engine compiles the texts of patterns. What it makes of them is left open: it
may refuse a text, and of a compiled pattern all that is known is that its hits
lie inside the data. Whatever searches for patterns does so with any engine;
`Pattern.Search` is one.
-/

namespace HostSurvey

/-- Where a pattern hits a text of `size` bytes. -/
structure Pattern.Hit (size : Nat) where
  start : Nat
  stop : Nat
  start_le_stop : start ≤ stop
  stop_le_size : stop ≤ size

/-- A compiled pattern. -/
structure Pattern where
  /-- The hit that a search of the data answers, if there is one. -/
  find? : (data : Bytes) → Option (Pattern.Hit data.length)

namespace Pattern

class Engine where
  /-- The pattern of a text, in which the case of letters may not count; `none` when the text is
  refused. -/
  compile? : (ignoreCase : Bool) → (text : String) → Option Pattern

export Engine (compile?)

end Pattern

end HostSurvey
