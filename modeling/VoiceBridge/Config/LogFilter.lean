import VoiceBridge.Config.Service

/-!
# What to log

A filter is the name of a level. The bridge's own variable comes first, then the general one, then
the level that the program asks for; a variable that holds no filter is passed over.
-/

namespace VoiceBridge.LogFilter

/-- The levels, from the quietest. -/
def levels : List String := ["off", "error", "warn", "info", "debug", "trace"]

/-- The level that a directive names, in either case of letters. Saying nothing asks for errors. -/
def level? (directive : String) : Option String :=
  let name := String.ofList (directive.toList.map Char.toLower)
  if name.isEmpty then some "error" else if levels.contains name then some name else none

/-- The variable that other programs read as well. -/
def generalVariable : String := "RUST_LOG"

/-- The filter in force. -/
def choose (standard : String) (lookup : String → Option String) : String :=
  let own := (lookup ServiceConfig.logVariable).bind level?
  let general := (lookup generalVariable).bind level?
  (own.orElse fun _ => general.orElse fun _ => level? standard).getD "error"

end VoiceBridge.LogFilter
