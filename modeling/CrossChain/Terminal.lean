import CrossChain.Json.Printer

/-!
# Terminal output

Lines for people, with coloured marks, or one JSON object a line. The quiet mode keeps warnings,
errors and the results of commands.
-/

namespace CrossChain.Terminal

structure Mode where
  json : Bool
  quiet : Bool

/-- People see nothing but warnings and errors. -/
def Mode.suppressed (m : Mode) : Bool := !m.json && m.quiet

def styled (on off : String) (s : String) : String :=
  "\x1b[" ++ on ++ "m" ++ s ++ "\x1b[" ++ off ++ "m"

def bold : String → String := styled "1" "0"

def dim : String → String := styled "2" "0"

def red : String → String := styled "31" "39"

def green : String → String := styled "32" "39"

def yellow : String → String := styled "33" "39"

def cyan : String → String := styled "36" "39"

/-- A line that holds one JSON object with its kind. -/
def jsonLine (kind : String) (payload : Json) : String :=
  (Json.ofFields [("type", .text kind), ("payload", payload)]).compact ++ "\n"

def messagePayload (text : String) : Json := Json.ofFields [("message", .text text)]

def header (m : Mode) (version : String) : String :=
  if m.json || m.suppressed then "" else bold "chainhub" ++ " " ++ dim version ++ "\n\n"

/-- The width to which labels are filled up. -/
def labelWidth : Nat := 14

def field (m : Mode) (label value : String) : String :=
  if m.json then
    jsonLine "field" (Json.ofFields [("label", .text label), ("value", .text value)])
  else if m.suppressed then ""
  else
    let cs := label.toList
    let padded := String.ofList (cs ++ List.replicate (labelWidth - cs.length) ' ')
    "  " ++ dim padded ++ " " ++ value ++ "\n"

def success (m : Mode) (text : String) : String :=
  if m.json then jsonLine "success" (messagePayload text)
  else if m.suppressed then ""
  else "  " ++ green "✓" ++ " " ++ text ++ "\n"

def warning (m : Mode) (text : String) : String :=
  if m.json then jsonLine "warning" (messagePayload text)
  else "  " ++ yellow "⚠" ++ " " ++ text ++ "\n"

def error (m : Mode) (text : String) : String :=
  if m.json then jsonLine "error" (messagePayload text)
  else "  " ++ red "×" ++ " " ++ text ++ "\n"

/-- The lines of a text; a line ends with a line feed, a carriage return before it is dropped. -/
def splitLines (cs : List Char) : List (List Char) :=
  let dropReturn (l : List Char) : List Char :=
    if l.getLast? = some '\r' then l.dropLast else l
  let pieces := cs.splitOn '\n'
  let complete := pieces.dropLast.map dropReturn
  match pieces.getLast? with
  | some last => if last.isEmpty then complete else complete ++ [last]
  | none => complete

def lines (m : Mode) (content : String) : String :=
  if m.json then jsonLine "lines" (Json.ofFields [("content", .text content)])
  else if m.suppressed then ""
  else
    String.join ((splitLines content.toList).map fun l => "  " ++ String.ofList l ++ "\n")

def hint (m : Mode) (text : String) : String :=
  if m.json || m.suppressed then ""
  else "  " ++ dim (cyan "hint") ++ ": " ++ dim text ++ "\n"

def highlight (m : Mode) (value : String) : String :=
  if m.json then value else cyan value

/-- The result of a command as one JSON value. -/
def result (v : Json) : String := v.compact ++ "\n"

end CrossChain.Terminal
