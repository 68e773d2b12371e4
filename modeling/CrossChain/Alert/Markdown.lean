import CrossChain.Alert

/-!
# Alerts in a chat

The message that a chat shows for an alert, in a markup that reserves nineteen characters. Texts of
an alert are escaped, so that they cannot be read as markup.
-/

namespace CrossChain.Alert

def reserved : List Char :=
  ['_', '*', '[', ']', '(', ')', '~', '\x60', '>', '#', '+', '-', '=', '|', '\x7b',
    '\x7d', '.', '!', '\\']

/-- A text with a backslash before every reserved character. -/
def escapeChars : List Char → List Char
  | [] => []
  | c :: rest => if c ∈ reserved then '\\' :: c :: escapeChars rest else c :: escapeChars rest

def escape (s : String) : String := String.ofList (escapeChars s.toList)

/-- A part of a message: markup of the template, or a text of the alert. -/
inductive Part where
  | markup (s : String)
  | field (s : String)

def Part.render : Part → String
  | markup s => s
  | field s => escape s

/-- The mark that sets off a field. -/
def tick : String := "\x60"

def parts : Alert → List Part
  | queryFailed table error =>
    [.markup ("⚠️ *Reload Query Failed*\n\n📋 Table: " ++ tick), .field table,
     .markup (tick ++ "\n🚫 "), .field error]
  | rowSkipped table key reason =>
    [.markup ("⚠️ *Row Skipped*\n\n📋 Table: " ++ tick), .field table,
     .markup (tick ++ "\n🔑 Key: " ++ tick), .field key, .markup (tick ++ "\n🚫 "), .field reason]
  | clientFailed chain error =>
    [.markup ("⚠️ *Chain Client Failed*\n\n⛓ Chain: " ++ tick), .field chain,
     .markup (tick ++ "\n🚫 "), .field error]
  | taskPanicked task message =>
    [.markup ("⚠️ *Task Panicked*\n\n⚙️ Task: " ++ tick), .field task,
     .markup (tick ++ "\n🚫 "), .field message]

def chatMessage (a : Alert) : String :=
  String.join (a.parts.map Part.render)

end CrossChain.Alert
