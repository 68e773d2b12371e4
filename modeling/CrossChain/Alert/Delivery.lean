import CrossChain.Alert
import CrossChain.Number.Integer

/-!
# Delivery of alerts

Each alert goes to every registered receiver, in the order of registration. The log always receives
them; a chat does when it is enabled and its credentials are complete.
-/

namespace CrossChain.Alert

structure ChatSettings where
  botToken : String
  chatId : Int
  deriving DecidableEq, Repr

/-- The settings of the environment: none when the token is missing or the chat's id is no
number. -/
def ChatSettings.ofEnvironment (token chat : Option String) : Option ChatSettings := do
  let token ← token
  let chat ← chat
  let id ← (parseSigned 64 chat).toOption
  return ⟨token, id⟩

inductive Receiver where
  | log
  | chat (settings : ChatSettings)
  | recorder
  | silent
  deriving DecidableEq, Repr

structure Receivers where
  all : List Receiver
  deriving DecidableEq, Repr

namespace Receivers

def none : Receivers := ⟨[]⟩

def register (rs : Receivers) (r : Receiver) : Receivers := ⟨rs.all ++ [r]⟩

def size (rs : Receivers) : Nat := rs.all.length

def isEmpty (rs : Receivers) : Bool := rs.all.isEmpty

/-- What each receiver gets of an alert. -/
def deliver (rs : Receivers) (a : Alert) : List (Receiver × Alert) :=
  rs.all.map fun r => (r, a)

/-- The receivers of a configuration that enables the chat or not. -/
def configured (chatEnabled : Bool) (chat : Option ChatSettings) : Receivers :=
  let log := none.register .log
  match chatEnabled, chat with
  | true, some settings => log.register (.chat settings)
  | _, _ => log

end Receivers

end CrossChain.Alert
