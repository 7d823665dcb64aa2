import ChatRouter.Chat.Adapter
import ChatRouter.Chat.Event
import ChatRouter.Dispatch.World
import ChatRouter.Text.Blank

set_option autoImplicit false

namespace ChatRouter.Host.Console

def name : String := "console"

def channelId : String := "console"

def botId : String := "switchyard"

def operatorId : String := "operator"

def operatorEmail : String := "admin@localhost"

def bot : Identity := ⟨botId, botId, some "Switchyard", none, none⟩

/-- The operator; `login` is the name that the machine knows them by. -/
def operator (login : Option String) : Identity :=
  ⟨operatorId, (filled? login).getD "operator", none, none, some operatorEmail⟩

def channel : Channel := ⟨channelId, channelId, [operatorId, botId]⟩

def adapter (operator : Identity) : Adapter where
  listen := .ok ()
  answer _
    | .identify id =>
      if id = botId then .ok bot else if id = operator.id then .ok operator else .error (.noSuchUser id)
    | .presentChannels _ => .ok [channel]
    | .send _ _ | .sendError _ _ _ => .ok ()

def opening : Event := .connected botId

def closing : Event := .disconnected "end of input"

/-- A blank line is no message. -/
def event? (line : List Char) : Option Event :=
  if Text.allBlank line then none else some (.directMessage ⟨channelId, operatorId, String.ofList line⟩)

def withoutReturn (line : List Char) : List Char :=
  if line.getLast? = some '\r' then line.dropLast else line

def lines (text : List Char) : List (List Char) :=
  let pieces := Text.pieces '\n' text
  pieces.dropLast.map withoutReturn ++ (pieces.getLast?.filter fun last => !last.isEmpty).toList

def events (text : String) : List Event := (lines text.toList).filterMap event?

def print (s : Dispatch.Sent) : String :=
  match s.title with
  | some title => s!"[{title}]\n{s.text}\n"
  | none => s.text ++ "\n"

end ChatRouter.Host.Console
