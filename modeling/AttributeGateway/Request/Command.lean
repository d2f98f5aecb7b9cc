import AttributeGateway.Path.Parser
import AttributeGateway.Request.Template
import AttributeGateway.Text.Blank

/-!
# Commands

A request is one line of words. `GET` names an endpoint, a template and one or more pairs of a bean
and an attribute path; `CLOSE` names an endpoint. Command words are written in capitals.

A path that cannot be read does not spoil the request: the query keeps the fault, and only its own
item is affected.
-/

namespace AttributeGateway

/-- One pair of a bean and an attribute path. -/
structure Query where
  bean : String
  /-- The path as it was written. -/
  rawPath : String
  /-- The path, or why it is none. -/
  path : Except Fault Path

/-- The query of a bean and the text of a path. -/
def Query.ofTexts (bean rawPath : String) : Query := ⟨bean, rawPath, Path.parse rawPath⟩

/-- A request for attributes of an endpoint. -/
structure Get where
  endpoint : String
  template : Template
  queries : List Query

/-- A request. -/
inductive Command where
  /-- Read attributes. -/
  | get (g : Get)
  /-- Drop the connection to an endpoint. -/
  | close (endpoint : String)

/-- The pairs of words that follow each other. -/
def pairs : List String → List (String × String)
  | a :: b :: rest => (a, b) :: pairs rest
  | _ => []

/-- Refuses a list of arguments that has not the expected length. -/
def checkCount (args : List String) (expected : Nat) : Except Fault Unit :=
  if args.length = expected then .ok ()
  else
    .error (.wrongArgumentCount ("Expecting " ++ Text.decimal expected ++ " argument" ++
      (if expected = 1 then "" else "s") ++ " but there was " ++ Text.decimal args.length))

/-- The request for attributes that the words after `GET` stand for. -/
def Get.ofArguments (args : List String) : Except Fault Get :=
  match args with
  | endpoint :: template :: a :: b :: rest =>
    if rest.length % 2 = 0 then
      .ok ⟨endpoint, .ofToken template, (pairs (a :: b :: rest)).map fun p => .ofTexts p.1 p.2⟩
    else refused
  | _ => refused
where
  refused : Except Fault Get :=
    .error (.wrongArgumentCount
      ("Expecting an even number of arguments and at least 4 but there was " ++
        Text.decimal args.length))

/-- The endpoint that the words after `CLOSE` name. -/
def closeArgument (args : List String) : Except Fault String := do
  checkCount args 1
  return args.headD ""

namespace Command

/-- The command that a list of words stands for. -/
def ofWords : List String → Except Fault Command
  | [] => .error .noCommand
  | name :: args =>
    if name = "GET" then .get <$> Get.ofArguments args
    else if name = "CLOSE" then .close <$> closeArgument args
    else .error (.unknownCommand name)

/-- The command that a line stands for. -/
def parse (line : String) : Except Fault Command := ofWords (Text.wordsOf line)

/-- The word for a command. -/
def name : Command → String
  | .get _ => "GET"
  | .close _ => "CLOSE"

/-- The endpoint that a command is about. -/
def endpoint : Command → String
  | .get g => g.endpoint
  | .close e => e

end Command

end AttributeGateway
