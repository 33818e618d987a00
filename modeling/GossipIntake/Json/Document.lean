import GossipIntake.Json.Token

namespace GossipIntake.Json

abbrev Member := Option String × Json

/-- An array or object that is open: what it holds so far, newest first, and for an object the name
    of the member whose value is being read. -/
inductive Frame where
  | array (before : List Json)
  | object (before : List Member) (name : Option String)

def Frame.close (value : Json) : Frame → Json
  | .array before => .array (value :: before).reverse
  | .object before name => .object ((name, value) :: before).reverse

def closeAll (value : Json) (frames : List Frame) : Json := frames.foldl Frame.close value

inductive Builder where
  | beforeValue (frames : List Frame)
  | beforeFirstElement (frames : List Frame)
  | beforeFirstName (frames : List Frame)
  | beforeName (before : List Member) (frames : List Frame)
  | beforeColon (before : List Member) (name : Option String) (frames : List Frame)
  | afterValue (value : Json) (frames : List Frame)
  | stuck (root : Json)

namespace Builder

def openValue (frames : List Frame) : Token → Builder
  | .null => .afterValue .null frames
  | .bool value => .afterValue (.bool value) frames
  | .number numeral => .afterValue (.number numeral) frames
  | .string text => .afterValue (.string text) frames
  | .openBracket => .beforeFirstElement frames
  | .openBrace => .beforeFirstName frames
  | _ => .stuck (closeAll .broken frames)

def openName (before : List Member) (frames : List Frame) : Token → Builder
  | .string name => .beforeColon before name frames
  | _ => .stuck (closeAll (.object ((none, .broken) :: before).reverse) frames)

def separate (value : Json) : List Frame → Token → Builder
  | .array before :: frames, .comma => .beforeValue (.array (value :: before) :: frames)
  | .array before :: frames, .closeBracket => .afterValue (.array (value :: before).reverse) frames
  | .array before :: frames, _ => .stuck (closeAll .broken (.array (value :: before) :: frames))
  | .object before name :: frames, .comma => .beforeName ((name, value) :: before) frames
  | .object before name :: frames, .closeBrace =>
    .afterValue (.object ((name, value) :: before).reverse) frames
  | .object before name :: frames, _ =>
    .stuck (closeAll (.object ((none, .broken) :: (name, value) :: before).reverse) frames)
  | [], _ => .stuck value

def step : Builder → Token → Builder
  | .beforeValue frames, token => openValue frames token
  | .beforeFirstElement frames, .closeBracket => .afterValue (.array []) frames
  | .beforeFirstElement frames, token => openValue (.array [] :: frames) token
  | .beforeFirstName frames, .closeBrace => .afterValue (.object []) frames
  | .beforeFirstName frames, token => openName [] frames token
  | .beforeName before frames, token => openName before frames token
  | .beforeColon before name frames, .colon => .beforeValue (.object before name :: frames)
  | .beforeColon before name frames, _ => .stuck (closeAll .broken (.object before name :: frames))
  | .afterValue value frames, token => separate value frames token
  | .stuck root, _ => .stuck root

end Builder

structure Document where
  root : Json
  complete : Bool

def Builder.finish : Builder → Document
  | .afterValue value [] => { root := value, complete := true }
  | unfinished =>
    match unfinished.step .broken with
    | .stuck root => { root, complete := false }
    | _ => { root := .broken, complete := false }

def Document.ofTokens (tokens : List Token) : Document :=
  (tokens.foldl Builder.step (.beforeValue [])).finish

def Document.read (text : String) : Document := ofTokens (Token.lex text.toList)

end GossipIntake.Json
