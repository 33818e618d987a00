import GossipIntake.Log.Notice
import GossipIntake.Text.Alphanumeric
import GossipIntake.Text.Blank
import GossipIntake.Text.Word

namespace GossipIntake

inductive FilterError where
  | malformed
  | unknownLevel
deriving DecidableEq, Repr

def FilterError.message : FilterError → String
  | .malformed => "invalid filter directive"
  | .unknownLevel =>
    "error parsing level filter: expected one of \"off\", \"error\", \"warn\", \"info\", " ++
      "\"debug\", \"trace\", or a number 0-5"

structure Directive where
  target : Option String
  verbosity : Nat
deriving DecidableEq, Repr

namespace Directive

def named? (text : List Char) : Option Nat :=
  match String.ofList (text.map Char.toLower) with
  | "off" => some 0
  | "error" => some 1
  | "warn" => some 2
  | "info" => some 3
  | "debug" => some 4
  | "trace" => some 5
  | _ => none

def verbosity? (text : List Char) : Option Nat :=
  match Text.word? text with
  | some number => if number ≤ 5 then some number.toNat else none
  | none => named? text

def isStart (c : Char) : Bool := Text.isAlphanumeric c || c == '_' || c == ':' || c == '-'

/-- A text without an equals sign is a level for all components, or else a target that lets everything
    through. -/
def ofPlain (text : List Char) : Directive :=
  match verbosity? text with
  | some verbosity => { target := none, verbosity }
  | none => { target := some (String.ofList text), verbosity := 5 }

def ofLevel (target level : List Char) : Except FilterError Directive :=
  if level.isEmpty then .ok { target := some (String.ofList target), verbosity := 5 }
  else
    match verbosity? level with
    | some verbosity => .ok { target := some (String.ofList target), verbosity }
    | none => .error .unknownLevel

/-- Read a directive. A blank before a target makes the level after it unreadable. -/
def parse (text : List Char) : Except FilterError Directive :=
  if (Text.trim text).head?.any isStart then
    match text.span (· != '=') with
    | (_, []) => .ok (ofPlain text)
    | (target, _ :: level) =>
      if text.head?.any Text.isBlank then .error .unknownLevel else ofLevel target level
  else .error .malformed

def applies (directive : Directive) (notice : Notice) : Bool :=
  match directive.target with
  | none => true
  | some target => notice.target.startsWith target

def specificity (directive : Directive) : Nat :=
  match directive.target with
  | none => 0
  | some target => target.length + 1

end Directive

abbrev Filter := List Directive

namespace Filter

def parse (text : String) : Except FilterError Filter :=
  ((text.splitOn ",").filter fun part => !part.isEmpty).mapM fun part => Directive.parse part.toList

/-- The most specific directive that applies, and of equally specific ones the last. -/
def directive? (filter : Filter) (notice : Notice) : Option Directive :=
  (filter.filter fun directive => directive.applies notice).foldl
    (fun best next =>
      match best with
      | none => some next
      | some held => if held.specificity ≤ next.specificity then some next else some held)
    none

def passes (filter : Filter) (notice : Notice) : Bool :=
  match filter.directive? notice with
  | none => false
  | some directive => notice.level.verbosity ≤ directive.verbosity

end Filter

end GossipIntake
