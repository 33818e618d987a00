import GossipIntake.Json.Basic

namespace GossipIntake.Json

namespace Render

def escape (c : Char) : List Char :=
  if c = '"' then ['\\', '"']
  else if c = '\\' then ['\\', '\\']
  else if c = '\x08' then ['\\', 'b']
  else if c = '\x0c' then ['\\', 'f']
  else if c = '\n' then ['\\', 'n']
  else if c = '\r' then ['\\', 'r']
  else if c = '\t' then ['\\', 't']
  else if c.toNat < 0x20 then
    ['\\', 'u', '0', '0', Nat.digitChar (c.toNat / 16), Nat.digitChar (c.toNat % 16)]
  else [c]

def string (text : String) : List Char := '"' :: text.toList.flatMap escape ++ ['"']

def power (exponent : Int) : List Char :=
  'e' :: (if exponent < 0 then ['-'] else []) ++ Nat.toDigits 10 exponent.natAbs

def numeral (n : Numeral) : List Char :=
  (if n.negative then ['-'] else []) ++ Nat.toDigits 10 n.whole ++
    (if n.fraction.isEmpty then [] else '.' :: n.fraction) ++
    (match n.exponent with
      | none => []
      | some exponent => power exponent)

end Render

mutual

def chars : Json → List Char
  | .null => ['n', 'u', 'l', 'l']
  | .bool true => ['t', 'r', 'u', 'e']
  | .bool false => ['f', 'a', 'l', 's', 'e']
  | .number n => Render.numeral n
  | .string (some text) => Render.string text
  | .string none => []
  | .array [] => ['[', ']']
  | .array (first :: rest) => '[' :: first.chars ++ charsElements rest
  | .object [] => ['{', '}']
  | .object (first :: rest) => '{' :: charsMember first ++ charsMembers rest
  | .broken => []

def charsElements : List Json → List Char
  | [] => [']']
  | element :: rest => ',' :: element.chars ++ charsElements rest

def charsMembers : List (Option String × Json) → List Char
  | [] => ['}']
  | member :: rest => ',' :: charsMember member ++ charsMembers rest

def charsMember : Option String × Json → List Char
  | (name, value) => Render.string (name.getD "") ++ ':' :: value.chars

end

def render (value : Json) : String := String.ofList value.chars

end GossipIntake.Json
