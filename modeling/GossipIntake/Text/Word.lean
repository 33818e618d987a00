namespace GossipIntake.Text

def withoutPlus : List Char → List Char
  | '+' :: rest => rest
  | text => text

def pushDigit? (word : UInt64) (c : Char) : Option UInt64 :=
  if c.isDigit then
    let number := 10 * word.toNat + (c.toNat - '0'.toNat)
    if number < UInt64.size then some (UInt64.ofNat number) else none
  else none

/-- The word that a text denotes: digits, with one plus sign before them as an option. Leading zeros
    do not count, and the first digit that does not fit ends the reading. -/
def word? (text : List Char) : Option UInt64 :=
  match withoutPlus text with
  | [] => none
  | first :: rest => (first :: rest).foldlM pushDigit? 0

end GossipIntake.Text
