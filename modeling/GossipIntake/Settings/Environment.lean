import GossipIntake.Text.Blank
import GossipIntake.Text.Word

namespace GossipIntake

structure Environment where
  value? : String → Option ByteArray

namespace Environment

/-- A value that is not UTF-8 counts as unset. -/
def text? (env : Environment) (name : String) : Option String :=
  (env.value? name).bind String.fromUTF8?

/-- The word that a variable is set to, with blanks around it as an option, or `default` if the
    variable is unset or denotes none. -/
def wordOr (env : Environment) (name : String) (default : UInt64) : UInt64 :=
  ((env.text? name).bind fun text => Text.word? (Text.trim text.toList)).getD default

end Environment

end GossipIntake
