import Missive.Text.Blank

/-! The channels a notification goes out on. -/

namespace Missive

inductive Channel where
  | email | sms
  deriving DecidableEq, Repr

namespace Channel

def name : Channel → String
  | email => "EMAIL"
  | sms => "SMS"

/-- The channel's element in the paths of the resource tree. -/
def pathSegment : Channel → String
  | email => "email"
  | sms => "sms"

instance : ToString Channel := ⟨name⟩

/-- A text that names no channel, in upper case. -/
structure Unsupported where
  text : String

/-- Reads a channel's name, whatever its (ASCII) case and the white space around it. -/
def parse (text : String) : Except Unsupported Channel :=
  match (Text.strip text).toUpper with
  | "EMAIL" => .ok email
  | "SMS" => .ok sms
  | other => .error ⟨other⟩

end Channel
end Missive
