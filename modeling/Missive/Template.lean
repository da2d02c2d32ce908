import Missive.Failure
import Missive.Identifier.LocaleTag
import Missive.Identifier.ScenarioName
import Missive.Text.Occurrence

/-! Notification templates: the text for one scenario, channel and locale. -/

namespace Missive

open Missive.Identifier

/-- Subject, footer and content type belong to e-mail. The identifiers are kept as they were given;
`validateForWrite` says which templates may be stored. -/
structure Template where
  scenario : String
  channel : Channel
  locale : String
  subject : Option String := none
  body : String
  footer : Option String := none
  contentType : Option String := none
  deriving DecidableEq

namespace Template

def email (scenario locale subject body : String) : Template :=
  { scenario, channel := .email, locale, subject := some subject, body }

def sms (scenario locale body : String) : Template :=
  { scenario, channel := .sms, locale, body }

def withFooter (t : Template) (footer : String) : Template := { t with footer := some footer }

def withContentType (t : Template) (contentType : String) : Template :=
  { t with contentType := some contentType }

def scenarioKey (t : Template) : String := ScenarioName.key t.scenario

/-- The body is more than white space. -/
def hasContent (t : Template) : Bool := !Text.onlyBlank t.body

/-- The rule for subject, footer and content type on each channel. -/
def checkChannelFields (t : Template) : Except InputFault Unit :=
  match t.channel with
  | .email =>
    if t.subject.all Text.onlyBlank then .error .blankSubject else .ok ()
  | .sms =>
    if t.subject.isSome then .error (.notForSms "subject")
    else if t.footer.isSome then .error (.notForSms "footer")
    else if t.contentType.isSome then .error (.notForSms "content_type")
    else .ok ()

/-- What a template must satisfy to be stored; the first fault in the order scenario, locale, body,
channel fields is reported. -/
def validateForWrite (t : Template) : Except Failure Unit := do
  (ScenarioName.check t.scenario).mapError .ofIdentifier
  (LocaleTag.check t.locale).mapError .ofIdentifier
  if !t.hasContent then throw (.invalidInput .blankBody)
  t.checkChannelFields.mapError .invalidInput

/-- The identifiers in the form in which they are stored: the scenario's display name without white
space around it, the locale in canonical form. -/
def normalized (t : Template) : Template :=
  { t with scenario := Text.strip t.scenario, locale := LocaleTag.normalize t.locale }

/-- Whether a content type names a character set, in any case. -/
def namesCharset (contentType : String) : Bool :=
  Text.occursIn "charset".toList (Text.lowerChars contentType.toList)

/-- An e-mail's content type that names no character set is completed with UTF-8. -/
def withUtf8Charset (t : Template) : Template :=
  match t.channel, t.contentType with
  | .email, some contentType =>
    if namesCharset contentType then t
    else { t with contentType := some (contentType ++ "; charset=UTF-8") }
  | _, _ => t

end Template
end Missive
