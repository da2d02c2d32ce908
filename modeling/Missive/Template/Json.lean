import Missive.Json.Record
import Missive.Template

/-! The JSON form of templates. -/

namespace Missive

/-- The channel of a name in JSON: upper case only. -/
def Channel.ofName? : String → Option Channel
  | "EMAIL" => some .email
  | "SMS" => some .sms
  | _ => none

namespace Template

def fieldNames : List String :=
  ["scenario", "channel", "locale", "subject", "body", "footer", "content_type"]

/-- Absent fields are left out; an empty text is kept. -/
def toJson (t : Template) : Json.Value :=
  let optional (name : String) (text : Option String) :=
    text.toList.map fun s => (some name, Json.Value.string s)
  .object <|
    [(some "scenario", .string t.scenario), (some "channel", .string t.channel.name),
      (some "locale", .string t.locale)] ++
    optional "subject" t.subject ++ [(some "body", .string t.body)] ++
    optional "footer" t.footer ++ optional "content_type" t.contentType

def ofJson? (v : Json.Value) : Option Template := do
  match ← v.record? fieldNames with
  | [scenario, channel, locale, subject, body, footer, contentType] =>
    return {
      scenario := ← Json.Value.text? scenario
      channel := ← (Json.Value.choice? channel).bind Channel.ofName?
      locale := ← Json.Value.text? locale
      subject := ← Json.Value.optionalText? subject
      body := ← Json.Value.text? body
      footer := ← Json.Value.optionalText? footer
      contentType := ← Json.Value.optionalText? contentType }
  | _ => none

end Template
end Missive
