import Missive.Catalog
import Missive.Template.Json
import Missive.Yaml.Decoder

/-! Catalogs from YAML: a record with a list of templates. -/

namespace Missive.Catalog

open Yaml Yaml.Decoder

def readTemplate (node : Node) : Decoder Template := do
  match ← record Template.fieldNames node with
  | [some scenario, some channel, some locale, subject, some body, footer, contentType] =>
    return {
      scenario := ← text scenario
      channel := ← choiceOf Channel.ofName? channel
      locale := ← text locale
      subject := ← orDefault none optionalText subject
      body := ← text body
      footer := ← orDefault none optionalText footer
      contentType := ← orDefault none optionalText contentType }
  | _ => failure

def readTemplates (node : Node) : Decoder (List Template) := do
  match ← record ["templates"] node with
  | [some templates] => (← items templates).mapM readTemplate
  | _ => failure

/-- The templates of a YAML text. -/
def templatesOfYaml? (text : String) : Option (List Template) :=
  Decoder.ofText? readTemplates text

end Missive.Catalog
