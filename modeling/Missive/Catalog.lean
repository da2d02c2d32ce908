import Missive.Locale
import Missive.Scenario
import Missive.Template

/-! The catalog of default templates: at most one for each scenario and channel, in the channel's
default locale, the same for all tenants. -/

namespace Missive

/-- The templates of a catalog, in the order in which they were given. -/
structure Catalog where
  templates : List Template
  deriving DecidableEq

namespace Catalog

def empty : Catalog := ⟨[]⟩

/-- What the catalog knows a template by. -/
def slot (t : Template) : Channel × String := (t.channel, t.scenarioKey)

/-- Adds a template, after the checks of a write, unless it is not in its channel's default locale
or its place is taken. -/
def insert (locales : DefaultLocales) (c : Catalog) (t : Template) : Except Failure Catalog := do
  let t := t.normalized
  t.validateForWrite
  let default := (locales.forChannel t.channel).tag
  if t.locale ≠ default then
    throw (.invalidInput (.notInDefaultLocale t.scenario t.channel default t.locale))
  if c.templates.any (slot · = slot t) then
    throw (.invalidInput (.duplicateDefault t.scenario t.channel))
  return ⟨c.templates ++ [t]⟩

/-- The catalog of a list of templates, or the first fault in it. -/
def ofTemplates (locales : DefaultLocales) (ts : List Template) : Except Failure Catalog :=
  ts.foldlM (insert locales) empty

def get? (c : Catalog) (s : Scenario) (channel : Channel) : Option Template :=
  c.templates.find? (slot · = (channel, s.key))

def contains (c : Catalog) (s : Scenario) (channel : Channel) : Bool :=
  (c.get? s channel).isSome

def forChannel (c : Catalog) (channel : Channel) : List Template :=
  c.templates.filter (·.channel = channel)

def scenarioNames (c : Catalog) (channel : Channel) : List String :=
  (c.forChannel channel).map Template.scenario

def size (c : Catalog) : Nat := c.templates.length

end Catalog
end Missive
