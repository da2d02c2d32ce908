import Missive.Channel
import Missive.Identifier.LocaleTag.Lemmas

/-! Locales: accepted tags in canonical form, so that equal locales are equal texts; and the
default locale of each channel. -/

namespace Missive

open Missive.Identifier

/-- An accepted tag in canonical form. -/
structure Locale where
  tag : String
  accepted : LocaleTag.check tag = .ok ()
  canonical : LocaleTag.normalize tag = tag
  deriving DecidableEq

namespace Locale

def parse (text : String) : Except Identifier.Error Locale :=
  match h : LocaleTag.check text with
  | .ok () =>
    .ok ⟨LocaleTag.normalize text, LocaleTag.check_normalize h, LocaleTag.normalize_normalize h⟩
  | .error e => .error e

instance : ToString Locale := ⟨tag⟩

/-- American English, the locale of the built-in templates. -/
def enUs : Locale := ⟨"en-us", by rfl, by decide +kernel⟩

end Locale

/-- The locale that each channel falls back to. -/
structure DefaultLocales where
  email : Locale := .enUs
  sms : Locale := .enUs
  deriving DecidableEq

namespace DefaultLocales

def parse (email sms : String) : Except Identifier.Error DefaultLocales := do
  let email ← Locale.parse email
  let sms ← Locale.parse sms
  return { email, sms }

def forChannel (locales : DefaultLocales) : Channel → Locale
  | .email => locales.email
  | .sms => locales.sms

end DefaultLocales
end Missive
