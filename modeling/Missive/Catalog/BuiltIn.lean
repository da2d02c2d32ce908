import Missive.Catalog

/-! The built-in default templates, all of them in American English. -/

namespace Missive.Catalog

/-- The closing line of the built-in e-mails. -/
def identityFooter : String := "Sent by the \x7b\x7btenant-domain\x7d\x7d identity team"

def builtInTemplates : List Template := [
  { scenario := "password-reset"
    channel := .email
    locale := "en-us"
    contentType := some "text/html"
    subject := some "Reset your \x7b\x7btenant-domain\x7d\x7d password"
    body :=
      "<p>Hi \x7b\x7buser-name\x7d\x7d,</p>\n" ++
      "<p>We received a request to reset the password for your \x7b\x7btenant-domain\x7d\x7d " ++
      "account.\n" ++
      "Use the link below to choose a new password:</p>\n" ++
      "<p><a href=\"\x7b\x7bconfirmation-url\x7d\x7d\">Reset password</a></p>\n" ++
      "<p>If you did not request a password reset, you can ignore this email.</p>\n"
    footer := some identityFooter },
  { scenario := "account-confirmation"
    channel := .email
    locale := "en-us"
    contentType := some "text/html"
    subject := some "Confirm your \x7b\x7btenant-domain\x7d\x7d account"
    body :=
      "<p>Hi \x7b\x7buser-name\x7d\x7d,</p>\n" ++
      "<p>Please confirm your account by following the link below:</p>\n" ++
      "<p><a href=\"\x7b\x7bconfirmation-url\x7d\x7d\">Confirm account</a></p>\n"
    footer := some identityFooter },
  { scenario := "account-lock"
    channel := .email
    locale := "en-us"
    contentType := some "text/html"
    subject := some "Your \x7b\x7btenant-domain\x7d\x7d account has been locked"
    body :=
      "<p>Hi \x7b\x7buser-name\x7d\x7d,</p>\n" ++
      "<p>Your account was locked after too many failed sign-in attempts.\n" ++
      "Contact your administrator to unlock it.</p>\n"
    footer := some identityFooter },
  { scenario := "account-unlock"
    channel := .email
    locale := "en-us"
    contentType := some "text/html"
    subject := some "Your \x7b\x7btenant-domain\x7d\x7d account has been unlocked"
    body :=
      "<p>Hi \x7b\x7buser-name\x7d\x7d,</p>\n" ++
      "<p>Your account has been unlocked. You can sign in again.</p>\n"
    footer := some identityFooter },
  { scenario := "ask-password"
    channel := .email
    locale := "en-us"
    contentType := some "text/html"
    subject := some "Set a password for your \x7b\x7btenant-domain\x7d\x7d account"
    body :=
      "<p>Hi \x7b\x7buser-name\x7d\x7d,</p>\n" ++
      "<p>An account has been created for you. Set your password to get started:</p>\n" ++
      "<p><a href=\"\x7b\x7bconfirmation-url\x7d\x7d\">Set password</a></p>\n"
    footer := some identityFooter },
  { scenario := "email-otp"
    channel := .email
    locale := "en-us"
    contentType := some "text/plain"
    subject := some "Your \x7b\x7btenant-domain\x7d\x7d verification code"
    body :=
      "Your one-time verification code is \x7b\x7botp-token\x7d\x7d. It expires in " ++
      "\x7b\x7botp-expiry-time\x7d\x7d minutes." },
  .sms "password-reset" "en-us"
    ("Your \x7b\x7btenant-domain\x7d\x7d password reset code is " ++
    "\x7b\x7bconfirmation-code\x7d\x7d."),
  .sms "sms-otp" "en-us"
    ("Your one-time verification code is \x7b\x7botp-token\x7d\x7d. It expires in " ++
    "\x7b\x7botp-expiry-time\x7d\x7d minutes."),
  .sms "account-confirmation" "en-us"
    ("Confirm your \x7b\x7btenant-domain\x7d\x7d account with the code " ++
    "\x7b\x7bconfirmation-code\x7d\x7d.")]

/-- Why the built-in templates make no catalog: the configured default locales do not suit them. -/
structure BuiltInFailure where
  configured : DefaultLocales
  cause : Failure

def BuiltInFailure.message (e : BuiltInFailure) : String :=
  s!"built-in default templates are provided in '{Locale.enUs}' only " ++
    s!"(configured email '{e.configured.email}', sms '{e.configured.sms}'): {e.cause.message}"

/-- The catalog of the built-in templates. -/
def builtIn (locales : DefaultLocales) : Except BuiltInFailure Catalog :=
  (ofTemplates locales builtInTemplates).mapError fun cause => { configured := locales, cause }

end Missive.Catalog
