import Missive.Yaml.Decoder

/-! The configuration, read from YAML. Everything but the application's name has a default. -/

namespace Missive

/-- The kinds of stores. -/
inductive StoreKind where
  | table | resourceTree
  deriving DecidableEq, Repr

namespace StoreKind

def name : StoreKind → String
  | table => "table"
  | resourceTree => "resource-tree"

def ofName? : String → Option StoreKind
  | "table" => some table
  | "resource-tree" => some resourceTree
  | _ => none

end StoreKind

structure AppConfig where
  name : String
  version : String := "0.1.0"
  environment : String := "dev"

/-- The format of log lines. -/
inductive LogFormat where
  | text | json
  deriving DecidableEq, Repr

namespace LogFormat

def name : LogFormat → String
  | text => "text"
  | json => "json"

/-- The word `text`, in any case of ASCII letters, asks for text; everything else gives JSON. -/
def parse (s : String) : LogFormat :=
  if s.toLower = "text" then text else json

end LogFormat

structure LoggingConfig where
  format : String := "json"

structure LocaleConfig where
  emailDefault : String := "en-us"
  smsDefault : String := "en-us"

structure CacheConfig where
  enabled : Bool := true
  maxCapacity : Nat := 10000
  ttlSeconds : Nat := 300

structure TenantConfig where
  cacheTtlSeconds : Nat := 300
  cacheMaxCapacity : Nat := 1000

structure Config where
  app : AppConfig
  logging : LoggingConfig := {}
  locale : LocaleConfig := {}
  store : StoreKind := .table
  cache : CacheConfig := {}
  tenant : TenantConfig := {}

namespace Config

open Yaml Yaml.Decoder

def readApp (node : Node) : Decoder AppConfig := do
  match ← record ["name", "version", "environment"] node with
  | [some name, version, environment] =>
    return {
      name := ← text name
      version := ← orDefault "0.1.0" text version
      environment := ← orDefault "dev" text environment }
  | _ => failure

def readLogging (node : Node) : Decoder LoggingConfig := do
  match ← record ["format"] node with
  | [format] => return { format := ← orDefault "json" text format }
  | _ => failure

def readLocale (node : Node) : Decoder LocaleConfig := do
  match ← record ["email_default", "sms_default"] node with
  | [email, sms] =>
    return {
      emailDefault := ← orDefault "en-us" text email
      smsDefault := ← orDefault "en-us" text sms }
  | _ => failure

def readStore (node : Node) : Decoder StoreKind := do
  match ← record ["backend"] node with
  | [backend] => orDefault .table (choiceOf StoreKind.ofName?) backend
  | _ => failure

def readCache (node : Node) : Decoder CacheConfig := do
  match ← record ["enabled", "max_capacity", "ttl_secs"] node with
  | [enabled, maxCapacity, ttl] =>
    return {
      enabled := ← orDefault true bool enabled
      maxCapacity := ← orDefault 10000 nat64 maxCapacity
      ttlSeconds := ← orDefault 300 nat64 ttl }
  | _ => failure

def readTenant (node : Node) : Decoder TenantConfig := do
  match ← record ["cache_ttl_secs", "cache_max_capacity"] node with
  | [ttl, maxCapacity] =>
    return {
      cacheTtlSeconds := ← orDefault 300 nat64 ttl
      cacheMaxCapacity := ← orDefault 1000 nat64 maxCapacity }
  | _ => failure

def decode (node : Node) : Decoder Config := do
  match ← record ["app", "logging", "locale", "store", "cache", "tenant"] node with
  | [some app, logging, locale, store, cache, tenant] =>
    return {
      app := ← readApp app
      logging := ← orDefault {} readLogging logging
      locale := ← orDefault {} readLocale locale
      store := ← orDefault .table readStore store
      cache := ← orDefault {} readCache cache
      tenant := ← orDefault {} readTenant tenant }
  | _ => failure

/-- Reads a configuration from a YAML text. -/
def ofYaml? (text : String) : Option Config := Decoder.ofText? decode text

/-- The store kind of a configuration whose store is given by a YAML value. -/
def storeOfYaml? (value : String) : Option StoreKind :=
  (ofYaml? ("app:\n  name: app\nstore:\n  backend: " ++ value ++ "\n")).map (·.store)

/-- Why a configuration file cannot be used. -/
inductive LoadError where
  | missing
  | notUtf8
  | malformed
  deriving DecidableEq, Repr

/-- Reads a configuration from the contents of a file, if there is one. -/
def ofFile (contents : Option ByteArray) : Except LoadError Config := do
  let some bytes := contents | throw .missing
  let some text := String.fromUTF8? bytes | throw .notUtf8
  let some config := ofYaml? text | throw .malformed
  return config

end Config
end Missive
