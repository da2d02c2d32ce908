import Missive.Dictionary
import Missive.Json.Record
import Missive.Store.Call
import Missive.Store.PathMap
import Missive.Store.Tables

/-! The resource-tree store: a tree for each tenant, with a collection for each registered scenario
and the template records below it:

```text
/identity/<channel>/<scenario key>                            the scenario
/identity/<channel>/<scenario key>/<locale>                   a template of the organization
/identity/<channel>/<scenario key>/apps/<application>/<locale>  a template of an application
```

A record keeps its texts as a JSON array: subject, body and footer for e-mail, the body alone for
SMS. -/

namespace Missive.Store

inductive Node where
  | collection (displayName : String)
  | record (displayName locale : String) (contentType : Option String) (content : String)
  deriving DecidableEq, Repr

namespace Node

def displayName : Node → String
  | collection name => name
  | record name .. => name

def isRecord : Node → Bool
  | collection _ => false
  | record .. => true

/-- The texts that are kept in the content; an absent one is kept as the empty text. -/
def texts (t : Template) : List String :=
  match t.channel with
  | .email => [t.subject.getD "", t.body, t.footer.getD ""]
  | .sms => [t.body]

/-- The record of a template under the display name of its scenario. -/
def encode (t : Template) (displayName : String) : Node :=
  record displayName t.locale t.contentType (Json.Value.array ((texts t).map .string)).render

/-- The texts of a record's content. -/
def readTexts? (content : String) : Option (List String) :=
  match Json.Value.parse? content with
  | some (.array items) => items.mapM fun v => Json.Value.text? (some v)
  | _ => none

def nonEmpty? (s : String) : Option String := if s = "" then none else some s

/-- The template of a node at a path; an empty subject or footer counts as absent. -/
def decode (path : Path) (channel : Channel) (node : Node) : Except Error Template :=
  let corrupted (reason : String) : Except Error Template :=
    .error (.corrupted (String.ofList path) reason)
  match node with
  | collection _ => corrupted "resource has no content"
  | record scenario locale contentType content =>
    match readTexts? content, channel with
    | none, _ => corrupted "content is not an array of texts"
    | some [subject, body, footer], .email =>
      .ok { scenario, channel, locale, subject := nonEmpty? subject, body,
            footer := nonEmpty? footer, contentType }
    | some parts, .email =>
      corrupted s!"expected 3 content parts for EMAIL, got {parts.length}"
    | some [body], .sms => .ok { scenario, channel, locale, body }
    | some parts, .sms => corrupted s!"expected 1 content part for SMS, got {parts.length}"

end Node

abbrev Tree := PathMap Node

namespace Tree

/-- What all scenarios of a channel lie below. -/
def channelRoot (channel : Channel) : Path :=
  "/identity/".toList ++ channel.pathSegment.toList ++ ['/']

def scenarioPath (channel : Channel) (key : String) : Path :=
  channelRoot channel ++ key.toList

/-- What the templates of a scenario in one scope lie below. -/
def scopePath (channel : Channel) (key : String) (application : Option String) : Path :=
  match application with
  | none => scenarioPath channel key ++ ['/']
  | some app => scenarioPath channel key ++ "/apps/".toList ++ app.toList ++ ['/']

def recordPath (channel : Channel) (key : String) (application : Option String)
    (locale : String) : Path :=
  scopePath channel key application ++ locale.toList

def positionPath (p : Position) : Path :=
  recordPath p.channel p.scenario.key p.scope.applicationText p.locale.tag

/-- The records right below a path that ends with a slash. -/
def recordsBelow (tree : Tree) (start : Path) : List (Path × Node) :=
  (tree.children start).filter (·.2.isRecord)

/-- The templates right below a path that ends with a slash. -/
def templatesBelow (tree : Tree) (channel : Channel) (start : Path) :
    Except Error (List Template) :=
  (tree.recordsBelow start).mapM fun e => e.2.decode e.1 channel

/-- The scenario collections of a channel. -/
def collections (tree : Tree) (channel : Channel) : List (Path × Node) :=
  (tree.children (channelRoot channel)).filter (!·.2.isRecord)

def read (tree : Tree) (p : Position) : Except Error (Option Template) :=
  let path := positionPath p
  match tree.get? path with
  | some node => if node.isRecord then (node.decode path p.channel).map some else .ok none
  | none => .ok none

/-- The record is stored under the display name found at its scenario's path. -/
def write (tree : Tree) (t : Template) (application : Option String) : Except Error Tree :=
  match tree.get? (scenarioPath t.channel t.scenarioKey) with
  | none => .error (.unknownScenario t.scenario)
  | some node =>
    .ok (tree.put (recordPath t.channel t.scenarioKey application t.locale)
      (.encode t node.displayName))

/-- Registers a scenario unless something is at its path. -/
def add (tree : Tree) (s : Scenario) (channel : Channel) : Tree :=
  let path := scenarioPath channel s.key
  if tree.contains path then tree else tree.put path (.collection s.displayName)

/-- Removes what is at a scenario's path and everything below it. -/
def remove (tree : Tree) (s : Scenario) (channel : Channel) : Tree :=
  let path := scenarioPath channel s.key
  (tree.erase path).retain fun p => !(path ++ ['/']).isPrefixOf p

end Tree

/-- The trees of all tenants. -/
abbrev Forest := Dictionary TenantId Tree

namespace Forest

def tree (f : Forest) (tenant : TenantId) : Tree := (f.get? tenant).getD ∅

/-- How the trees answer. -/
def backend : Backend Forest
  | .read p, f => ((f.tree p.scope.tenant).read p, f)
  | .write t scope, f =>
    match (f.tree scope.tenant).write t scope.applicationText with
    | .ok tree => (.ok (), f.put scope.tenant tree)
    | .error e => (.error e, f)
  | .delete p, f =>
    let tree := f.tree p.scope.tenant
    let path := Tree.positionPath p
    (.ok (tree.contains path), f.put p.scope.tenant (tree.erase path))
  | .list s channel scope, f =>
    ((f.tree scope.tenant).templatesBelow channel
      (Tree.scopePath channel s.key scope.applicationText), f)
  | .listAll channel tenant, f =>
    let tree := f.tree tenant
    (((tree.collections channel).mapM fun e => tree.templatesBelow channel (e.1 ++ ['/'])).map
      List.flatten, f)
  | .deleteAll s channel scope, f =>
    let tree := f.tree scope.tenant
    let found := tree.recordsBelow (Tree.scopePath channel s.key scope.applicationText)
    (.ok found.length,
      f.put scope.tenant (tree.retain fun p => !found.any (·.1 = p)))
  | .add s channel tenant, f => (.ok (), f.put tenant ((f.tree tenant).add s channel))
  | .isRegistered s channel tenant, f =>
    (.ok ((f.tree tenant).contains (Tree.scenarioPath channel s.key)), f)
  | .listScenarios channel tenant, f =>
    (.ok (((f.tree tenant).collections channel).map (·.2.displayName)), f)
  | .remove s channel tenant, f =>
    let tree := f.tree tenant
    if tree.contains (Tree.scenarioPath channel s.key) then
      (.ok true, f.put tenant (tree.remove s channel))
    else (.ok false, f)

end Forest

/-- A store of either kind. -/
inductive AnyStore where
  | tables (t : Tables)
  | forest (f : Forest)

namespace AnyStore

def backend : Backend AnyStore
  | call, tables t =>
    let (answer, t) := Tables.backend call t
    (answer, tables t)
  | call, forest f =>
    let (answer, f) := Forest.backend call f
    (answer, forest f)

end AnyStore
end Missive.Store
