import Missive.Dictionary
import Missive.Locale
import Missive.Program
import Missive.Scenario
import Missive.Template
import Missive.Tenant

/-! Cached results. Each tenant has a cache of its own, which counts its invalidations: a result
that was looked up before an invalidation is refused when it comes in after it. A tenant's cache may
be given up; whoever holds it goes on with it, while others find a new one. -/

namespace Missive

/-- How much a cache keeps, and for how long. -/
structure Retention where
  capacity : Nat
  ttlSeconds : Nat
  deriving DecidableEq, Repr

namespace Retention

/-- Nothing is ever kept. -/
def none : Retention := ⟨0, 0⟩

/-- With no room or no time to live, an entry is gone as soon as it is made. -/
def keepsEntries (r : Retention) : Bool := r.capacity ≠ 0 && r.ttlSeconds ≠ 0

end Retention

/-- The place of a cached result: what was asked for, and in which locale. -/
structure Slot where
  key : TemplateKey
  locale : Locale
  deriving DecidableEq

/-- The results of one key, by the locale that was asked for. -/
abbrev Snapshot := Dictionary Locale Template

/-- The cached results of one tenant. -/
structure Cache where
  /-- The number of invalidations so far. It is taken for granted that there are fewer than 2^64. -/
  epoch : Nat := 0
  snapshots : Dictionary TemplateKey Snapshot := ∅

namespace Cache

/-- Taken before a result is looked up: the number of invalidations by then. -/
structure Ticket where
  epoch : Nat
  deriving DecidableEq, Repr

/-- What is done with a cache. -/
inductive Op where
  | get (slot : Slot)
  | ticket
  | put (slot : Slot) (template : Template)
  /-- Puts a result unless there was an invalidation since the ticket; tells whether it did. -/
  | fill (ticket : Ticket) (slot : Slot) (template : Template)
  /-- Drops the results of a key in all locales. -/
  | invalidate (key : TemplateKey)
  /-- Drops the results of a scenario key and channel, in the organization and all applications. -/
  | invalidateScenario (scenario : String) (channel : Channel)
  deriving DecidableEq

@[reducible] def Op.Reply : Op → Type
  | get _ => Option Template
  | ticket => Ticket
  | put .. => Unit
  | fill .. => Bool
  | invalidate _ => Unit
  | invalidateScenario .. => Unit

def get (c : Cache) (slot : Slot) : Option Template :=
  (c.snapshots.get? slot.key).bind (·.get? slot.locale)

def issue (c : Cache) : Ticket := ⟨c.epoch⟩

/-- Puts a result, if the cache keeps anything at all: a copy of the key's snapshot, with the result
in it, takes its place. -/
def put (keeps : Bool) (c : Cache) (slot : Slot) (t : Template) : Cache :=
  if keeps then
    let snapshot := (c.snapshots.get? slot.key).getD ∅
    { c with snapshots := c.snapshots.put slot.key (snapshot.put slot.locale t) }
  else c

def fill (keeps : Bool) (c : Cache) (ticket : Ticket) (slot : Slot) (t : Template) :
    Bool × Cache :=
  if c.epoch = ticket.epoch then (true, c.put keeps slot t) else (false, c)

/-- One more invalidation, which drops the snapshots of the given keys. -/
def drop (c : Cache) (dropped : TemplateKey → Bool) : Cache where
  epoch := c.epoch + 1
  snapshots := c.snapshots.retain fun key _ => !dropped key

def invalidate (c : Cache) (key : TemplateKey) : Cache := c.drop (· = key)

def invalidateScenario (c : Cache) (scenario : String) (channel : Channel) : Cache :=
  c.drop fun k => k.scenario = scenario ∧ k.channel = channel

def answer (keeps : Bool) : Program.Handler Op Op.Reply Cache
  | .get slot, c => (c.get slot, c)
  | .ticket, c => (c.issue, c)
  | .put slot t, c => ((), c.put keeps slot t)
  | .fill ticket slot t, c => c.fill keeps ticket slot t
  | .invalidate key, c => ((), c.invalidate key)
  | .invalidateScenario scenario channel, c => ((), c.invalidateScenario scenario channel)

end Cache

/-- One of the caches that a tenant has had. -/
structure Handle where
  tenant : TenantId
  number : Nat
  deriving DecidableEq

/-- The caches of all tenants. -/
structure Caches where
  retention : Retention
  /-- How many caches there have been. -/
  made : Nat := 0
  /-- The number of the cache that a tenant is known to have. -/
  registered : Dictionary TenantId Nat := ∅
  /-- All caches that have been made. One that is no longer registered may still be held. -/
  contents : Dictionary Handle Cache := ∅

namespace Caches

/-- Without a time to live a tenant's cache is forgotten as soon as it has been looked up, and with
it the count of its invalidations; otherwise two look-ups give the same cache. -/
def keepsPartitions (c : Caches) : Bool := c.retention.ttlSeconds ≠ 0

def content (c : Caches) (h : Handle) : Cache := (c.contents.get? h).getD {}

/-- A new cache for a tenant. -/
def make (c : Caches) (tenant : TenantId) : Handle × Caches :=
  (⟨tenant, c.made⟩, { c with
    made := c.made + 1
    registered := if c.keepsPartitions then c.registered.put tenant c.made else c.registered
    contents := c.contents.put ⟨tenant, c.made⟩ {} })

/-- Looks a tenant's cache up, which is made if there is none. -/
def hold (c : Caches) (tenant : TenantId) : Handle × Caches :=
  match c.registered.get? tenant with
  | some number => (⟨tenant, number⟩, c)
  | none => c.make tenant

/-- Does something with a cache that is held, registered or not. -/
def use (c : Caches) (h : Handle) (op : Cache.Op) : op.Reply × Caches :=
  let (reply, cache) := Cache.answer c.retention.keepsEntries op (c.content h)
  (reply, { c with contents := c.contents.put h cache })

/-- What is asked of the caches. -/
inductive Query where
  /-- A tenant's cache is looked up for one thing alone, which is done with it at once. -/
  | once (tenant : TenantId) (op : Cache.Op)
  /-- A tenant's cache is looked up, for what is to be done with it later. -/
  | hold (tenant : TenantId)
  | held (handle : Handle) (op : Cache.Op)
  deriving DecidableEq

@[reducible] def Query.Reply : Query → Type
  | once _ op => op.Reply
  | hold _ => Handle
  | held _ op => op.Reply

def answer : Program.Handler Query Query.Reply Caches
  | .once tenant op, c =>
    let (h, c) := c.hold tenant
    c.use h op
  | .hold tenant, c => c.hold tenant
  | .held h op, c => c.use h op

end Caches
end Missive
