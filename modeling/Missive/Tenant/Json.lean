import Missive.Json.Record
import Missive.Tenant

/-! The JSON form of tenants. -/

namespace Missive.Tenant

def Status.ofName? : String → Option Status
  | "active" => some .active
  | "suspended" => some .suspended
  | "deleted" => some .deleted
  | _ => none

def fieldNames : List String := ["id", "domain", "status"]

def toJson (t : Tenant) : Json.Value :=
  .object [(some "id", .integer t.id.value.toInt), (some "domain", .string t.domain),
    (some "status", .string t.status.name)]

def ofJson? (v : Json.Value) : Option Tenant := do
  match ← v.record? fieldNames with
  | [id, domain, status] =>
    return {
      id := ⟨← Json.Value.int32? id⟩
      domain := ← Json.Value.text? domain
      status := ← (Json.Value.choice? status).bind Status.ofName? }
  | _ => none

end Missive.Tenant
