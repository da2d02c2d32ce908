/-! Tenants: the organizations whose templates are kept apart, and why one may not be told. -/

namespace Missive

/-- The number that stands for a tenant in stores and caches. -/
structure TenantId where
  value : Int32
  deriving DecidableEq

instance : ToString TenantId := ⟨fun id => toString id.value.toInt⟩

namespace Tenant

inductive Status where
  | active | suspended | deleted
  deriving DecidableEq, Repr

def Status.name : Status → String
  | .active => "active"
  | .suspended => "suspended"
  | .deleted => "deleted"

/-- Why a domain cannot be resolved to a tenant. -/
inductive Error where
  | notFound (domain : String)
  /-- The tenant is suspended or deleted. -/
  | suspended (domain : String)
  | invalidDomain (reason : String)
  | server (reason : String)
  deriving DecidableEq, Repr

def Error.message : Error → String
  | .notFound domain => s!"テナントが見つかりません: {domain}"
  | .suspended domain => s!"テナントは停止中です: {domain}"
  | .invalidDomain reason => s!"テナントドメインが不正です: {reason}"
  | .server reason => s!"サーバーエラー: {reason}"

end Tenant

/-- What the directory knows about a tenant. -/
structure Tenant where
  id : TenantId
  domain : String
  status : Tenant.Status
  deriving DecidableEq

end Missive
