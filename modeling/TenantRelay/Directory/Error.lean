import TenantRelay.Instance.Error

/-! What can go wrong in the directory of instances. -/

namespace TenantRelay

inductive DirectoryError where
  | notFound (tenant : String)
  | store (text : String)
  | io (text : String)
  | provision (cause : ProvisionError)
  | compensation (tenant failure cause : String)

namespace DirectoryError

def message : DirectoryError → String
  | notFound tenant => "no instance registered for tenant " ++ tenant
  | store text => "directory store error: " ++ text
  | io text => "I/O error: " ++ text
  | provision cause => cause.message
  | compensation tenant failure cause =>
    "cleanup after failed provisioning of " ++ tenant ++ " failed: " ++ cause ++
      "; original error: " ++ failure

def isRetriable : DirectoryError → Bool
  | notFound _ => false
  | store _ => true
  | io _ => true
  | provision cause => cause.isRetriable
  | compensation _ _ _ => false

def isNotFound : DirectoryError → Bool
  | notFound _ => true
  | _ => false

/-- What lies behind an error, the nearest first. One of the control plane stands for
itself. -/
def causes : DirectoryError → List String
  | io text => [text]
  | provision cause => cause.causes
  | notFound _ => []
  | store _ => []
  | compensation _ _ _ => []

end DirectoryError
end TenantRelay
