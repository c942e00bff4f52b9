import AnnyRuntime.Json.Basic
import Mathlib.Data.List.Infix

/-!
# The Fabric contract

The contract of the repository fabric says which capabilities are granted and which are revoked.
It is read from a file that anybody can write, so its fields hold any JSON value; what the code
does with them is Python's `in` and `set`, which accept more than lists of strings and raise on
the rest.
-/

namespace AnnyRuntime

namespace Fabric

/-- A contract, as `FabricContract.from_dict` builds it: nothing checks the fields. -/
structure FabricContract where
  contractId : Json
  tenantId : Json
  grantedCapabilities : Json
  revokedCapabilities : Json
  deriving DecidableEq

/-- `FabricContract.from_dict`, which raises on anything but a dictionary. -/
def FabricContract.fromDict : Json → Option FabricContract
  | .obj ms =>
    some
      { contractId := (Json.lookup "contract_id" ms).getD (.str "UNKNOWN")
        tenantId := (Json.lookup "tenant_id" ms).getD (.str "UNKNOWN")
        grantedCapabilities := (Json.lookup "granted_capabilities" ms).getD (.arr [])
        revokedCapabilities := (Json.lookup "revoked_capabilities" ms).getD (.arr []) }
  | _ => none

/-- What `read_contract` does: the decoded file, or an exception. -/
abbrev ContractRead := Option Json

/-- The contract of a successful read. -/
def ContractRead.contract (read : ContractRead) : Option FabricContract :=
  Option.bind read FabricContract.fromDict

/-- `x in v` for a string `x`: an element of a list, a part of a string, a key of a dictionary;
anything else raises. -/
def pyIn (x : String) : Json → Option Bool
  | .arr l => some (l.contains (.str x))
  | .str s => some (decide (x.toList <:+: s.toList))
  | .obj ms => some (ms.any fun m => m.1 = x)
  | _ => none

/-- The elements of `set(v)`: those of a list when all can be hashed, the characters of a string,
the keys of a dictionary; anything else raises. -/
def pySet : Json → Option (List Json)
  | .arr l => if l.all Json.hashable then some l else none
  | .str s => some (s.toList.map fun c => .str (String.singleton c))
  | .obj ms => some (ms.map fun m => .str m.1)
  | _ => none

/-- The capability is revoked for the planner, which takes an exception as a no. -/
def ContractRead.revokes (read : ContractRead) (capabilityId : String) : Bool :=
  match read.contract with
  | some c => (pyIn capabilityId c.revokedCapabilities).getD false
  | none => false

end Fabric

end AnnyRuntime
