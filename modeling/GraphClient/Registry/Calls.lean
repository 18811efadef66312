import GraphClient.Codec
import GraphClient.Entries

/-!
Histories of a registry: the calls that were made on a new one, one after the other. A call answers
whether it was carried out, and a call that was not leaves the registry as it is.
-/

namespace GraphClient

variable {ι : Type} [Domains ι]

inductive RegistryCall (ι : Type) [Domains ι] where
  | register (scalar : ScalarType ι) (adapter : Adapter ι)
  | declare (scalar : ScalarType ι)

def RegistryCall.scalar : RegistryCall ι → ScalarType ι
  | register scalar _ => scalar
  | declare scalar => scalar

/-- The scalar and the adapter that the call puts under the name, if it is a registration there that
is carried out: one whose adapter handles the domain type of the scalar. -/
def RegistryCall.installed? (name : String) : RegistryCall ι → Option (ScalarType ι × Adapter ι)
  | register scalar adapter =>
    if scalar.name = name ∧ scalar.domain = adapter.domain then some (scalar, adapter) else none
  | declare _ => none

namespace Registry

/-- What a call answers, and the registry after it. -/
def call (r : Registry ι) : RegistryCall ι → Except ConfigurationError Unit × Registry ι
  | .register scalar adapter =>
    match r.register scalar adapter with
    | .ok r' => (.ok (), r')
    | .error why => (.error why, r)
  | .declare scalar => (.ok (), r.declare scalar)

/-- The registry after calls that were made one after the other. -/
def callAll (r : Registry ι) (calls : List (RegistryCall ι)) : Registry ι :=
  calls.foldl (fun r c => (r.call c).2) r

def ofCalls (calls : List (RegistryCall ι)) : Registry ι := empty.callAll calls

/-- The registration under a name that was carried out last. -/
def lastInstalled? (calls : List (RegistryCall ι)) (name : String) :
    Option (ScalarType ι × Adapter ι) :=
  (calls.filterMap (RegistryCall.installed? name)).getLast?

/-- The adapters under the names of their scalars, put there one after the other. -/
def adaptersByName (r : Registry ι) : Entries (Adapter ι) :=
  Entries.ofList (r.entries.filterMap fun e => e.adapter.map fun a => (e.scalar.name, a))

end Registry

end GraphClient
