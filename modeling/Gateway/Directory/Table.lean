import Gateway.Config.Basic
import Gateway.Directory.Basic

/-! Directories that are fixed tables. A registration takes the place of an earlier one of the same key, so
    the last one counts; pods and services do not meet. Listings go by key. -/

namespace Gateway

/-- Records by key, at most one for each. -/
structure Records (α : Type) where
  entries : List (Key × α)

namespace Records

def empty {α : Type} : Records α := ⟨[]⟩

def register {α : Type} (r : Records α) (key : Key) (record : α) : Records α :=
  ⟨(key, record) :: r.entries.filter (·.1 != key)⟩

def find? {α : Type} (r : Records α) (key : Key) : Option α := r.entries.lookup key

/-- The entries of a namespace, or all, in the order of their keys. -/
def listing {α : Type} (r : Records α) (space : Option String) : List (Key × α) :=
  (r.entries.filter fun e => space.all (· == e.1.space)).mergeSort fun a b => a.1.le b.1

end Records

/-- A fixed directory. -/
structure Table where
  pods : Records Pod
  services : Records Service

namespace Table

def empty : Table := ⟨.empty, .empty⟩

def withPod (table : Table) (key : Key) (pod : Pod) : Table := { table with pods := table.pods.register key pod }

def withService (table : Table) (key : Key) (service : Service) : Table :=
  { table with services := table.services.register key service }

/-- The table of a configuration, its entries registered from the first to the last. -/
def ofConfig (config : Config.Directory) : Table :=
  let table := config.pods.foldl (fun t p => t.withPod ⟨p.space, p.name⟩ ⟨p.ip⟩) empty
  config.services.foldl (fun t s => t.withService ⟨s.space, s.name⟩ ⟨s.clusterIp, s.port⟩) table

def directory (table : Table) : Directory where
  pod key := .ok (table.pods.find? key)
  service key := .ok (table.services.find? key)
  pods space := .ok (table.pods.listing space)
  services space := .ok (table.services.listing space)

end Table
end Gateway
