import Gateway.Config.Rules
import Gateway.Directory.Table
import Gateway.Proofs.Directory.Resolving

/-! What a table resolves to stands in the configuration. An address that a target is resolved to is that of an entry with
    the namespace and the name of the target, and in an accepted configuration it is the text of an internet address. -/

namespace Gateway

namespace Records
variable {α : Type} {r : Records α} {key : Key} {record : α}

theorem mem_of_find? (h : r.find? key = some record) : (key, record) ∈ r.entries := by
  obtain ⟨front, back, hentries, -⟩ := List.lookup_eq_some_iff.mp h
  rw [hentries]
  simp

theorem mem_register {e : Key × α} (h : e ∈ (r.register key record).entries) : e = (key, record) ∨ e ∈ r.entries := by
  rcases List.mem_cons.mp h with h | h
  · exact Or.inl h
  · exact Or.inr (List.mem_filter.mp h).1

/-- What is found after some registrations was there before or has been registered. -/
theorem mem_foldl_register {β : Type} {keyOf : β → Key} {recordOf : β → α} {xs : List β} {e : Key × α}
    (h : e ∈ (xs.foldl (fun r x => r.register (keyOf x) (recordOf x)) r).entries) :
    e ∈ r.entries ∨ ∃ x ∈ xs, e = (keyOf x, recordOf x) := by
  induction xs generalizing r with
  | nil => exact Or.inl h
  | cons x xs ih =>
    rcases ih h with h | ⟨y, hy, he⟩
    · rcases mem_register h with h | h
      · exact Or.inr ⟨x, List.mem_cons_self, h⟩
      · exact Or.inl h
    · exact Or.inr ⟨y, List.mem_cons_of_mem _ hy, he⟩

end Records

namespace Table

theorem foldl_withPod (pods : List Config.Pod) (table : Table) :
    pods.foldl (fun t p => t.withPod ⟨p.space, p.name⟩ ⟨p.ip⟩) table =
      { table with pods := pods.foldl (fun r p => r.register ⟨p.space, p.name⟩ ⟨p.ip⟩) table.pods } := by
  induction pods generalizing table with
  | nil => rfl
  | cons p pods ih => exact ih _

theorem foldl_withService (services : List Config.Service) (table : Table) :
    services.foldl (fun t s => t.withService ⟨s.space, s.name⟩ ⟨s.clusterIp, s.port⟩) table =
      { table with
        services := services.foldl (fun r s => r.register ⟨s.space, s.name⟩ ⟨s.clusterIp, s.port⟩) table.services } := by
  induction services generalizing table with
  | nil => rfl
  | cons s services ih => exact ih _

section
variable {config : Config.Directory} {key : Key}

theorem pod_of_find? {pod : Pod} (h : (ofConfig config).pods.find? key = some pod) :
    ∃ p ∈ config.pods, key = ⟨p.space, p.name⟩ ∧ pod.ip = p.ip := by
  rw [ofConfig, foldl_withService, foldl_withPod] at h
  rcases Records.mem_foldl_register (Records.mem_of_find? h) with hempty | ⟨p, hp, heq⟩
  · cases hempty
  · obtain ⟨rfl, rfl⟩ := Prod.mk.inj heq
    exact ⟨p, hp, rfl, rfl⟩

theorem service_of_find? {service : Service} (h : (ofConfig config).services.find? key = some service) :
    ∃ s ∈ config.services, key = ⟨s.space, s.name⟩ ∧ service.clusterIp = s.clusterIp ∧ service.port = s.port := by
  rw [ofConfig, foldl_withService, foldl_withPod] at h
  rcases Records.mem_foldl_register (Records.mem_of_find? h) with hempty | ⟨s, hs, heq⟩
  · cases hempty
  · obtain ⟨rfl, rfl⟩ := Prod.mk.inj heq
    exact ⟨s, hs, rfl, rfl, rfl⟩

end
end Table

namespace Config

theorem isIpAddress_of_violations {field : String} {ip : Option String} (h : ipViolations field ip = []) {text : String}
    (hip : ip = some text) : isIpAddress text = true := by
  subst hip
  refine Classical.byContradiction fun hno => ?_
  simp [ipViolations, Violation.when, hno] at h

theorem exists_mem_zipIdx {α : Type} {xs : List α} {x : α} (h : x ∈ xs) : ∃ i, (x, i) ∈ xs.zipIdx := by
  obtain ⟨i, hi⟩ := List.mem_iff_getElem?.mp h
  exact ⟨i, List.mem_zipIdx_iff_getElem?.mpr hi⟩

/-- In an accepted table all addresses are texts of internet addresses. -/
theorem isIpAddress_of_accepted {config : Config} (h : config.violations = []) (hkind : config.directory.kind = .table) :
    (∀ p ∈ config.directory.pods, ∀ ip, p.ip = some ip → isIpAddress ip = true) ∧
      ∀ s ∈ config.directory.services, ∀ ip, s.clusterIp = some ip → isIpAddress ip = true := by
  have hdirectory : config.directory.violations = [] := by
    simp only [violations, List.append_eq_nil_iff] at h
    exact h.1.1.2
  rw [Directory.violations, hkind] at hdirectory
  obtain ⟨hpods, hservices⟩ := List.append_eq_nil_iff.mp hdirectory
  refine ⟨fun p hp ip hip => ?_, fun s hs ip hip => ?_⟩
  · obtain ⟨i, hi⟩ := exists_mem_zipIdx hp
    exact isIpAddress_of_violations (List.flatMap_eq_nil_iff.mp hpods (p, i) hi) hip
  · obtain ⟨i, hi⟩ := exists_mem_zipIdx hs
    exact isIpAddress_of_violations (List.append_eq_nil_iff.mp (List.flatMap_eq_nil_iff.mp hservices (s, i) hi)).1 hip

end Config

/-- The entry of a directory that a target is resolved by, with its address. -/
inductive Config.Directory.Lists (config : Config.Directory) (target : Target) (address : Address) : Prop
  | pod (p : Config.Pod) (mem : p ∈ config.pods) (kind : target.kind = .pod) (space : p.space = target.space)
    (name : p.name = target.name) (ip : p.ip = some address.host)
    (port : Resolution.port? (target.port.getD "") = some address.port)
  | service (s : Config.Service) (mem : s ∈ config.services) (kind : target.kind = .service)
    (space : s.space = target.space) (name : s.name = target.name) (ip : s.clusterIp = some address.host)
    (port : s.port = some address.port)

/-- What a target is resolved to by a table stands in the configuration. -/
theorem Table.lists_of_resolve {config : Config.Directory} {target : Target} {address : Address}
    (h : (ofConfig config).directory.resolve target = .ok address) : config.Lists target address := by
  rcases Directory.resolve_eq_ok_iff.mp h with
    ⟨hkind, hport, pod, hpod, hhost⟩ | ⟨hkind, service, hservice, hhost, hport⟩
  · obtain ⟨p, hp, hkey, hip⟩ := pod_of_find? (Except.ok.inj hpod)
    obtain ⟨hspace, hname⟩ := Key.mk.inj hkey
    exact .pod p hp hkind hspace.symm hname.symm (hip ▸ (Resolution.host?_eq_some_iff.mp hhost).1) hport
  · obtain ⟨s, hs, hkey, hip, hsport⟩ := service_of_find? (Except.ok.inj hservice)
    obtain ⟨hspace, hname⟩ := Key.mk.inj hkey
    exact .service s hs hkind hspace.symm hname.symm (hip ▸ (Resolution.host?_eq_some_iff.mp hhost).1)
      (hsport ▸ (Option.filter_eq_some_iff.mp hport).1)

/-- In an accepted configuration it is the text of an internet address. -/
theorem Config.Directory.Lists.isIpAddress {config : Config} {target : Target} {address : Address}
    (h : config.directory.Lists target address) (hvalid : config.violations = [])
    (hkind : config.directory.kind = .table) : ∃ ip, Net.IpAddress.ofText? address.host = some ip := by
  obtain ⟨hpods, hservices⟩ := Config.isIpAddress_of_accepted hvalid hkind
  cases h with
  | pod p mem _ _ _ ip _ => exact Option.isSome_iff_exists.mp (hpods p mem _ ip)
  | service s mem _ _ _ ip _ => exact Option.isSome_iff_exists.mp (hservices s mem _ ip)

end Gateway
