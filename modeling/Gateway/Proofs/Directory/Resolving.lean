import Gateway.Directory.Resolution
import Gateway.Proofs.Results

/-! Resolving. Whether a target has an address is up to the directory's answer to one lookup, and for a pod first to the
    port of the path. A path without a port is told before the directory is asked, a failing directory before a missing
    backend; where neither is the case and nothing is missing there is an address. -/

namespace Gateway

/-- The key that a directory is asked for. -/
def Target.key (target : Target) : Key := ⟨target.space, target.name⟩

/-- The path to a pod names no port. -/
def Target.IsPortless (target : Target) : Prop :=
  target.kind = .pod ∧ Resolution.port? (target.port.getD "") = none

/-- An address that nothing can be sent to: none, an empty one, or the word for none. -/
def Resolution.IsNone (ip : Option String) : Prop := ip = none ∨ ip = some "" ∨ ip = some "None"

theorem Resolution.host?_eq_none_iff {ip : Option String} : host? ip = none ↔ IsNone ip := by
  cases ip with
  | none => simp [host?, IsNone]
  | some ip => simp [host?, IsNone, Option.filter_eq_none_iff, Decidable.or_iff_not_imp_left]

theorem Resolution.host?_eq_some_iff {ip : Option String} {host : String} :
    host? ip = some host ↔ ip = some host ∧ host ≠ "" ∧ host ≠ "None" := by
  rw [host?, Option.filter_eq_some_iff]
  simp

namespace Directory
variable (directory : Directory) (target : Target)

/-- The directory cannot answer for a target. -/
def Fails (reason : String) : Prop :=
  (target.kind = .pod ∧ directory.pod target.key = .error reason) ∨
    (target.kind = .service ∧ directory.service target.key = .error reason)

/-- The directory knows nothing of a target, or no address, or of a service no port. -/
def Lacks : Prop :=
  (target.kind = .pod ∧ (directory.pod target.key = .ok none ∨
    ∃ pod, directory.pod target.key = .ok (some pod) ∧ Resolution.IsNone pod.ip)) ∨
  (target.kind = .service ∧ (directory.service target.key = .ok none ∨
    ∃ service, directory.service target.key = .ok (some service) ∧
      (Resolution.IsNone service.clusterIp ∨ service.port = none ∨ service.port = some 0)))

variable {directory target}

/-- A pod whose path names a port is looked up. -/
theorem resolve_pod {port : UInt16} (hkind : target.kind = .pod)
    (hport : Resolution.port? (target.port.getD "") = some port) : directory.resolve target = do
      let pod ← found (.notFound .pod target.key) (directory.pod target.key)
      let host ← (Resolution.host? pod.ip).elim (.error (.notFound .pod target.key)) .ok
      return ⟨host, port⟩ := by
  simp only [resolve, hkind, hport]
  rfl

theorem resolve_service (hkind : target.kind = .service) : directory.resolve target = do
    let service ← found (.notFound .service target.key) (directory.service target.key)
    let host ← (Resolution.host? service.clusterIp).elim (.error (.notFound .service target.key)) .ok
    let port ← (service.port.filter (· != 0)).elim (.error (.notFound .service target.key)) .ok
    return ⟨host, port⟩ := by
  simp only [resolve, hkind]
  rfl

theorem resolve_portless (h : target.IsPortless) :
    directory.resolve target = .error (.invalidPort (target.port.getD "")) := by
  obtain ⟨hkind, hport⟩ := h
  simp only [resolve, hkind, hport]
  rfl

theorem resolve_fails {reason : String} (hport : ¬ target.IsPortless) (h : directory.Fails target reason) :
    directory.resolve target = .error (.directory reason) := by
  rcases h with ⟨hkind, hpod⟩ | ⟨hkind, hservice⟩
  · obtain ⟨port, hport⟩ := Option.ne_none_iff_exists'.mp fun hnone => hport ⟨hkind, hnone⟩
    rw [resolve_pod hkind hport, hpod]
    rfl
  · rw [resolve_service hkind, hservice]
    rfl

theorem resolve_lacks (hport : ¬ target.IsPortless) (h : directory.Lacks target) :
    directory.resolve target = .error (.notFound target.kind target.key) := by
  rcases h with ⟨hkind, h⟩ | ⟨hkind, h⟩
  · obtain ⟨port, hport⟩ := Option.ne_none_iff_exists'.mp fun hnone => hport ⟨hkind, hnone⟩
    rw [resolve_pod hkind hport, hkind]
    rcases h with hpod | ⟨pod, hpod, hip⟩
    · rw [hpod]
      rfl
    · have hhost := Resolution.host?_eq_none_iff.mpr hip
      simp [hpod, found, hhost, bind, Except.bind]
  · rw [resolve_service hkind, hkind]
    rcases h with hservice | ⟨service, hservice, hip | hrest⟩
    · rw [hservice]
      rfl
    · have hhost := Resolution.host?_eq_none_iff.mpr hip
      simp [hservice, found, hhost, bind, Except.bind]
    · have hport : service.port.filter (· != 0) = none := by rcases hrest with h | h <;> simp [h]
      cases hhost : Resolution.host? service.clusterIp with
      | none => simp [hservice, found, hhost, bind, Except.bind]
      | some host => simp [hservice, found, hhost, hport, bind, Except.bind]

theorem found_eq_ok {α : Type} {missing : ResolveError} {x : Except String (Option α)} {a : α} :
    found missing x = .ok a ↔ x = .ok (some a) := by
  rcases x with reason | _ | record <;> simp [found]

/-- Where an address comes from. -/
theorem resolve_eq_ok_iff {address : Address} : directory.resolve target = .ok address ↔
    (target.kind = .pod ∧ Resolution.port? (target.port.getD "") = some address.port ∧
      ∃ pod, directory.pod target.key = .ok (some pod) ∧ Resolution.host? pod.ip = some address.host) ∨
    (target.kind = .service ∧ ∃ service, directory.service target.key = .ok (some service) ∧
      Resolution.host? service.clusterIp = some address.host ∧ service.port.filter (· != 0) = some address.port) := by
  obtain ⟨host, port⟩ := address
  unfold resolve
  cases hkind : target.kind with
  | pod =>
    simp only [bind_eq_ok, elim_eq_ok, found_eq_ok, reduceCtorEq, false_and, or_false, true_and]
    constructor
    · rintro ⟨p, hport, pod, hpod, h, hhost, hsame⟩
      cases hsame
      exact ⟨hport, pod, hpod, hhost⟩
    · rintro ⟨hport, pod, hpod, hhost⟩
      exact ⟨port, hport, pod, hpod, host, hhost, rfl⟩
  | service =>
    simp only [bind_eq_ok, elim_eq_ok, found_eq_ok, reduceCtorEq, false_and, false_or, true_and]
    constructor
    · rintro ⟨service, hservice, h, hhost, p, hport, hsame⟩
      cases hsame
      exact ⟨service, hservice, hhost, hport⟩
    · rintro ⟨service, hservice, hhost, hport⟩
      exact ⟨service, hservice, host, hhost, port, hport, rfl⟩

/-- Where nothing is missing there is an address. -/
theorem exists_resolve (hport : ¬ target.IsPortless) (hfails : ∀ reason, ¬ directory.Fails target reason)
    (hlacks : ¬ directory.Lacks target) : ∃ address, directory.resolve target = .ok address := by
  have hhost {ip : Option String} (h : ¬ Resolution.IsNone ip) : ∃ host, Resolution.host? ip = some host :=
    Option.ne_none_iff_exists'.mp (mt Resolution.host?_eq_none_iff.mp h)
  cases hkind : target.kind with
  | pod =>
    obtain ⟨port, hport⟩ := Option.ne_none_iff_exists'.mp fun hnone => hport ⟨hkind, hnone⟩
    cases hpod : directory.pod target.key with
    | error reason => exact absurd (Or.inl ⟨hkind, hpod⟩) (hfails reason)
    | ok found? =>
      cases found? with
      | none => exact absurd (Or.inl ⟨hkind, Or.inl hpod⟩) hlacks
      | some pod =>
        obtain ⟨host, hhost⟩ := hhost fun hip => hlacks (Or.inl ⟨hkind, Or.inr ⟨pod, hpod, hip⟩⟩)
        exact ⟨⟨host, port⟩, resolve_eq_ok_iff.mpr (Or.inl ⟨hkind, hport, pod, hpod, hhost⟩)⟩
  | service =>
    cases hservice : directory.service target.key with
    | error reason => exact absurd (Or.inr ⟨hkind, hservice⟩) (hfails reason)
    | ok found? =>
      cases found? with
      | none => exact absurd (Or.inr ⟨hkind, Or.inl hservice⟩) hlacks
      | some service =>
        have hlack := fun h => hlacks (Or.inr ⟨hkind, Or.inr ⟨service, hservice, h⟩⟩)
        obtain ⟨host, hhost⟩ := hhost fun hip => hlack (Or.inl hip)
        have hport : service.port.filter (· != 0) ≠ none := by
          intro hnone
          rw [Option.filter_eq_none_iff] at hnone
          cases hp : service.port with
          | none => exact hlack (Or.inr (Or.inl hp))
          | some port =>
            have hzero : port = 0 := by simpa using hnone port hp
            exact hlack (Or.inr (Or.inr (hzero ▸ hp)))
        obtain ⟨port, hport⟩ := Option.ne_none_iff_exists'.mp hport
        exact ⟨⟨host, port⟩, resolve_eq_ok_iff.mpr (Or.inr ⟨hkind, service, hservice, hhost, hport⟩)⟩

end Directory
end Gateway
