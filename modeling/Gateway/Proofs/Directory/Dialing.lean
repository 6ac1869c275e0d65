import Gateway.Proofs.Directory.Resolving
import Gateway.Proofs.Text.Numeral

/-! What targets are resolved to. A port is read off the path for pods only, before the directory is asked, and for services
    it comes from the directory only. One lookup then decides: its failure, what it lacks, or an address, which can always be
    dialled. -/

namespace Gateway

namespace Resolution

/-- A port as a path may name it: decimal digits, a plus sign in front of them or not, whose value is that of a port. -/
def NamesPort (segment : String) (n : Nat) : Prop :=
  ∃ digits : List Char, (segment.toList = digits ∨ segment.toList = '+' :: digits) ∧ digits ≠ [] ∧
    (∀ c ∈ digits, c.isDigit = true) ∧ Nat.ofDigitChars 10 digits 0 = n ∧ 1 ≤ n ∧ n ≤ 65535

variable {segment : String} {port : UInt16} {n : Nat}

/-- What is read is the segment, or what follows its sign. -/
theorem exists_digits (segment : String) : ∃ digits : List Char,
    ((segment.toList = digits ∧ digits.head? ≠ some '+') ∨ segment.toList = '+' :: digits) ∧
    port? segment = ((Text.numeral? 10 digits).filter fun n => 0 < n && n < UInt16.size).map UInt16.ofNat := by
  unfold port?
  split
  · rename_i rest hsegment
    exact ⟨rest, Or.inr hsegment, rfl⟩
  · rename_i hsign
    refine ⟨segment.toList, Or.inl ⟨rfl, fun hhead => ?_⟩, rfl⟩
    obtain ⟨rest, hrest⟩ := List.head?_eq_some_iff.mp hhead
    exact hsign rest hrest

theorem port?_eq_some_iff : port? segment = some port ↔ NamesPort segment port.toNat := by
  obtain ⟨digits, hsegment, hport⟩ := exists_digits segment
  rw [hport]
  constructor
  · intro h
    obtain ⟨n, hn, rfl⟩ := Option.map_eq_some_iff.mp h
    obtain ⟨hnumeral, hrange⟩ := Option.filter_eq_some_iff.mp hn
    obtain ⟨hne, hdigits, hvalue⟩ := Text.numeral?_eq_some_iff.mp hnumeral
    simp only [Bool.and_eq_true, decide_eq_true_eq] at hrange
    rw [UInt16.toNat_ofNat_of_lt' hrange.2]
    exact ⟨digits, hsegment.imp_left And.left, hne, hdigits, hvalue, hrange.1, Nat.le_of_lt_succ hrange.2⟩
  · rintro ⟨ds, hds, hne, hdigits, hvalue, hlow, hhigh⟩
    have hsame : ds = digits := by
      rcases hds with rfl | hds
      · rcases hsegment with ⟨hsegment, -⟩ | hsegment
        · exact hsegment
        · exact absurd (hdigits '+' (hsegment ▸ List.mem_cons_self)) (by decide)
      · rcases hsegment with ⟨hsegment, hsign⟩ | hsegment
        · exact absurd (by rw [← hsegment, hds]; rfl) hsign
        · exact List.tail_eq_of_cons_eq (hds.symm.trans hsegment)
    subst hsame
    refine Option.map_eq_some_iff.mpr ⟨port.toNat, Option.filter_eq_some_iff.mpr ⟨?_, ?_⟩, UInt16.ofNat_toNat⟩
    · exact Text.numeral?_eq_some_iff.mpr ⟨hne, hdigits, hvalue⟩
    · simp only [Bool.and_eq_true, decide_eq_true_eq]
      exact ⟨hlow, port.toNat_lt⟩

theorem port?_eq_none_iff : port? segment = none ↔ ∀ n, ¬ NamesPort segment n := by
  constructor
  · intro hnone n hn
    have hhigh : n ≤ 65535 := by
      obtain ⟨digits, -, -, -, -, -, hhigh⟩ := hn
      exact hhigh
    rw [← UInt16.toNat_ofNat_of_lt' (Nat.lt_succ_of_le hhigh), ← port?_eq_some_iff, hnone] at hn
    cases hn
  · intro hno
    cases hport : port? segment with
    | none => rfl
    | some port => exact absurd (port?_eq_some_iff.mp hport) (hno _)

end Resolution

open Resolution

/-- The text at which a path may name a port. -/
def Target.portText (target : Target) : String := target.port.getD ""

namespace Directory
variable {directory : Directory} {target : Target} {result : Except ResolveError Address}

/-- What a directory's answers come to for a target. -/
inductive Settles (directory : Directory) (target : Target) : Except ResolveError Address → Prop
  | portless : target.kind = .pod → (∀ n, ¬ NamesPort target.portText n) →
      Settles directory target (.error (.invalidPort target.portText))
  | fails {reason : String} : (target.kind = .pod → ∃ n, NamesPort target.portText n) → directory.Fails target reason →
      Settles directory target (.error (.directory reason))
  | lacks : (target.kind = .pod → ∃ n, NamesPort target.portText n) → directory.Lacks target →
      Settles directory target (.error (.notFound target.kind target.key))
  | pod {pod : Pod} {host : String} {port : UInt16} : target.kind = .pod → NamesPort target.portText port.toNat →
      directory.pod target.key = .ok (some pod) → pod.ip = some host → host ≠ "" → host ≠ "None" →
      Settles directory target (.ok ⟨host, port⟩)
  | service {service : Service} {host : String} {port : UInt16} : target.kind = .service →
      directory.service target.key = .ok (some service) → service.clusterIp = some host → host ≠ "" → host ≠ "None" →
      service.port = some port → port ≠ 0 → Settles directory target (.ok ⟨host, port⟩)

theorem isPortless_iff : target.IsPortless ↔ target.kind = .pod ∧ ∀ n, ¬ NamesPort target.portText n := by
  rw [Target.IsPortless, port?_eq_none_iff]
  rfl

theorem not_isPortless_iff : ¬ target.IsPortless ↔ (target.kind = .pod → ∃ n, NamesPort target.portText n) := by
  rw [isPortless_iff, not_and, Classical.not_forall_not]

theorem resolve_of_settles (h : directory.Settles target result) : directory.resolve target = result := by
  cases h with
  | portless hkind hport => exact resolve_portless (isPortless_iff.mpr ⟨hkind, hport⟩)
  | fails hport hfails => exact resolve_fails (not_isPortless_iff.mpr hport) hfails
  | lacks hport hlacks => exact resolve_lacks (not_isPortless_iff.mpr hport) hlacks
  | pod hkind hport hpod hip hsome hnone =>
    exact resolve_eq_ok_iff.mpr
      (Or.inl ⟨hkind, port?_eq_some_iff.mpr hport, _, hpod, host?_eq_some_iff.mpr ⟨hip, hsome, hnone⟩⟩)
  | service hkind hservice hip hsome hnone hport hzero =>
    exact resolve_eq_ok_iff.mpr (Or.inr ⟨hkind, _, hservice, host?_eq_some_iff.mpr ⟨hip, hsome, hnone⟩,
      Option.filter_eq_some_iff.mpr ⟨hport, bne_iff_ne.mpr hzero⟩⟩)

/-- The answers always come to something. -/
theorem exists_settles (directory : Directory) (target : Target) : ∃ result, directory.Settles target result := by
  by_cases hport : target.IsPortless
  · obtain ⟨hkind, hnone⟩ := isPortless_iff.mp hport
    exact ⟨_, .portless hkind hnone⟩
  have hnamed := not_isPortless_iff.mp hport
  by_cases hfails : ∃ reason, directory.Fails target reason
  · obtain ⟨reason, hreason⟩ := hfails
    exact ⟨_, .fails hnamed hreason⟩
  by_cases hlacks : directory.Lacks target
  · exact ⟨_, .lacks hnamed hlacks⟩
  obtain ⟨address, haddress⟩ := exists_resolve hport (not_exists.mp hfails) hlacks
  rcases resolve_eq_ok_iff.mp haddress with ⟨hkind, hport, pod, hpod, hhost⟩ | ⟨hkind, service, hservice, hhost, hport⟩
  · obtain ⟨hip, hsome, hnone⟩ := host?_eq_some_iff.mp hhost
    exact ⟨_, .pod hkind (port?_eq_some_iff.mp hport) hpod hip hsome hnone⟩
  · obtain ⟨hip, hsome, hnone⟩ := host?_eq_some_iff.mp hhost
    obtain ⟨hport, hzero⟩ := Option.filter_eq_some_iff.mp hport
    exact ⟨_, .service hkind hservice hip hsome hnone hport (bne_iff_ne.mp hzero)⟩

theorem resolve_eq_iff : directory.resolve target = result ↔ directory.Settles target result := by
  refine ⟨fun h => ?_, resolve_of_settles⟩
  obtain ⟨settled, hsettles⟩ := exists_settles directory target
  rwa [← h, resolve_of_settles hsettles]

/-- What can be dialled of an address, and where its port comes from. -/
theorem dialable_of_settles {address : Address} (h : directory.Settles target (.ok address)) :
    address.host ≠ "" ∧ address.port ≠ 0 ∧ (target.kind = .pod → NamesPort target.portText address.port.toNat) := by
  cases h with
  | @pod pod host port hkind hport hpod hip hsome hnone =>
    refine ⟨hsome, fun hzero : port = 0 => ?_, fun _ => hport⟩
    obtain ⟨digits, -, -, -, -, hlow, -⟩ := hport
    rw [hzero] at hlow
    exact absurd hlow (by decide)
  | service hkind hservice hip hsome hnone hport hzero =>
    exact ⟨hsome, hzero, fun hpod => by rw [hkind] at hpod; cases hpod⟩

/-- A pod is looked up if the path names a port, a service in any case, and nothing else is asked. -/
theorem resolve_congr {other : Directory}
    (hpod : target.kind = .pod → (∃ n, NamesPort target.portText n) → other.pod target.key = directory.pod target.key)
    (hservice : target.kind = .service → other.service target.key = directory.service target.key) :
    other.resolve target = directory.resolve target := by
  cases hkind : target.kind with
  | pod =>
    by_cases hport : target.IsPortless
    · rw [resolve_portless hport, resolve_portless hport]
    · obtain ⟨port, hread⟩ := Option.ne_none_iff_exists'.mp fun hnone => hport ⟨hkind, hnone⟩
      rw [resolve_pod hkind hread, resolve_pod hkind hread, hpod hkind ⟨_, port?_eq_some_iff.mp hread⟩]
  | service => rw [resolve_service hkind, resolve_service hkind, hservice hkind]

/-- **Resolving is exact.** A target is resolved to what its directory's answers come to. Every address can be dialled; for a
    pod its port is that of the path, and for a service it has nothing to do with the path. Nothing is asked of a directory
    where the path to a pod names no port, and otherwise nothing but the target's own record. -/
theorem resolve_settles (directory : Directory) (target : Target) :
    (∀ result, directory.resolve target = result ↔ directory.Settles target result) ∧
    (∀ address, directory.resolve target = .ok address → address.host ≠ "" ∧ address.port ≠ 0 ∧
      (target.kind = .pod → NamesPort target.portText address.port.toNat)) ∧
    (target.kind = .service → ∀ port, directory.resolve { target with port } = directory.resolve target) ∧
    ∀ other : Directory,
      (target.kind = .pod → (∃ n, NamesPort target.portText n) → other.pod target.key = directory.pod target.key) →
      (target.kind = .service → other.service target.key = directory.service target.key) →
      other.resolve target = directory.resolve target := by
  refine ⟨fun result => resolve_eq_iff, fun address h => dialable_of_settles (resolve_eq_iff.mp h), fun hkind port => ?_,
    fun other hpod hservice => resolve_congr hpod hservice⟩
  have hother : ({ target with port } : Target).kind = .service := hkind
  rw [resolve_service hkind, resolve_service hother]
  rfl

/-- A directory that knows one pod and one service, and of the service no port. -/
def sparse : Directory where
  pod key := .ok (if key = ⟨"prod", "web"⟩ then some ⟨some "10.0.0.1"⟩ else none)
  service key := .ok (if key = ⟨"prod", "web"⟩ then some ⟨some "10.96.0.1", some 0⟩ else none)
  pods _ := .ok []
  services _ := .ok []

/-- A pod whose port is written with a sign and zeros, the same with a port out of range where no directory answers, and a
    service whose port nobody knows, whatever the path says. -/
theorem resolve_settles_signed :
    let pod : Target := ⟨"prod", .pod, "web", some "+0080", [], false, "/proxy/prod/pod/web/+0080"⟩
    let far : Target := { pod with port := some "65536" }
    let service : Target := { pod with kind := .service }
    let failing := Directory.failing "no answer"
    NamesPort pod.portText 80 ∧ sparse.resolve pod = .ok ⟨"10.0.0.1", 80⟩ ∧
      failing.resolve far = .error (.invalidPort "65536") ∧ failing.resolve far = sparse.resolve far ∧
      failing.resolve pod = .error (.directory "no answer") ∧ service.kind = .service ∧
      sparse.resolve { service with port := none } = .error (.notFound .service ⟨"prod", "web"⟩) := by
  intro pod far service failing
  have hport : NamesPort pod.portText 80 := by
    have hsign : "+0080".toList = '+' :: "0080".toList := by decide
    exact ⟨"0080".toList, Or.inr hsign, by decide, Text.forall_mem (by decide +kernel), by decide, by decide, by decide⟩
  have hfar : ∀ n, ¬ NamesPort far.portText n := port?_eq_none_iff.mp (by decide +kernel)
  have hlacks : sparse.Lacks service :=
    Or.inr ⟨rfl, Or.inr ⟨⟨some "10.96.0.1", some 0⟩, rfl, Or.inr (Or.inr rfl)⟩⟩
  obtain ⟨hsettles, -, hpath, -⟩ := resolve_settles sparse service
  refine ⟨hport, ?_, ?_, ?_, ?_, rfl, ?_⟩
  · exact ((resolve_settles sparse pod).1 _).mpr (.pod rfl hport rfl rfl (by decide) (by decide))
  · exact ((resolve_settles failing far).1 _).mpr (.portless rfl hfar)
  · exact (resolve_settles sparse far).2.2.2 failing (fun _ ⟨n, hn⟩ => absurd hn (hfar n)) nofun
  · exact ((resolve_settles failing pod).1 _).mpr (.fails (fun _ => ⟨80, hport⟩) (Or.inl ⟨rfl, rfl⟩))
  · rw [hpath rfl none]
    exact (hsettles _).mpr (.lacks nofun hlacks)

end Directory
end Gateway
