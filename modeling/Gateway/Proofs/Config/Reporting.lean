import Gateway.Config.Loading
import Gateway.Proofs.Text.Numeral
import Mathlib.Data.List.Nodup

/-! Reports on configurations. The rules stand in an order, those about entries of the directory by entry, and a report has
    one violation for each violated rule, in that order, and nothing else; no field is reported twice. So a configuration is
    accepted just if it violates no rule. -/

namespace Gateway.Config

open Violation

/-! ### Rules -/

/-- The rules. Those about the entries of the directory say which entry. -/
inductive Rule
  | bindAddress
  | certificate
  | key
  | mountGiven
  | mountSegment
  | requestTimeout
  | connectTimeout
  | maxBody
  | gzipLevel
  | podAddress (i : Nat)
  | serviceAddress (i : Nat)
  | servicePort (i : Nat)
  | directoryKind
  | metricsAddress
  | filesPath
deriving DecidableEq, Repr

/-- An address is given, and is no internet address. -/
def IsMisgiven (ip : Option String) : Prop := ∃ text, ip = some text ∧ Net.IpAddress.ofText? text = none

def notIpAddress (ip : Option String) : String := "'" ++ ip.getD "" ++ "' is not an IP address"

namespace Rule

/-- What it takes to violate a rule. The entries of the directory can do so only where it is a table. -/
def IsViolated (config : Config) : Rule → Prop
  | bindAddress => Net.SocketAddress.ofText? config.listener.bindAddress = none
  | certificate => ∃ tls, config.listener.tls = some tls ∧ tls.certificate = ""
  | key => ∃ tls, config.listener.tls = some tls ∧ tls.key = ""
  | mountGiven => config.proxy.mount = ""
  | mountSegment => '/' ∈ config.proxy.mount.toList
  | requestTimeout => config.timeouts.request = 0
  | connectTimeout => config.timeouts.connect = 0
  | maxBody => config.links.maxBody = 0
  | gzipLevel => 9 < config.links.gzipLevel
  | podAddress i => config.directory.kind = .table ∧ ∃ pod, config.directory.pods[i]? = some pod ∧ IsMisgiven pod.ip
  | serviceAddress i => config.directory.kind = .table ∧
    ∃ service, config.directory.services[i]? = some service ∧ IsMisgiven service.clusterIp
  | servicePort i => config.directory.kind = .table ∧
    ∃ service, config.directory.services[i]? = some service ∧ service.port = some 0
  | directoryKind => config.directory.kind = .cluster
  | metricsAddress => config.observability.metricsEnabled = true ∧
    Net.SocketAddress.ofText? config.observability.metricsAddress = none
  | filesPath => config.staticFiles.mountPath.toList.head? ≠ some '/'

def field : Rule → String
  | bindAddress => "listener.bind_address"
  | certificate => "listener.tls.cert_path"
  | key => "listener.tls.key_path"
  | mountGiven => "proxy.mount"
  | mountSegment => "proxy.mount"
  | requestTimeout => "timeouts.request_secs"
  | connectTimeout => "timeouts.connect_secs"
  | maxBody => "rewrite.max_body_bytes"
  | gzipLevel => "rewrite.gzip_level"
  | podAddress i => s!"directory.pods[{i}].ip"
  | serviceAddress i => s!"directory.services[{i}].cluster_ip"
  | servicePort i => s!"directory.services[{i}].port"
  | directoryKind => "directory.kind"
  | metricsAddress => "observability.metrics_address"
  | filesPath => "static_files.prefix"

def message (config : Config) : Rule → String
  | bindAddress => notSocketAddress config.listener.bindAddress
  | certificate => "must not be empty"
  | key => "must not be empty"
  | mountGiven => "must not be empty"
  | mountSegment => "must be a single path segment"
  | requestTimeout => "must be greater than 0"
  | connectTimeout => "must be greater than 0"
  | maxBody => "must be greater than 0"
  | gzipLevel => "must be between 0 and 9"
  | podAddress i => notIpAddress (config.directory.pods[i]?.bind (·.ip))
  | serviceAddress i => notIpAddress (config.directory.services[i]?.bind (·.clusterIp))
  | servicePort _ => "must be greater than 0"
  | directoryKind => "kubernetes directory requires the \u0060kubernetes\u0060 feature"
  | metricsAddress => notSocketAddress config.observability.metricsAddress
  | filesPath => "must start with '/'"

/-- What is reported of a rule that is violated. -/
def report (config : Config) (rule : Rule) : Violation := ⟨rule.field, rule.message config⟩

/-! ### Order -/

/-- The place of a rule, or of its kind if it is about entries. -/
def group : Rule → Nat
  | bindAddress => 0
  | certificate => 1
  | key => 2
  | mountGiven => 3
  | mountSegment => 4
  | requestTimeout => 5
  | connectTimeout => 6
  | maxBody => 7
  | gzipLevel => 8
  | podAddress _ => 9
  | serviceAddress _ => 10
  | servicePort _ => 10
  | directoryKind => 11
  | metricsAddress => 12
  | filesPath => 13

/-- The place of a rule within its group: entry by entry, a service's address in front of its port. -/
def turn : Rule → Nat
  | podAddress i => i
  | serviceAddress i => 2 * i
  | servicePort i => 2 * i + 1
  | _ => 0

def Before (a b : Rule) : Prop := a.group < b.group ∨ a.group = b.group ∧ a.turn < b.turn

/-- The rules about the sections in front of the directory. -/
def front : List Rule :=
  [bindAddress, certificate, key, mountGiven, mountSegment, requestTimeout, connectTimeout, maxBody, gzipLevel]

def ofPods (n : Nat) : List Rule := (List.range n).map podAddress

def ofServices (n : Nat) : List Rule := (List.range n).flatMap fun i => [serviceAddress i, servicePort i]

/-- The rules about the directory as a whole and about the sections behind it. -/
def back : List Rule := [directoryKind, metricsAddress, filesPath]

/-- All rules that there are for a directory, in order. -/
def all (directory : Directory) : List Rule :=
  front ++ ofPods directory.pods.length ++ ofServices directory.services.length ++ back

theorem group_ofPods {n : Nat} {rule : Rule} (h : rule ∈ ofPods n) : rule.group = 9 := by
  obtain ⟨i, -, rfl⟩ := List.mem_map.mp h
  rfl

theorem group_ofServices {n : Nat} {rule : Rule} (h : rule ∈ ofServices n) : rule.group = 10 := by
  obtain ⟨i, -, h⟩ := List.mem_flatMap.mp h
  simp only [List.mem_cons, List.not_mem_nil, or_false] at h
  rcases h with rfl | rfl <;> rfl

theorem pairwise_ofPods (n : Nat) : (ofPods n).Pairwise Before :=
  List.pairwise_map.mpr (List.pairwise_lt_range.imp fun hlt => Or.inr ⟨rfl, hlt⟩)

theorem pairwise_ofServices (n : Nat) : (ofServices n).Pairwise Before := by
  refine List.pairwise_flatMap.mpr ⟨fun i _ => ?_, List.pairwise_lt_range.imp fun {i j} hlt a ha b hb => ?_⟩
  · simp [Before, group, turn]
  · simp only [List.mem_cons, List.not_mem_nil, or_false] at ha hb
    rcases ha with rfl | rfl <;> rcases hb with rfl | rfl <;> exact Or.inr ⟨rfl, by simp only [turn]; omega⟩

/-- Rules of some groups stand in front of those of later groups. -/
theorem pairwise_append {xs ys : List Rule} (bound : Nat) (hx : xs.Pairwise Before) (hy : ys.Pairwise Before)
    (hlow : ∀ a ∈ xs, a.group < bound) (hhigh : ∀ b ∈ ys, bound ≤ b.group) : (xs ++ ys).Pairwise Before :=
  List.pairwise_append.mpr ⟨hx, hy, fun a ha b hb => Or.inl (Nat.lt_of_lt_of_le (hlow a ha) (hhigh b hb))⟩

theorem pairwise_all (directory : Directory) : (all directory).Pairwise Before := by
  have hfront : front.Pairwise Before ∧ ∀ a ∈ front, a.group < 9 := by simp [front, Before, group]
  have hback : back.Pairwise Before ∧ ∀ b ∈ back, 11 ≤ b.group := by simp [back, Before, group]
  have hpods := pairwise_append 9 hfront.1 (pairwise_ofPods directory.pods.length) hfront.2 fun b hb =>
    Nat.le_of_eq (group_ofPods hb).symm
  have hentries := pairwise_append 10 hpods (pairwise_ofServices directory.services.length) ?_ fun b hb =>
    Nat.le_of_eq (group_ofServices hb).symm
  · refine pairwise_append 11 hentries hback.1 (fun a ha => ?_) hback.2
    simp only [List.mem_append] at ha
    rcases ha with (ha | ha) | ha
    · exact Nat.lt_trans (hfront.2 a ha) (by decide)
    · exact (group_ofPods ha).symm ▸ (by decide)
    · exact (group_ofServices ha).symm ▸ (by decide)
  · intro a ha
    rcases List.mem_append.mp ha with ha | ha
    · exact Nat.lt_trans (hfront.2 a ha) (by decide)
    · exact (group_ofPods ha).symm ▸ (by decide)

/-- A rule that is violated is one of them: entries that are not there violate nothing. -/
theorem mem_all {config : Config} {rule : Rule} (h : rule.IsViolated config) : rule ∈ all config.directory := by
  have hentry {α : Type} {xs : List α} {i : Nat} {x : α} (hx : xs[i]? = some x) : i ∈ List.range xs.length :=
    List.mem_range.mpr (List.getElem?_eq_some_iff.mp hx).1
  simp only [all, List.mem_append]
  cases rule with
  | podAddress i =>
    obtain ⟨-, pod, hpod, -⟩ := h
    exact Or.inl (Or.inl (Or.inr (List.mem_map_of_mem (hentry hpod))))
  | serviceAddress i =>
    obtain ⟨-, service, hservice, -⟩ := h
    exact Or.inl (Or.inr (List.mem_flatMap.mpr ⟨i, hentry hservice, by simp⟩))
  | servicePort i =>
    obtain ⟨-, service, hservice, -⟩ := h
    exact Or.inl (Or.inr (List.mem_flatMap.mpr ⟨i, hentry hservice, by simp⟩))
  | directoryKind | metricsAddress | filesPath => exact Or.inr (by decide)
  | _ => exact Or.inl (Or.inl (Or.inl (by decide)))

/-! ### Fields -/

/-- The same rule about another entry, if it is about entries. -/
def withEntry (i : Nat) : Rule → Rule
  | podAddress _ => podAddress i
  | serviceAddress _ => serviceAddress i
  | servicePort _ => servicePort i
  | rule => rule

/-- The entry that a rule is about. -/
def entry : Rule → Nat
  | podAddress i | serviceAddress i | servicePort i => i
  | _ => 0

theorem withEntry_entry (rule : Rule) : rule.withEntry rule.entry = rule := by cases rule <;> rfl

theorem withEntry_withEntry (rule : Rule) (i j : Nat) : (rule.withEntry i).withEntry j = rule.withEntry j := by
  cases rule <;> rfl

/-- One rule of each kind. -/
def kinds : List Rule := front ++ [podAddress 0, serviceAddress 0, servicePort 0] ++ back

theorem withEntry_mem_kinds (rule : Rule) : rule.withEntry 0 ∈ kinds := by
  cases rule <;> simp [withEntry, kinds, front, back]

theorem eq_of_withEntry_eq {a b : Rule} (h : a.withEntry 0 = b.withEntry 0) (hentry : a.entry = b.entry) : a = b := by
  rw [← withEntry_entry a, ← withEntry_entry b, ← withEntry_withEntry a 0, ← withEntry_withEntry b 0, h, hentry]

/-- The rules about the mount have one field. -/
def IsMount (rule : Rule) : Prop := rule = mountGiven ∨ rule = mountSegment

/-- A field without the number of the entry. -/
def outline (field : String) : List Char := field.toList.filter (!·.isDigit)

/-- The number of the entry in a field. -/
def number (field : String) : Nat := (Text.numeral? 10 (field.toList.filter Char.isDigit)).getD 0

theorem outline_numbered (head tail : String) (i : Nat) : outline (head ++ Nat.repr i ++ tail) = outline head ++ outline tail := by
  have hrepr : (Nat.repr i).toList.filter (!·.isDigit) = [] :=
    List.filter_eq_nil_iff.mpr fun c hc => by simp [Text.isDigit_of_mem_repr hc]
  simp only [outline, String.toList_append, List.filter_append, hrepr, List.append_nil]

theorem number_numbered {head tail : String} (i : Nat) (hhead : head.toList.filter Char.isDigit = [])
    (htail : tail.toList.filter Char.isDigit = []) : number (head ++ Nat.repr i ++ tail) = i := by
  have hrepr : (Nat.repr i).toList.filter Char.isDigit = (Nat.repr i).toList :=
    List.filter_eq_self.mpr fun c hc => Text.isDigit_of_mem_repr hc
  simp only [number, String.toList_append, List.filter_append, hhead, htail, hrepr, List.nil_append, List.append_nil,
    Text.numeral?_repr, Option.getD_some]

theorem outline_field (rule : Rule) : outline rule.field = outline (rule.withEntry 0).field := by
  cases rule with
  | podAddress i | serviceAddress i | servicePort i =>
    exact (outline_numbered _ _ i).trans (outline_numbered _ _ 0).symm
  | _ => rfl

theorem number_field (rule : Rule) : number rule.field = rule.entry := by
  cases rule with
  | podAddress i | serviceAddress i | servicePort i => exact number_numbered i (by decide +kernel) (by decide +kernel)
  | _ => decide +kernel

/-- The rules about the mount are the only ones with a common field. -/
theorem eq_of_field_eq {a b : Rule} (h : a.field = b.field) : a = b ∨ a.IsMount ∧ b.IsMount := by
  -- The outline of a field tells the kind of the rule, of which there are finitely many, and its number tells the entry.
  have hkinds : ∀ a ∈ kinds, ∀ b ∈ kinds, outline a.field = outline b.field →
      a = b ∨ (a = mountGiven ∨ a = mountSegment) ∧ (b = mountGiven ∨ b = mountSegment) := by decide +kernel
  have hmount {rule : Rule} : (rule.withEntry 0).IsMount → rule.IsMount := by
    cases rule <;> simp [withEntry, IsMount]
  have houtline : outline (a.withEntry 0).field = outline (b.withEntry 0).field := by
    rw [← outline_field, h, outline_field]
  rcases hkinds _ (withEntry_mem_kinds a) _ (withEntry_mem_kinds b) houtline with heq | ⟨ha, hb⟩
  · refine Or.inl (eq_of_withEntry_eq heq ?_)
    rw [← number_field, h, number_field]
  · exact Or.inr ⟨hmount ha, hmount hb⟩

/-- No mount violates both of its rules, so two violated rules have two fields. -/
theorem IsViolated.eq_of_field_eq {config : Config} {a b : Rule} (ha : a.IsViolated config) (hb : b.IsViolated config)
    (h : a.field = b.field) : a = b := by
  have hexclude : mountGiven.IsViolated config → ¬ mountSegment.IsViolated config := by
    intro hgiven hsegment
    rw [IsViolated, show config.proxy.mount = "" from hgiven] at hsegment
    exact absurd hsegment (by decide)
  rcases Rule.eq_of_field_eq h with h | ⟨rfl | rfl, rfl | rfl⟩
  · exact h
  · rfl
  · exact absurd hb (hexclude ha)
  · exact absurd ha (hexclude hb)
  · rfl

end Rule

/-! ### Reports -/

/-- What is reported of some rules, in their order: the violated ones. -/
def reports (config : Config) [DecidablePred fun rule : Rule => rule.IsViolated config] (rules : List Rule) :
    List Violation := (rules.filter fun rule => rule.IsViolated config).map (Rule.report config)

section
variable {config : Config} [DecidablePred fun rule : Rule => rule.IsViolated config]

theorem reports_append (xs ys : List Rule) : reports config (xs ++ ys) = reports config xs ++ reports config ys := by
  simp [reports]

theorem reports_flatMap {α : Type} (f : α → List Rule) (xs : List α) :
    reports config (xs.flatMap f) = xs.flatMap fun x => reports config (f x) := by
  simp [reports, List.filter_flatMap, List.map_flatMap]

theorem reports_cons {rule : Rule} {rules : List Rule} {violated : Bool} (h : violated = true ↔ rule.IsViolated config) :
    reports config (rule :: rules) = when violated rule.field (rule.message config) ++ reports config rules := by
  by_cases hv : rule.IsViolated config
  · simp [when, reports, hv, h.mpr hv, Rule.report]
  · simp [when, reports, hv, mt h.mp hv]

theorem reports_singleton {rule : Rule} {violated : Bool} (h : violated = true ↔ rule.IsViolated config) :
    reports config [rule] = when violated rule.field (rule.message config) :=
  (reports_cons h).trans (List.append_nil _)

theorem reports_eq_nil {rules : List Rule} (h : ∀ rule ∈ rules, ¬ rule.IsViolated config) : reports config rules = [] := by
  rw [reports, List.filter_eq_nil_iff.mpr (by simpa using h), List.map_nil]

/-! ### Sections -/

theorem violations_listener : config.listener.violations = reports config [.bindAddress, .certificate, .key] := by
  have haddress : (!isSocketAddress config.listener.bindAddress) = true ↔ Rule.bindAddress.IsViolated config := by
    simp [isSocketAddress, Rule.IsViolated]
  rw [reports_cons haddress, Listener.violations]
  refine congrArg _ ?_
  cases htls : config.listener.tls with
  | none => exact (reports_eq_nil (by simp [Rule.IsViolated, htls])).symm
  | some tls =>
    have hcertificate : (tls.certificate == "") = true ↔ Rule.certificate.IsViolated config := by
      simp [Rule.IsViolated, htls]
    have hkey : (tls.key == "") = true ↔ Rule.key.IsViolated config := by simp [Rule.IsViolated, htls]
    rw [reports_cons hcertificate, reports_singleton hkey]
    rfl

theorem violations_proxy : config.proxy.violations = reports config [.mountGiven, .mountSegment] := by
  have hgiven : (config.proxy.mount == "") = true ↔ Rule.mountGiven.IsViolated config := by simp [Rule.IsViolated]
  have hsegment : config.proxy.mount.toList.contains '/' = true ↔ Rule.mountSegment.IsViolated config := by
    simp [Rule.IsViolated]
  rw [reports_cons hgiven, reports_singleton hsegment]
  rfl

theorem violations_timeouts : config.timeouts.violations = reports config [.requestTimeout, .connectTimeout] := by
  have hrequest : (config.timeouts.request == 0) = true ↔ Rule.requestTimeout.IsViolated config := by
    simp [Rule.IsViolated]
  have hconnect : (config.timeouts.connect == 0) = true ↔ Rule.connectTimeout.IsViolated config := by
    simp [Rule.IsViolated]
  rw [reports_cons hrequest, reports_singleton hconnect]
  rfl

theorem violations_links : config.links.violations = reports config [.maxBody, .gzipLevel] := by
  have hbody : (config.links.maxBody == 0) = true ↔ Rule.maxBody.IsViolated config := by simp [Rule.IsViolated]
  have hlevel : decide (config.links.gzipLevel > 9) = true ↔ Rule.gzipLevel.IsViolated config := by
    simp [Rule.IsViolated]
  rw [reports_cons hbody, reports_singleton hlevel]
  rfl

theorem violations_observability : config.observability.violations = reports config [.metricsAddress] := by
  have haddress : (config.observability.metricsEnabled && !isSocketAddress config.observability.metricsAddress) = true ↔
      Rule.metricsAddress.IsViolated config := by simp [isSocketAddress, Rule.IsViolated]
  rw [reports_singleton haddress]
  rfl

theorem violations_staticFiles : config.staticFiles.violations = reports config [.filesPath] := by
  have hpath : (config.staticFiles.mountPath.toList.head? != some '/') = true ↔ Rule.filesPath.IsViolated config := by
    simp [Rule.IsViolated]
  rw [reports_singleton hpath]
  rfl

/-! ### The directory -/

/-- An address is the matter of one rule, with the field and the account of that rule. -/
theorem ipViolations_eq {rule : Rule} {ip : Option String} (h : rule.IsViolated config ↔ IsMisgiven ip)
    (hmessage : rule.message config = notIpAddress ip) : ipViolations rule.field ip = reports config [rule] := by
  cases ip with
  | none => exact (reports_eq_nil (by simp [h, IsMisgiven])).symm
  | some ip =>
    have hip : (!isIpAddress ip) = true ↔ rule.IsViolated config := by simp [h, IsMisgiven, isIpAddress]
    rw [reports_singleton hip, hmessage]
    rfl

theorem violations_pod {pod : Pod} {i : Nat} (hkind : config.directory.kind = .table)
    (hpod : config.directory.pods[i]? = some pod) : pod.violations i = reports config [.podAddress i] := by
  have haddress : Rule.IsViolated config (.podAddress i) ↔ IsMisgiven pod.ip := by simp [Rule.IsViolated, hkind, hpod]
  exact ipViolations_eq haddress (by simp [Rule.message, hpod])

theorem violations_service {service : Service} {i : Nat} (hkind : config.directory.kind = .table)
    (hservice : config.directory.services[i]? = some service) :
    service.violations i = reports config [.serviceAddress i, .servicePort i] := by
  have haddress : Rule.IsViolated config (.serviceAddress i) ↔ IsMisgiven service.clusterIp := by
    simp [Rule.IsViolated, hkind, hservice]
  have hport : (service.port == some 0) = true ↔ Rule.IsViolated config (.servicePort i) := by
    simp [Rule.IsViolated, hkind, hservice]
  rw [← List.singleton_append, reports_append, reports_singleton hport,
    ← ipViolations_eq haddress (by simp [Rule.message, hservice])]
  rfl

/-- The entries of a table are gone through by number. -/
theorem flatMap_zipIdx {α : Type} {xs : List α} {f : α × Nat → List Violation} {rules : Nat → List Rule}
    (h : ∀ i x, xs[i]? = some x → f (x, i) = reports config (rules i)) :
    xs.zipIdx.flatMap f = reports config ((List.range xs.length).flatMap rules) := by
  rw [List.range_eq_range', ← List.zipIdx_map_snd, List.flatMap_map, reports_flatMap]
  exact List.flatMap_congr fun (x, i) hx => h i x (List.mem_zipIdx_iff_getElem?.mp hx)

/-- Where there is no table, its entries violate nothing. -/
theorem reports_entries_of_cluster (h : config.directory.kind = .cluster) (pods services : Nat) :
    reports config (Rule.ofPods pods ++ Rule.ofServices services) = [] := by
  refine reports_eq_nil fun rule hrule hviolated => ?_
  rcases List.mem_append.mp hrule with hrule | hrule
  · obtain ⟨i, -, rfl⟩ := List.mem_map.mp hrule
    cases h.symm.trans hviolated.1
  · obtain ⟨i, -, hrule⟩ := List.mem_flatMap.mp hrule
    simp only [List.mem_cons, List.not_mem_nil, or_false] at hrule
    rcases hrule with rfl | rfl <;> cases h.symm.trans hviolated.1

theorem violations_directory : config.directory.violations =
    reports config (Rule.ofPods config.directory.pods.length ++ Rule.ofServices config.directory.services.length ++
      [.directoryKind]) := by
  have hcluster : decide (config.directory.kind = .cluster) = true ↔ Rule.IsViolated config .directoryKind := by
    simp [Rule.IsViolated]
  rw [reports_append, reports_singleton hcluster, Directory.violations]
  cases hkind : config.directory.kind with
  | table =>
    rw [flatMap_zipIdx fun i pod => violations_pod hkind, flatMap_zipIdx fun i service => violations_service hkind,
      ← List.map_eq_flatMap, ← reports_append]
    exact (List.append_nil _).symm
  | cluster =>
    rw [reports_entries_of_cluster hkind]
    rfl

/-- The violations of a configuration are what is reported of all rules. -/
theorem violations_eq_reports : config.violations = reports config (Rule.all config.directory) := by
  have hfront : Rule.front = [.bindAddress, .certificate, .key] ++ [.mountGiven, .mountSegment] ++
    [.requestTimeout, .connectTimeout] ++ [.maxBody, .gzipLevel] := rfl
  have hback : Rule.back = [.directoryKind] ++ [.metricsAddress] ++ [.filesPath] := rfl
  rw [violations, violations_listener, violations_proxy, violations_timeouts, violations_links, violations_directory,
    violations_observability, violations_staticFiles, Rule.all, hfront, hback]
  simp only [reports_append, List.append_assoc]

end

/-! ### Acceptance -/

theorem Rule.Before.ne {a b : Rule} (h : a.Before b) : a ≠ b := by
  rintro rfl
  rcases h with h | ⟨-, h⟩ <;> exact Nat.lt_irrefl _ h

section
variable {config : Config} {rules : List Rule}

/-- A report that has the violated rules only has each field once. -/
theorem nodup_fields (hordered : rules.Pairwise Rule.Before) (hviolated : ∀ rule ∈ rules, rule.IsViolated config) :
    (rules.map Rule.field).Nodup :=
  List.Nodup.map_on (fun a ha b hb => (hviolated a ha).eq_of_field_eq (hviolated b hb)) (hordered.imp Rule.Before.ne)

theorem check_eq (config : Config) :
    check config = if config.violations = [] then .ok config else .error (.violated config.violations) := by
  rw [check]
  split
  · rename_i h
    rw [if_pos h]
  · rename_i h
    rw [if_neg h]

/-- An entry that violates no rule has an internet address, if any. -/
theorem isSome_of_not_isMisgiven {ip : Option String} {text : String} (h : ¬ IsMisgiven ip) (hip : ip = some text) :
    (Net.IpAddress.ofText? text).isSome = true :=
  Option.isSome_iff_ne_none.mpr fun hnone => h ⟨text, hip, hnone⟩

theorem port_bounds {port : UInt16} (h : port ≠ 0) : 1 ≤ port.toNat ∧ port.toNat ≤ 65535 := by
  have hlt := port.toNat_lt
  have hne : port.toNat ≠ 0 := fun h0 => h (UInt16.toNat_inj.mp h0)
  omega

theorem pods_of_keeping (hkind : config.directory.kind = .table) (hkept : ∀ rule : Rule, ¬ rule.IsViolated config)
    {pod : Pod} (hpod : pod ∈ config.directory.pods) {ip : String} (hip : pod.ip = some ip) :
    (Net.IpAddress.ofText? ip).isSome = true := by
  obtain ⟨i, hi⟩ := List.getElem?_of_mem hpod
  exact isSome_of_not_isMisgiven (fun h => hkept (.podAddress i) ⟨hkind, pod, hi, h⟩) hip

theorem services_of_keeping (hkind : config.directory.kind = .table) (hkept : ∀ rule : Rule, ¬ rule.IsViolated config)
    {service : Service} (hservice : service ∈ config.directory.services) :
    (∀ ip, service.clusterIp = some ip → (Net.IpAddress.ofText? ip).isSome = true) ∧
    ∀ port, service.port = some port → 1 ≤ port.toNat ∧ port.toNat ≤ 65535 := by
  obtain ⟨i, hi⟩ := List.getElem?_of_mem hservice
  refine ⟨fun ip => isSome_of_not_isMisgiven fun h => hkept (.serviceAddress i) ⟨hkind, service, hi, h⟩,
    fun port hport => port_bounds ?_⟩
  rintro rfl
  exact hkept (.servicePort i) ⟨hkind, service, hi, hport⟩

end

/-- **A report has one violation for each violated rule, and no other.** The violations stand in the order of the rules and
    each is of a field of its own. A configuration is accepted, as it is, just if it violates no rule, and otherwise the
    whole report is given; so each address in the directory of an accepted configuration is one, and no port is 0. -/
theorem violations_report_rules (config : Config) :
    ∃ rules : List Rule, config.violations = rules.map (Rule.report config) ∧
      rules.Pairwise Rule.Before ∧ (∀ rule, rule ∈ rules ↔ rule.IsViolated config) ∧
      (config.violations.map Violation.field).Nodup ∧
      check config = (if config.violations = [] then .ok config else .error (.violated config.violations)) ∧
      (config.violations = [] ↔ ∀ rule : Rule, ¬ rule.IsViolated config) ∧
      (config.violations = [] → config.directory.kind = .table →
        (∀ pod ∈ config.directory.pods, ∀ ip, pod.ip = some ip → (Net.IpAddress.ofText? ip).isSome = true) ∧
        ∀ service ∈ config.directory.services,
          (∀ ip, service.clusterIp = some ip → (Net.IpAddress.ofText? ip).isSome = true) ∧
          ∀ port, service.port = some port → 1 ≤ port.toNat ∧ port.toNat ≤ 65535) := by
  classical
  have hreports : config.violations =
      ((Rule.all config.directory).filter fun rule => rule.IsViolated config).map (Rule.report config) :=
    violations_eq_reports
  generalize hrules : (Rule.all config.directory).filter (fun rule => rule.IsViolated config) = rules at hreports
  have hordered : rules.Pairwise Rule.Before := hrules ▸ (Rule.pairwise_all config.directory).filter _
  have hmem (rule : Rule) : rule ∈ rules ↔ rule.IsViolated config := by
    rw [← hrules, List.mem_filter, decide_eq_true_iff]
    exact ⟨fun h => h.2, fun h => ⟨Rule.mem_all h, h⟩⟩
  have hnone : config.violations = [] ↔ ∀ rule : Rule, ¬ rule.IsViolated config := by
    rw [hreports, List.map_eq_nil_iff, List.eq_nil_iff_forall_not_mem]
    exact forall_congr' fun rule => not_congr (hmem rule)
  refine ⟨rules, hreports, hordered, hmem, ?_, check_eq config, hnone, fun hempty hkind => ⟨fun pod hpod ip => ?_,
    fun service hservice => ?_⟩⟩
  · rw [hreports, List.map_map]
    exact nodup_fields hordered fun rule => (hmem rule).mp
  · exact pods_of_keeping hkind (hnone.mp hempty) hpod
  · exact services_of_keeping hkind (hnone.mp hempty) hservice

/-- A bad mount, an address at second place and a service with neither an address nor a port. -/
example : ({ proxy := { mount := "a/b" },
             directory := { pods := [⟨"default", "web", none⟩, ⟨"default", "api", some "10.0.0.256"⟩],
                            services := [⟨"default", "web", some "web", some 0⟩] } } : Config).violations =
    [⟨"proxy.mount", "must be a single path segment"⟩,
     ⟨"directory.pods[1].ip", "'10.0.0.256' is not an IP address"⟩,
     ⟨"directory.services[0].cluster_ip", "'web' is not an IP address"⟩,
     ⟨"directory.services[0].port", "must be greater than 0"⟩] := by decide +kernel

end Gateway.Config
