import Gateway.Proofs.Directory.Records

/-! Registrations. A table is what has been registered, one thing after the other, for pods and for services. Of the
    registrations for a key the last one is found, and those of pods and those of services do not see each other; so the
    order of registrations shows only where they are for the same key. -/

namespace Gateway

/-- What is put into a table. -/
inductive Registration
  | pod (key : Key) (pod : Pod)
  | service (key : Key) (service : Service)
deriving DecidableEq, Repr

namespace Registration

/-- What a registration is for. Registrations for the same subject take the place of each other. -/
def subject : Registration → Kind × Key
  | pod key _ => (.pod, key)
  | service key _ => (.service, key)

def pod? : Registration → Option (Key × Pod)
  | pod key record => some (key, record)
  | service .. => none

def service? : Registration → Option (Key × Service)
  | pod .. => none
  | service key record => some (key, record)

/-- The entries of a key are those of the registrations for it. -/
theorem filter_entries {α : Type} {recorded? : Registration → Option (Key × α)} {kind : Kind}
    (h : ∀ r e, recorded? r = some e → r.subject = (kind, e.1)) (registrations : List Registration) (key : Key) :
    (registrations.filterMap recorded?).filter (·.1 == key) =
      (registrations.filter (·.subject = (kind, key))).filterMap recorded? := by
  rw [List.filter_filterMap, List.filterMap_filter]
  congr 1
  funext r
  cases he : recorded? r with
  | none => simp
  | some e => simp [h r e he, Option.filter]

theorem subject_of_pod? (r : Registration) (e : Key × Pod) (h : r.pod? = some e) : r.subject = (.pod, e.1) := by
  cases r with
  | pod key record => exact Option.some.inj h ▸ rfl
  | service key record => cases h

theorem subject_of_service? (r : Registration) (e : Key × Service) (h : r.service? = some e) :
    r.subject = (.service, e.1) := by
  cases r with
  | pod key record => cases h
  | service key record => exact Option.some.inj h ▸ rfl

end Registration

/-- The entries of a configuration, the pods in front. -/
def Config.Directory.registrations (config : Config.Directory) : List Registration :=
  config.pods.map (fun p => .pod ⟨p.space, p.name⟩ ⟨p.ip⟩) ++
    config.services.map fun s => .service ⟨s.space, s.name⟩ ⟨s.clusterIp, s.port⟩

namespace Table

def register (table : Table) : Registration → Table
  | .pod key pod => table.withPod key pod
  | .service key service => table.withService key service

/-- The table after some registrations, from the first to the last. -/
def after (registrations : List Registration) : Table := registrations.foldl register empty

/-- Pods and services do not meet. -/
theorem after_eq (registrations : List Registration) : after registrations =
    ⟨.after (registrations.filterMap Registration.pod?), .after (registrations.filterMap Registration.service?)⟩ := by
  suffices h : ∀ table : Table, registrations.foldl register table =
      ⟨(registrations.filterMap Registration.pod?).foldl (fun r e => r.register e.1 e.2) table.pods,
        (registrations.filterMap Registration.service?).foldl (fun r e => r.register e.1 e.2) table.services⟩ from
    h empty
  induction registrations with
  | nil => exact fun table => rfl
  | cons r registrations ih =>
    intro table
    cases r with
    | pod key record => exact ih (table.withPod key record)
    | service key record => exact ih (table.withService key record)

theorem ofConfig_eq_after (config : Config.Directory) : ofConfig config = after config.registrations := by
  rw [after, Config.Directory.registrations, List.foldl_append, List.foldl_map, List.foldl_map]
  rfl

/-- Two runs of registrations that agree on each subject make directories that nobody can tell apart. -/
theorem directory_after_congr {a b : List Registration}
    (h : ∀ subject, a.filter (·.subject = subject) = b.filter (·.subject = subject)) :
    (after a).directory = (after b).directory := by
  have hpods : ∀ key, (a.filterMap Registration.pod?).filter (·.1 == key) =
      (b.filterMap Registration.pod?).filter (·.1 == key) := fun key => by
    rw [Registration.filter_entries Registration.subject_of_pod?, h,
      Registration.filter_entries Registration.subject_of_pod?]
  have hservices : ∀ key, (a.filterMap Registration.service?).filter (·.1 == key) =
      (b.filterMap Registration.service?).filter (·.1 == key) := fun key => by
    rw [Registration.filter_entries Registration.subject_of_service?, h,
      Registration.filter_entries Registration.subject_of_service?]
  have hpod := Records.find?_after_congr hpods
  have hservice := Records.find?_after_congr hservices
  have hlistPods := Records.listing_congr (Records.distinct_after _) (Records.distinct_after _) hpod
  have hlistServices := Records.listing_congr (Records.distinct_after _) (Records.distinct_after _) hservice
  simp only [after_eq, directory, hpod, hservice, hlistPods, hlistServices]

end Table

/-- A directory shows what has been registered: for each key the record that came last, and nothing for the others; and
    in its listings just what is found, in order, those of a namespace cut out of the whole. -/
structure Directory.ShowsLast {α : Type} (registered : List (Key × α)) (find : Key → Except String (Option α))
    (list : Option String → Except String (List (Key × α))) : Prop where
  found : ∀ key record, find key = .ok (some record) ↔
    ∃ front back, registered = front ++ (key, record) :: back ∧ ∀ later, (key, later) ∉ back
  missing : ∀ key, find key = .ok none ↔ ∀ record, (key, record) ∉ registered
  listed : ∃ all, list none = .ok all ∧ all.Pairwise (fun a b => a.1.Precedes b.1) ∧
    (∀ key record, (key, record) ∈ all ↔ find key = .ok (some record)) ∧
    ∀ space, list (some space) = .ok (all.filter (·.1.space = space))

theorem Records.showsLast {α : Type} (registered : List (Key × α)) :
    Directory.ShowsLast registered (fun key => .ok ((after registered).find? key))
      fun space => .ok ((after registered).listing space) where
  found key record := by rw [Except.ok.injEq, find?_after_eq_some_iff]
  missing key := by rw [Except.ok.injEq, find?_after_eq_none_iff]
  listed := by
    have hdistinct := distinct_after registered
    refine ⟨_, rfl, ordered_listing hdistinct none, fun key record => ?_, fun space => ?_⟩
    · rw [mem_listing, Except.ok.injEq, find?_eq_some_iff hdistinct]
      simp
    · rw [listing_some hdistinct]
      rfl

/-- The directory of a table shows the pods and the services that have been registered last. Other registrations make
    the same directory if they come in the same order for each subject. The table of a configuration is that of its
    entries. -/
theorem Table.shows_last_registrations (registrations : List Registration) :
    let directory := (Table.after registrations).directory
    Directory.ShowsLast (registrations.filterMap Registration.pod?) directory.pod directory.pods ∧
      Directory.ShowsLast (registrations.filterMap Registration.service?) directory.service directory.services ∧
      (∀ others : List Registration,
        (∀ subject, others.filter (·.subject = subject) = registrations.filter (·.subject = subject)) →
          (Table.after others).directory = directory) ∧
      ∀ config : Config.Directory, config.registrations = registrations → (Table.ofConfig config).directory = directory := by
  refine ⟨?_, ?_, fun others h => directory_after_congr h, fun config h => ?_⟩
  · rw [after_eq]
    exact Records.showsLast _
  · rw [after_eq]
    exact Records.showsLast _
  · rw [ofConfig_eq_after, h]

/-- A service and a pod of another key may change places, and two pods of one key may not. -/
theorem Table.shows_last_registrations_reordered :
    let web : Key := ⟨"a", "z"⟩
    let other : Key := ⟨"a-", "b"⟩
    let registrations : List Registration := [.pod web ⟨some "10.0.0.1"⟩, .pod other ⟨none⟩,
      .service web ⟨some "10.96.0.1", some 80⟩, .pod web ⟨some "10.0.0.2"⟩]
    let others : List Registration := [.service web ⟨some "10.96.0.1", some 80⟩, .pod web ⟨some "10.0.0.1"⟩,
      .pod web ⟨some "10.0.0.2"⟩, .pod other ⟨none⟩]
    (∀ subject, others.filter (·.subject = subject) = registrations.filter (·.subject = subject)) ∧
      (Table.after others).directory = (Table.after registrations).directory ∧
      (Table.after others).directory.pod web = .ok (some ⟨some "10.0.0.2"⟩) ∧ web.Precedes other := by
  intro web other registrations others
  have hsame : ∀ subject, others.filter (·.subject = subject) = registrations.filter (·.subject = subject) := by
    intro subject
    by_cases hweb : (Kind.pod, web) = subject
    · subst hweb
      decide
    · by_cases hother : (Kind.pod, other) = subject
      · subst hother
        decide
      · simp [others, registrations, List.filter_cons, Registration.subject, hweb, hother]
  obtain ⟨-, -, hdirectory, -⟩ := shows_last_registrations registrations
  exact ⟨hsame, hdirectory others hsame, rfl, Key.precedes_iff.mpr (Or.inl (by decide))⟩

end Gateway
