import Gateway.Proofs.Directory.Resolving
import Gateway.Proofs.Link.Outcome
import Gateway.Proofs.Metrics
import Gateway.Server

/-! Requests for backends, and what is counted for them. A request takes one of six courses, and only the last of them
    leads to the backend. Whatever the course, the request counts once, by the status of its answer; and a page that
    came back counts once by what became of it. -/

namespace Gateway

open Http

namespace Server
variable (server : Server) (request : Request)

/-- How the client of a request reached the gateway. -/
def origin : Origin := Origin.ofRequest request.uri request.headers server.config.listener.scheme request.peer

/-- What a request is for, if its path names a target. -/
def kind? : Option Kind := (Target.ofPath server.config.proxy.mount request.uri.path).toOption.map Target.kind

/-- The way of a request to its backend. -/
structure Way (target : Target) (address : Address) (source : Url) (uri : Uri) : Prop where
  routed : Target.ofPath server.config.proxy.mount request.uri.path = .ok target
  resolved : server.directory.resolve target = .ok address
  source : Url.ofText (target.destination address request.uri.query) = .ok source
  uri : Uri.ofText (target.destination address request.uri.query) = .ok uri

end Server

/-- What becomes of a request for a backend. -/
inductive Course
  /-- Its path names no target. -/
  | astray
  /-- Its path names a pod, but no port. -/
  | portless
  /-- The directory cannot answer. -/
  | unanswered
  /-- There is no such backend, or it has no address. -/
  | absent
  /-- Nothing can be sent to the destination. -/
  | undialable
  | sent
deriving DecidableEq, Repr

namespace Course

/-- When a course is due. -/
inductive IsDue (server : Server) (request : Request) : Course → Prop
  | astray {e : RoutingError} (routed : Target.ofPath server.config.proxy.mount request.uri.path = .error e) :
    IsDue server request .astray
  | portless {target : Target} (routed : Target.ofPath server.config.proxy.mount request.uri.path = .ok target)
    (port : target.IsPortless) : IsDue server request .portless
  | unanswered {target : Target} {reason : String}
    (routed : Target.ofPath server.config.proxy.mount request.uri.path = .ok target)
    (port : ¬ target.IsPortless) (fails : server.directory.Fails target reason) : IsDue server request .unanswered
  | absent {target : Target} (routed : Target.ofPath server.config.proxy.mount request.uri.path = .ok target)
    (port : ¬ target.IsPortless) (lacks : server.directory.Lacks target) : IsDue server request .absent
  | undialable {target : Target} {address : Address}
    (routed : Target.ofPath server.config.proxy.mount request.uri.path = .ok target)
    (resolved : server.directory.resolve target = .ok address)
    (unread : (∃ e, Url.ofText (target.destination address request.uri.query) = .error e) ∨
      ∃ e, Uri.ofText (target.destination address request.uri.query) = .error e) : IsDue server request .undialable
  | sent {target : Target} {address : Address} {source : Url} {uri : Uri}
    (way : server.Way request target address source uri) : IsDue server request .sent

/-- The status of the answer to a request that is not sent. -/
def refusal? : Course → Option Nat
  | astray => some 400
  | portless => some 400
  | unanswered => some 502
  | absent => some 404
  | undialable => some 503
  | sent => none

variable {server : Server} {request : Request}

theorem exists_isDue (server : Server) (request : Request) : ∃ course : Course, course.IsDue server request := by
  cases hrouted : Target.ofPath server.config.proxy.mount request.uri.path with
  | error e => exact ⟨_, .astray hrouted⟩
  | ok target =>
    by_cases hport : target.IsPortless
    · exact ⟨_, .portless hrouted hport⟩
    by_cases hfails : ∃ reason, server.directory.Fails target reason
    · obtain ⟨reason, hfails⟩ := hfails
      exact ⟨_, .unanswered hrouted hport hfails⟩
    by_cases hlacks : server.directory.Lacks target
    · exact ⟨_, .absent hrouted hport hlacks⟩
    obtain ⟨address, hresolved⟩ := Directory.exists_resolve hport (not_exists.mp hfails) hlacks
    cases hsource : Url.ofText (target.destination address request.uri.query) with
    | error e => exact ⟨_, .undialable hrouted hresolved (Or.inl ⟨e, hsource⟩)⟩
    | ok source =>
      cases huri : Uri.ofText (target.destination address request.uri.query) with
      | error e => exact ⟨_, .undialable hrouted hresolved (Or.inr ⟨e, huri⟩)⟩
      | ok uri => exact ⟨_, .sent ⟨hrouted, hresolved, hsource, huri⟩⟩

end Course

/-! ### What a request gets -/

namespace Server
variable [Gzip.Writer]

/-- A request is answered without being sent, and is counted for that. -/
def Refuses (server : Server) (request : Request) (status : Nat) : Prop :=
  ∃ answer : Answer, server.passOn request = .done ⟨answer, [.request request.method status (server.kind? request)]⟩ ∧
    answer.status = status

variable {server : Server} {request : Request}

theorem refuses_of_reject {failure : Failure}
    (h : server.passOn request = .done (reject request failure (server.kind? request))) :
    server.Refuses request failure.status :=
  ⟨.ofResponse failure.response, h, rfl⟩

omit [Gzip.Writer] in
theorem kind?_astray {e : RoutingError} (routed : Target.ofPath server.config.proxy.mount request.uri.path = .error e) :
    server.kind? request = none := by
  simp [kind?, routed, Except.toOption]

theorem passOn_astray {e : RoutingError} (routed : Target.ofPath server.config.proxy.mount request.uri.path = .error e) :
    server.passOn request = .done (reject request (.routing e) (server.kind? request)) := by
  rw [passOn, kind?_astray routed, routed]

section
variable {target : Target} {address : Address}
  (routed : Target.ofPath server.config.proxy.mount request.uri.path = .ok target)
include routed

omit [Gzip.Writer] in
theorem kind?_routed : server.kind? request = some target.kind := by
  simp [kind?, routed, Except.toOption]

theorem passOn_unresolved {e : ResolveError} (resolved : server.directory.resolve target = .error e) :
    server.passOn request = .done (reject request (.resolution e) (server.kind? request)) := by
  rw [passOn, kind?_routed routed, routed]
  dsimp only
  rw [resolved]

theorem passOn_resolved (resolved : server.directory.resolve target = .ok address) : server.passOn request =
    (Forwarding.forward server.config request target address (server.origin request)).map fun (answer, outcome) =>
      ⟨answer, (outcome.map Sample.page).toList ++
        [.request request.method answer.status (server.kind? request)]⟩ := by
  rw [passOn, kind?_routed routed, routed]
  dsimp only
  rw [resolved]
  rfl

/-- Nothing is sent to a destination that cannot be read. -/
theorem refuses_undialable (resolved : server.directory.resolve target = .ok address)
    (unread : (∃ e, Url.ofText (target.destination address request.uri.query) = .error e) ∨
      ∃ e, Uri.ofText (target.destination address request.uri.query) = .error e) :
    server.Refuses request 503 := by
  rw [Refuses, passOn_resolved routed resolved, Forwarding.forward]
  cases hsource : Url.ofText (target.destination address request.uri.query) with
  | error e => exact ⟨_, rfl, rfl⟩
  | ok source =>
    obtain ⟨e, huri⟩ := unread.resolve_left (by simp [hsource])
    rw [huri]
    exact ⟨_, rfl, rfl⟩

end

/-- A request that is not sent is refused with the status of its course. -/
theorem refuses_of_isDue {course : Course} {status : Nat} (h : course.IsDue server request)
    (hs : course.refusal? = some status) : server.Refuses request status := by
  cases h with
  | @astray e routed =>
    cases e
    obtain rfl := Option.some.inj hs
    exact refuses_of_reject (passOn_astray routed)
  | portless routed port =>
    obtain rfl := Option.some.inj hs
    exact refuses_of_reject (passOn_unresolved routed (Directory.resolve_portless port))
  | unanswered routed port fails =>
    obtain rfl := Option.some.inj hs
    exact refuses_of_reject (passOn_unresolved routed (Directory.resolve_fails port fails))
  | absent routed port lacks =>
    obtain rfl := Option.some.inj hs
    exact refuses_of_reject (passOn_unresolved routed (Directory.resolve_lacks port lacks))
  | undialable routed resolved unread =>
    obtain rfl := Option.some.inj hs
    exact refuses_undialable routed resolved unread
  | sent way => cases hs

/-- What comes of a request that is sent depends on the reply. -/
theorem exists_passOn_sent {target : Target} {address : Address} {source : Url} {uri : Uri}
    (way : server.Way request target address source uri) : ∃ sent resume, server.passOn request = .ask sent resume ∧
      (∀ reply, (∀ raw, reply ≠ .answered raw) → ∃ answer : Answer,
        resume reply = ⟨answer, [.request request.method 503 (server.kind? request)]⟩ ∧ answer.status = 503) ∧
      ∀ raw, resume (.answered raw) =
        let result := Link.rerootResponse server.config.links (Forwarding.view (server.origin request) target source)
          { raw with headers := raw.headers.endToEnd }
        ⟨.flushed server.config.proxy.flushInterval result.1,
          (result.2.map Sample.page).toList ++
            [.request request.method result.1.status (server.kind? request)]⟩ := by
  rw [passOn_resolved way.routed way.resolved, Forwarding.forward, way.source, way.uri]
  refine ⟨_, _, rfl, fun reply hreply => ?_, fun raw => rfl⟩
  cases reply with
  | disrupted reason => exact ⟨_, rfl, rfl⟩
  | late => exact ⟨_, rfl, rfl⟩
  | answered raw => exact absurd rfl (hreply raw)

end Server

namespace Course
variable {server : Server} {request : Request} {a b : Course}

theorem refusal?_eq_none_iff {course : Course} : course.refusal? = none ↔ course = .sent := by
  cases course <;> simp [refusal?]

/-- Just the requests that go astray are for nothing. -/
theorem kind?_eq_none_iff {course : Course} (h : course.IsDue server request) :
    server.kind? request = none ↔ course = .astray := by
  cases h with
  | astray routed => simp [Server.kind?_astray routed]
  | portless routed => simp [Server.kind?_routed routed]
  | unanswered routed => simp [Server.kind?_routed routed]
  | absent routed => simp [Server.kind?_routed routed]
  | undialable routed => simp [Server.kind?_routed routed]
  | sent way => simp [Server.kind?_routed way.routed]

/-- Only two courses share a status. -/
theorem eq_of_refusal?_eq (hrefusal : a.refusal? = b.refusal?) (hastray : a = .astray ↔ b = .astray) : a = b := by
  cases a <;> cases b <;> simp_all [refusal?]

variable [Gzip.Writer]

/-- A request is sent if no other course is due. -/
theorem sent?_isSome_iff {course : Course} (h : course.IsDue server request) :
    (server.passOn request).sent?.isSome = true ↔ course = .sent := by
  cases hrefusal : course.refusal? with
  | some status =>
    obtain ⟨answer, hplan, -⟩ := Server.refuses_of_isDue h hrefusal
    rw [← refusal?_eq_none_iff, hplan, hrefusal]
    simp [Plan.sent?]
  | none =>
    obtain rfl := refusal?_eq_none_iff.mp hrefusal
    cases h with
    | sent way =>
      obtain ⟨sent, resume, hplan, -⟩ := Server.exists_passOn_sent way
      simp [hplan, Plan.sent?]

/-- No two courses are due at once. The plan tells which it is: by whether it sends, and otherwise by what it counts. -/
theorem eq_of_isDue (ha : a.IsDue server request) (hb : b.IsDue server request) : a = b := by
  have hsent : a = .sent ↔ b = .sent := (sent?_isSome_iff ha).symm.trans (sent?_isSome_iff hb)
  cases hra : a.refusal? with
  | none =>
    have := refusal?_eq_none_iff.mp hra
    rw [this, hsent.mp this]
  | some status =>
    cases hrb : b.refusal? with
    | none =>
      have := refusal?_eq_none_iff.mp hrb
      rw [this, hsent.mpr this]
    | some other =>
      obtain ⟨_, hplan, -⟩ := Server.refuses_of_isDue ha hra
      obtain ⟨_, hplan', -⟩ := Server.refuses_of_isDue hb hrb
      cases hplan.symm.trans hplan'
      exact eq_of_refusal?_eq (hra.trans hrb.symm) ((kind?_eq_none_iff ha).symm.trans (kind?_eq_none_iff hb))

end Course

/-! ### The account -/

namespace Server
variable [Gzip.Writer] (server : Server) (request : Request) (backend : Outbound → Reply)

/-- A backend's response to a request, without what belongs to its connection, and the page that it may be. -/
inductive Receives : Link.View → Response → Prop
  | intro {target : Target} {address : Address} {source : Url} {uri : Uri} {sent : Outbound} {raw : Response}
    (way : server.Way request target address source uri) (asks : (server.passOn request).sent? = some sent)
    (answers : backend sent = .answered raw) :
    Receives (Forwarding.view (server.origin request) target source) { raw with headers := raw.headers.endToEnd }

variable {server request backend}

section
variable {target : Target} {address : Address} {source : Url} {uri : Uri} {sent : Outbound} {view : Link.View}
  {response : Response} (way : server.Way request target address source uri)
  (asks : (server.passOn request).sent? = some sent)
include way asks

/-- The way of a request, if it has one, is the only one. -/
theorem Way.exists_of_receives (h : server.Receives request backend view response) : ∃ raw,
    backend sent = .answered raw ∧ view = Forwarding.view (server.origin request) target source ∧
      response = { raw with headers := raw.headers.endToEnd } := by
  obtain ⟨other, asks', answers⟩ := h
  cases way.routed.symm.trans other.routed
  cases way.resolved.symm.trans other.resolved
  cases way.source.symm.trans other.source
  cases asks.symm.trans asks'
  exact ⟨_, answers, rfl, rfl⟩

theorem Way.receives_iff {raw : Response} (answers : backend sent = .answered raw) :
    server.Receives request backend view response ↔ view = Forwarding.view (server.origin request) target source ∧
      response = { raw with headers := raw.headers.endToEnd } := by
  constructor
  · intro h
    obtain ⟨other, answers', h⟩ := way.exists_of_receives asks h
    cases answers.symm.trans answers'
    exact h
  · rintro ⟨rfl, rfl⟩
    exact ⟨way, asks, answers⟩

end

variable (server request backend)

/-- What an exchange counts, and what its answer has to be for that. -/
structure Accounts (course : Course) (outcome : Option Link.Outcome) (exchange : Exchange) : Prop where
  samples : exchange.samples =
    (outcome.map Sample.page).toList ++ [.request request.method exchange.answer.status (server.kind? request)]
  /-- The two counters of the request and the one of the page say 1, and there are no others. -/
  counters : account exchange.samples =
    let label := ((server.kind? request).map Kind.name).getD "none"
    requestLine "proxy_request_duration_seconds_count" request.method exchange.answer.status label ::
      requestLine "proxy_requests_total" request.method exchange.answer.status label ::
        outcome.toList.map (pageLine "proxy_rewrites_total" ·.name)
  kind : ((server.kind? request).map Kind.name).getD "none" = "none" ↔ course = .astray
  status : ∀ status, course.refusal? = some status → exchange.answer.status = status
  silent : course = .sent → (∀ view response, ¬ server.Receives request backend view response) →
    exchange.answer.status = 503
  page : outcome.isSome = true ↔ ∃ view response, server.Receives request backend view response ∧
    server.config.links.enabled = true ∧ response.headers.isHtml = true
  rerooted : outcome.map Link.Outcome.name = some "rewritten" ↔
    ∃ view response, server.Receives request backend view response ∧
      Link.IsReplacement server.config.links view response exchange.answer.body.inner
  spared : ∀ view response, server.Receives request backend view response →
    outcome.map Link.Outcome.name = some "rewritten" ∨ Link.IsSpared response exchange.answer.body.inner

variable {server request backend}

theorem accounts_of_unreceived {course : Course} {answer : Answer} {status : Nat} (hdue : course.IsDue server request)
    (hno : ∀ view response, ¬ server.Receives request backend view response) (hstatus : answer.status = status)
    (hrefusal : ∀ other, course.refusal? = some other → status = other) (hsilent : course = .sent → status = 503) :
    server.Accounts request backend course none
      ⟨answer, [.request request.method status (server.kind? request)]⟩ where
  samples := by simp [hstatus]
  counters := by
    subst hstatus
    exact account_request request.method answer.status (server.kind? request) none
  kind := Kind.getD_name_eq_none_iff.trans (Course.kind?_eq_none_iff hdue)
  status other hother := hstatus.trans (hrefusal other hother)
  silent hsent _ := hstatus.trans (hsilent hsent)
  page := by simp [hno]
  rerooted := by simp [hno]
  spared view response h := absurd h (hno view response)

theorem accounts_of_received {view : Link.View} {response : Response} (hdue : Course.sent.IsDue server request)
    (hreceives : ∀ other others, server.Receives request backend other others ↔ other = view ∧ others = response) :
    let result := Link.rerootResponse server.config.links view response
    server.Accounts request backend .sent result.2
      ⟨.flushed server.config.proxy.flushInterval result.1,
        (result.2.map Sample.page).toList ++ [.request request.method result.1.status (server.kind? request)]⟩ where
  samples := rfl
  counters := account_request _ _ _ _
  kind := Kind.getD_name_eq_none_iff.trans (Course.kind?_eq_none_iff hdue)
  status := by simp [Course.refusal?]
  silent _ hno := absurd ((hreceives view response).mpr ⟨rfl, rfl⟩) (hno view response)
  page := by simp [hreceives, and_assoc, Link.rerootResponse_counts_iff]
  rerooted := Link.Outcome.name_eq_rewritten_iff.trans <| by
    simpa [hreceives, and_assoc, Answer.flushed] using Link.rerootResponse_rerooted_iff.1
  spared other others h := by
    obtain ⟨rfl, rfl⟩ := (hreceives other others).mp h
    exact Link.rerootResponse_rerooted_iff.2.imp_left Link.Outcome.name_eq_rewritten_iff.mpr

theorem Way.exists_accounts {target : Target} {address : Address} {source : Url} {uri : Uri}
    (way : server.Way request target address source uri) :
    ∃ outcome, server.Accounts request backend .sent outcome ((server.passOn request).run backend) := by
  obtain ⟨sent, resume, hplan, hsilent, hanswered⟩ := exists_passOn_sent way
  have hasks : (server.passOn request).sent? = some sent := congrArg Plan.sent? hplan
  rw [hplan, Plan.run]
  by_cases hreply : ∃ raw, backend sent = .answered raw
  · obtain ⟨raw, hreply⟩ := hreply
    rw [hreply, hanswered]
    exact ⟨_, accounts_of_received (.sent way) fun _ _ => way.receives_iff hasks hreply⟩
  · obtain ⟨answer, hresume, hstatus⟩ := hsilent (backend sent) (not_exists.mp hreply)
    rw [hresume]
    have hno (view : Link.View) (response : Response) : ¬ server.Receives request backend view response := by
      intro h
      obtain ⟨raw, answers, -⟩ := way.exists_of_receives hasks h
      exact hreply ⟨raw, answers⟩
    exact ⟨none, accounts_of_unreceived (.sent way) hno hstatus (by simp [Course.refusal?]) fun _ => rfl⟩

/-- **One account for each request.** Of the courses of a request just one is due, and the backend is asked on the last
    of them only. On each of the others the answer has the status of the course, and on the last one its own if no
    response was received. In any case the request counts once, by the status of its answer; and a page counts once if
    it was received, by what became of it. -/
theorem passOn_accounts (server : Server) (request : Request) (backend : Outbound → Reply) :
    ∃ course : Course, course.IsDue server request ∧
      (∀ other : Course, other.IsDue server request → other = course) ∧
      ((server.passOn request).sent?.isSome = true ↔ course = .sent) ∧
      ∃ outcome, server.Accounts request backend course outcome ((server.passOn request).run backend) := by
  obtain ⟨course, hdue⟩ := Course.exists_isDue server request
  refine ⟨course, hdue, fun other hother => Course.eq_of_isDue hother hdue, Course.sent?_isSome_iff hdue, ?_⟩
  cases hrefusal : course.refusal? with
  | some status =>
    obtain ⟨answer, hplan, hstatus⟩ := refuses_of_isDue hdue hrefusal
    have hno (view : Link.View) (response : Response) : ¬ server.Receives request backend view response := by
      rintro ⟨-, asks, -⟩
      rw [hplan] at asks
      cases asks
    rw [hplan]
    have hsent : course ≠ .sent := fun hsent => by simp [hsent, Course.refusal?] at hrefusal
    exact ⟨none, accounts_of_unreceived hdue hno hstatus (by simp [hrefusal]) fun h => absurd h hsent⟩
  | none =>
    obtain rfl := Course.refusal?_eq_none_iff.mp hrefusal
    cases hdue with
    | sent way => exact way.exists_accounts

end Server
end Gateway
