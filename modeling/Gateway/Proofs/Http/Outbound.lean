import Gateway.Http.Forwarding
import Gateway.Proofs.Http.Fields
import Gateway.Proofs.Net.Address
import Gateway.Proofs.Results
import Gateway.Proofs.Text.Utf8

/-! The fields of a request as its backend gets them. The gateway says in the forwarding fields how the client came; of what
    the client says there itself the list of addresses is left alone, in front of the client's own. What belongs to the
    client's connection stays behind, its host too, and every other name keeps its values. -/

namespace Gateway.Http

/-! ### Values that texts make -/

theorem value?_of_forall {text : String} (h : ∀ b ∈ text.toUTF8.toList, isCarried b = true) :
    value? text = some text.toUTF8 := by
  rw [Text.toList_eq_data] at h
  rw [value?, if_pos (Array.all_eq_true_iff_forall_mem.mpr fun b hb => h b (Array.mem_toList_iff.mpr hb))]

theorem isCarried_of_isVisible {b : UInt8} (h : isVisible b = true) : isCarried b = true := by
  simp only [isVisible, isCarried, Bool.or_eq_true, Bool.and_eq_true, decide_eq_true_eq, beq_iff_eq, bne_iff_ne, ne_eq]
    at h ⊢
  rcases h with ⟨hlow, hhigh⟩ | htab
  · exact Or.inl ⟨hlow, fun heq => absurd hhigh (by rw [heq]; decide)⟩
  · exact Or.inr htab

/-- The text of a value can be a value again. -/
theorem isCarried_of_text? {value : ByteArray} {text : String} (h : text? value = some text) :
    ∀ b ∈ text.toUTF8.toList, isCarried b = true := by
  unfold text? at h
  split at h
  · rename_i hvisible
    intro b hb
    rw [Text.toUTF8_of_fromUTF8? h, Text.toList_eq_data, Array.mem_toList_iff] at hb
    exact isCarried_of_isVisible (Array.all_eq_true_iff_forall_mem.mp hvisible b hb)
  · cases h

theorem isCarried_of_address {client : Net.IpAddress} : ∀ b ∈ client.text.toUTF8.toList, isCarried b = true := by
  have hchars : ∀ c ∈ Net.addressChars, ∀ b ∈ String.utf8EncodeChar c, isCarried b = true :=
    Text.forall_mem (by decide +kernel)
  intro b hb
  obtain ⟨c, hc, hb⟩ := Text.mem_toUTF8.mp hb
  exact hchars c (Net.IpAddress.mem_text hc) b hb

namespace Headers

/-- A list of addresses is a value, whatever stood in the values before. -/
theorem value?_forwardedFor (h : Headers) (client : Net.IpAddress) :
    value? (h.forwardedFor client) = some (h.forwardedFor client).toUTF8 := by
  refine value?_of_forall fun b hb => ?_
  obtain ⟨c, hc, hb⟩ := Text.mem_toUTF8.mp hb
  rw [forwardedFor, String.toList_intercalate] at hc
  rcases Text.mem_between hc with hcomma | ⟨piece, hpiece, hc⟩
  · have hchars : ∀ c ∈ ", ".toList, ∀ b ∈ String.utf8EncodeChar c, isCarried b = true :=
      Text.forall_mem (by decide +kernel)
    exact hchars c hcomma b hb
  · obtain ⟨text, htext, rfl⟩ := List.mem_map.mp hpiece
    have hb : b ∈ text.toUTF8.toList := Text.mem_toUTF8.mpr ⟨c, hc, hb⟩
    rcases List.mem_append.mp htext with htext | htext
    · obtain ⟨value, -, hvalue⟩ := List.mem_filterMap.mp htext
      exact isCarried_of_text? hvalue b hb
    · obtain rfl := List.mem_singleton.mp htext
      exact isCarried_of_address b hb

theorem forwardedFor_congr {h h' : Headers} (client : Net.IpAddress)
    (heq : h.values "x-forwarded-for" = h'.values "x-forwarded-for") : h.forwardedFor client = h'.forwardedFor client := by
  rw [forwardedFor, forwardedFor, texts, texts, heq]

/-- The forwarding fields before the address of the client is added. -/
theorem exists_forwarded (h : Headers) (origin : Origin) (path : String) : ∃ stated : Headers,
    (∀ name, stated.values name =
      if name = "x-forwarded-proto" then (value? origin.scheme).toList
      else if name = "x-forwarded-host" then (origin.host.bind value?).toList
      else if name = "x-forwarded-uri" then (value? path).toList
      else h.values name) ∧
    h.forwarded origin path =
      origin.client.elim stated fun client => stated.setText "x-forwarded-for" (stated.forwardedFor client) := by
  let rooted := h.setText "x-forwarded-uri" path
  cases hhost : origin.host with
  | some host =>
    refine ⟨(rooted.setText "x-forwarded-host" host).setText "x-forwarded-proto" origin.scheme, fun name => ?_, ?_⟩
    · simp only [rooted, values_setText, Option.bind_some]
    · simp only [forwarded, hhost]
      cases origin.client <;> rfl
  | none =>
    refine ⟨(rooted.remove "x-forwarded-host").setText "x-forwarded-proto" origin.scheme, fun name => ?_, ?_⟩
    · simp only [rooted, values_setText, values_remove, Option.bind_none, Option.toList_none]
    · simp only [forwarded, hhost]
      cases origin.client <;> rfl

theorem values_forwarded (h : Headers) (origin : Origin) (path name : String) :
    (h.forwarded origin path).values name =
      if name = "x-forwarded-for" then
        (origin.client.map fun client => [(h.forwardedFor client).toUTF8]).getD (h.values name)
      else if name = "x-forwarded-proto" then (value? origin.scheme).toList
      else if name = "x-forwarded-host" then (origin.host.bind value?).toList
      else if name = "x-forwarded-uri" then (value? path).toList
      else h.values name := by
  obtain ⟨stated, hstated, hforwarded⟩ := exists_forwarded h origin path
  -- The list of addresses is not touched before it is read.
  have hfor : stated.values "x-forwarded-for" = h.values "x-forwarded-for" := hstated "x-forwarded-for"
  rw [hforwarded]
  cases origin.client with
  | some client =>
    rw [Option.elim_some, values_setText, forwardedFor_congr client hfor, value?_forwardedFor, hstated]
    rfl
  | none =>
    rw [Option.elim_none]
    by_cases hname : name = "x-forwarded-for"
    · subst hname
      exact hfor
    · rw [if_neg hname, hstated]

end Headers
end Gateway.Http

namespace Gateway.Forwarding

open Http

/-! ### What a backend gets -/

/-- The names of the forwarding fields. -/
def statedNames : List String := ["x-forwarded-uri", "x-forwarded-host", "x-forwarded-proto", "x-forwarded-for"]

/-- The fields of a name stay behind: they belong to the client's connection, or say which host the client asked for. -/
def StaysBehind (h : Headers) (name : String) : Prop := name ∈ hopByHop ∨ name ∈ h.listed ∨ name = "host"

/-- What the fields `sent` to a backend are, for a request for `path` that came with the fields `h` from `origin`. What cannot
    be a value is not stated at all. -/
structure Stated (h : Headers) (origin : Origin) (path : String) (sent : Headers) : Prop where
  uri : sent.values "x-forwarded-uri" = (value? path).toList
  host : sent.values "x-forwarded-host" = (origin.host.bind value?).toList
  proto : sent.values "x-forwarded-proto" = (value? origin.scheme).toList
  /-- A client that is known stands behind the addresses that it lists itself. -/
  known : ∀ client, origin.client = some client → sent.values "x-forwarded-for" =
    [(", ".intercalate ((if "x-forwarded-for" ∈ h.listed then [] else h.texts "x-forwarded-for") ++ [client.text])).toUTF8]
  unknown : origin.client = none → sent.values "x-forwarded-for" = h.endToEnd.values "x-forwarded-for"
  behind : ∀ name ∉ statedNames, StaysBehind h name → sent.values name = []
  kept : ∀ name ∉ statedNames, ¬ StaysBehind h name → sent.values name = h.values name

/-- Fields that differ at most in what belongs to the client's connection, in the host that is asked for, and in what the
    gateway states itself; also in whether these belong to the connection. -/
def Alike (h h' : Headers) : Prop :=
  ∀ name, name ∉ ["host", "x-forwarded-uri", "x-forwarded-host", "x-forwarded-proto"] →
    h.endToEnd.values name = h'.endToEnd.values name

variable {h h' : Headers} {origin : Origin} {path : String}

/-- What is left when the connection and the host stay behind. -/
theorem values_left (h : Headers) (name : String) : (StaysBehind h name → (h.endToEnd.remove "host").values name = []) ∧
    (¬ StaysBehind h name → (h.endToEnd.remove "host").values name = h.values name) := by
  rw [Headers.values_remove, Headers.values_endToEnd]
  by_cases hhost : name = "host"
  · simp [StaysBehind, hhost]
  · by_cases hconnection : name ∈ h.listed ∨ name ∈ hopByHop
    · have hbehind : StaysBehind h name := hconnection.elim (fun hl => Or.inr (Or.inl hl)) Or.inl
      simp [hconnection, hbehind]
    · have hkept : ¬ StaysBehind h name := by
        rintro (hhop | hlisted | heq)
        · exact hconnection (Or.inr hhop)
        · exact hconnection (Or.inl hlisted)
        · exact hhost heq
      simp [hhost, hconnection, hkept]

theorem texts_left (h : Headers) : (h.endToEnd.remove "host").texts "x-forwarded-for" =
    if "x-forwarded-for" ∈ h.listed then [] else h.texts "x-forwarded-for" := by
  have hname : "x-forwarded-for" ∉ hopByHop ∧ "x-forwarded-for" ≠ "host" := by decide
  simp only [Headers.texts]
  split
  · rename_i hlisted
    rw [(values_left h "x-forwarded-for").1 (Or.inr (Or.inl hlisted))]
    rfl
  · rename_i hlisted
    rw [(values_left h "x-forwarded-for").2 fun hbehind => ?_]
    rcases hbehind with hhop | hl | hhost
    · exact hname.1 hhop
    · exact hlisted hl
    · exact hname.2 hhost

theorem stated_outboundHeaders (h : Headers) (origin : Origin) (target : Target) :
    Stated h origin (target.base ++ target.backendPath) (outboundHeaders h origin target) := by
  have hothers : ∀ name, name ∉ statedNames →
      (outboundHeaders h origin target).values name = (h.endToEnd.remove "host").values name := by
    intro name hname
    simp only [statedNames, List.mem_cons, List.not_mem_nil, or_false, not_or] at hname
    obtain ⟨huri, hhost, hproto, hfor⟩ := hname
    rw [outboundHeaders, Headers.values_forwarded, if_neg hfor, if_neg hproto, if_neg hhost, if_neg huri]
  refine ⟨?uri, ?host, ?proto, fun client hclient => ?known, fun hclient => ?unknown, fun name hname hbehind => ?behind,
    fun name hname hkept => ?kept⟩
  case uri => exact Headers.values_forwarded _ _ _ "x-forwarded-uri"
  case host => exact Headers.values_forwarded _ _ _ "x-forwarded-host"
  case proto => exact Headers.values_forwarded _ _ _ "x-forwarded-proto"
  case known =>
    rw [outboundHeaders, Headers.values_forwarded, if_pos rfl, hclient, Option.map_some, Option.getD_some,
      Headers.forwardedFor, texts_left]
  case unknown =>
    rw [outboundHeaders, Headers.values_forwarded, if_pos rfl, hclient]
    exact Headers.values_remove _ "host" "x-forwarded-for"
  case behind => rw [hothers name hname, (values_left h name).1 hbehind]
  case kept => rw [hothers name hname, (values_left h name).2 hkept]

theorem Alike.values_left (ha : Alike h h') {name : String}
    (hname : name ∉ ["x-forwarded-uri", "x-forwarded-host", "x-forwarded-proto"]) :
    (h.endToEnd.remove "host").values name = (h'.endToEnd.remove "host").values name := by
  rw [Headers.values_remove, Headers.values_remove]
  by_cases hhost : name = "host"
  · rw [if_pos hhost, if_pos hhost]
  · rw [if_neg hhost, if_neg hhost]
    exact ha name fun hmem => (List.mem_cons.mp hmem).elim hhost hname

theorem Stated.values_left {sent : Headers} (hs : Stated h origin path sent) {name : String} (hname : name ∉ statedNames) :
    sent.values name = (h.endToEnd.remove "host").values name := by
  obtain ⟨hbehind, hkept⟩ := Forwarding.values_left h name
  by_cases hstays : StaysBehind h name
  · rw [hs.behind name hname hstays, hbehind hstays]
  · rw [hs.kept name hname hstays, hkept hstays]

/-- What is stated of two requests that are alike is the same. -/
theorem Stated.values_eq {sent sent' : Headers} (hs : Stated h origin path sent) (hs' : Stated h' origin path sent')
    (ha : Alike h h') (name : String) : sent.values name = sent'.values name := by
  by_cases hname : name ∈ statedNames
  · simp only [statedNames, List.mem_cons, List.not_mem_nil, or_false] at hname
    rcases hname with rfl | rfl | rfl | rfl
    · rw [hs.uri, hs'.uri]
    · rw [hs.host, hs'.host]
    · rw [hs.proto, hs'.proto]
    · cases hclient : origin.client with
      | some client =>
        rw [hs.known client hclient, hs'.known client hclient, ← texts_left, ← texts_left, Headers.texts, Headers.texts,
          ha.values_left (by decide)]
      | none => rw [hs.unknown hclient, hs'.unknown hclient, ha "x-forwarded-for" (by decide)]
  · rw [hs.values_left hname, hs'.values_left hname]
    refine ha.values_left fun hmem => hname ?_
    simp only [statedNames, List.mem_cons, List.not_mem_nil, or_false] at hmem ⊢
    rcases hmem with huri | hhost | hproto
    · exact Or.inl huri
    · exact Or.inr (Or.inl hhost)
    · exact Or.inr (Or.inr (Or.inl hproto))

section
variable [Gzip.Writer]

theorem exists_sent {config : Config} {request : Request} {target : Target} {address : Address} {source : Url} {uri : Uri}
    (hsource : Url.ofText (target.destination address request.uri.query) = .ok source)
    (huri : Uri.ofText (target.destination address request.uri.query) = .ok uri) :
    ∃ sent, (forward config request target address origin).sent? = some sent := by
  simp only [forward, hsource, huri]
  exact ⟨_, rfl⟩

theorem headers_of_sent {config : Config} {request : Request} {target : Target} {address : Address} {sent : Outbound}
    (hsent : (forward config request target address origin).sent? = some sent) :
    sent.headers = outboundHeaders request.headers origin target := by
  unfold forward at hsent
  dsimp only at hsent
  split at hsent
  · cases hsent
  · cases hsent
  · obtain rfl := Option.some.inj hsent
    rfl

/-- **A client can neither forge nor suppress what the gateway states of it.** A request that is sent to a backend has in the
    forwarding fields what the gateway states, nothing of what belongs to the client's connection, and all else as it came.
    So two requests that are alike otherwise make no difference for the backend, whatever they say in the forwarding fields. -/
theorem forward_states {config : Config} {request : Request} {target : Target} {address : Address} {sent : Outbound}
    (hsent : (forward config request target address origin).sent? = some sent) :
    Stated request.headers origin (target.base ++ target.backendPath) sent.headers ∧
      ∀ other : Request, Alike request.headers other.headers →
        ∀ sent', (forward config other target address origin).sent? = some sent' →
          ∀ name, sent.headers.values name = sent'.headers.values name := by
  have hstated := stated_outboundHeaders request.headers origin target
  rw [← headers_of_sent hsent] at hstated
  refine ⟨hstated, fun other halike sent' hsent' name => ?_⟩
  have hother := stated_outboundHeaders other.headers origin target
  rw [← headers_of_sent hsent'] at hother
  exact hstated.values_eq hother halike name

end

/-! ### A client that forges -/

def field (name value : String) : Field := ⟨name, value.toUTF8⟩

/-- The client states a host and a path, and it lists the fields that would say otherwise. -/
def forgingFields : Headers := ⟨[
  field "host" "console.example.com", field "connection" "close, X-Forwarded-Host, Host,X-Session",
  field "x-forwarded-host" "evil.example", field "x-forwarded-uri" "/admin", field "x-forwarded-for" "203.0.113.1",
  field "accept" "text/html", field "x-session" "1", field "x-forwarded-for" "198.51.100.2", field "accept" "image/png"]⟩

/-- The same without the client's statements. -/
def plainFields : Headers := ⟨[
  field "host" "console.example.com", field "x-forwarded-for" "203.0.113.1", field "accept" "text/html",
  field "x-forwarded-for" "198.51.100.2", field "accept" "image/png"]⟩

theorem alike_forging : Alike forgingFields plainFields := by
  have hforging : forgingFields.endToEnd = ⟨[field "x-forwarded-uri" "/admin", field "x-forwarded-for" "203.0.113.1",
      field "accept" "text/html", field "x-forwarded-for" "198.51.100.2", field "accept" "image/png"]⟩ := by
    decide +kernel
  have hplain : plainFields.endToEnd = plainFields := by decide +kernel
  intro name hname
  simp only [List.mem_cons, List.not_mem_nil, or_false, not_or] at hname
  rw [hforging, hplain]
  simp [plainFields, Headers.values, field, Ne.symm hname.1, Ne.symm hname.2.1]

theorem forward_states_forging :
    let target : Target := ⟨"default", .pod, "web", some "8080", ["a"], true, "/proxy/default/pod/web/8080"⟩
    let origin : Origin := ⟨"https", some "console.example.com", some (.v4 ⟨3221225994⟩)⟩
    let request (fields : Headers) : Request := ⟨"GET", ⟨none, none, "/", none⟩, fields, .ofBytes .empty, none⟩
    ∃ sent sent', (forward {} (request forgingFields) target ⟨"10.1.2.3", 8080⟩ origin).sent? = some sent ∧
      (forward {} (request plainFields) target ⟨"10.1.2.3", 8080⟩ origin).sent? = some sent' ∧
      sent.headers.values "x-forwarded-host" = ["console.example.com".toUTF8] ∧
      sent.headers.values "x-forwarded-uri" = ["/proxy/default/pod/web/8080/a/".toUTF8] ∧
      sent.headers.values "x-forwarded-for" = ["203.0.113.1, 198.51.100.2, 192.0.2.10".toUTF8] ∧
      sent.headers.values "x-session" = [] ∧ ∀ name, sent.headers.values name = sent'.headers.values name := by
  intro target origin request
  obtain ⟨source, hsource⟩ : ∃ source, Url.ofText (target.destination ⟨"10.1.2.3", 8080⟩ none) = .ok source :=
    (Option.isSome_iff_exists.mp (by decide +kernel)).imp fun _ => eq_ok_of_toOption
  obtain ⟨uri, huri⟩ : ∃ uri, Uri.ofText (target.destination ⟨"10.1.2.3", 8080⟩ none) = .ok uri :=
    (Option.isSome_iff_exists.mp (by decide +kernel)).imp fun _ => eq_ok_of_toOption
  have hsent : ∀ fields, ∃ sent, (forward {} (request fields) target ⟨"10.1.2.3", 8080⟩ origin).sent? = some sent :=
    fun fields => exists_sent hsource huri
  obtain ⟨sent, hforging⟩ := hsent forgingFields
  obtain ⟨sent', hplain⟩ := hsent plainFields
  obtain ⟨hstated, halike⟩ := forward_states hforging
  refine ⟨sent, sent', hforging, hplain, ?_, ?_, ?_, ?_, halike (request plainFields) alike_forging sent' hplain⟩
  · exact hstated.host.trans (by decide +kernel)
  · exact hstated.uri.trans (by decide +kernel)
  · exact (hstated.known _ rfl).trans (by decide +kernel)
  · exact hstated.behind "x-session" (by decide +kernel) (Or.inr (Or.inl (by decide +kernel)))

end Gateway.Forwarding
