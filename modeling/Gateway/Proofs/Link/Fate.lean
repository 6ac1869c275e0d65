import Gateway.Link.Response
import Gateway.Proofs.Http.Content
import Gateway.Proofs.Http.Fields

/-! What becomes of a response. There are five fates, each due under a condition of its own, and of every response just
    one is due. Only a page that was gathered as a whole, was decoded, and holds a link to reroot gets another body; a body
    that breaks before the limit has no page to show for it; and whatever else comes along leaves as it came. -/

namespace Gateway.Link

open Http

/-! ### Gathering and relabelling -/

theorem contentOf_withoutTrailers (events : List Event) :
    Body.contentOf (withoutTrailers events) = { Body.contentOf events with trailers := none } := by
  induction events with
  | nil => rfl
  | cons e events ih =>
    cases e <;> simp_all [withoutTrailers]

/-- What gathering makes of a content: all of it is there, or it is broken, or there is more of it than the limit and
    nothing of it is lost but the trailers. -/
def Gathered.IsOf (limit : Nat) (content : Body.Content) : Gathered → Prop
  | complete all => all = content.data ∧ content.data.size ≤ limit ∧ content.failure = none
  | overflow body => limit < content.data.size ∧ body.content = ⟨content.data, none, content.failure⟩
  | broken reason => content.data.size ≤ limit ∧ content.failure = some reason

theorem gather_behind {limit : Nat} {bytes : ByteArray} (hb : bytes.size ≤ limit) (events : List Event) :
    (gather limit bytes events).IsOf limit
      { Body.contentOf events with data := bytes ++ (Body.contentOf events).data } := by
  induction events generalizing bytes with
  | nil => simpa [gather, Gathered.IsOf] using hb
  | cons e events ih =>
    cases e with
    | data more =>
      by_cases hover : limit < (bytes ++ more).size
      · simp only [gather, if_pos hover, Gathered.IsOf, Body.content, Body.contentOf_data, contentOf_withoutTrailers]
        refine ⟨?_, by rw [ByteArray.append_assoc]⟩
        rw [← ByteArray.append_assoc, ByteArray.size_append]
        omega
      · have := ih (Nat.le_of_not_lt hover)
        simp only [gather, if_neg hover, Body.contentOf_data, ← ByteArray.append_assoc]
        exact this
    | trailers headers =>
      have := ih hb
      simp only [gather, Body.contentOf_trailers]
      revert this
      cases gather limit bytes events <;> exact id
    | failure reason => simpa [gather, Gathered.IsOf] using hb
    | wait time => exact ih hb

theorem gather_spec (limit : Nat) (body : Body) : (gather limit .empty body.events).IsOf limit body.content := by
  have h := gather_behind (show ByteArray.empty.size ≤ limit from Nat.zero_le _) body.events
  rwa [ByteArray.empty_append] at h

theorem values_relabel (h : Headers) (length : Nat) (name : String) :
    (relabel h length).values name =
      if name ∈ digests then [] else if name = "content-length" then [(toString length).toUTF8] else h.values name := by
  rw [relabel, Headers.values_filter _ (!digests.contains ·), Headers.values_set]
  by_cases hn : name ∈ digests <;> simp [hn]

/-- Fields that do not tell of the bytes of a body stay, and in their order. -/
theorem filter_relabel (h : Headers) (length : Nat) :
    (relabel h length).fields.filter (fun f => !("content-length" :: digests).contains f.name) =
      h.fields.filter fun f => !("content-length" :: digests).contains f.name := by
  let keep (name : String) : Bool := !("content-length" :: digests).contains name
  have hkeep : keep "content-length" = false := by decide
  rw [relabel, List.filter_filter]
  refine (List.filter_congr fun f _ => ?_).trans (Headers.filter_set h "content-length" (toString length).toUTF8 hkeep)
  by_cases hf : f.name ∈ digests <;> simp [keep, hf]

/-! ### Fates -/

/-- What may become of a response. -/
inductive Fate
  /-- It is none of the rerooting's business. -/
  | untouched
  /-- Its body is too long and passes by. -/
  | passed
  /-- Its body broke, and the client is told so. -/
  | refused
  /-- Its body has been gathered and stays what it was. -/
  | kept
  | rerooted
deriving DecidableEq, Repr

/-- The response is a page in a coding that can be undone. -/
structure IsPage (config : Config.Links) (response : Response) (coding : Coding) : Prop where
  enabled : config.enabled = true
  html : response.headers.isHtml = true
  coded : Coding.ofHeaders response.headers = .ok coding

namespace Fate
variable (config : Config.Links) (view : View) (response : Response)

/-- When a fate is due. -/
def IsDue : Fate → Prop
  | untouched => config.enabled = false ∨ response.headers.isHtml = false ∨
      ∃ e, Coding.ofHeaders response.headers = .error e
  | passed => ∃ coding, IsPage config response coding ∧ config.maxBody < response.body.content.data.size
  | refused => ∃ coding, IsPage config response coding ∧ response.body.content.data.size ≤ config.maxBody ∧
      ∃ reason, response.body.content.failure = some reason
  | kept => ∃ coding, IsPage config response coding ∧ response.body.content.data.size ≤ config.maxBody ∧
      response.body.content.failure = none ∧
      ((∃ e, coding.decode config.maxBody response.body.content.data = .error e) ∨
        ∃ page, coding.decode config.maxBody response.body.content.data = .ok page ∧
          (rerootDocument view page).links = 0)
  | rerooted => ∃ coding, IsPage config response coding ∧ response.body.content.data.size ≤ config.maxBody ∧
      response.body.content.failure = none ∧
      ∃ page, coding.decode config.maxBody response.body.content.data = .ok page ∧
        (rerootDocument view page).links ≠ 0

/-- What comes of a response whose fate it is. -/
def IsMet [Gzip.Writer] (result : Response) : Fate → Prop
  | untouched => result = response
  | passed => result.status = response.status ∧ result.headers = response.headers ∧ result.reason = response.reason ∧
      result.body.content.data = response.body.content.data ∧
      result.body.content.failure = response.body.content.failure
  | refused => result.status = 502 ∧
      ∃ reason, response.body.content.failure = some reason ∧ result = (Failure.body reason).response
  | kept => result.status = response.status ∧ result.headers = response.headers ∧ result.reason = response.reason ∧
      result.body.content.data = response.body.content.data ∧ result.body.content.failure = none
  | rerooted => result.status = response.status ∧ result.reason = response.reason ∧
      (∃ coding page, IsPage config response coding ∧
        coding.decode config.maxBody response.body.content.data = .ok page ∧
        result.body.content = ⟨coding.encode config.gzipLevel (rerootDocument view page).html, none, none⟩) ∧
      result.headers.values "content-length" = [(toString result.body.content.data.size).toUTF8] ∧
      (∀ name ∈ ["etag", "content-md5", "digest", "repr-digest", "content-digest"], result.headers.values name = []) ∧
      let others (f : Field) : Bool :=
        !(["content-length", "etag", "content-md5", "digest", "repr-digest", "content-digest"].contains f.name)
      result.headers.fields.filter others = response.headers.fields.filter others

variable {config view response}

/-- No two fates are due at once. -/
theorem eq_of_isDue {a b : Fate} (ha : a.IsDue config view response) (hb : b.IsDue config view response) : a = b := by
  -- Two different conditions disagree on the page, on the size, on the failure, or on the document.
  cases a <;> cases b <;> first | rfl | skip
  all_goals simp only [IsDue] at ha hb
  all_goals grind [IsPage]

end Fate

/-! ### What comes of a page -/

section
variable {config : Config.Links} (view : View) {response : Response} {coding : Coding}

theorem IsPage.applies (h : IsPage config response coding) : applies config response = true := by
  simp [Link.applies, h.enabled, h.html]

theorem rerootResponse_untouched [Gzip.Writer] {view : View} (h : Fate.untouched.IsDue config view response) :
    (rerootResponse config view response).1 = response := by
  rcases h with h | h | ⟨e, h⟩
  · simp [rerootResponse, Link.applies, h]
  · simp [rerootResponse, Link.applies, h]
  · by_cases happ : Link.applies config response = true
    · simp [rerootResponse, happ, h]
    · simp [rerootResponse, happ]

/-- Every other response is a page. -/
theorem exists_isPage {view : View} (h : ¬ Fate.untouched.IsDue config view response) :
    ∃ coding, IsPage config response coding := by
  simp only [Fate.IsDue, not_or, not_exists] at h
  obtain ⟨henabled, hhtml, hcoding⟩ := h
  cases hc : Coding.ofHeaders response.headers with
  | error e => exact absurd hc (hcoding e)
  | ok coding => exact ⟨coding, by simpa using henabled, by simpa using hhtml, hc⟩

/-- A page that is too long keeps its data and its failure. -/
theorem exists_rerootResponse_passed [Gzip.Writer] (h : IsPage config response coding)
    (hsize : config.maxBody < response.body.content.data.size) :
    ∃ body, rerootResponse config view response = ({ response with body }, some .tooLarge) ∧
      body.content = ⟨response.body.content.data, none, response.body.content.failure⟩ := by
  have hspec := gather_spec config.maxBody response.body
  cases hg : gather config.maxBody .empty response.body.events with
  | complete bytes =>
    rw [hg] at hspec
    exact absurd hsize (Nat.not_lt_of_le hspec.2.1)
  | overflow body =>
    rw [hg] at hspec
    exact ⟨body, by simp [rerootResponse, h.applies, h.coded, hg], hspec.2⟩
  | broken reason =>
    rw [hg] at hspec
    exact absurd hsize (Nat.not_lt_of_le hspec.1)

theorem rerootResponse_refused [Gzip.Writer] (h : IsPage config response coding)
    (hsize : response.body.content.data.size ≤ config.maxBody) {reason : String}
    (hf : response.body.content.failure = some reason) :
    rerootResponse config view response = ((Failure.body reason).response, some .broken) := by
  have hspec := gather_spec config.maxBody response.body
  cases hg : gather config.maxBody .empty response.body.events with
  | complete bytes =>
    rw [hg] at hspec
    cases hf.symm.trans hspec.2.2
  | overflow body =>
    rw [hg] at hspec
    exact absurd hspec.1 (Nat.not_lt_of_le hsize)
  | broken other =>
    rw [hg] at hspec
    obtain rfl := Option.some.inj (hf.symm.trans hspec.2)
    simp [rerootResponse, h.applies, h.coded, hg]

/-- A page whose body comes to its end within the limit. -/
structure IsGathered (config : Config.Links) (response : Response) (coding : Coding) : Prop
    extends IsPage config response coding where
  fits : response.body.content.data.size ≤ config.maxBody
  unbroken : response.body.content.failure = none

theorem IsGathered.complete (h : IsGathered config response coding) :
    gather config.maxBody .empty response.body.events = .complete response.body.content.data := by
  have hspec := gather_spec config.maxBody response.body
  cases hg : gather config.maxBody .empty response.body.events with
  | complete bytes =>
    rw [hg] at hspec
    rw [hspec.1]
  | overflow body =>
    rw [hg] at hspec
    exact absurd hspec.1 (Nat.not_lt_of_le h.fits)
  | broken reason =>
    rw [hg] at hspec
    cases h.unbroken.symm.trans hspec.2

theorem rerootBody_eq [Gzip.Writer] (config : Config.Links) (coding : Coding) (bytes : ByteArray) :
    rerootBody config view coding bytes = (coding.decode config.maxBody bytes).map fun page =>
      if (rerootDocument view page).links = 0 then none
      else some (coding.encode config.gzipLevel (rerootDocument view page).html) := by
  unfold rerootBody
  cases coding.decode config.maxBody bytes with
  | error e => rfl
  | ok page =>
    show (if (rerootDocument view page).links = 0 then _ else _) = _
    simp only [Except.map]
    split <;> rfl

/-- A page that cannot be decoded stays what it was. -/
theorem exists_rerootResponse_coded [Gzip.Writer] (h : IsGathered config response coding) {e : Gzip.DecodeError}
    (hdecode : coding.decode config.maxBody response.body.content.data = .error e) :
    ∃ outcome, rerootResponse config view response =
        ({ response with body := .ofBytes response.body.content.data }, some outcome) ∧
      (outcome = .tooLarge ∨ outcome = .failed) := by
  have hbody : rerootBody config view coding response.body.content.data = .error e := by
    rw [rerootBody_eq, hdecode]
    rfl
  simp only [rerootResponse, h.applies, h.coded, h.complete, hbody]
  cases e <;> simp

/-- A page that is decoded is rerooted if a link changes. -/
theorem rerootResponse_decoded [Gzip.Writer] (h : IsGathered config response coding) {page : ByteArray}
    (hdecode : coding.decode config.maxBody response.body.content.data = .ok page) :
    rerootResponse config view response =
      if (rerootDocument view page).links = 0 then
        ({ response with body := .ofBytes response.body.content.data }, some .unchanged)
      else
        let body := coding.encode config.gzipLevel (rerootDocument view page).html
        ({ response with headers := relabel response.headers body.size, body := .ofBytes body }, some .rerooted) := by
  have hbody := rerootBody_eq view config coding response.body.content.data
  rw [hdecode] at hbody
  by_cases hlinks : (rerootDocument view page).links = 0
  · simp [rerootResponse, h.applies, h.coded, h.complete, hbody, hlinks, Except.map]
  · simp [rerootResponse, h.applies, h.coded, h.complete, hbody, hlinks, Except.map]

end

section
variable (config : Config.Links) (view : View) (response : Response)

/-- A page that has been gathered is kept or rerooted. -/
theorem exists_fate_of_gathered [Gzip.Writer] {coding : Coding} (h : IsGathered config response coding) :
    ∃ fate : Fate, fate.IsDue config view response ∧
      fate.IsMet config view response (rerootResponse config view response).1 := by
  cases hdecode : coding.decode config.maxBody response.body.content.data with
  | error e =>
    obtain ⟨outcome, hresult, -⟩ := exists_rerootResponse_coded view h hdecode
    refine ⟨.kept, ⟨coding, h.toIsPage, h.fits, h.unbroken, Or.inl ⟨e, hdecode⟩⟩, ?_⟩
    simp [hresult, Fate.IsMet]
  | ok page =>
    have hresult := rerootResponse_decoded view h hdecode
    by_cases hlinks : (rerootDocument view page).links = 0
    · refine ⟨.kept, ⟨coding, h.toIsPage, h.fits, h.unbroken, Or.inr ⟨page, hdecode, hlinks⟩⟩, ?_⟩
      simp [hresult, hlinks, Fate.IsMet]
    · refine ⟨.rerooted, ⟨coding, h.toIsPage, h.fits, h.unbroken, page, hdecode, hlinks⟩, ?_⟩
      rw [hresult, if_neg hlinks]
      refine ⟨rfl, rfl, ⟨coding, page, h.toIsPage, hdecode, Body.content_ofBytes _⟩, ?_, fun name hname => ?_, ?_⟩
      · rw [values_relabel, Body.content_ofBytes]
        rfl
      · exact (values_relabel _ _ name).trans (if_pos hname)
      · exact filter_relabel _ _

/-- Of the five fates of a response just one is due, and that one it meets. -/
theorem rerootResponse_meets_fate [Gzip.Writer] :
    ∃ fate : Fate, fate.IsDue config view response ∧
      fate.IsMet config view response (rerootResponse config view response).1 ∧
      ∀ other : Fate, other.IsDue config view response → other = fate := by
  suffices h : ∃ fate : Fate, fate.IsDue config view response ∧
      fate.IsMet config view response (rerootResponse config view response).1 by
    obtain ⟨fate, hdue, hmet⟩ := h
    exact ⟨fate, hdue, hmet, fun other hother => Fate.eq_of_isDue hother hdue⟩
  by_cases huntouched : Fate.untouched.IsDue config view response
  · exact ⟨.untouched, huntouched, rerootResponse_untouched huntouched⟩
  · obtain ⟨coding, hp⟩ := exists_isPage huntouched
    rcases Nat.lt_or_ge config.maxBody response.body.content.data.size with hsize | hsize
    · obtain ⟨body, hresult, hbody⟩ := exists_rerootResponse_passed view hp hsize
      refine ⟨.passed, ⟨coding, hp, hsize⟩, ?_⟩
      simp [hresult, hbody, Fate.IsMet]
    · cases hf : response.body.content.failure with
      | none => exact exists_fate_of_gathered config view response ⟨hp, hsize, hf⟩
      | some reason =>
        refine ⟨.refused, ⟨coding, hp, hsize, reason, hf⟩, ?_⟩
        rw [rerootResponse_refused view hp hsize hf]
        exact ⟨rfl, reason, hf, rfl⟩

end
end Gateway.Link
