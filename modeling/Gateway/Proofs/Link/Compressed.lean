import Gateway.Proofs.Gzip.Members
import Gateway.Proofs.Link.Fate
import Gateway.Proofs.Link.Following
import Gateway.Proofs.Link.Walk

/-! Compressed pages. Rerooting does to a compressed page what it does to the page that it holds: the outcome is the same,
    and what goes out holds the page that goes out where the same page comes uncompressed. This is so for every writer of
    members and every limit but one: under the greatest limit nothing is inflated, and a compressed page keeps its links. -/

namespace Gateway.Link

open Http

/-- The response with another body, in no coding. -/
def uncoded (response : Response) (body : Body) : Response :=
  { response with headers := response.headers.remove "content-encoding", body }

theorem ofHeaders_uncoded (response : Response) (body : Body) :
    Coding.ofHeaders (uncoded response body).headers = .ok .identity := by
  rw [Coding.ofHeaders, uncoded, Headers.values_remove, if_pos rfl]
  rfl

theorem isHtml_uncoded (response : Response) (body : Body) :
    (uncoded response body).headers.isHtml = response.headers.isHtml := by
  have hvalues : (uncoded response body).headers.values "content-type" = response.headers.values "content-type" := by
    rw [uncoded, Headers.values_remove, if_neg (by decide)]
  rw [Headers.isHtml, Headers.isHtml, Headers.text?, Headers.text?, Headers.first?, Headers.first?, hvalues]

/-- What goes out of a page that comes compressed, beside what goes out of the page itself. -/
structure Transparent (response : Response) (coded plain : Response × Option Outcome) : Prop where
  status : coded.1.status = plain.1.status
  outcome : coded.2 = plain.2
  outcomes : coded.2 = some .rerooted ∨ coded.2 = some .unchanged
  coding : coded.1.headers.values "content-encoding" = response.headers.values "content-encoding"
  unbroken : coded.1.body.content.failure = none ∧ plain.1.body.content.failure = none
  body : ∀ limit, plain.1.body.content.data.size ≤ limit →
    Gzip.decode limit coded.1.body.content.data = .ok plain.1.body.content.data

/-- A page of no bytes has no links. -/
theorem links_empty (view : View) : (rerootDocument view .empty).links = 0 := by
  have hpage : Html.Page.ofBytes .empty =
      [.element ⟨.html, "html"⟩ [] [.element ⟨.html, "head"⟩ [] [] [], .element ⟨.html, "body"⟩ [] [] []] []] := by rfl
  show (rerootPage view (Html.Page.ofBytes .empty)).2 = 0
  rw [rerootPage_eq, hpage]
  rfl

/-- Bytes that hold other bytes, with the same status and outcome. -/
theorem transparent_ofBytes {response coded plain : Response} {outcome : Outcome} {bytes page : ByteArray}
    (hbytes : coded.body = .ofBytes bytes) (hpage : plain.body = .ofBytes page) (hholds : Gzip.Holds bytes page)
    (hstatus : coded.status = plain.status) (houtcome : outcome = .rerooted ∨ outcome = .unchanged)
    (hcoding : coded.headers.values "content-encoding" = response.headers.values "content-encoding") :
    Transparent response (coded, some outcome) (plain, some outcome) := by
  have hcontent : coded.body.content = ⟨bytes, none, none⟩ := by rw [hbytes, Body.content_ofBytes]
  have hcontent' : plain.body.content = ⟨page, none, none⟩ := by rw [hpage, Body.content_ofBytes]
  refine ⟨hstatus, rfl, houtcome.imp (congrArg some) (congrArg some), hcoding, ⟨?_, ?_⟩, ?_⟩
  · rw [hcontent]
  · rw [hcontent']
  · rw [hcontent, hcontent']
    exact Gzip.holds_iff.mp hholds

/-- A page that stays what it was is held by what it came in. -/
theorem transparent_unchanged {response : Response} {body : Body}
    (hholds : Gzip.Holds response.body.content.data body.content.data) :
    Transparent response ({ response with body := .ofBytes response.body.content.data }, some .unchanged)
      ({ uncoded response body with body := .ofBytes body.content.data }, some .unchanged) :=
  transparent_ofBytes rfl rfl hholds rfl (Or.inr rfl) rfl

/-- The same page, compressed and as it is, within the limit. -/
structure Coded (config : Config.Links) (response : Response) (body : Body) : Prop where
  coded : IsGathered config response .gzip
  plain : IsGathered config (uncoded response body) .identity
  holds : Gzip.Holds response.body.content.data body.content.data

theorem coded_of_holds {response : Response} {body : Body} (config : Config.Links)
    (henabled : config.enabled = true) (hhtml : response.headers.isHtml = true)
    (hcoded : Coding.ofHeaders response.headers = .ok .gzip)
    (hf : response.body.content.failure = none) (hf' : body.content.failure = none)
    (hholds : Gzip.Holds response.body.content.data body.content.data)
    (hsize : response.body.content.data.size ≤ config.maxBody) (hsize' : body.content.data.size ≤ config.maxBody) :
    Coded config response body where
  coded := ⟨⟨henabled, hhtml, hcoded⟩, hsize, hf⟩
  plain := ⟨⟨henabled, (isHtml_uncoded response body).trans hhtml, ofHeaders_uncoded response body⟩, hsize', hf'⟩
  holds := hholds

section
variable [Gzip.Writer] {config : Config.Links} (view : View) {response : Response} {body : Body}

theorem rerootResponse_plain (h : Coded config response body) : rerootResponse config view (uncoded response body) =
    if (rerootDocument view body.content.data).links = 0 then
      ({ uncoded response body with body := .ofBytes body.content.data }, some .unchanged)
    else
      let html := (rerootDocument view body.content.data).html
      ({ uncoded response body with
          headers := relabel (uncoded response body).headers html.size, body := .ofBytes html }, some .rerooted) :=
  rerootResponse_decoded view h.plain (if_neg (Nat.not_lt_of_le h.plain.fits))

/-- A page that is inflated goes out compressed again. -/
theorem transparent_of_lt (hwrite : ∀ level ≤ 9, ∀ body, Gzip.Holds (Gzip.Writer.write level body) body)
    (h : Coded config response body) (hlimit : config.maxBody + 1 < UInt64.size) :
    Transparent response (rerootResponse config view response) (rerootResponse config view (uncoded response body)) := by
  have hdecode : Coding.gzip.decode config.maxBody response.body.content.data = .ok body.content.data :=
    (if_pos hlimit).trans (Gzip.holds_iff.mp h.holds config.maxBody h.plain.fits)
  rw [rerootResponse_decoded view h.coded hdecode, rerootResponse_plain view h]
  by_cases hlinks : (rerootDocument view body.content.data).links = 0
  · rw [if_pos hlinks, if_pos hlinks]
    exact transparent_unchanged h.holds
  · rw [if_neg hlinks, if_neg hlinks]
    have hcoding (size : Nat) : (relabel response.headers size).values "content-encoding" =
        response.headers.values "content-encoding" :=
      (values_relabel _ _ _).trans ((if_neg (by decide)).trans (if_neg (by decide)))
    exact transparent_ofBytes rfl rfl (hwrite _ (Nat.min_le_right _ _) _) rfl (Or.inl rfl) (hcoding _)

/-- A page of which nothing is inflated stays what it was. -/
theorem rerootResponse_uninflated (h : IsGathered config response .gzip) (hlimit : ¬ config.maxBody + 1 < UInt64.size) :
    rerootResponse config view response =
      ({ response with body := .ofBytes response.body.content.data }, some .unchanged) := by
  have hdecode : Coding.gzip.decode config.maxBody response.body.content.data = .ok .empty := if_neg hlimit
  rw [rerootResponse_decoded view h hdecode, if_pos (links_empty view)]

theorem transparent_uninflated_iff (h : Coded config response body) (hlimit : ¬ config.maxBody + 1 < UInt64.size) :
    Transparent response (rerootResponse config view response) (rerootResponse config view (uncoded response body)) ↔
      (rerootDocument view body.content.data).links = 0 := by
  rw [rerootResponse_uninflated view h.coded hlimit, rerootResponse_plain view h]
  constructor
  · intro htransparent
    have houtcome := htransparent.outcome
    by_contra hlinks
    rw [if_neg hlinks] at houtcome
    cases houtcome
  · intro hlinks
    rw [if_pos hlinks]
    exact transparent_unchanged h.holds

/-- **A page is rerooted alike whether it comes compressed or not, just if its limit is not the greatest one or it has no
    links to reroot.** Members may be written in any way, as long as they hold what they are written for. -/
theorem transparent_iff (hwrite : ∀ level ≤ 9, ∀ body, Gzip.Holds (Gzip.Writer.write level body) body)
    (config : Config.Links) (henabled : config.enabled = true) (hhtml : response.headers.isHtml = true)
    (hcoded : Coding.ofHeaders response.headers = .ok .gzip)
    (hf : response.body.content.failure = none) (hf' : body.content.failure = none)
    (hholds : Gzip.Holds response.body.content.data body.content.data)
    (hsize : response.body.content.data.size ≤ config.maxBody) (hsize' : body.content.data.size ≤ config.maxBody) :
    Transparent response (rerootResponse config view response) (rerootResponse config view (uncoded response body)) ↔
      config.maxBody + 1 < UInt64.size ∨ (rerootDocument view body.content.data).links = 0 := by
  have h := coded_of_holds config henabled hhtml hcoded hf hf' hholds hsize hsize'
  by_cases hlimit : config.maxBody + 1 < UInt64.size
  · exact iff_of_true (transparent_of_lt view hwrite h hlimit) (Or.inl hlimit)
  · rw [transparent_uninflated_iff view h hlimit, or_iff_right hlimit]

end

/-! ### A page in two members -/

/-- A page that comes as two members. -/
def codedPage : Response where
  status := 200
  headers := ⟨[⟨"content-type", "text/html; charset=utf-8".toUTF8⟩, ⟨"content-encoding", "gzip".toUTF8⟩]⟩
  body := { events := [.data (Gzip.encode 0 "<a href=".toUTF8), .data (Gzip.encode 0 "/x>".toUTF8)] }

/-- The page as it is. -/
def plainBody : Body := { events := [.data "<a href=/x>".toUTF8] }

theorem content_plainBody : plainBody.content = ⟨"<a href=/x>".toUTF8, none, none⟩ := by simp [plainBody, Body.content]

theorem content_codedPage : codedPage.body.content =
    ⟨Gzip.encode 0 "<a href=".toUTF8 ++ Gzip.encode 0 "/x>".toUTF8, none, none⟩ := by
  simp [codedPage, Body.content]

theorem isHtml_codedPage : codedPage.headers.isHtml = true := by decide +kernel

theorem ofHeaders_codedPage : Coding.ofHeaders codedPage.headers = .ok .gzip := eq_ok_of_toOption (by decide +kernel)

theorem holds_codedPage : Gzip.Holds codedPage.body.content.data plainBody.content.data := by
  rw [content_codedPage, content_plainBody]
  have hjoined : Gzip.encode 0 "<a href=".toUTF8 ++ Gzip.encode 0 "/x>".toUTF8 =
      Gzip.joined Gzip.encode [(0, "<a href=".toUTF8), (0, "/x>".toUTF8)] := by
    simp only [Gzip.joined, List.foldr_cons, List.foldr_nil, ByteArray.append_empty]
  have hcontents : Gzip.contents [(0, "<a href=".toUTF8), (0, "/x>".toUTF8)] = "<a href=/x>".toUTF8 :=
    ByteArray.ext (by decide +kernel)
  rw [hjoined]
  exact hcontents ▸ Gzip.holds_joined (by simp)

theorem size_codedPage : codedPage.body.content.data.size = 57 := by
  rw [content_codedPage, ByteArray.size_append, Gzip.size_encode (by decide +kernel), Gzip.size_encode (by decide +kernel)]
  decide +kernel

theorem size_plainBody : plainBody.content.data.size = 11 := by
  rw [content_plainBody]
  decide +kernel

theorem links_plainBody : (rerootDocument podView plainBody.content.data).links = 1 := by
  rw [content_plainBody]
  show (rerootPage podView (Html.Page.ofBytes "<a href=/x>".toUTF8)).2 = 1
  decide +kernel

theorem transparent_iff_members :
    (∀ level ≤ 9, ∀ body, Gzip.Holds (Gzip.Writer.write level body) body) ∧
      codedPage.headers.isHtml = true ∧ Coding.ofHeaders codedPage.headers = .ok .gzip ∧
      Gzip.Holds codedPage.body.content.data plainBody.content.data ∧
      Transparent codedPage (rerootResponse {} podView codedPage) (rerootResponse {} podView (uncoded codedPage plainBody)) := by
  have hwrite : ∀ level ≤ 9, ∀ body, Gzip.Holds (Gzip.Writer.write level body) body := fun level _ => Gzip.holds_encode level
  refine ⟨hwrite, isHtml_codedPage, ofHeaders_codedPage, holds_codedPage, ?_⟩
  exact (transparent_iff podView hwrite {} rfl isHtml_codedPage ofHeaders_codedPage rfl rfl holds_codedPage
    (size_codedPage ▸ by decide) (size_plainBody ▸ by decide)).mpr (Or.inl (by decide))

/-- So a page is not rerooted alike under every limit. -/
theorem not_transparent_always :
    ¬ ∀ (config : Config.Links) (view : View) (response : Response) (body : Body), config.maxBody < UInt64.size →
      config.enabled = true → response.headers.isHtml = true → Coding.ofHeaders response.headers = .ok .gzip →
        response.body.content.failure = none → body.content.failure = none →
        Gzip.Holds response.body.content.data body.content.data →
        response.body.content.data.size ≤ config.maxBody → body.content.data.size ≤ config.maxBody →
          Transparent response (rerootResponse config view response)
            (rerootResponse config view (uncoded response body)) := by
  intro hall
  let config : Config.Links := { maxBody := 18446744073709551615 }
  have hsize : codedPage.body.content.data.size ≤ config.maxBody := size_codedPage ▸ by decide
  have hsize' : plainBody.content.data.size ≤ config.maxBody := size_plainBody ▸ by decide
  have h := coded_of_holds config rfl isHtml_codedPage ofHeaders_codedPage rfl rfl holds_codedPage hsize hsize'
  have hlinks := (transparent_uninflated_iff podView h (by decide)).mp
    (hall config podView codedPage plainBody (by decide) rfl isHtml_codedPage ofHeaders_codedPage rfl rfl holds_codedPage
      hsize hsize')
  rw [links_plainBody] at hlinks
  cases hlinks

end Gateway.Link
