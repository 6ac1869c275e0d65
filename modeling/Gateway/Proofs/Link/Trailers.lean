import Gateway.Proofs.Link.Fate
import Gateway.Proofs.Link.Following

/-! Trailers of pages. A response that rerooting does not touch is given back as a whole; whatever else becomes of a page,
    gathering it has taken its trailers away, also where it goes out with the data that it came with. -/

namespace Gateway.Link

open Http

variable (view : View) {config : Config.Links} {response : Response} {coding : Coding}

/-- A page that does not break is rerooted, or it goes out with its data and no more. -/
theorem rerooted_or_data [Gzip.Writer] (h : IsPage config response coding) (hf : response.body.content.failure = none) :
    (rerootResponse config view response).2 = some .rerooted ∨
      (rerootResponse config view response).1.body.content = ⟨response.body.content.data, none, none⟩ := by
  rcases Nat.lt_or_ge config.maxBody response.body.content.data.size with hsize | hsize
  · obtain ⟨body, hresult, hbody⟩ := exists_rerootResponse_passed view h hsize
    rw [hresult, ← hf]
    exact Or.inr hbody
  · have hg : IsGathered config response coding := ⟨h, hsize, hf⟩
    cases hdecode : coding.decode config.maxBody response.body.content.data with
    | error e =>
      obtain ⟨outcome, hresult, -⟩ := exists_rerootResponse_coded view hg hdecode
      rw [hresult]
      exact Or.inr (Body.content_ofBytes _)
    | ok page =>
      rw [rerootResponse_decoded view hg hdecode]
      split
      · exact Or.inr (Body.content_ofBytes _)
      · exact Or.inl rfl

/-- **A response that is not rerooted keeps its trailers just if rerooting does not touch it.** Otherwise it keeps its
    data, and its trailers are lost. -/
theorem trailers_kept_iff [Gzip.Writer] (config : Config.Links) {data : ByteArray} {trailers : Headers}
    (hbody : response.body.content = ⟨data, some trailers, none⟩)
    (hnot : (rerootResponse config view response).2 ≠ some .rerooted) :
    let result := (rerootResponse config view response).1
    (result.body.content = ⟨data, some trailers, none⟩ ↔ Fate.untouched.IsDue config view response) ∧
    (Fate.untouched.IsDue config view response → result = response) ∧
    (¬ Fate.untouched.IsDue config view response → result.body.content = ⟨data, none, none⟩) := by
  intro result
  have hlost (h : ¬ Fate.untouched.IsDue config view response) : result.body.content = ⟨data, none, none⟩ := by
    obtain ⟨coding, hp⟩ := exists_isPage h
    have hdata := (rerooted_or_data view hp (by rw [hbody])).resolve_left hnot
    rwa [hbody] at hdata
  refine ⟨⟨fun h => Classical.byContradiction fun hno => ?_, fun h => ?_⟩, rerootResponse_untouched, hlost⟩
  · rw [hlost hno] at h
    cases h
  · exact (congrArg (·.body.content) (rerootResponse_untouched h)).trans hbody

/-- A response that says that its five bytes are compressed, and then brings trailers. -/
def plainPage : Response where
  status := 200
  headers := ⟨[⟨"content-type", "text/html".toUTF8⟩, ⟨"content-encoding", "gzip".toUTF8⟩]⟩
  body := { events := [.data "plain".toUTF8, .trailers ⟨[⟨"grpc-status", "0".toUTF8⟩]⟩] }

theorem content_plainPage :
    plainPage.body.content = ⟨"plain".toUTF8, some ⟨[⟨"grpc-status", "0".toUTF8⟩]⟩, none⟩ := by
  simp [plainPage, Body.content]

theorem isGathered_plainPage : IsGathered {} plainPage .gzip := by
  refine ⟨⟨rfl, ?_, ?_⟩, ?_, rfl⟩
  · decide +kernel
  · exact eq_ok_of_toOption (by decide +kernel)
  · decide +kernel

theorem plainPage_not_rerooted [Gzip.Writer] (view : View) : (rerootResponse {} view plainPage).2 ≠ some .rerooted := by
  have hnone : (Coding.gzip.decode ({} : Config.Links).maxBody plainPage.body.content.data).toOption.isNone = true := by
    decide +kernel
  cases hdecode : Coding.gzip.decode ({} : Config.Links).maxBody plainPage.body.content.data with
  | ok page =>
    rw [hdecode] at hnone
    cases hnone
  | error e =>
    obtain ⟨outcome, hresult, hout⟩ := exists_rerootResponse_coded view isGathered_plainPage hdecode
    rw [hresult]
    rcases hout with rfl | rfl <;> decide

theorem trailers_kept_iff_plain :
    (rerootResponse {} podView plainPage).2 ≠ some .rerooted ∧ ¬ Fate.untouched.IsDue {} podView plainPage ∧
      (rerootResponse {} podView plainPage).1.body.content = ⟨"plain".toUTF8, none, none⟩ := by
  have htouched : ¬ Fate.untouched.IsDue {} podView plainPage := by
    rintro (h | h | ⟨e, h⟩)
    · cases h
    · cases isGathered_plainPage.html.symm.trans h
    · cases isGathered_plainPage.coded.symm.trans h
  refine ⟨plainPage_not_rerooted podView, htouched, ?_⟩
  exact (trailers_kept_iff podView {} content_plainPage (plainPage_not_rerooted podView)).2.2 htouched

/-- So a page that goes out as it came, for it cannot be decoded, need not keep its trailers. -/
theorem not_keeps_trailers :
    ¬ ∀ (config : Config.Links) (view : View) (response : Response) (frames : List ByteArray) (trailers : Headers),
      response.headers.isHtml = true → response.body.events = frames.map .data ++ [.trailers trailers] →
        (rerootResponse config view response).2 ≠ some .rerooted →
          (rerootResponse config view response).1.body.content = response.body.content := by
  intro hall
  have hkept := hall {} podView plainPage ["plain".toUTF8] _ isGathered_plainPage.html rfl (plainPage_not_rerooted podView)
  have hdata := (rerooted_or_data podView isGathered_plainPage.toIsPage rfl).resolve_left (plainPage_not_rerooted podView)
  rw [hdata] at hkept
  cases hkept

end Gateway.Link
