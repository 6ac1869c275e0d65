import Gateway.Proofs.Link.Fate

/-! What a response counts as. Every page counts, whatever its fate; and it counts as rerooted just if its body is
    replaced by the rerooted page. What counts as anything else keeps its data, unless these break. -/

namespace Gateway.Link

open Http

variable {config : Config.Links} {view : View} {response : Response}

/-- Whatever is a page counts as one. -/
theorem rerootResponse_counts_iff [Gzip.Writer] : (rerootResponse config view response).2.isSome = true ↔
    config.enabled = true ∧ response.headers.isHtml = true := by
  rw [← Bool.and_eq_true, ← applies]
  by_cases happ : applies config response = true
  · simp only [rerootResponse, happ, not_true_eq_false, if_false, iff_true]
    repeat' split
    all_goals rfl
  · simp [rerootResponse, happ]

/-- A response is a page with links to reroot. -/
structure HasLinks (config : Config.Links) (view : View) (response : Response) (coding : Coding) (page : ByteArray) :
    Prop extends IsGathered config response coding where
  decoded : coding.decode config.maxBody response.body.content.data = .ok page
  changed : (rerootDocument view page).links ≠ 0

/-- A body is the rerooted page of a response. -/
def IsReplacement [Gzip.Writer] (config : Config.Links) (view : View) (response : Response) (body : Body) : Prop :=
  ∃ coding page, HasLinks config view response coding page ∧
    body = .ofBytes (coding.encode config.gzipLevel (rerootDocument view page).html)

/-- A body has the data of a response, unless that broke: then it is the gateway's word of it. -/
def IsSpared (response : Response) (body : Body) : Prop :=
  body.content.data = response.body.content.data ∨
    ∃ reason, response.body.content.failure = some reason ∧ body = (Failure.body reason).response.body

theorem rerootResponse_replaces [Gzip.Writer] {coding : Coding} {page : ByteArray}
    (h : HasLinks config view response coding page) :
    (rerootResponse config view response).2 = some .rerooted ∧
      IsReplacement config view response (rerootResponse config view response).1.body := by
  rw [rerootResponse_decoded view h.toIsGathered h.decoded, if_neg h.changed]
  exact ⟨rfl, coding, page, h, rfl⟩

/-- Without links to reroot, nothing counts as rerooted. -/
theorem rerootResponse_spares [Gzip.Writer] (h : ∀ coding page, ¬ HasLinks config view response coding page) :
    (rerootResponse config view response).2 ≠ some .rerooted ∧
      IsSpared response (rerootResponse config view response).1.body := by
  by_cases huntouched : Fate.untouched.IsDue config view response
  · refine ⟨fun hcount => ?_, Or.inl (by rw [rerootResponse_untouched huntouched])⟩
    rcases huntouched with hoff | hother | ⟨e, hcoding⟩
    · simp [rerootResponse, applies, hoff] at hcount
    · simp [rerootResponse, applies, hother] at hcount
    · simp only [rerootResponse, hcoding] at hcount
      split at hcount <;> cases hcount
  obtain ⟨coding, hp⟩ := exists_isPage huntouched
  rcases Nat.lt_or_ge config.maxBody response.body.content.data.size with hsize | hsize
  · obtain ⟨body, hresult, hbody⟩ := exists_rerootResponse_passed view hp hsize
    rw [hresult]
    exact ⟨by simp, Or.inl (by simp [hbody])⟩
  cases hf : response.body.content.failure with
  | some reason =>
    rw [rerootResponse_refused view hp hsize hf]
    exact ⟨by simp, Or.inr ⟨reason, hf, rfl⟩⟩
  | none =>
    have hg : IsGathered config response coding := ⟨hp, hsize, hf⟩
    cases hdecode : coding.decode config.maxBody response.body.content.data with
    | error e =>
      obtain ⟨outcome, hresult, houtcome⟩ := exists_rerootResponse_coded view hg hdecode
      rw [hresult]
      refine ⟨?_, Or.inl (by simp)⟩
      rcases houtcome with rfl | rfl <;> simp
    | ok page =>
      have hlinks : (rerootDocument view page).links = 0 :=
        Decidable.of_not_not fun hchanged => h coding page ⟨hg, hdecode, hchanged⟩
      rw [rerootResponse_decoded view hg hdecode, if_pos hlinks]
      exact ⟨by simp, Or.inl (by simp)⟩

/-- What counts as rerooted has the rerooted page as its body, and everything else is spared. -/
theorem rerootResponse_rerooted_iff [Gzip.Writer] :
    ((rerootResponse config view response).2 = some .rerooted ↔
      IsReplacement config view response (rerootResponse config view response).1.body) ∧
    ((rerootResponse config view response).2 = some .rerooted ∨
      IsSpared response (rerootResponse config view response).1.body) := by
  by_cases h : ∃ coding page, HasLinks config view response coding page
  · obtain ⟨coding, page, h⟩ := h
    obtain ⟨hcount, hbody⟩ := rerootResponse_replaces h
    exact ⟨iff_of_true hcount hbody, Or.inl hcount⟩
  · have hno (coding : Coding) (page : ByteArray) : ¬ HasLinks config view response coding page :=
      fun hpage => h (Exists.intro coding (Exists.intro page hpage))
    obtain ⟨hcount, hspared⟩ := rerootResponse_spares hno
    exact ⟨iff_of_false hcount fun hbody => h (hbody.imp fun _ => Exists.imp fun _ => And.left), Or.inr hspared⟩

end Gateway.Link
