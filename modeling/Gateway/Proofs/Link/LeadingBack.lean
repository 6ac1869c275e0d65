import Gateway.Http.Forwarding
import Gateway.Proofs.Link.Reading
import Gateway.Proofs.Routing.Selection

/-! Rerooted links lead back. Behind the site of the gateway a rerooted link holds a path that selects the target of its
    page again, and asks it for the path that the link denoted before. That path is clean, so that no climb is left
    in it that could lead out of the selection. -/

namespace Gateway.Link

open Gateway.Path

section
variable {source : Url}

/-- On the site of a page with a rooted path every reference denotes a clean rooted path. -/
theorem exists_names_backendPath (hs : source.path.toList.head? = some '/') (path : String) :
    ∃ names, (∀ s ∈ names, IsName s) ∧ backendPath source path = String.ofList (fromRoot names) := by
  unfold backendPath
  split
  · rename_i hrooted
    exact ⟨_, isName_names _, clean_of_rooted hrooted⟩
  · refine ⟨_, isName_names _, clean_of_rooted ?_⟩
    have hdir := head?_dir hs
    simp [hdir]

/-- The slash that a path for the backend ends in is that of the link, or the root itself. -/
theorem getLast?_slashed {names : List (List Char)} (h : ∀ s ∈ names, IsName s) (slash : Prop) [Decidable slash] :
    (fromRoot names ++ if slash ∧ names ≠ [] then ['/'] else []).getLast? = some '/' ↔ slash ∨ names = [] := by
  by_cases hslash : slash ∧ names ≠ []
  · simp [hslash]
  · rw [if_neg hslash, List.append_nil, getLast?_fromRoot h]
    exact ⟨Or.inr, fun hor => hor.elim (fun hs => Classical.not_not.mp fun hn => hslash ⟨hs, hn⟩) id⟩

end

/-- Under a clean base the path on the gateway goes through the names of the base and of the path on the backend. -/
theorem gatewayPath_eq (view : View) {base names : List (List Char)} {path : String}
    (hb : ∀ s ∈ base, IsName s) (hne : base ≠ []) (hbase : view.base = String.ofList (fromRoot base))
    (hn : ∀ s ∈ names, IsName s) (hnames : backendPath view.source path = String.ofList (fromRoot names)) :
    gatewayPath view path = String.ofList
      (fromRoot (base ++ names) ++ if path.toList.getLast? = some '/' then ['/'] else []) := by
  have hall : ∀ s ∈ base ++ names, IsName s := fun s hs => (List.mem_append.mp hs).elim (hb s) (hn s)
  have hlast : (fromRoot (base ++ names)).getLast? ≠ some '/' := mt (getLast?_fromRoot hall).mp (by simp [hne])
  unfold gatewayPath
  simp only [hbase, hnames, join_fromRoot hb hn, String.toList_ofList]
  by_cases hp : path.toList.getLast? = some '/'
  · rw [if_pos ⟨hp, hlast⟩, if_pos hp, ← String.toList_inj]
    simp
  · rw [if_neg fun h => hp h.1, if_neg hp, List.append_nil]

/-- A rerooted link is the gateway's site, a rooted path without double slashes, and the query and fragment of the
    reference. The path selects the target of the page again and asks it for the path that the reference denotes, with
    a slash at its end just if the reference has one there or denotes the root. -/
theorem reroot?_leads_back {mount path : String} {target : Target} {address : Address} {query : Option String}
    {origin : Http.Origin} {source : Url} {link rerooted : String} (htarget : Target.ofPath mount path = .ok target)
    (hclean : clean target.base = target.base) (hsource : Url.ofText (target.destination address query) = .ok source)
    (h : reroot? (Forwarding.view origin target source) link = some rerooted) :
    ∃ reference place back, Reference.ofLink? source (Text.trim Text.isBlank link.toList) = some reference ∧
      rerooted = (origin.host.map (origin.scheme ++ "://" ++ ·)).getD "" ++ place ++
        (reference.query.map ("?" ++ ·)).getD "" ++ (reference.fragment.map ("#" ++ ·)).getD "" ∧
      place.toList.head? = some '/' ∧ ¬ ['/', '/'] <:+: place.toList ∧
      Target.ofPath mount place = .ok back ∧ back.space = target.space ∧ back.kind = target.kind ∧
      back.name = target.name ∧ back.port = target.port ∧ back.base = target.base ∧
      let denoted := if reference.path.toList.head? = some '/' then clean reference.path
        else clean (dir source.path ++ "/" ++ reference.path)
      let slashed := reference.path.toList.getLast? = some '/'
      back.backendPath = denoted ++ (if slashed ∧ denoted ≠ "/" then "/" else "") ∧
      (back.backendPath.toList.getLast? = some '/' ↔ slashed ∨ denoted = "/") := by
  obtain ⟨selection, hselection, hne, hbase, hagain⟩ := Target.ofPath_clean_base htarget hclean
  obtain ⟨reference, hreference, -, rfl⟩ := reroot?_eq_some_iff.mp h
  have hrooted : source.path.toList.head? = some '/' := by
    rw [Target.destination, String.append_assoc, String.append_assoc] at hsource
    exact (Url.ofText_http hsource).2
  obtain ⟨names, hnames, hdenoted⟩ := exists_names_backendPath hrooted reference.path
  have hroot : String.ofList (fromRoot names) = "/" ↔ names = [] := by
    rw [← fromRoot_eq_root hnames, ← String.toList_inj, String.toList_ofList]
    rfl
  have hall : ∀ s ∈ selection ++ names, IsName s := fun s hs =>
    (List.mem_append.mp hs).elim (hselection s) (hnames s)
  let slash : Bool := reference.path.toList.getLast? == some '/'
  have hslash : slash = true ↔ reference.path.toList.getLast? = some '/' := beq_iff_eq
  let view := Forwarding.view origin target source
  have hplace : gatewayPath view reference.path =
      String.ofList (fromRoot (selection ++ names) ++ if slash then ['/'] else []) := by
    simpa only [hslash] using gatewayPath_eq view hselection hne hbase hnames hdenoted
  refine ⟨reference, gatewayPath view reference.path, target.withRemainder names slash, hreference, ?_, ?_, ?_, ?_,
    rfl, rfl, rfl, rfl, rfl, ?_⟩
  · cases hhost : origin.host <;> simp [write, view, Forwarding.view, hhost]
  · simp [hplace, fromRoot]
  · rw [hplace, String.toList_ofList]
    exact not_doubleSlash_fromRoot hall (by simp [hne]) (by cases slash <;> simp)
  · rw [hplace]
    exact hagain names hnames slash
  · intro denoted slashed
    have hd : denoted = String.ofList (fromRoot names) := hdenoted
    rw [Target.backendPath_withRemainder hnames, hd]
    refine ⟨?_, ?_⟩
    · rw [← String.toList_inj]
      by_cases hs : slashed ∧ names ≠ []
      · simp [hs, hslash.mpr hs.1, hroot]
      · simp [hs, hslash, hroot, show reference.path.toList.getLast? = some '/' ↔ slashed from Iff.rfl]
    · rw [String.toList_ofList, getLast?_slashed hnames, hroot, hslash]

/-- A link that climbs further than there is something to climb stays with its pod. -/
theorem reroot?_leads_back_climbing :
    let target : Target := ⟨"default", .pod, "nginx-1", some "8080", ["a", "b", "index.html"], false,
      "/proxy/default/pod/nginx-1/8080"⟩
    let source : Url :=
      ⟨"http", some ⟨none, .ipv4 ⟨167838211⟩, some 8080⟩, .segments ["a", "b", "index.html"], none, none⟩
    let view := Forwarding.view ⟨"https", some "console.example.com", none⟩ target source
    Target.ofPath "proxy" "/proxy/default/pod/nginx-1/8080/a/b/index.html" = .ok target ∧
      clean target.base = target.base ∧ Url.ofText (target.destination ⟨"10.1.2.3", 8080⟩ none) = .ok source ∧
      reroot? view " ../../../../etc//x/../?q#f" =
        some "https://console.example.com/proxy/default/pod/nginx-1/8080/etc/?q#f" ∧
      ∃ place back, Target.ofPath "proxy" place = .ok back ∧ back.name = "nginx-1" ∧ back.port = some "8080" ∧
        back.base = target.base ∧ back.backendPath = "/etc/" := by
  intro target source view
  have htarget : Target.ofPath "proxy" "/proxy/default/pod/nginx-1/8080/a/b/index.html" = .ok target := by rfl
  have hclean : clean target.base = target.base := by decide +kernel
  have hsource : Url.ofText (target.destination ⟨"10.1.2.3", 8080⟩ none) = .ok source :=
    Url.ofText_eq_ok (by decide +kernel)
  have hlink : reroot? view " ../../../../etc//x/../?q#f" =
      some "https://console.example.com/proxy/default/pod/nginx-1/8080/etc/?q#f" := by decide +kernel
  obtain ⟨reference, place, back, hreference, -, -, -, hback, -, -, hname, hport, hbase, hpath, -⟩ :=
    reroot?_leads_back htarget hclean hsource hlink
  have hcut : Reference.ofLink? source (Text.trim Text.isBlank " ../../../../etc//x/../?q#f".toList) =
      some ⟨"../../../../etc//x/../", some "q", some "f"⟩ := by decide +kernel
  obtain rfl := Option.some.inj (hcut.symm.trans hreference)
  exact ⟨htarget, hclean, hsource, hlink, place, back, hback, hname, hport, hbase, hpath.trans (by decide +kernel)⟩

end Gateway.Link
