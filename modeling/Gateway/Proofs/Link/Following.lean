import Gateway.Proofs.Link.LeadingBack
import Gateway.Proofs.Path.Directories
import Gateway.Proofs.Results
import Gateway.Proofs.Url.Resolution

/-! Following a rerooted link. The link is the site of the gateway, a place on it, and the query and fragment of the
    reference; and at the place the gateway asks the target of the page for the names that the reference denotes. -/

namespace Gateway.Link

open Gateway.Path

/-- The site of the gateway as it is written in front of a place; nothing where its host is unknown. -/
def View.site (view : View) : String := (view.host.map (view.scheme ++ "://" ++ ·)).getD ""

/-- The link to a place on the gateway, with the query and fragment of a reference. -/
def View.linkTo (view : View) (place : String) (reference : Reference) : String :=
  view.site ++ place ++ (reference.query.map ("?" ++ ·)).getD "" ++ (reference.fragment.map ("#" ++ ·)).getD ""

theorem write_eq_linkTo (view : View) (reference : Reference) :
    write view reference = view.linkTo (gatewayPath view reference.path) reference := by
  unfold write View.linkTo View.site
  cases view.host <;> rfl

/-- Behind the place of a reference the gateway finds the target again, and for the backend the names that the reference
    denotes, with a slash at the end where the reference has one. -/
theorem ofPath_gatewayPath (origin : Http.Origin) {mount text path : String} {target : Target} {source : Url}
    {names : List (List Char)} (htarget : Target.ofPath mount text = .ok target)
    (hclean : clean target.base = target.base) (hn : ∀ s ∈ names, IsName s)
    (hdenoted : backendPath source path = String.ofList (fromRoot names)) :
    ∃ back, Target.ofPath mount (gatewayPath (Forwarding.view origin target source) path) = .ok back ∧
      back.base = target.base ∧ back.backendPath = String.ofList
        (fromRoot names ++ if path.toList.getLast? = some '/' ∧ names ≠ [] then ['/'] else []) := by
  obtain ⟨selection, hselection, hne, hbase, hagain⟩ := Target.ofPath_clean_base htarget hclean
  let slash : Bool := path.toList.getLast? == some '/'
  have hslash : slash = true ↔ path.toList.getLast? = some '/' := beq_iff_eq
  refine ⟨target.withRemainder names slash, ?_, rfl, ?_⟩
  · rw [gatewayPath_eq (Forwarding.view origin target source) hselection hne hbase hn hdenoted]
    simpa only [hslash] using hagain names hn slash
  · rw [Target.backendPath_withRemainder hn]
    simp only [hslash]

/-- A pod that a page is asked for. -/
def podTarget : Target :=
  ⟨"default", .pod, "nginx-1", some "8080", ["a", "b", "index.html"], false, "/proxy/default/pod/nginx-1/8080"⟩

/-- The page. -/
def podPage : Url := ⟨"http", some ⟨none, .ipv4 ⟨167838211⟩, some 8080⟩, .segments ["a", "b", "index.html"], none, none⟩

/-- The page as it is seen through a gateway at a console. -/
def podView : View := Forwarding.view ⟨"https", some "console.example.com", none⟩ podTarget podPage

theorem ofPath_podTarget :
    Target.ofPath "proxy" "/proxy/default/pod/nginx-1/8080/a/b/index.html" = .ok podTarget := by rfl

theorem clean_podTarget : clean podTarget.base = podTarget.base := by decide +kernel

theorem ofText_podPage : Url.ofText "http://10.1.2.3:8080/a/b/index.html" = .ok podPage :=
  Url.ofText_eq_ok (by decide +kernel)

end Gateway.Link
