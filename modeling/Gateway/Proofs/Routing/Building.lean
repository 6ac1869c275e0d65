import Gateway.Config.Rules
import Gateway.Proofs.Routing.Tables
import Gateway.Server

/-! When an accepted configuration can be served. The rules keep the mount to one segment and the files to a rooted path, so
    a table can fail in few ways: a path is no pattern that more can follow, or two of the gateway's own paths, the
    mount and the path of the files claim the same requests. -/

namespace Gateway.Routes

open Pattern

variable {base : String} {p : Pattern}

/-! ### The path of the files -/

theorem filesBase_prefix (files : Config.StaticFiles) : (filesBase files).toList <+: files.mountPath.toList := by
  rw [filesBase, String.toList_ofList, ← List.reverse_suffix, List.reverse_reverse]
  exact List.dropWhile_suffix _

theorem getLast?_filesBase (files : Config.StaticFiles) : (filesBase files).toList.getLast? ≠ some '/' := by
  intro heq
  have hdrop := List.head?_dropWhile_not (· == '/') files.mountPath.toList.reverse
  rw [filesBase, String.toList_ofList, List.getLast?_reverse] at heq
  rw [heq] at hdrop
  cases hdrop

theorem head?_filesBase {files : Config.StaticFiles} (hroot : files.mountPath.toList.head? = some '/')
    (hne : filesBase files ≠ "") : (filesBase files).toList.head? = some '/' := by
  obtain ⟨rest, hrest⟩ := filesBase_prefix files
  have hbase : (filesBase files).toList ≠ [] := mt String.toList_eq_nil_iff.mp hne
  rwa [← hrest, List.head?_append_of_ne_nil _ hbase] at hroot

theorem any_isTail_eq_false (h : IsStem base p) : (segments base.toList).any isTail = false := by
  rw [List.any_eq_false]
  intro s hs htail
  rw [isTail, Bool.and_eq_true, Bool.and_eq_true] at htail
  exact h.not_prefix hs (List.isPrefixOf_iff_prefix.mp htail.1.1)

variable {config : Config}

theorem exists_build_iff_proxied (h : ¬ (config.staticFiles.root.isSome ∧ filesBase config.staticFiles ≠ "")) :
    (∃ table, build config = .ok table) ↔
      ∃ routes, addAll [] (pages ++ proxied config.proxy.mount) = .ok routes := by
  unfold build
  cases addAll [] (pages ++ proxied config.proxy.mount) with
  | error e => exact iff_of_false (fun ⟨_, h⟩ => nomatch h) (fun ⟨_, h⟩ => nomatch h)
  | ok routes =>
    refine iff_of_true ?_ ⟨routes, rfl⟩
    cases hroot : config.staticFiles.root with
    | none => exact ⟨⟨routes, false⟩, rfl⟩
    | some root =>
      have hbase : filesBase config.staticFiles = "" := by simpa [hroot] using h
      exact ⟨⟨routes, true⟩, by simp [hbase, bind, Except.bind, pure, Except.pure]⟩

theorem exists_build_iff_served (hroot : config.staticFiles.root.isSome) (hne : filesBase config.staticFiles ≠ "")
    (hany : (segments (filesBase config.staticFiles).toList).any isTail = false) :
    (∃ table, build config = .ok table) ↔
      ∃ routes, addAll [] (pages ++ proxied config.proxy.mount ++ served (filesBase config.staticFiles)) = .ok routes := by
  have hsome : config.staticFiles.root.isNone = false := by simpa using hroot
  unfold build
  rw [addAll_append [] (pages ++ proxied config.proxy.mount), hsome]
  cases addAll [] (pages ++ proxied config.proxy.mount) with
  | error e => exact iff_of_false (fun ⟨_, h⟩ => nomatch h) (fun ⟨_, h⟩ => nomatch h)
  | ok routes =>
    cases hserved : addAll routes (served (filesBase config.staticFiles)) with
    | error e => simp [hne, hany, hserved, bind, Except.bind]
    | ok table => simp [hne, hany, hserved, bind, Except.bind, pure, Except.pure]

/-- A tail in the path of the files leaves no table, as no pattern goes on behind it. -/
theorem not_exists_build_of_tail (hroot : config.staticFiles.root.isSome) (hne : filesBase config.staticFiles ≠ "")
    (hany : (segments (filesBase config.staticFiles).toList).any isTail = true) : ¬ ∃ table, build config = .ok table := by
  have hsome : config.staticFiles.root.isNone = false := by simpa using hroot
  rintro ⟨table, h⟩
  obtain ⟨routes, -, h⟩ := bind_eq_ok.mp h
  simp [hsome, hne, hany] at h

theorem exists_build_iff_stems (hmount : '/' ∉ config.proxy.mount.toList)
    (hpath : config.staticFiles.mountPath.toList.head? = some '/') : (∃ table, build config = .ok table) ↔
      ∃ m, IsStem ("/" ++ config.proxy.mount) m ∧ config.proxy.mount ≠ "api" ∧
        (config.staticFiles.root.isSome → filesBase config.staticFiles ≠ "" →
          ∃ p, IsStem (filesBase config.staticFiles) p ∧ Beside m p) := by
  by_cases hfiles : config.staticFiles.root.isSome ∧ filesBase config.staticFiles ≠ ""
  · obtain ⟨hroot, hne⟩ := hfiles
    simp only [hroot, hne, ne_eq, not_false_eq_true, true_imp_iff]
    by_cases hany : (segments (filesBase config.staticFiles).toList).any isTail = true
    · refine iff_of_false (not_exists_build_of_tail hroot hne hany) ?_
      rintro ⟨m, -, -, p, hp, -⟩
      rw [any_isTail_eq_false hp] at hany
      cases hany
    · rw [exists_build_iff_served hroot hne (Bool.eq_false_iff.mpr hany),
        addAll_served_iff hmount (head?_filesBase hpath hne) (getLast?_filesBase config.staticFiles)]
  · rw [exists_build_iff_proxied hfiles]
    simp only [addAll_proxied_iff hmount]
    constructor
    · rintro ⟨routes, m, hm, hne, -⟩
      exact ⟨m, hm, hne, fun hroot hbase => absurd ⟨hroot, hbase⟩ hfiles⟩
    · rintro ⟨m, hm, hne, -⟩
      exact ⟨pageRoutes ++ mounted config.proxy.mount m, m, hm, hne, rfl⟩

end Gateway.Routes

namespace Gateway.Server

open Config Pattern Routes

variable {config : Config}

theorem exists_build_iff_routes (directory : Gateway.Directory) (files : Files) :
    (∃ server, build config directory files = .ok server) ↔ ∃ table, Routes.build config = .ok table := by
  unfold build
  cases Routes.build config with
  | error e => exact iff_of_false (fun ⟨_, h⟩ => nomatch h) (fun ⟨_, h⟩ => nomatch h)
  | ok table => exact iff_of_true ⟨_, rfl⟩ ⟨table, rfl⟩

theorem rooted_of_accepted (h : config.violations = []) :
    '/' ∉ config.proxy.mount.toList ∧ config.staticFiles.mountPath.toList.head? = some '/' := by
  simp only [violations, List.append_eq_nil_iff] at h
  obtain ⟨⟨⟨⟨⟨⟨-, hproxy⟩, -⟩, -⟩, -⟩, -⟩, hfiles⟩ := h
  rw [Proxy.violations, List.append_eq_nil_iff] at hproxy
  exact ⟨by simpa [Violation.when] using hproxy.2, by simpa [StaticFiles.violations, Violation.when] using hfiles⟩

/-- **An accepted configuration starts just if its paths leave room for each other.** The mount is the text of a pattern that
    more can follow, and it is not `api`. Files that have a path of their own have such a text as well, whose shape is not that
    of `/api`, of a page or of the mount, and does not lie in an open segment below the mount. -/
theorem exists_build_iff_beside (directory : Gateway.Directory) (files : Files) (h : config.violations = []) :
    (∃ server, build config directory files = .ok server) ↔
      ∃ m, IsStem ("/" ++ config.proxy.mount) m ∧ config.proxy.mount ≠ "api" ∧
        (config.staticFiles.root.isSome → filesBase config.staticFiles ≠ "" →
          ∃ p, IsStem (filesBase config.staticFiles) p ∧ Beside m p) := by
  obtain ⟨hmount, hpath⟩ := rooted_of_accepted h
  rw [exists_build_iff_routes, exists_build_iff_stems hmount hpath]

theorem exists_build_iff_beside_assets :
    let config : Config := { staticFiles := { root := some "/srv/assets", mountPath := "/assets/" } }
    config.violations = [] ∧ ∃ server, build config (.failing "") (fun _ => none) = .ok server := by
  intro config
  have haccepted : config.violations = [] := by decide
  have hbase : filesBase config.staticFiles = "/assets" := by decide
  have hm : IsStem "/proxy" (plains "/proxy") := isStem_of_ordinary (by decide) (by decide) (by decide)
  have hp : IsStem "/assets" (plains "/assets") := isStem_of_ordinary (by decide) (by decide) (by decide)
  refine ⟨haccepted, (exists_build_iff_beside _ _ haccepted).mpr ⟨plains "/proxy", hm, by decide, fun _ _ => ?_⟩⟩
  rw [hbase]
  exact ⟨plains "/assets", hp, by decide, by decide, by decide, by decide⟩

/-- The rules let through a mount that lies across the pages. -/
theorem not_exists_build_api : ¬ ∀ (config : Config) (directory : Gateway.Directory) (files : Files),
    config.violations = [] → ∃ server, build config directory files = .ok server := by
  intro h
  have hbuilt := h { proxy := { mount := "api" } } (.failing "") (fun _ => none) (by decide)
  rw [exists_build_iff_routes, exists_build_iff_stems (by decide) (by decide)] at hbuilt
  obtain ⟨m, -, hne, -⟩ := hbuilt
  exact hne rfl

/-! ### Paths without names -/

theorem isStem_iff_of_ordinary {text : String} {p : Pattern} (hordinary : IsOrdinary text.toList)
    (hroot : text.toList.head? = some '/') :
    IsStem text p ↔ p = plains text ∧ ∀ s ∈ segments text.toList, IsUnmarked s := by
  constructor
  · intro h
    have hreads := ofText_eq_ok_iff.mp h.reads
    have hplain := (isStem_of_ordinary hroot hreads.unmarked hordinary).reads
    exact ⟨Except.ok.inj (h.reads.symm.trans hplain), hreads.unmarked⟩
  · rintro ⟨rfl, hunmarked⟩
    exact isStem_of_ordinary hroot hunmarked hordinary

theorem shape_plains (text : String) : (plains text).shape = text.toList.map some := by
  rw [plains, shape, List.map_map]
  rfl

theorem shape_plains_inj {text other : String} : (plains text).shape = (plains other).shape ↔ text = other := by
  rw [shape_plains, shape_plains, List.map_inj_right fun _ _ => Option.some.inj, String.toList_inj]

theorem none_not_mem_plains (text : String) : none ∉ (plains text).shape := by simp [shape_plains]

theorem beside_plains_iff {mount base : String} : Beside (plains mount) (plains base) ↔
    base ∉ ["/api", "/api/ping", "/api/pods", "/api/services", mount] := by
  have hbelow : ¬ (plains mount).shape ++ [some '/', none] <+: (plains base).shape :=
    fun h => none_not_mem_plains base (h.subset (by simp))
  have hpages : (∀ r ∈ pageRoutes, (plains base).shape ≠ r.pattern.shape) ↔
      base ≠ "/api/ping" ∧ base ≠ "/api/pods" ∧ base ≠ "/api/services" := by
    have hnamed : ∀ rest, (plains base).shape ≠ (plains "/api/").shape ++ none :: rest := by
      intro rest heq
      exact none_not_mem_plains base (heq ▸ by simp)
    simp [pageRoutes, hnamed, shape_plains_inj]
  have hapi : (plains base).shape = apiShape ↔ base = "/api" := by
    rw [apiShape, ← shape_plains, shape_plains_inj]
  simp only [List.mem_cons, List.not_mem_nil, or_false, not_or]
  constructor
  · rintro ⟨hapi', hpages', hmount, -⟩
    obtain ⟨hping, hpods, hservices⟩ := hpages.mp hpages'
    exact ⟨mt hapi.mpr hapi', hping, hpods, hservices, mt shape_plains_inj.mpr hmount⟩
  · rintro ⟨hapi', hping, hpods, hservices, hmount⟩
    exact ⟨mt hapi.mp hapi', hpages.mpr ⟨hping, hpods, hservices⟩, mt shape_plains_inj.mp hmount, hbelow⟩

/-- What the rules would have to say about paths without braces. -/
theorem exists_build_iff_of_ordinary (directory : Gateway.Directory) (files : Files) (h : config.violations = [])
    (hmount : IsOrdinary config.proxy.mount.toList) (hbase : IsOrdinary (filesBase config.staticFiles).toList) :
    (∃ server, build config directory files = .ok server) ↔
      IsUnmarked config.proxy.mount.toList ∧ config.proxy.mount ≠ "api" ∧
        (config.staticFiles.root.isSome → filesBase config.staticFiles ≠ "" →
          (∀ s ∈ segments (filesBase config.staticFiles).toList, IsUnmarked s) ∧ filesBase config.staticFiles ∉
            ["/api", "/api/ping", "/api/pods", "/api/services", "/" ++ config.proxy.mount]) := by
  obtain ⟨hslash, hpath⟩ := rooted_of_accepted h
  have htext : ("/" ++ config.proxy.mount).toList = '/' :: config.proxy.mount.toList := String.toList_append
  have hsegments : segments ("/" ++ config.proxy.mount).toList = [[], config.proxy.mount.toList] := by
    have hcut := Path.splitOn_fromRoot (List.forall_mem_singleton.mpr hslash) (List.cons_ne_nil _ [])
    rwa [Path.fromRoot, List.intercalate_singleton, ← htext] at hcut
  have hstem : ∀ m, IsStem ("/" ++ config.proxy.mount) m ↔
      m = plains ("/" ++ config.proxy.mount) ∧ IsUnmarked config.proxy.mount.toList := by
    intro m
    rw [isStem_iff_of_ordinary (by simpa [htext, IsOrdinary] using hmount) (by simp), hsegments]
    simp [IsUnmarked]
  rw [exists_build_iff_routes, exists_build_iff_stems hslash hpath]
  simp only [hstem]
  constructor
  · rintro ⟨m, ⟨rfl, hunmarked⟩, hne, hfiles⟩
    refine ⟨hunmarked, hne, fun hroot hnonempty => ?_⟩
    obtain ⟨p, hp, hbeside⟩ := hfiles hroot hnonempty
    obtain ⟨rfl, hbaseUnmarked⟩ := (isStem_iff_of_ordinary hbase (head?_filesBase hpath hnonempty)).mp hp
    exact ⟨hbaseUnmarked, beside_plains_iff.mp hbeside⟩
  · rintro ⟨hunmarked, hne, hfiles⟩
    refine ⟨_, ⟨rfl, hunmarked⟩, hne, fun hroot hnonempty => ?_⟩
    obtain ⟨hbaseUnmarked, hapart⟩ := hfiles hroot hnonempty
    exact ⟨_, (isStem_iff_of_ordinary hbase (head?_filesBase hpath hnonempty)).mpr ⟨rfl, hbaseUnmarked⟩,
      beside_plains_iff.mpr hapart⟩

end Gateway.Server
