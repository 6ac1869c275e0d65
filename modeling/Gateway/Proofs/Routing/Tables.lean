import Gateway.Proofs.Routing.Conflicts
import Gateway.Routing.Routes
import Mathlib.Data.List.Induction
import Mathlib.Data.List.Infix

/-! Tables of routes. A table is built just if all its texts are patterns and no two of them conflict. The routes of a mount
    stand and fall with one pattern, that of the mount itself, and whether they meet others is a matter of its shape. -/

namespace Gateway.Routes

open Pattern

/-! ### Tables -/

/-- What a route is built from. -/
def entry (r : Route) : String × Endpoint := (r.text, r.endpoint)

/-- Two routes serve side by side. -/
def Apart (r r' : Route) : Prop := r.pattern.conflicts r'.pattern = false

/-- Endpoints of one path are not joined. -/
def Unjoined (e e' : String × Endpoint) : Prop := e.1 = e'.1 → joined? e.2 e'.2 = none

variable {routes routes' : List Route} {entries : List (String × Endpoint)}

theorem add_eq_ok_iff {text : String} {endpoint : Endpoint}
    (hjoined : ∀ r ∈ routes, r.text = text → joined? r.endpoint endpoint = none) :
    add routes text endpoint = .ok routes' ↔ ∃ p, ofText text = .ok p ∧
      (∀ r ∈ routes, r.pattern.conflicts p = false) ∧ routes' = routes ++ [⟨text, p, endpoint⟩] := by
  unfold add
  cases htext : ofText text with
  | error reason => simp
  | ok p =>
    have hbind : (routes.find? (·.text == text)).bind (fun r => joined? r.endpoint endpoint) = none := by
      rw [Option.bind_eq_none_iff]
      intro r hr
      exact hjoined r (List.mem_of_find?_eq_some hr) (by simpa using List.find?_some hr)
    simp only [hbind]
    cases hfind : routes.find? fun r => r.pattern.conflicts p with
    | some other =>
      have hother := List.find?_some hfind
      have hmem := List.mem_of_find?_eq_some hfind
      refine iff_of_false nofun ?_
      rintro ⟨q, hq, hapart, -⟩
      cases hq
      rw [hapart other hmem] at hother
      cases hother
    | none =>
      have hapart : ∀ r ∈ routes, r.pattern.conflicts p = false := by simpa using hfind
      constructor
      · intro h
        exact ⟨p, rfl, hapart, (Except.ok.inj h).symm⟩
      · rintro ⟨q, hq, -, rfl⟩
        cases hq
        rfl

theorem addAll_append (routes : List Route) (entries more : List (String × Endpoint)) :
    addAll routes (entries ++ more) = addAll routes entries >>= fun routes => addAll routes more :=
  List.foldlM_append

theorem addAll_singleton (routes : List Route) (e : String × Endpoint) : addAll routes [e] = add routes e.1 e.2 := by
  simp [addAll]

/-- **A table is built just if each text is a pattern and no two of them conflict.** -/
theorem addAll_eq_ok_iff (hjoined : entries.Pairwise Unjoined) : addAll [] entries = .ok routes ↔
    routes.map entry = entries ∧ (∀ r ∈ routes, ofText r.text = .ok r.pattern) ∧ routes.Pairwise Apart := by
  induction entries using List.reverseRecOn generalizing routes with
  | nil =>
    constructor
    · intro h
      cases h
      exact ⟨rfl, nofun, .nil⟩
    · rintro ⟨hentries, -, -⟩
      rw [List.map_eq_nil_iff.mp hentries]
      rfl
  | append_singleton entries e ih =>
    obtain ⟨hentries, -, hlast⟩ := List.pairwise_append.mp hjoined
    have hnew : ∀ {front : List Route}, front.map entry = entries →
        ∀ r ∈ front, r.text = e.1 → joined? r.endpoint e.2 = none := by
      rintro front rfl r hr
      exact hlast (entry r) (List.mem_map_of_mem hr) e (List.mem_singleton.mpr rfl)
    rw [addAll_append, bind_eq_ok]
    constructor
    · rintro ⟨front, hfront, hadd⟩
      obtain ⟨hmap, hreads, hapart⟩ := (ih hentries).mp hfront
      rw [addAll_singleton, add_eq_ok_iff (hnew hmap)] at hadd
      obtain ⟨p, hp, hconflicts, rfl⟩ := hadd
      refine ⟨by simp [hmap, entry], ?_, List.pairwise_append.mpr ⟨hapart, List.pairwise_singleton _ _, ?_⟩⟩
      · intro r hr
        rcases List.mem_append.mp hr with hr | hr
        · exact hreads r hr
        · obtain rfl := List.mem_singleton.mp hr
          exact hp
      · intro r hr r' hr'
        obtain rfl := List.mem_singleton.mp hr'
        exact hconflicts r hr
    · rintro ⟨hmap, hreads, hapart⟩
      obtain ⟨front, back, rfl, hfront, hback⟩ := List.map_eq_append_iff.mp hmap
      obtain ⟨last, rfl, rfl⟩ := List.map_eq_singleton_iff.mp hback
      obtain ⟨hfrontApart, -, hconflicts⟩ := List.pairwise_append.mp hapart
      refine ⟨front, (ih hentries).mpr ⟨hfront, fun r hr => hreads r (List.mem_append_left _ hr), hfrontApart⟩, ?_⟩
      rw [addAll_singleton, add_eq_ok_iff (hnew hfront)]
      exact ⟨last.pattern, hreads last (by simp), fun r hr => hconflicts r hr last (List.mem_singleton.mpr rfl), rfl⟩

/-! ### The pages -/

/-- A text that means itself. -/
def plains (text : String) : Pattern := text.toList.map .plain

def pageRoutes : List Route := [
  ⟨"/api/ping", plains "/api/ping", .methods (some .ping) false⟩,
  ⟨"/api/pods", plains "/api/pods", .methods (some .pods) false⟩,
  ⟨"/api/\x7bnamespace\x7d/pods", plains "/api/" ++ .segment "namespace" :: plains "/pods", .methods (some .podsOf) false⟩,
  ⟨"/api/services", plains "/api/services", .methods (some .services) false⟩,
  ⟨"/api/\x7bnamespace\x7d/services", plains "/api/" ++ .segment "namespace" :: plains "/services",
    .methods (some .servicesOf) false⟩]

theorem ofText_pageRoutes : ∀ r ∈ pageRoutes, ofText r.text = .ok r.pattern := by
  have hreads : ∀ r ∈ pageRoutes, ofMarks (marks r.text.toList) = .ok r.pattern := by
    simp only [pageRoutes, List.forall_mem_cons, List.not_mem_nil, false_imp_iff, implies_true, and_true]
    refine ⟨?_, ?_, ?_, ?_, ?_⟩ <;> cbv
  intro r hr
  have hroot : ∀ r ∈ pageRoutes, r.text.toList.head? = some '/' := by decide
  have hunmarked : ∀ r ∈ pageRoutes, ∀ s ∈ segments r.text.toList, IsUnmarked s := by decide
  have hfew : ∀ r ∈ pageRoutes, r.pattern.openSegments ≤ mostOpenSegments := by decide
  exact ofText_eq_ok_iff.mpr ⟨hroot r hr, hunmarked r hr, ofMarks_eq_ok_iff.mp (hreads r hr), hfew r hr⟩

theorem noTail_pageRoutes : ∀ r ∈ pageRoutes, NoTail r.pattern := by
  simp [pageRoutes, NoTail, plains]

theorem map_pageRoutes : pageRoutes.map entry = pages := rfl

theorem apart_pageRoutes : pageRoutes.Pairwise Apart := by
  unfold Apart
  decide

variable {p m : Pattern}

def apiShape : List (Option Char) := "/api".toList.map some

theorem conflicts_page (hp : NoTail p) {r : Route} (hr : r ∈ pageRoutes) :
    r.pattern.conflicts p = false ↔ p.shape ≠ r.pattern.shape := by
  rw [← Bool.not_eq_true, conflicts_stems (noTail_pageRoutes r hr) hp, ne_comm]

theorem conflicts_page_slash (hp : NoTail p) {r : Route} (hr : r ∈ pageRoutes) :
    r.pattern.conflicts p.slashed = false := by
  have hlast : ∀ r ∈ pageRoutes, r.pattern.shape.getLast? ≠ some (some '/') := by decide
  rw [← Bool.not_eq_true, conflicts_stems (noTail_pageRoutes r hr) hp.slashed]
  intro heq
  refine hlast r hr ?_
  simp [heq]

/-- What lies below `/api` meets the pages of a namespace. -/
theorem conflicts_page_below (hp : NoTail p) (name : String) :
    (∀ r ∈ pageRoutes, r.pattern.conflicts (p.below name) = false) ↔ p.shape ≠ apiShape := by
  have hinits : ∀ r ∈ pageRoutes, ∀ xs ∈ r.pattern.shape.inits,
      xs.getLast? = some none → xs = apiShape ++ [some '/', none] := by decide
  have hmeets : ∃ r ∈ pageRoutes, apiShape ++ [some '/', none] <+: r.pattern.shape := by decide
  constructor
  · intro h heq
    obtain ⟨r, hr, hprefix⟩ := hmeets
    have hconflict := (conflicts_stem_below (noTail_pageRoutes r hr) hp name).mpr (heq ▸ hprefix)
    rw [h r hr] at hconflict
    cases hconflict
  · intro hne r hr
    rw [← Bool.not_eq_true, conflicts_stem_below (noTail_pageRoutes r hr) hp]
    intro hprefix
    have heq := hinits r hr _ ((List.mem_inits _ _).mpr hprefix) (by simp)
    exact hne (List.append_cancel_right heq)

theorem apart_pages_iff (hp : NoTail p) (name : String) :
    (∀ r ∈ pageRoutes, r.pattern.conflicts p = false ∧ r.pattern.conflicts p.slashed = false ∧
      r.pattern.conflicts (p.below name) = false) ↔ p.shape ≠ apiShape ∧ ∀ r ∈ pageRoutes, p.shape ≠ r.pattern.shape := by
  rw [← conflicts_page_below hp name]
  constructor
  · intro h
    exact ⟨fun r hr => (h r hr).2.2, fun r hr => (conflicts_page hp hr).mp (h r hr).1⟩
  · rintro ⟨hbelow, hpages⟩ r hr
    exact ⟨(conflicts_page hp hr).mpr (hpages r hr), conflicts_page_slash hp hr, hbelow r hr⟩

/-! ### Two mounts -/

/-- A path that is not met by the pages, nor by the routes of a mount. -/
structure Beside (m p : Pattern) : Prop where
  api : p.shape ≠ apiShape
  pages : ∀ r ∈ pageRoutes, p.shape ≠ r.pattern.shape
  mount : p.shape ≠ m.shape
  /-- It does not lie in an open segment below the mount. -/
  below : ¬ m.shape ++ [some '/', none] <+: p.shape

/-- The shape of a single segment. -/
def OneSlash (shape : List (Option Char)) : Prop := ∃ xs, shape = some '/' :: xs ∧ some '/' ∉ xs

theorem OneSlash.count {shape : List (Option Char)} (h : OneSlash shape) : shape.count (some '/') = 1 := by
  obtain ⟨xs, rfl, hxs⟩ := h
  rw [List.count_cons_self, List.count_eq_zero_of_not_mem hxs]

theorem OneSlash.ne_page {shape : List (Option Char)} (h : OneSlash shape) : ∀ r ∈ pageRoutes, shape ≠ r.pattern.shape := by
  have hmany : ∀ r ∈ pageRoutes, 1 < r.pattern.shape.count (some '/') := by decide
  rintro r hr rfl
  exact absurd h.count (hmany r hr).ne'

/-- The routes of one mount do not meet. -/
theorem stem_apart (hp : NoTail p) (name : String) :
    p.conflicts p.slashed = false ∧ p.conflicts (p.below name) = false ∧ p.slashed.conflicts (p.below name) = false := by
  have hnot : ¬ p.shape ++ [some '/', none] <+: p.shape := fun h => absurd h.length_le (by simp)
  simp only [← Bool.not_eq_true, conflicts_stems hp hp.slashed, conflicts_stem_below hp hp,
    conflicts_stem_below hp.slashed hp, shape_slashed, prefix_slash_iff, hnot]
  simp

/-- The routes of two mounts. -/
theorem mounts_apart_iff (hm : NoTail m) (hp : NoTail p) (hone : OneSlash m.shape) (hroot : p.shape.head? = some (some '/'))
    (hlast : p.shape.getLast? ≠ some (some '/')) (name name' : String) :
    (∀ q ∈ [m, m.slashed, m.below name], q.conflicts (p.below name') = false ∧ q.conflicts p = false ∧
      q.conflicts p.slashed = false) ↔ p.shape ≠ m.shape ∧ ¬ m.shape ++ [some '/', none] <+: p.shape := by
  have hcount := hone.count
  obtain ⟨ys, hys⟩ := List.head?_eq_some_iff.mp hroot
  have hdeep : ¬ p.shape ++ [some '/', none] <+: m.shape := by
    intro h
    have hle := h.sublist.count_le (some '/')
    rw [hcount, hys] at hle
    simp at hle
  have hlong : m.shape ≠ p.shape ++ [some '/'] := by
    intro heq
    rw [heq, hys] at hcount
    simp at hcount
  have hslash : m.shape ++ [some '/'] ≠ p.shape := by
    intro heq
    exact hlast (by rw [← heq, List.getLast?_concat])
  simp only [List.forall_mem_cons, List.not_mem_nil, false_imp_iff, implies_true, and_true, ← Bool.not_eq_true,
    conflicts_stem_below hm hp, conflicts_stems hm hp, conflicts_stems hm hp.slashed, conflicts_stem_below hm.slashed hp,
    conflicts_stems hm.slashed hp, conflicts_stems hm.slashed hp.slashed, conflicts_below_below hm hp,
    conflicts_below_stem hm hp, conflicts_below_stem hm hp.slashed, shape_slashed, prefix_slash_iff, hdeep, hlong, hslash]
  simp only [List.append_left_inj, not_false_eq_true, true_and, and_true, not_or]
  rw [ne_comm]
  tauto

/-! ### What is mounted -/

def mounted (mount : String) (m : Pattern) : List Route := [
  ⟨"/" ++ mount, m, .methods none true⟩,
  ⟨"/" ++ mount ++ "/", m.slashed, .methods none true⟩,
  ⟨"/" ++ mount ++ "/\x7b*path\x7d", m.below "path", .methods none true⟩]

def filesAt (base : String) (p : Pattern) : List Route :=
  let depth := (segments base.toList).length - 1
  [⟨base ++ "/\x7b*file\x7d", p.below "file", .files depth⟩, ⟨base, p, .files depth⟩, ⟨base ++ "/", p.slashed, .files depth⟩]

variable {mount base : String}

theorem ofText_mounted (h : IsStem ("/" ++ mount) m) : ∀ r ∈ mounted mount m, ofText r.text = .ok r.pattern := by
  have hbelow : ofText ("/" ++ mount ++ "/\x7b*path\x7d") = .ok (m.below "path") :=
    h.below "\x7b*path\x7d" (by decide) (by cbv)
  simp only [mounted, List.forall_mem_cons, List.not_mem_nil, false_imp_iff, implies_true, and_true]
  exact ⟨h.reads, h.slash, hbelow⟩

theorem ofText_filesAt (h : IsStem base p) : ∀ r ∈ filesAt base p, ofText r.text = .ok r.pattern := by
  have hbelow : ofText (base ++ "/\x7b*file\x7d") = .ok (p.below "file") :=
    h.below "\x7b*file\x7d" (by decide) (by cbv)
  simp only [filesAt, List.forall_mem_cons, List.not_mem_nil, false_imp_iff, implies_true, and_true]
  exact ⟨hbelow, h.reads, h.slash⟩

theorem apart_mounted (h : NoTail m) : (mounted mount m).Pairwise Apart := by
  obtain ⟨hslash, hbelow, hslashBelow⟩ := stem_apart h "path"
  simp [mounted, Apart, hslash, hbelow, hslashBelow]

theorem apart_filesAt (h : NoTail p) : (filesAt base p).Pairwise Apart := by
  obtain ⟨hslash, hbelow, hslashBelow⟩ := stem_apart h "file"
  simp [filesAt, Apart, hslash, conflicts_comm (p.below "file"), hbelow, hslashBelow]

/-- What is read is known by its entries. -/
theorem eq_of_map_entry {more : List Route} (hroutes : ∀ r ∈ routes, ofText r.text = .ok r.pattern)
    (hmore : ∀ r ∈ more, ofText r.text = .ok r.pattern) (h : routes.map entry = more.map entry) : routes = more := by
  induction routes generalizing more with
  | nil => exact (List.map_eq_nil_iff.mp h.symm).symm
  | cons r routes ih =>
    cases more with
    | nil => cases h
    | cons r' more =>
      obtain ⟨hentry, htail⟩ := List.cons.inj h
      obtain ⟨htext, hendpoint⟩ := Prod.mk.inj hentry
      have hpattern := (hroutes r List.mem_cons_self).symm.trans (htext ▸ hmore r' List.mem_cons_self)
      have heq : r = r' := by
        cases r
        cases r'
        simp_all
      have hrest := ih (fun r hr => hroutes r (List.mem_cons_of_mem _ hr)) (fun r hr => hmore r (List.mem_cons_of_mem _ hr))
      rw [heq, hrest htail]

/-- A path with a slash behind it can be read only if the path is a stem. -/
theorem exists_isStem_of_entry {text : String} {endpoint : Endpoint} (hroutes : ∀ r ∈ routes, ofText r.text = .ok r.pattern)
    (hroot : text.toList.head? = some '/') (h : (text ++ "/", endpoint) ∈ routes.map entry) : ∃ p, IsStem text p := by
  obtain ⟨r, hr, hentry⟩ := List.mem_map.mp h
  obtain ⟨htext, -⟩ := Prod.mk.inj hentry
  exact exists_isStem_of_slash hroot (htext ▸ hroutes r hr)

theorem exists_mounted (hroutes : ∀ r ∈ routes, ofText r.text = .ok r.pattern) (h : routes.map entry = proxied mount) :
    ∃ m, IsStem ("/" ++ mount) m ∧ routes = mounted mount m := by
  have hmem : ("/" ++ mount ++ "/", .methods none true) ∈ routes.map entry := by simp [h, proxied]
  obtain ⟨m, hm⟩ := exists_isStem_of_entry hroutes (by simp) hmem
  exact ⟨m, hm, eq_of_map_entry hroutes (ofText_mounted hm) h⟩

theorem exists_filesAt (hroot : base.toList.head? = some '/') (hroutes : ∀ r ∈ routes, ofText r.text = .ok r.pattern)
    (h : routes.map entry = served base) : ∃ p, IsStem base p ∧ routes = filesAt base p := by
  have hmem : (base ++ "/", .files ((segments base.toList).length - 1)) ∈ routes.map entry := by simp [h, served]
  obtain ⟨p, hp⟩ := exists_isStem_of_entry hroutes hroot hmem
  exact ⟨p, hp, eq_of_map_entry hroutes (ofText_filesAt hp) h⟩

theorem oneSlash (hmount : '/' ∉ mount.toList) (h : IsStem ("/" ++ mount) m) : OneSlash m.shape := by
  have htext : ("/" ++ mount).toList = '/' :: mount.toList := String.toList_append
  obtain ⟨xs, hxs, hmem⟩ := h.exists_shape htext
  exact ⟨xs, hxs, fun hslash => hmount (hmem '/' hslash)⟩

theorem shape_eq_apiShape_iff (h : IsStem ("/" ++ mount) m) : m.shape = apiShape ↔ mount = "api" := by
  have hordinary : IsOrdinary "/api".toList := by decide
  have hcons : ("/" ++ mount).toList = '/' :: mount.toList := String.toList_append
  rw [apiShape, h.shape_eq_iff hordinary, hcons, show "/api".toList = '/' :: "api".toList from rfl, List.cons_inj_right,
    String.toList_inj]

theorem pages_apart_mounted (hmount : '/' ∉ mount.toList) (h : IsStem ("/" ++ mount) m) :
    (∀ r ∈ pageRoutes, ∀ r' ∈ mounted mount m, Apart r r') ↔ mount ≠ "api" := by
  have hiff := apart_pages_iff h.noTail "path"
  rw [and_iff_left (oneSlash hmount h).ne_page, ne_eq, shape_eq_apiShape_iff h] at hiff
  simpa [mounted, Apart] using hiff

theorem pages_apart_filesAt (h : NoTail p) : (∀ r ∈ pageRoutes, ∀ r' ∈ filesAt base p, Apart r r') ↔
    p.shape ≠ apiShape ∧ ∀ r ∈ pageRoutes, p.shape ≠ r.pattern.shape := by
  rw [← apart_pages_iff h "file"]
  refine forall₂_congr fun r _ => ?_
  simp only [filesAt, Apart, List.forall_mem_cons, List.not_mem_nil, false_imp_iff, implies_true, and_true]
  tauto

/-! ### The whole table -/

theorem joined?_files (endpoint : Endpoint) (depth : Nat) : joined? endpoint (.files depth) = none := by
  cases endpoint <;> simp [joined?]

/-- A page keeps its path for itself: no mount has the text of one. -/
theorem unjoined_proxied (hmount : '/' ∉ mount.toList) : (pages ++ proxied mount).Pairwise Unjoined := by
  have hpages : pages.Pairwise Unjoined := by
    unfold Unjoined
    decide
  have hproxied : (proxied mount).Pairwise Unjoined := by simp [proxied, Unjoined, joined?]
  refine List.pairwise_append.mpr ⟨hpages, hproxied, fun e he e' he' htext => ?_⟩
  have hdeep : ∀ e ∈ pages, '/' ∈ e.1.toList.tail := by decide
  have hlast : ∀ e ∈ pages, e.1.toList.getLast? ≠ some '/' ∧ e.1.toList.getLast? ≠ some '}' := by decide
  rw [proxied, List.map_cons, List.map_cons, List.map_singleton, List.mem_cons, List.mem_cons, List.mem_singleton] at he'
  exfalso
  rcases he' with rfl | rfl | rfl
  · refine hmount ?_
    have hmem := hdeep e he
    rw [htext] at hmem
    simpa using hmem
  · refine (hlast e he).1 ?_
    rw [htext]
    simp [List.getLast?_cons]
  · refine (hlast e he).2 ?_
    rw [htext]
    simp [List.getLast?_cons]

theorem unjoined_served (hmount : '/' ∉ mount.toList) (base : String) :
    (pages ++ proxied mount ++ served base).Pairwise Unjoined := by
  have hserved : (served base).Pairwise Unjoined := by simp [served, Unjoined, joined?]
  refine List.pairwise_append.mpr ⟨unjoined_proxied hmount, hserved, fun e he e' he' _ => ?_⟩
  obtain ⟨text, -, rfl⟩ := List.mem_map.mp he'
  exact joined?_files e.2 _

theorem addAll_proxied_iff (hmount : '/' ∉ mount.toList) : addAll [] (pages ++ proxied mount) = .ok routes ↔
    ∃ m, IsStem ("/" ++ mount) m ∧ mount ≠ "api" ∧ routes = pageRoutes ++ mounted mount m := by
  rw [addAll_eq_ok_iff (unjoined_proxied hmount)]
  constructor
  · rintro ⟨hmap, hreads, hapart⟩
    obtain ⟨front, back, rfl, hfront, hback⟩ := List.map_eq_append_iff.mp hmap
    have hreadsFront := fun r hr => hreads r (List.mem_append_left back hr)
    have hreadsBack := fun r hr => hreads r (List.mem_append_right front hr)
    obtain rfl := eq_of_map_entry hreadsFront ofText_pageRoutes (hfront.trans map_pageRoutes.symm)
    obtain ⟨m, hm, rfl⟩ := exists_mounted hreadsBack hback
    obtain ⟨-, -, hcross⟩ := List.pairwise_append.mp hapart
    exact ⟨m, hm, (pages_apart_mounted hmount hm).mp hcross, rfl⟩
  · rintro ⟨m, hm, hne, rfl⟩
    refine ⟨List.map_append, ?_, ?_⟩
    · intro r hr
      exact (List.mem_append.mp hr).elim (ofText_pageRoutes r) (ofText_mounted hm r)
    · exact List.pairwise_append.mpr ⟨apart_pageRoutes, apart_mounted hm.noTail, (pages_apart_mounted hmount hm).mpr hne⟩

theorem mounted_apart_filesAt (hmount : '/' ∉ mount.toList) (hm : IsStem ("/" ++ mount) m) (hp : IsStem base p)
    (hroot : base.toList.head? = some '/') (hlast : base.toList.getLast? ≠ some '/') :
    (∀ r ∈ mounted mount m, ∀ r' ∈ filesAt base p, Apart r r') ↔
      p.shape ≠ m.shape ∧ ¬ m.shape ++ [some '/', none] <+: p.shape := by
  obtain ⟨cs, hcs⟩ := List.head?_eq_some_iff.mp hroot
  obtain ⟨ys, hys, -⟩ := hp.exists_shape hcs
  have hhead : p.shape.head? = some (some '/') := by rw [hys]; rfl
  rw [← mounts_apart_iff hm.noTail hp.noTail (oneSlash hmount hm) hhead (hp.getLast?_shape_ne hlast) "path" "file"]
  simp [mounted, filesAt, Apart]

theorem addAll_served_iff (hmount : '/' ∉ mount.toList) (hroot : base.toList.head? = some '/')
    (hlast : base.toList.getLast? ≠ some '/') : (∃ routes, addAll [] (pages ++ proxied mount ++ served base) = .ok routes) ↔
      ∃ m, IsStem ("/" ++ mount) m ∧ mount ≠ "api" ∧ ∃ p, IsStem base p ∧ Beside m p := by
  constructor
  · rintro ⟨routes, h⟩
    obtain ⟨hmap, hreads, hapart⟩ := (addAll_eq_ok_iff (unjoined_served hmount base)).mp h
    obtain ⟨front, back, rfl, hfront, hback⟩ := List.map_eq_append_iff.mp hmap
    obtain ⟨hapartFront, -, hcross⟩ := List.pairwise_append.mp hapart
    have hreadsFront := fun r hr => hreads r (List.mem_append_left back hr)
    have hreadsBack := fun r hr => hreads r (List.mem_append_right front hr)
    have hbuilt := (addAll_eq_ok_iff (unjoined_proxied hmount)).mpr ⟨hfront, hreadsFront, hapartFront⟩
    obtain ⟨m, hm, hne, rfl⟩ := (addAll_proxied_iff hmount).mp hbuilt
    obtain ⟨p, hp, rfl⟩ := exists_filesAt hroot hreadsBack hback
    obtain ⟨hapi, hpages⟩ := (pages_apart_filesAt hp.noTail).mp fun r hr => hcross r (List.mem_append_left _ hr)
    obtain ⟨hbase, hbelow⟩ :=
      (mounted_apart_filesAt hmount hm hp hroot hlast).mp fun r hr => hcross r (List.mem_append_right _ hr)
    exact ⟨m, hm, hne, p, hp, hapi, hpages, hbase, hbelow⟩
  · rintro ⟨m, hm, hne, p, hp, hapi, hpages, hbase, hbelow⟩
    have hbuilt := (addAll_proxied_iff hmount).mpr ⟨m, hm, hne, rfl⟩
    obtain ⟨hmap, hreads, hapart⟩ := (addAll_eq_ok_iff (unjoined_proxied hmount)).mp hbuilt
    refine ⟨pageRoutes ++ mounted mount m ++ filesAt base p, ?_⟩
    refine (addAll_eq_ok_iff (unjoined_served hmount base)).mpr ⟨?_, ?_, ?_⟩
    · rw [List.map_append, hmap]
      rfl
    · intro r hr
      exact (List.mem_append.mp hr).elim (hreads r) (ofText_filesAt hp r)
    · refine List.pairwise_append.mpr ⟨hapart, apart_filesAt hp.noTail, fun r hr => ?_⟩
      rcases List.mem_append.mp hr with hr | hr
      · exact (pages_apart_filesAt hp.noTail).mpr ⟨hapi, hpages⟩ r hr
      · exact (mounted_apart_filesAt hmount hm hp hroot hlast).mpr ⟨hbase, hbelow⟩ r hr

end Gateway.Routes
