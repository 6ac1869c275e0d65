import Gateway.Metrics
import Mathlib.Data.List.Lex
import Mathlib.Data.List.Nodup

/-! The account of one request. It leads to one sample, or to two if a page came back, and no two of these count in one
    counter. So each counter has one line, which says 1, and the lines stand in the order of their names. -/

namespace Gateway

/-- The label of a kind tells whether there is one. -/
theorem Kind.getD_name_eq_none_iff {kind : Option Kind} : (kind.map Kind.name).getD "none" = "none" ↔ kind = none := by
  rcases kind with - | - | - <;> simp [Kind.name]

/-- The label of an outcome tells whether the page was rerooted. -/
theorem Link.Outcome.name_eq_rewritten_iff {outcome : Option Link.Outcome} :
    outcome.map Link.Outcome.name = some "rewritten" ↔ outcome = some .rerooted := by
  rcases outcome with - | - | - | - | - | - | - <;> simp [Link.Outcome.name]

namespace Sample

theorem exists_toList_series (name : String) (labels : List (String × String)) :
    ∃ back, (series name labels).toList = name.toList ++ back :=
  ⟨_, by simp only [series, String.toList_append, List.append_assoc]; rfl⟩

/-- The names of two series order them, whatever their labels are. -/
theorem series_lt {name other : String} (front : List Char) {xs ys : List Char} {c d : Char}
    (hname : name.toList = front ++ c :: xs) (hother : other.toList = front ++ d :: ys) (hlt : c < d)
    (labels others : List (String × String)) :
    series name labels < series other others := by
  obtain ⟨back, hback⟩ := exists_toList_series name labels
  obtain ⟨rest, hrest⟩ := exists_toList_series other others
  rw [String.lt_iff, hback, hrest, hname, hother, List.append_assoc, List.append_assoc]
  exact List.Lex.append_left _ (.rel hlt) front

/-- What a request counts in comes before what a page counts in. -/
theorem pairwise_counters (method : String) (status : Nat) (kind : Option Kind) (outcome : Option Link.Outcome) :
    ((request method status kind).counters ++ outcome.toList.flatMap fun outcome => (page outcome).counters).Pairwise
      (· < ·) := by
  have htimes (xs ys) : series "proxy_request_duration_seconds_count" xs < series "proxy_requests_total" ys :=
    series_lt "proxy_request".toList rfl rfl (by decide) xs ys
  have hrequests (xs ys) : series "proxy_requests_total" xs < series "proxy_rewrites_total" ys :=
    series_lt "proxy_re".toList rfl rfl (by decide) xs ys
  cases outcome with
  | none => exact List.pairwise_pair.mpr (htimes _ _)
  | some outcome =>
    refine .cons (fun counter hcounter => ?_) (List.pairwise_pair.mpr (hrequests _ _))
    rcases List.mem_pair.mp hcounter with rfl | rfl
    · exact htimes _ _
    · exact String.lt_trans (htimes _ []) (hrequests [] _)

end Sample

theorem eraseDups_eq_self {xs : List String} (h : xs.Nodup) : xs.eraseDups = xs := by
  induction h with
  | nil => rfl
  | @cons x xs hx _ ih =>
    rw [List.eraseDups_cons, List.filter_eq_self.mpr fun y hy => by simpa using (hx y hy).symm, ih]

/-- If all counters differ, each has one line, and the lines are in order. -/
theorem account_eq_of_pairwise {samples : List Sample} {counters : List String}
    (hperm : (samples.flatMap Sample.counters).Perm counters) (hlt : counters.Pairwise (· < ·)) :
    account samples = counters.map (· ++ " 1") := by
  have hnodup : (samples.flatMap Sample.counters).Nodup :=
    hperm.nodup_iff.mpr (hlt.imp (S := (· ≠ ·)) fun h heq => String.lt_irrefl _ (heq ▸ h))
  have hsorted : (samples.flatMap Sample.counters).mergeSort = counters := by
    have hle : (samples.flatMap Sample.counters).mergeSort.Pairwise (· ≤ ·) :=
      (List.pairwise_mergeSort (by simpa using fun _ _ _ => String.le_trans) (by simpa using String.le_total) _).imp
        of_decide_eq_true
    exact ((List.mergeSort_perm _ _).trans hperm).eq_of_pairwise (fun _ _ _ _ => String.le_antisymm) hle
      (hlt.imp fun h => String.not_lt.mp (String.lt_asymm h))
  rw [account, eraseDups_eq_self hnodup, hsorted, List.map_congr_left]
  intro counter hcounter
  rw [List.count_eq_one_of_mem hnodup (hperm.mem_iff.mpr hcounter)]
  exact String.append_assoc

/-- A line for one request. -/
def requestLine (name method : String) (status : Nat) (kind : String) : String :=
  name ++ "\x7bmethod=\"" ++ method ++ "\",status=\"" ++ toString status ++ "\",kind=\"" ++ kind ++ "\"\x7d 1"

/-- A line for one page. -/
def pageLine (name outcome : String) : String := name ++ "\x7boutcome=\"" ++ outcome ++ "\"\x7d 1"

theorem series_request (name method : String) (status : Nat) (kind : String) :
    Sample.series name [("method", method), ("status", toString status), ("kind", kind)] ++ " 1" =
      requestLine name method status kind := by
  rw [← String.toList_inj]
  simp [Sample.series, requestLine]

theorem series_page (name outcome : String) :
    Sample.series name [("outcome", outcome)] ++ " 1" = pageLine name outcome := by
  rw [← String.toList_inj]
  simp [Sample.series, pageLine]

/-- The account of a request, and of the page that it led to if there is one. -/
theorem account_request (method : String) (status : Nat) (kind : Option Kind) (outcome : Option Link.Outcome) :
    account ((outcome.map Sample.page).toList ++ [.request method status kind]) =
      let label := (kind.map Kind.name).getD "none"
      requestLine "proxy_request_duration_seconds_count" method status label ::
        requestLine "proxy_requests_total" method status label ::
          outcome.toList.map (pageLine "proxy_rewrites_total" ·.name) := by
  have hperm : (((outcome.map Sample.page).toList ++ [Sample.request method status kind]).flatMap Sample.counters).Perm
      ((Sample.request method status kind).counters ++
        outcome.toList.flatMap fun outcome => (Sample.page outcome).counters) := by
    cases outcome with
    | none => simp
    | some outcome => simpa using List.perm_append_comm
  rw [account_eq_of_pairwise hperm (Sample.pairwise_counters method status kind outcome), List.map_append,
    List.map_flatMap]
  cases outcome with
  | none => simp only [Sample.counters, List.map_cons, List.map_nil, series_request, Option.toList_none, List.flatMap_nil,
      List.append_nil]
  | some outcome => simp only [Sample.counters, List.map_cons, List.map_nil, series_request, series_page,
      Option.toList_some, List.flatMap_singleton, List.cons_append, List.nil_append]

end Gateway
