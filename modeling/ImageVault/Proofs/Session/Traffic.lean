import ImageVault.Proofs.Session.Accounting

/-!
# Traffic over a session

## Main result

`traffic_is_conserved`: after any session, the requests that are counted are those that were
made, whatever they ended with, and the counters, the histograms of durations and the classes of
errors agree with each other and with what happened.

## Proof strategy

An operation that is no counted request leaves the traffic alone (`perform_sameTraffic`); a
counted request adds one visit to what was measured before (`Measures.visit`). All series are
lists with one entry for each label, so one fact about such lists (`Series.Counts`) is carried
through the session for each of them (`run_measures`), and the laws follow by counting visits.
-/

namespace ImageVault

/-! ### Visits -/

/-- A request that is counted, and how it ended. -/
structure Visit where
  request : Request
  result : Except Fault Response

namespace Visit

/-- The labels under which an answer is counted. -/
def answered? (visit : Visit) : Option Answered :=
  match visit.result with
  | .ok response => some ⟨Site.route visit.request, response.status⟩
  | .error _ => none

def errorClass? (visit : Visit) : Option ErrorClass :=
  match visit.result with
  | .ok response => Metrics.errorClass? response.status
  | .error _ => some .exception

/-- The request was answered, with a status of these hundreds. -/
def isAnsweredIn (hundreds : Nat) (visit : Visit) : Bool :=
  match visit.result with
  | .ok response => 100 * hundreds ≤ response.status && response.status < 100 * (hundreds + 1)
  | .error _ => false

/-- A visit is counted as answered, or else as an exception. -/
theorem answered_or_exception (visits : List Visit) :
    (visits.filterMap answered?).length + (visits.filterMap errorClass?).count .exception =
      visits.length := by
  induction visits with
  | nil => rfl
  | cons visit rest ih =>
    obtain ⟨request, result⟩ := visit
    cases result with
    | error fault =>
      have crash : errorClass? ⟨request, .error fault⟩ = some .exception := rfl
      have unanswered : answered? ⟨request, .error fault⟩ = none := rfl
      rw [List.filterMap_cons_some crash, List.filterMap_cons_none unanswered,
        List.count_cons_self, List.length_cons, ← ih, Nat.add_assoc]
    | ok response =>
      have answer : answered? ⟨request, .ok response⟩ =
          some ⟨Site.route request, response.status⟩ := rfl
      -- A status has a class of its own, if it has one at all.
      have classes : ∀ found, errorClass? ⟨request, .ok response⟩ = some found →
          found ≠ .exception := by
        intro found known
        simp only [errorClass?, Metrics.errorClass?] at known
        split at known
        · cases known
          exact ErrorClass.noConfusion
        · cases known
      rw [List.filterMap_cons_some answer, List.length_cons, List.length_cons, ← ih]
      cases known : errorClass? ⟨request, .ok response⟩ with
      | none =>
        rw [List.filterMap_cons_none known]
        omega
      | some found =>
        rw [List.filterMap_cons_some known, List.count_cons_of_ne (classes found known)]
        omega

/-- Of the classes from four hundred on, each counts the answers in its hundreds. -/
theorem count_statusClass {hundreds : Nat} (bad : 4 ≤ hundreds) (visits : List Visit) :
    (visits.filterMap errorClass?).count (.statusClass hundreds) =
      visits.countP (isAnsweredIn hundreds) := by
  rw [List.count_eq_countP, List.countP_filterMap]
  -- It is enough that each single visit is counted by both or by neither.
  refine List.countP_congr fun visit _ => ?_
  obtain ⟨request, result⟩ := visit
  cases result with
  | error fault => simp [errorClass?, isAnsweredIn]
  | ok response =>
    simp only [errorClass?, Metrics.errorClass?, isAnsweredIn, Bool.and_eq_true,
      decide_eq_true_eq]
    split
    · simp only [Option.map_some, Option.getD_some, beq_iff_eq, ErrorClass.statusClass.injEq]
      omega
    · simp only [Option.map_none, Option.getD_none, Bool.false_eq_true, false_iff]
      omega

end Visit

/-- The request of an operation, unless it asks for the metrics themselves. -/
def Operation.counted? : Operation → Option Request
  | .request _ given _ _ => if Site.isCounted given then some given else none
  | _ => none

def Exchange.visit? : Exchange → Option Visit
  | (operation, .answered outcome) => operation.counted?.map fun request =>
      ⟨request, outcome.result⟩
  | _ => none

/-! ### What is measured -/

namespace Site

variable {request : Request}

theorem countAnswer_ok (counted : isCounted request = true) (elapsed : Float)
    (metrics : Metrics) (response : Response) :
    countAnswer request elapsed metrics (.ok response) =
      metrics.answered (route request) response.status elapsed := by
  simp only [countAnswer, counted, Bool.not_true, Bool.false_eq_true, if_false]

theorem countAnswer_error (counted : isCounted request = true) (elapsed : Float)
    (metrics : Metrics) (fault : Fault) :
    countAnswer request elapsed metrics (.error fault) = metrics.crashed := by
  simp only [countAnswer, counted, Bool.not_true, Bool.false_eq_true, if_false]

theorem countAnswer_uncounted (uncounted : isCounted request = false) (elapsed : Float)
    (metrics : Metrics) (result : Except Fault Response) :
    countAnswer request elapsed metrics result = metrics := by
  simp only [countAnswer, uncounted, Bool.not_false, if_true]

end Site

namespace Metrics

/-- What is counted of the traffic is counted alike in both. -/
structure SameTraffic (before after : Metrics) : Prop where
  requests : after.requests = before.requests
  durations : after.durations = before.durations
  errors : after.errors = before.errors

/-- The histogram has the buckets of durations. -/
def IsOfDurations (histogram : Histogram Float) : Prop :=
  histogram.buckets.map (·.1) = durationBounds

/-- The traffic consists of these visits. -/
structure Measures (metrics : Metrics) (visits : List Visit) : Prop where
  requests : Series.Counts id metrics.requests.entries (visits.filterMap Visit.answered?)
  durations : Series.Counts Histogram.count metrics.durations
    ((visits.filterMap Visit.answered?).map (·.route))
  errors : Series.Counts id metrics.errors.entries (visits.filterMap Visit.errorClass?)
  bounds : ∀ entry ∈ metrics.durations, IsOfDurations entry.2

/-- How many answers are counted under labels of a kind, over all these labels. -/
def requestTotal (metrics : Metrics) (counts : Answered → Bool) : Nat :=
  Series.total id metrics.requests.entries counts

/-- How many durations are counted for a route. -/
def durationCount (metrics : Metrics) (route : Route) : Nat :=
  Series.value Histogram.count metrics.durations route

theorem SameTraffic.refl (metrics : Metrics) : metrics.SameTraffic metrics :=
  ⟨rfl, rfl, rfl⟩

theorem observeRoute_eq_update (route : Route) (duration : Float)
    (durations : List (Route × Histogram Float)) :
    observeRoute route duration durations =
      Series.update route (noDurations.observe duration) (·.observe duration) durations := by
  induction durations with
  | nil => rfl
  | cons entry rest ih => rw [observeRoute, Series.update, ih]

theorem measures_zero : zero.Measures [] where
  requests := Series.counts_nothing id
  durations := Series.counts_nothing Histogram.count
  errors := Series.counts_nothing id
  bounds entry member := by cases member

theorem book_sameTraffic (metrics : Metrics) (exchange : Exchange) :
    metrics.SameTraffic (metrics.book exchange) := by
  rw [book_eq]
  exact ⟨rfl, rfl, rfl⟩

variable {metrics after : Metrics} {visits : List Visit}

theorem Measures.of_sameTraffic (measures : metrics.Measures visits)
    (same : metrics.SameTraffic after) : after.Measures visits where
  requests := same.requests ▸ measures.requests
  durations := same.durations ▸ measures.durations
  errors := same.errors ▸ measures.errors
  bounds := same.durations ▸ measures.bounds

theorem Measures.answered (measures : metrics.Measures visits) (request : Request)
    (response : Response) (elapsed : Float) :
    (metrics.answered (Site.route request) response.status elapsed).Measures
      (visits ++ [⟨request, .ok response⟩]) := by
  have answer : [(⟨request, .ok response⟩ : Visit)].filterMap Visit.answered? =
      [⟨Site.route request, response.status⟩] := rfl
  constructor
  · rw [List.filterMap_append, answer]
    exact Tally.counts_increment measures.requests _
  · rw [List.filterMap_append, answer, List.map_append, Metrics.answered,
      observeRoute_eq_update]
    apply measures.durations.update
    · exact Histogram.observe_count noDurations elapsed
    · exact fun histogram => histogram.observe_count elapsed
  · rw [List.filterMap_append]
    -- An answer is counted among the errors only if its status has a class.
    cases known : errorClass? response.status with
    | none =>
      have unclassed : [(⟨request, .ok response⟩ : Visit)].filterMap Visit.errorClass? = [] :=
        List.filterMap_cons_none known
      rw [unclassed, List.append_nil]
      simpa only [Metrics.answered, known] using measures.errors
    | some errorClass =>
      have classed : [(⟨request, .ok response⟩ : Visit)].filterMap Visit.errorClass? =
          [errorClass] := List.filterMap_cons_some known
      rw [classed]
      simpa only [Metrics.answered, known] using Tally.counts_increment measures.errors errorClass
  · have starts : IsOfDurations (noDurations.observe elapsed) :=
      (noDurations.observe_bounds elapsed).trans (by rfl)
    have kept : ∀ histogram, IsOfDurations histogram → IsOfDurations (histogram.observe elapsed) :=
      fun histogram same => (histogram.observe_bounds elapsed).trans same
    rw [Metrics.answered, observeRoute_eq_update]
    exact Series.forall_update starts kept measures.bounds

theorem Measures.crashed (measures : metrics.Measures visits) (request : Request)
    (fault : Fault) : metrics.crashed.Measures (visits ++ [⟨request, .error fault⟩]) := by
  have unanswered : [(⟨request, .error fault⟩ : Visit)].filterMap Visit.answered? = [] := rfl
  have crash : [(⟨request, .error fault⟩ : Visit)].filterMap Visit.errorClass? =
      [.exception] := rfl
  constructor
  · rw [List.filterMap_append, unanswered, List.append_nil]
    exact measures.requests
  · rw [List.filterMap_append, unanswered, List.append_nil]
    exact measures.durations
  · rw [List.filterMap_append, crash]
    exact Tally.counts_increment measures.errors .exception
  · exact measures.bounds

/-- Counting how a request ended adds it to what was measured. -/
theorem Measures.visit (measures : metrics.Measures visits) {request : Request}
    (counted : Site.isCounted request = true) (elapsed : Float)
    (result : Except Fault Response) :
    (Site.countAnswer request elapsed metrics result).Measures
      (visits ++ [⟨request, result⟩]) := by
  cases result with
  | ok response =>
    rw [Site.countAnswer_ok counted]
    exact measures.answered request response elapsed
  | error fault =>
    rw [Site.countAnswer_error counted]
    exact measures.crashed request fault

/-! ### What follows for the series -/

/-- Each visit is counted once, as an answer or as an exception. -/
theorem Measures.requestTotal_add (measures : metrics.Measures visits) :
    metrics.requestTotal (fun _ => true) + metrics.errors.count .exception = visits.length := by
  have exceptions := measures.errors.values .exception
  rw [requestTotal, measures.requests.totals, List.countP_true]
  exact (congrArg _ exceptions).trans (Visit.answered_or_exception visits)

theorem Measures.durationCount_eq (measures : metrics.Measures visits) (route : Route) :
    metrics.durationCount route = metrics.requestTotal fun label => label.route = route := by
  rw [durationCount, requestTotal, measures.durations.values, measures.requests.totals,
    List.count_eq_countP, List.countP_map]
  refine List.countP_congr fun label _ => ?_
  simp

theorem Measures.statusClass_count (measures : metrics.Measures visits) {hundreds : Nat}
    (bad : 4 ≤ hundreds) :
    metrics.errors.count (.statusClass hundreds) =
      visits.countP (Visit.isAnsweredIn hundreds) := by
  have counted := measures.errors.values (.statusClass hundreds)
  rw [Visit.count_statusClass bad] at counted
  exact counted

/-- What is counted as answered was asked for in a visit. -/
theorem Measures.label_visited (measures : metrics.Measures visits) {label : Answered}
    (member : label ∈ metrics.requests.entries.map (·.1)) :
    ∃ visit ∈ visits, label.route = Site.route visit.request := by
  obtain ⟨visit, visited, answer⟩ :=
    List.mem_filterMap.mp ((measures.requests.labels label).mp member)
  refine ⟨visit, visited, ?_⟩
  unfold Visit.answered? at answer
  split at answer
  · cases answer
    rfl
  · cases answer

theorem Measures.route_visited (measures : metrics.Measures visits) {route : Route}
    (member : route ∈ metrics.durations.map (·.1)) :
    ∃ visit ∈ visits, route = Site.route visit.request := by
  obtain ⟨label, answered, rfl⟩ :=
    List.mem_map.mp ((measures.durations.labels route).mp member)
  exact measures.label_visited ((measures.requests.labels label).mpr answered)

end Metrics

/-! ### One operation -/

namespace Site

variable (site : Site) (vault : Vault) (request : Request) (moment : Moment)

theorem run_sameTraffic (endpoint : Endpoint) :
    vault.metrics.SameTraffic (site.run vault request moment endpoint).1.metrics := by
  have same := Metrics.SameTraffic.refl vault.metrics
  cases endpoint with
  | root => exact same
  | metrics => exact same
  | health => exact same
  | manual => exact same
  | info id =>
    simp only [run, asCaller]
    split
    · exact same
    · exact same
  | upload =>
    simp only [run, asCaller]
    split
    next owner _ =>
      unfold upload
      split
      · exact same
      next part _ =>
        dsimp only
        rw [Vault.upload_metrics]
        exact Metrics.book_sameTraffic _ _
    · exact same
  | image filename =>
    simp only [run, asCaller]
    split
    · simp only [download]
      rw [Vault.download_metrics]
      exact Metrics.book_sameTraffic _ _
    · exact same

theorem dispatch_sameTraffic :
    vault.metrics.SameTraffic (site.dispatch vault request moment).1.metrics := by
  have same := Metrics.SameTraffic.refl vault.metrics
  unfold dispatch
  split
  · split
    · exact site.run_sameTraffic vault request moment _
    · exact same
  · split
    · exact same
    · exact same

/-- Answering a request counts nothing of the traffic; that is done when it has ended. -/
theorem answer_sameTraffic :
    vault.metrics.SameTraffic (site.answer vault request moment).1.metrics := by
  unfold answer
  split
  · exact Metrics.SameTraffic.refl vault.metrics
  · exact site.dispatch_sameTraffic vault request moment

theorem serve_measures {visits : List Visit} (measures : vault.metrics.Measures visits)
    (counted : isCounted request = true) (elapsed : Float) :
    (site.serve vault request moment elapsed).1.metrics.Measures
      (visits ++ [⟨request, (site.serve vault request moment elapsed).2.result⟩]) :=
  (measures.of_sameTraffic (site.answer_sameTraffic vault request moment)).visit counted elapsed _

theorem serve_sameTraffic (uncounted : isCounted request = false) (elapsed : Float) :
    vault.metrics.SameTraffic (site.serve vault request moment elapsed).1.metrics := by
  rw [serve]
  dsimp only
  rw [countAnswer_uncounted uncounted]
  exact site.answer_sameTraffic vault request moment

/-- The statuses with which a request is answered that no endpoint answers. -/
def unroutedStatuses : List Nat :=
  [200, 400, 307, 404, 405]

/-- Only pages of the manual have a second method. -/
theorem eq_manual_of_method_ne {method : String} {endpoint : Endpoint}
    (allowed : endpoint.methods.contains method = true) (other : method ≠ endpoint.method) :
    ∃ page, endpoint = .manual page := by
  cases endpoint with
  | manual page => exact ⟨page, rfl⟩
  | _ => exact absurd (by simpa [Endpoint.methods] using allowed) other

theorem dispatch_unrouted (unrouted : ∀ endpoint, Endpoint.ofPath? request.path.toList =
    some endpoint → request.method ≠ endpoint.method) :
    ∃ response, (site.dispatch vault request moment).2.result = .ok response ∧
      response.status ∈ unroutedStatuses := by
  unfold dispatch
  split
  next endpoint routed =>
    split
    next allowed =>
      -- The method is the second one of a page, which is sent like the first.
      obtain ⟨page, rfl⟩ := eq_manual_of_method_ne allowed (unrouted endpoint routed)
      refine ⟨manual page, rfl, ?_⟩
      rw [manual_status]
      decide
    next => exact ⟨notAllowed endpoint, rfl, show 405 ∈ unroutedStatuses by decide⟩
  next =>
    split
    next path _ => exact ⟨moved path, rfl, show 307 ∈ unroutedStatuses by decide⟩
    next => exact ⟨notFound, rfl, show 404 ∈ unroutedStatuses by decide⟩

/-- A request that no endpoint answers by its own method is answered nevertheless, be it that it
    asks for leave, that it is redirected, that it only looks for a page of the manual, or that
    its path or its method is unknown. -/
theorem answer_unrouted (unrouted : ∀ endpoint, Endpoint.ofPath? request.path.toList =
    some endpoint → request.method ≠ endpoint.method) :
    ∃ response, (site.answer vault request moment).2.result = .ok response ∧
      response.status ∈ unroutedStatuses := by
  unfold answer
  split
  next asked =>
    refine ⟨CrossOrigin.preflight site.origins request, rfl, ?_⟩
    unfold CrossOrigin.preflight
    split
    · exact (show 200 ∈ unroutedStatuses by decide)
    · exact (show 400 ∈ unroutedStatuses by decide)
  next plain =>
    -- Headers for other origins are all that is added to the response.
    obtain ⟨response, answered, status⟩ :=
      site.dispatch_unrouted vault request moment unrouted
    refine ⟨CrossOrigin.share site.origins request response, ?_, status⟩
    dsimp only
    rw [answered]
    rfl

end Site

namespace Vault

variable {vault : Vault} {operation : Operation}

theorem perform_sameTraffic (vault : Vault) (uncounted : operation.counted? = none) :
    vault.metrics.SameTraffic (vault.perform operation).1.metrics := by
  by_cases direct : operation.isDirect = true
  · -- Only the series of the pipeline are booked for a direct operation.
    rw [vault.perform_metrics direct]
    exact Metrics.book_sameTraffic _ _
  · cases operation with
    | request site request moment elapsed =>
      have skipped : Site.isCounted request = false := by
        simpa [Operation.counted?] using uncounted
      exact site.serve_sameTraffic vault request moment skipped elapsed
    | _ => exact absurd rfl direct

/-- A counted request has its answer, and so it is a visit. -/
theorem visit?_perform (vault : Vault) (operation : Operation) :
    (Exchange.visit? (operation, (vault.perform operation).2)).map (·.request) =
      operation.counted? := by
  cases operation with
  | request site given moment elapsed =>
    simp only [Exchange.visit?, perform, Option.map_map, Function.comp_def, Option.map_id']
  | _ => rfl

theorem perform_measures {visits : List Visit} (measures : vault.metrics.Measures visits)
    (operation : Operation) :
    (vault.perform operation).1.metrics.Measures
      (visits ++ (Exchange.visit? (operation, (vault.perform operation).2)).toList) := by
  cases counted : operation.counted? with
  | none =>
    have unvisited := visit?_perform vault operation
    rw [counted, Option.map_eq_none_iff] at unvisited
    rw [unvisited, Option.toList_none, List.append_nil]
    exact measures.of_sameTraffic (perform_sameTraffic vault counted)
  | some request =>
    -- Nothing but a request is ever counted.
    cases operation with
    | request site given moment elapsed =>
      have kept : Site.isCounted given = true := by
        cases known : Site.isCounted given with
        | true => rfl
        | false => simp [Operation.counted?, known] at counted
      have visited : Exchange.visit? (.request site given moment elapsed,
          (vault.perform (.request site given moment elapsed)).2) =
          some ⟨given, (site.serve vault given moment elapsed).2.result⟩ := by
        change Option.map _ (Operation.counted? _) = _
        rw [Operation.counted?, if_pos kept]
        rfl
      rw [visited, Option.toList_some]
      exact site.serve_measures vault given moment measures kept elapsed
    | _ => cases counted

/-! ### A session -/

/-- The visits of a session, in their order. -/
def visits (vault : Vault) (operations : List Operation) : List Visit :=
  (vault.exchanges operations).filterMap Exchange.visit?

theorem visits_cons (vault : Vault) (operation : Operation) (rest : List Operation) :
    vault.visits (operation :: rest) =
      (Exchange.visit? (operation, (vault.perform operation).2)).toList ++
        (vault.perform operation).1.visits rest := by
  unfold visits
  rw [exchanges_cons]
  cases known : Exchange.visit? (operation, (vault.perform operation).2) with
  | none => rw [List.filterMap_cons_none known, Option.toList_none, List.nil_append]
  | some visit => rw [List.filterMap_cons_some known, Option.toList_some, List.singleton_append]

/-- The counted requests of a session are its visits. -/
theorem visits_requests (vault : Vault) (operations : List Operation) :
    (vault.visits operations).map (·.request) = operations.filterMap Operation.counted? := by
  induction operations generalizing vault with
  | nil => rfl
  | cons operation rest ih =>
    have first := visit?_perform vault operation
    rw [visits_cons, List.map_append, ih]
    cases counted : operation.counted? with
    | none =>
      rw [counted, Option.map_eq_none_iff] at first
      rw [first, List.filterMap_cons_none counted]
      rfl
    | some request =>
      rw [counted] at first
      obtain ⟨visit, known, rfl⟩ := Option.map_eq_some_iff.mp first
      rw [known, List.filterMap_cons_some counted]
      rfl

theorem run_measures (vault : Vault) {before : List Visit} (operations : List Operation)
    (measures : vault.metrics.Measures before) :
    (vault.run operations).1.metrics.Measures (before ++ vault.visits operations) := by
  induction operations generalizing vault before with
  | nil =>
    rw [visits, exchanges, List.zip_nil_left, List.filterMap_nil, List.append_nil]
    exact measures
  | cons operation rest ih =>
    -- What is measured already grows by the first visit, if it is one, before the rest follows.
    have later := ih (vault.perform operation).1 (perform_measures measures operation)
    rw [List.append_assoc, ← visits_cons] at later
    exact later

/-- After any session that starts with nothing counted, every counted request is counted once,
    as an answer under its labels or as an exception. The durations of a route are as many as
    its answers, and their buckets grow up to all of them. The classes of errors count the
    answers with these statuses, and all routes are routes of the session. A request that no
    endpoint answers is counted like any other; requests for the metrics, and operations that
    are no requests, leave all this alone. -/
theorem traffic_is_conserved (store : Store) (operations : List Operation) :
    let start : Vault := ⟨store, .zero⟩
    let metrics := (start.run operations).1.metrics
    let visits := start.visits operations
    let requests := operations.filterMap Operation.counted?
    visits.map (·.request) = requests ∧
    metrics.requestTotal (fun _ => true) + metrics.errors.count .exception = requests.length ∧
    (∀ label, metrics.requests.count label = (visits.filterMap Visit.answered?).count label) ∧
    (∀ route, metrics.durationCount route =
      metrics.requestTotal fun label => label.route = route) ∧
    (∀ entry ∈ metrics.durations,
      entry.2.cumulative.map (·.1) = Metrics.durationBounds ∧
      Metrics.durationBounds.Pairwise (· < ·) ∧
      (entry.2.cumulative.map (·.2) ++ [entry.2.unbounded]).Pairwise (· ≤ ·) ∧
      entry.2.unbounded = entry.2.count) ∧
    (∀ hundreds, 4 ≤ hundreds → metrics.errors.count (.statusClass hundreds) =
      visits.countP (Visit.isAnsweredIn hundreds)) ∧
    (∀ path ∈ metrics.requests.entries.map (·.1.route.path) ++
        metrics.durations.map (·.1.path),
      ∃ request ∈ requests, path = PathLabel.ofPath (RequestAddress.path request.path)) ∧
    (∀ (site : Site) vault request moment elapsed, Site.isCounted request = true →
      (∀ endpoint, Endpoint.ofPath? request.path.toList = some endpoint →
        request.method ≠ endpoint.method) →
      ∃ response, (site.serve vault request moment elapsed).2.result = .ok response ∧
        response.status ∈ Site.unroutedStatuses ∧
        (site.serve vault request moment elapsed).1.metrics.requests =
          vault.metrics.requests.increment ⟨Site.route request, response.status⟩) ∧
    (∀ (vault : Vault) (operation : Operation), operation.counted? = none →
      vault.metrics.SameTraffic (vault.perform operation).1.metrics) := by
  intro start metrics visits requests
  have measures : metrics.Measures visits := run_measures start operations Metrics.measures_zero
  have asked : visits.map (·.request) = requests := visits_requests start operations
  refine ⟨asked, ?_, measures.requests.values, measures.durationCount_eq, ?_,
    fun hundreds bad => measures.statusClass_count bad, ?_, ?_, fun vault operation =>
      perform_sameTraffic vault⟩
  · rw [measures.requestTotal_add, ← asked, List.length_map]
  · intro entry member
    refine ⟨?_, by decide +kernel, entry.2.cumulative_ascending, entry.2.unbounded_eq_count⟩
    rw [← measures.bounds entry member]
    exact Histogram.cumulativeFrom_bounds 0 _
  · intro path member
    have route_asked : ∀ visit ∈ visits, ∃ request ∈ requests,
        (Site.route visit.request).path =
          PathLabel.ofPath (RequestAddress.path request.path) := by
      intro visit visited
      refine ⟨visit.request, ?_, rfl⟩
      rw [← asked]
      exact List.mem_map_of_mem visited
    rcases List.mem_append.mp member with answered | timed
    · obtain ⟨entry, listed, rfl⟩ := List.mem_map.mp answered
      obtain ⟨visit, visited, same⟩ :=
        measures.label_visited (List.mem_map_of_mem listed)
      rw [same]
      exact route_asked visit visited
    · obtain ⟨entry, listed, rfl⟩ := List.mem_map.mp timed
      obtain ⟨visit, visited, same⟩ :=
        measures.route_visited (List.mem_map_of_mem listed)
      rw [same]
      exact route_asked visit visited
  · intro site vault request moment elapsed counted unrouted
    obtain ⟨response, answered, status⟩ := site.answer_unrouted vault request moment unrouted
    refine ⟨response, answered, status, ?_⟩
    have kept := (site.answer_sameTraffic vault request moment).requests
    rw [Site.serve]
    dsimp only
    rw [answered, Site.countAnswer_ok counted, Metrics.answered, kept]

end Vault

end ImageVault
