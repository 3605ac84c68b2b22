import Mathlib.Algebra.BigOperators.Pi
import Mathlib.Algebra.Order.Ring.Int
import OncallGateway.HttpResponses
import OncallGateway.Lib.Recording

/-! # The counters of the HTTP handler

All requests share the counters.  A counter is a number of 64 bits that appears when it is
first increased; a scrape copies the map in the order in which the loop visits it, sorts the
copies by the texts of the labels and writes them.

`StandsFor` says which numbers of requests the counters stand for, and `exposition` is the text
for such numbers; neither knows the order in which a map is visited.  In every interleaving
of any number of requests, the counters stand for the requests that were counted, and what
a scrape gives is the exposition of the numbers at one point of the run
(`scrapes_consistent`).
-/

namespace OncallGateway

/-! ## Keys -/

/-- The order of `render`: by the route, then by the result. -/
instance : Ord MetricKey where
  compare := compareLex (compareOn fun key => ByteString.ascii key.route.text)
    (compareOn fun key => ByteString.ascii key.result.text)

instance : Std.TransOrd MetricKey :=
  inferInstanceAs (Std.TransCmp (compareLex (compareOn fun key : MetricKey =>
    ByteString.ascii key.route.text) (compareOn fun key => ByteString.ascii key.result.text)))

theorem RequestRoute.text_injective {a b : RequestRoute}
    (h : ByteString.ascii a.text = ByteString.ascii b.text) : a = b := by
  cases a <;> cases b <;> first | rfl | (revert h; decide)

theorem RequestResult.text_injective {a b : RequestResult}
    (h : ByteString.ascii a.text = ByteString.ascii b.text) : a = b := by
  cases a <;> cases b <;> first | rfl | (revert h; decide)

instance : Std.LawfulEqOrd MetricKey where
  eq_of_compare {a b} h := by
    obtain ⟨hroute, hresult⟩ := Ordering.then_eq_eq.mp h
    exact MetricKey.ext (RequestRoute.text_injective (Std.LawfulEqCmp.eq_of_compare hroute))
      (RequestResult.text_injective (Std.LawfulEqCmp.eq_of_compare hresult))

/-- All keys, in the order of `render`. -/
def MetricKey.all : List MetricKey :=
  [.health, .metrics, .notFound, .webhook].flatMap fun route =>
    [.accepted, .internalError, .invalidRequest, .methodNotAllowed, .notFound, .ok,
      .requestTooLarge, .unavailable, .unsupportedEventType, .unsupportedMediaType].map
      (MetricKey.mk route)

theorem MetricKey.mem_all (key : MetricKey) : key ∈ MetricKey.all := by
  obtain ⟨route, result⟩ := key
  cases route <;> cases result <;> decide

theorem MetricKey.pairwise_all :
    MetricKey.all.Pairwise fun a b => compare a b = .lt := by
  decide +kernel

/-! ## Counters -/

/-- `requestMetrics`. -/
abbrev RequestMetrics := EntryMap MetricKey UInt64

/-- `increment`. -/
def RequestMetrics.increment (counts : RequestMetrics) (key : MetricKey) : RequestMetrics :=
  counts.insert key (counts[key]?.getD 0 + 1)

/-- A line of `render`. -/
def metricLine (key : MetricKey) (count : Nat) : List Char :=
  "ms_oncall_gateway_http_requests_total\x7broute=\"".toList ++ key.route.text.toList ++
    "\",result=\"".toList ++ key.result.text.toList ++ "\"\x7d ".toList ++ Nat.toDigits 10 count ++
    ['\n']

/-- The lines of `render` before the first counter. -/
def metricHeader : List Char :=
  ("# HELP ms_oncall_gateway_http_requests_total HTTP requests handled by route and bounded " ++
    "result.\n# TYPE ms_oncall_gateway_http_requests_total counter\n").toList

/-- `render`. -/
def RequestMetrics.render (order : RangeOrder MetricKey UInt64) (counts : RequestMetrics) :
    List Char :=
  let keys := ((order.visit counts).map Prod.fst).insertionSort EntryMap.KeyLE
  metricHeader ++ keys.flatMap fun key => metricLine key (counts[key]?.getD 0).toNat

/-- The counters stand for these numbers. -/
def StandsFor (counts : RequestMetrics) (totals : MetricKey → Nat) : Prop :=
  ∀ key, counts[key]? = if totals key = 0 then none else some (UInt64.ofNat (totals key))

/-- The text for these numbers: a line for each that is not zero, in the order of the keys. -/
def exposition (totals : MetricKey → Nat) : List Char :=
  metricHeader ++ (MetricKey.all.filter fun key => totals key ≠ 0).flatMap fun key =>
    metricLine key (totals key % 2 ^ 64)

theorem StandsFor.empty : StandsFor ∅ 0 := fun _ => rfl

variable {totals : MetricKey → Nat}

theorem StandsFor.getD {counts : RequestMetrics} (h : StandsFor counts totals) (key : MetricKey) :
    counts[key]?.getD 0 = UInt64.ofNat (totals key) := by
  rw [h key]
  split
  · rename_i hzero
    rw [hzero]
    rfl
  · rfl

theorem StandsFor.increment {counts : RequestMetrics} (h : StandsFor counts totals)
    (key : MetricKey) :
    StandsFor (counts.increment key) (totals + Pi.single key 1) := by
  intro key'
  rw [RequestMetrics.increment, Std.ExtTreeMap.getElem?_insert, h.getD]
  by_cases hkey : key = key'
  · subst hkey
    rw [if_pos Std.compare_self, Pi.add_apply, Pi.single_eq_same,
      if_neg (Nat.succ_ne_zero _), UInt64.ofNat_add]
    rfl
  · rw [if_neg fun hcompare => hkey (Std.LawfulEqCmp.eq_of_compare hcompare), Pi.add_apply,
      Pi.single_eq_of_ne (Ne.symm hkey), Nat.add_zero]
    exact h key'

theorem RequestMetrics.keys_eq (counts : RequestMetrics) :
    counts.keys = MetricKey.all.filter fun key => key ∈ counts := by
  have hkeys := counts.ordered_keys
  have hall := MetricKey.pairwise_all.filter fun key => decide (key ∈ counts)
  have hnodup : ∀ {l : List MetricKey}, l.Pairwise (fun a b => compare a b = .lt) → l.Nodup :=
    fun hl => hl.imp fun hlt heq => by
      rw [heq, Std.compare_self] at hlt
      cases hlt
  have hperm : counts.keys.Perm (MetricKey.all.filter fun key => key ∈ counts) := by
    rw [List.perm_ext_iff_of_nodup (hnodup hkeys) (hnodup hall)]
    intro key
    simp [MetricKey.mem_all]
  refine List.Perm.eq_of_pairwise (fun a b _ _ => EntryMap.keyLE_antisymm) ?_ ?_ hperm
  · exact hkeys.imp fun hlt => by simp [EntryMap.KeyLE, hlt]
  · exact hall.imp fun hlt => by simp [EntryMap.KeyLE, hlt]

/-- **A scrape writes the exposition**, whichever way the map is visited. -/
theorem StandsFor.render {counts : RequestMetrics} (h : StandsFor counts totals)
    (order : RangeOrder MetricKey UInt64) :
    counts.render order = exposition totals := by
  have hmem : ∀ key, key ∈ counts ↔ totals key ≠ 0 := by
    intro key
    rw [← Std.ExtTreeMap.isSome_getElem?_iff_mem, h key]
    split <;> simp_all
  unfold RequestMetrics.render exposition
  dsimp only
  rw [EntryMap.insertionSort_visit, counts.keys_eq]
  simp only [hmem, h.getD, UInt64.toNat_ofNat']

/-! ## Requests that share the counters -/

/-- What a call does to the counters, and what it may answer; the sink answers as it may. -/
inductive HandlerStep (sink : Delivery → Except SinkError SinkAcceptance → Prop)
    (counts : RequestMetrics) : (c : HandlerCall) → c.Answer → RequestMetrics → Prop
  | enqueue {d : Delivery} {answer : Except SinkError SinkAcceptance} : sink d answer →
      HandlerStep sink counts (.enqueue d) answer counts
  | writeHeader {status : Nat} {header : ResponseHeader} :
      HandlerStep sink counts (.writeHeader status header) () counts
  | write {body : List Char} : HandlerStep sink counts (.write body) () counts
  | increment {route : RequestRoute} {result : RequestResult} :
      HandlerStep sink counts (.increment route result) () (counts.increment ⟨route, result⟩)
  | render (order : RangeOrder MetricKey UInt64) :
      HandlerStep sink counts .render (counts.render order) counts
  | info {line : RequestLog} : HandlerStep sink counts (.info line) () counts

/-- The counters are all that requests share; each keeps the record of its calls. -/
def handlerShared (sink : Delivery → Except SinkError SinkAcceptance → Prop) :
    Shared HandlerCall HandlerCall.Answer RequestMetrics (List (Sigma HandlerCall.Answer)) where
  act counts record c r record' counts' :=
    record' = record ++ [⟨c, r⟩] ∧ HandlerStep sink counts c r counts'
  pre _ _ _ := True
  rely _ _ _ := True
  compatible _ _ := True

abbrev HandlerConfig (ι : Type) :=
  Shared.Config HandlerCall HandlerCall.Answer RequestMetrics (List (Sigma HandlerCall.Answer))
    Unit ι

/-- A handler that was just made, before its requests. -/
def HttpHandler.start {ι : Type} (h : HttpHandler) (requests : ι → HttpRequest) :
    HandlerConfig ι where
  shared := ∅
  locals _ := []
  progs i := h.serveHTTP (requests i)

/-- How many requests have been counted under the key. -/
def counted {ι : Type} [Fintype ι] (c : HandlerConfig ι) (key : MetricKey) : Nat :=
  (Finset.univ.filter fun i => key ∈ observe HandlerCall.counted? (c.locals i)).card

/-- What an exchange adds to the counters. -/
def exchangeWeight (exchange : Sigma HandlerCall.Answer) : MetricKey → Nat :=
  match exchange.1.counted? with
  | some key => Pi.single key 1
  | none => 0

instance (c : HandlerCall) : Nonempty c.Answer := by
  cases c with
  | enqueue => exact ⟨.error .other⟩
  | render => exact ⟨[]⟩
  | writeHeader | write | increment | info => exact ⟨()⟩

/-! ## Two sample requests -/

/-- The map visited in the order of its keys. -/
def sampleMetricOrder : RangeOrder MetricKey UInt64 :=
  ⟨fun counts => counts.toList, fun _ => .refl _⟩

/-- The calls of requests whose deliveries `UnavailableSink` answers. -/
def sampleTrafficAnswer (s : RequestMetrics × List (Sigma HandlerCall.Answer)) (c : HandlerCall) :
    c.Answer × (RequestMetrics × List (Sigma HandlerCall.Answer)) :=
  match c with
  | .enqueue d => (unavailableSinkEnqueue d,
      (s.1, s.2 ++ [⟨.enqueue d, unavailableSinkEnqueue d⟩]))
  | .writeHeader status header => ((), (s.1, s.2 ++ [⟨.writeHeader status header, ()⟩]))
  | .write body => ((), (s.1, s.2 ++ [⟨.write body, ()⟩]))
  | .increment route result =>
    ((), (s.1.increment ⟨route, result⟩, s.2 ++ [⟨.increment route result, ()⟩]))
  | .render =>
    (s.1.render sampleMetricOrder, (s.1, s.2 ++ [⟨.render, s.1.render sampleMetricOrder⟩]))
  | .info line => ((), (s.1, s.2 ++ [⟨.info line, ()⟩]))

theorem sampleTrafficAnswer_act (s : RequestMetrics × List (Sigma HandlerCall.Answer))
    (c : HandlerCall) :
    (handlerShared fun d answer => answer = unavailableSinkEnqueue d).act s.1 s.2 c
      (sampleTrafficAnswer s c).1 (sampleTrafficAnswer s c).2.2 (sampleTrafficAnswer s c).2.1 := by
  cases c with
  | enqueue => exact ⟨rfl, .enqueue rfl⟩
  | writeHeader => exact ⟨rfl, .writeHeader⟩
  | write => exact ⟨rfl, .write⟩
  | increment => exact ⟨rfl, .increment⟩
  | render => exact ⟨rfl, .render _⟩
  | info => exact ⟨rfl, .info⟩

/-- A scrape. -/
def sampleScrape : HttpRequest :=
  { sampleWebhook with method := .ascii "GET", path := .ascii "/metrics" }

/-- A delivery, and a scrape. -/
def sampleRequests : Fin 2 → HttpRequest
  | 0 => sampleWebhook
  | 1 => sampleScrape

instance {sink : Delivery → Except SinkError SinkAcceptance → Prop} :
    DecidableRel (handlerShared sink).compatible :=
  fun _ _ => isTrue trivial

/-- The scrape begins when the delivery has been counted, but not yet logged. -/
def sampleSchedule : List (Fin 2) := [0, 0, 0, 0, 1, 0, 1, 1, 1, 1]

/-- The two requests after the calls of the schedule. -/
def sampleTraffic : HandlerConfig (Fin 2) :=
  (sampleHandler.start sampleRequests).follow sampleTrafficAnswer sampleSchedule

theorem sampleTraffic_run :
    Run (handlerShared fun d answer => answer = unavailableSinkEnqueue d).Step
      (sampleHandler.start sampleRequests) sampleSchedule sampleTraffic :=
  Shared.run_follow sampleTrafficAnswer_act (by decide +kernel)

section
variable {ι : Type} {h : HttpHandler} {requests : ι → HttpRequest}
  {sink : Delivery → Except SinkError SinkAcceptance → Prop}

theorem handlerShared_recording : (handlerShared sink).Recording :=
  fun _ _ _ _ _ _ hact => hact.1

theorem start_wp (i : ι) : ((h.start requests).progs i).wp (Prog.recording False)
    (fun _ record => Served h (requests i) record) ((h.start requests).locals i) :=
  wp_serveHTTP

variable {c : HandlerConfig ι} {is : List ι}

/-- At any time, the record of a request is the beginning of one of its courses. -/
theorem exists_served (hrun : Run (handlerShared sink).Step (h.start requests) is c) (i : ι) :
    ∃ rest, Served h (requests i) (c.locals i ++ rest) := by
  obtain ⟨-, rest, hserved⟩ := handlerShared_recording.completes hrun (start_wp i)
  exact ⟨rest, hserved⟩

theorem observe_append {β : Type} (f : HandlerCall → Option β)
    (trace rest : List (Sigma HandlerCall.Answer)) :
    observe f (trace ++ rest) = observe f trace ++ observe f rest :=
  List.filterMap_append

theorem sum_exchangeWeight (trace : List (Sigma HandlerCall.Answer)) (key : MetricKey) :
    (trace.map exchangeWeight).sum key = (observe HandlerCall.counted? trace).count key := by
  induction trace with
  | nil => rfl
  | cons exchange trace ih =>
    rw [List.map_cons, List.sum_cons, Pi.add_apply, ih]
    unfold exchangeWeight observe
    rw [List.filterMap_cons]
    cases exchange.1.counted? with
    | none => exact Nat.zero_add _
    | some key' =>
      dsimp only
      rw [List.count_cons, Pi.single_apply, Nat.add_comm]
      by_cases hkey : key = key'
      · simp [hkey]
      · simp [hkey, Ne.symm hkey]

theorem HandlerStep.counts {counts counts' : RequestMetrics} {c : HandlerCall} {r : c.Answer}
    (hstep : HandlerStep sink counts c r counts') (hcounts : StandsFor counts totals) :
    StandsFor counts' (totals + exchangeWeight ⟨c, r⟩) := by
  cases hstep with
  | increment => exact hcounts.increment _
  | enqueue | writeHeader | write | render | info =>
    show StandsFor counts (totals + 0)
    rwa [add_zero]

variable [Fintype ι]

theorem total_eq_counted (hrun : Run (handlerShared sink).Step (h.start requests) is c) :
    Shared.Recording.total exchangeWeight c = counted c := by
  funext key
  unfold Shared.Recording.total counted
  rw [Finset.sum_apply, Finset.card_filter]
  refine Finset.sum_congr rfl fun i _ => ?_
  rw [sum_exchangeWeight]
  -- a request is counted once when it has ended, and so at most once before
  obtain ⟨rest, hserved⟩ := exists_served hrun i
  obtain ⟨_, _, _, _, _, hreported⟩ := hserved.reported
  have hone := hreported.counted
  rw [observe_append] at hone
  have hnodup : (observe HandlerCall.counted? (c.locals i)).Nodup :=
    (List.nodup_append.mp (hone ▸ List.nodup_singleton _)).1
  exact hnodup.count

/-- The counters stand for the requests that were counted. -/
theorem counts_counted (hrun : Run (handlerShared sink).Step (h.start requests) is c) :
    StandsFor c.shared (counted c) := by
  rw [← total_eq_counted hrun]
  refine handlerShared_recording.represents_total ?_ hrun ?_
  · exact fun _ _ _ _ _ _ _ hact hcounts => hact.2.counts hcounts
  · have hzero : Shared.Recording.total exchangeWeight (h.start requests) = 0 :=
      Finset.sum_eq_zero fun i _ => rfl
    rw [hzero]
    exact StandsFor.empty

/-- **The counters and the scrapes in every interleaving.**  The counters stand for the
requests counted so far, a scrape is the exposition of the requests counted at the point of
the run at which it was answered, and a request that has ended was counted once. -/
theorem scrapes_consistent {c : HandlerConfig ι} {is : List ι}
    (hrun : Run (handlerShared sink).Step (h.start requests) is c) :
    StandsFor c.shared (counted c) ∧
    (∀ i text, ⟨HandlerCall.render, text⟩ ∈ c.locals i → ∃ before after c₁ c₂,
      is = before ++ i :: after ∧ Run (handlerShared sink).Step (h.start requests) before c₁ ∧
        (handlerShared sink).Step c₁ i c₂ ∧ c₂.locals i = c₁.locals i ++ [⟨.render, text⟩] ∧
        Run (handlerShared sink).Step c₂ after c ∧ text = exposition (counted c₁)) ∧
    ∀ i, c.progs i = .ret () → ∃ key, observe HandlerCall.counted? (c.locals i) = [key] := by
  refine ⟨counts_counted hrun, fun i text htext => ?_, fun i hi => ?_⟩
  · rcases handlerShared_recording.answered hrun htext with hstart |
      ⟨before, after, c₁, c₂, his, hbefore, hstep, hafter, hrecord, hrender⟩
    · cases hstart
    · refine ⟨before, after, c₁, c₂, his, hbefore, hstep, hrecord, hafter, ?_⟩
      have hcounts := counts_counted hbefore
      generalize c₂.shared = counts at hrender
      cases hrender with
      | render order => exact hcounts.render order
  · have hserved := handlerShared_recording.ended hrun (start_wp i) hi
    obtain ⟨_, _, _, _, _, hreported⟩ := hserved.reported
    exact ⟨_, hreported.counted⟩

/-- Both requests are counted in the end; the scrape shows those counted when it was
answered. -/
theorem scrapes_consistent_sample :
    counted sampleTraffic ⟨.webhook, .unavailable⟩ = 1 ∧ counted sampleTraffic ⟨.metrics, .ok⟩ = 1 ∧
    StandsFor sampleTraffic.shared (counted sampleTraffic) ∧
    ∃ text before after c₁ c₂, ⟨HandlerCall.render, text⟩ ∈ sampleTraffic.locals 1 ∧
      sampleSchedule = before ++ 1 :: after ∧
      Run (handlerShared fun d answer => answer = unavailableSinkEnqueue d).Step
        (sampleHandler.start sampleRequests) before c₁ ∧
      (handlerShared fun d answer => answer = unavailableSinkEnqueue d).Step c₁ 1 c₂ ∧
      Run (handlerShared fun d answer => answer = unavailableSinkEnqueue d).Step c₂ after
        sampleTraffic ∧ text = exposition (counted c₁) := by
  obtain ⟨text, hmem⟩ : ∃ text, ⟨HandlerCall.render, text⟩ ∈ sampleTraffic.locals 1 := by
    have hscraped : (sampleTraffic.locals 1).filterMap (fun
        | ⟨.render, _⟩ => some ()
        | _ => none) = [()] := by
      decide +kernel
    obtain ⟨⟨call, answer⟩, hmem, htext⟩ :=
      List.mem_filterMap.mp (hscraped ▸ List.mem_singleton_self _)
    cases call <;> cases htext
    exact ⟨answer, hmem⟩
  obtain ⟨hcounts, hscrapes, -⟩ := scrapes_consistent sampleTraffic_run
  obtain ⟨before, after, c₁, c₂, his, hbefore, hstep, -, hafter, htext⟩ := hscrapes 1 _ hmem
  exact ⟨by decide +kernel, by decide +kernel, hcounts, text, before, after, c₁, c₂, hmem, his,
    hbefore, hstep, hafter, htext⟩

/-! ## The sink of the runtime -/

omit [Fintype ι] in
/-- What is in a record as the sink's answer is one that the sink may give. -/
theorem answer_allowed {c : HandlerConfig ι} {is : List ι}
    (hrun : Run (handlerShared sink).Step (h.start requests) is c) {i : ι} {d : Delivery}
    {answer : Except SinkError SinkAcceptance}
    (hmem : ⟨HandlerCall.enqueue d, answer⟩ ∈ c.locals i) : sink d answer := by
  rcases handlerShared_recording.answered hrun hmem with
    hstart | ⟨_, _, _, c₂, -, -, -, -, -, hstep⟩
  · cases hstart
  · generalize c₂.shared = counts at hstep
    cases hstep with
    | enqueue hsink => exact hsink

omit [Fintype ι] in
/-- The sink is called first of all, so that once a request has made a call, what the sink
answers to it is in its record. -/
theorem exists_served_answered (hrun : Run (handlerShared sink).Step (h.start requests) is c)
    {i : ι} (hne : c.locals i ≠ []) :
    ∃ rest, Served h (requests i) (c.locals i ++ rest) ∧
      ∀ d answer, ⟨HandlerCall.enqueue d, answer⟩ ∈ c.locals i ++ rest → sink d answer := by
  obtain ⟨rest, hserved⟩ := exists_served hrun i
  refine ⟨rest, hserved, fun d answer hmem => @answer_allowed _ _ _ _ _ _ hrun i _ _ ?_⟩
  obtain ⟨exchange, record, hcons⟩ := List.exists_cons_of_ne_nil hne
  rw [hcons, List.cons_append] at hserved hmem
  have hfirst := hserved.enqueue_first hmem
  rw [hcons, hfirst]
  exact List.mem_cons_self

/-- **With `UnavailableSink` nothing is ever accepted**: at no time is a response with the
status 202 written or a request counted as accepted, and a request that carries a delivery
is told to try again. -/
theorem unavailableSink_never_accepts {c : HandlerConfig ι} {is : List ι}
    (hrun : Run (handlerShared fun d answer => answer = unavailableSinkEnqueue d).Step
      (h.start requests) is c) :
    (∀ i status header, ⟨HandlerCall.writeHeader status header, ()⟩ ∈ c.locals i →
      status ≠ 202) ∧
    (∀ route, c.shared[(⟨route, .accepted⟩ : MetricKey)]? = none) ∧
    ∀ i d, c.progs i = .ret () → h.sink = true → Admissible h (requests i) d →
      observe HandlerCall.response? (c.locals i) =
        [(503, [("Retry-After", "30"), ("Content-Type", "application/problem+json")])] := by
  have hnever : ∀ i, c.locals i ≠ [] → ∃ rest route result eventType header body,
      result ≠ .accepted ∧ Reported h (requests i) (c.locals i ++ rest) route result eventType
        header body := by
    intro i hne
    obtain ⟨rest, hserved, hanswered⟩ := exists_served_answered hrun hne
    obtain ⟨route, result, eventType, header, body, hreported⟩ := hserved.reported
    refine ⟨rest, route, result, eventType, header, body, fun hresult => ?_, hreported⟩
    obtain ⟨d, a, hmem, -⟩ := hreported.accepted.mp hresult
    cases hanswered d _ hmem
  refine ⟨fun i status header hmem => ?_, fun route => ?_, fun i d hi hsink hd => ?_⟩
  · obtain ⟨rest, route, result, _, _, _, hresult, hreported⟩ :=
      hnever i (List.ne_nil_of_mem hmem)
    have hresponse : (status, header) ∈ observe HandlerCall.response? (c.locals i ++ rest) :=
      List.mem_filterMap.mpr ⟨_, List.mem_append_left _ hmem, rfl⟩
    rw [hreported.response, List.mem_singleton, Prod.mk.injEq] at hresponse
    rw [hresponse.1]
    cases result <;> first | decide | exact absurd rfl hresult
  · rw [counts_counted hrun, if_pos]
    refine Finset.card_eq_zero.mpr (Finset.filter_eq_empty_iff.mpr fun i _ hmem => ?_)
    have hne : c.locals i ≠ [] := by
      intro hnil
      rw [hnil] at hmem
      cases hmem
    obtain ⟨rest, route', result, _, _, _, hresult, hreported⟩ := hnever i hne
    have hcounted := hreported.counted
    rw [observe_append] at hcounted
    have hkey := hcounted ▸ List.mem_append_left _ hmem
    cases List.mem_singleton.mp hkey
    exact hresult rfl
  · have hserved := handlerShared_recording.ended hrun (start_wp i) hi
    have hallowed : ∀ d answer, ⟨HandlerCall.enqueue d, answer⟩ ∈ c.locals i →
        answer = unavailableSinkEnqueue d := fun d answer => answer_allowed hrun
    generalize c.locals i = trace at hserved hallowed
    cases hserved with
    | refused _ hnone => exact absurd hd (hnone d)
    | healthy hnone => exact absurd hd (hnone d)
    | scraped hnone => exact absurd hd (hnone d)
    | unconfigured hno =>
      rw [hsink] at hno
      cases hno
    | @enqueued d' answer =>
      rw [hallowed d' answer List.mem_cons_self]
      rfl

theorem unavailableSink_never_accepts_sample :
    observe HandlerCall.response? (sampleTraffic.locals 0) =
      [(503, [("Retry-After", "30"), ("Content-Type", "application/problem+json")])] := by
  have hended : sampleTraffic.progs 0 = .ret () := Prog.eq_ret_of_value? (by decide +kernel)
  have hd : Admissible sampleHandler sampleWebhook ⟨.ascii "token",
      .ascii "6f9619ff-8b86-4d01-b42d-00cf4fc964ff", .value (.test ⟨.ascii "A"⟩)⟩ :=
    admissible_iff.mpr ⟨rfl, by decide +kernel, rfl, rfl, by decide +kernel, rfl,
      by decide +kernel, by decide, .ascii "\x7b\"AppName\":\"A\",\"Type\":\"Test\"\x7d",
      by decide +kernel, by decide +kernel, by decide +kernel⟩
  exact (unavailableSink_never_accepts sampleTraffic_run).2.2 0 _ hended rfl hd

end

end OncallGateway
