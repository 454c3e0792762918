import LivePaths.Proofs.Path.LaunchDemand
import LivePaths.Proofs.Path.Takeover

set_option relaxedAutoImplicit false
set_option autoImplicit false

/-!
# Requests that gather while a path starts

Where something runs on demand, the first request starts it, and all others join those who wait.
They gather without being answered, and some of them give up, until the path is ready, when all who
still wait are served in the order in which they came, or until the time is over, when all of them
are refused and what was started is stopped.

## Main definitions

* `PathStep.gathers`, `describersOf`, `readersOf` — steps by which requests come or are given up,
  and who has come by them.
* `Path.activity`, `Path.activated` — what runs on demand, and the path on which it was started.
* `Path.Gathered` — a path for which requests have gathered.
* `Path.OpensFor`, `Path.TimesOut` — the two ends of waiting.

## Main results

* `Path.Starting.run_eq` — what happens while requests gather.
* `Path.Reached.gathered` — requests gather and are served or refused together.
-/

namespace LivePaths

/-! ## Who comes and who gives up -/

/-- **Gathering**: somebody asks for the stream or gives up, or time passes. -/
def PathStep.gathers : PathStep → Bool
  | .message (.describe ..) | .message (.addReader ..) | .message (.abandon _) | .pass _ => true
  | _ => false

/-- Whether a request is given up by some steps. -/
def givenUp (request : Nat) (ss : List PathStep) : Bool := .message (.abandon request) ∈ ss

/-- A request for the description after some further steps. -/
def HeldDescribe.after (ss : List PathStep) (h : HeldDescribe) : HeldDescribe :=
  { h with abandoned := h.abandoned || givenUp h.request ss }

/-- A reader who waits after some further steps. -/
def HeldReader.after (ss : List PathStep) (h : HeldReader) : HeldReader :=
  { h with abandoned := h.abandoned || givenUp h.request ss }

/-- Who asks for the description by a step. -/
def PathStep.describer? : PathStep → Option HeldDescribe
  | .message (.describe request _) => some { request }
  | _ => none

/-- Who asks to read by a step. -/
def PathStep.reader? : PathStep → Option HeldReader
  | .message (.addReader request client _) => some { request, client }
  | _ => none

/-- **Who has asked for the description** by some steps, in the order in which they came; whoever
has given up later is marked. -/
def describersOf : List PathStep → List HeldDescribe
  | [] => []
  | s :: rest => (s.describer?.map (·.after rest)).toList ++ describersOf rest

/-- **Who has asked to read** by some steps, in the order in which they came; whoever has given up
later is marked. -/
def readersOf : List PathStep → List HeldReader
  | [] => []
  | s :: rest => (s.reader?.map (·.after rest)).toList ++ readersOf rest

section Marks

variable (s : PathStep) (rest : List PathStep)

lemma givenUp_cons (request : Nat) :
    givenUp request (s :: rest) = (givenUp request [s] || givenUp request rest) := by
  simp [givenUp, Bool.decide_or]

@[simp]
lemma HeldDescribe.after_nil (h : HeldDescribe) : h.after [] = h := by
  simp [HeldDescribe.after, givenUp]

@[simp]
lemma HeldReader.after_nil (h : HeldReader) : h.after [] = h := by
  simp [HeldReader.after, givenUp]

/-- Who has given up after one step and some more ones. -/
lemma HeldDescribe.after_after (h : HeldDescribe) :
    (h.after [s]).after rest = h.after (s :: rest) := by
  simp [HeldDescribe.after, givenUp_cons s rest, Bool.or_assoc]

lemma HeldReader.after_after (h : HeldReader) :
    (h.after [s]).after rest = h.after (s :: rest) := by
  simp [HeldReader.after, givenUp_cons s rest, Bool.or_assoc]

end Marks

/-- **Stops** of what runs on demand. -/
def PathEvent.isStop : PathEvent → Bool
  | .sourceStopped _ | .sourceUndemand _ | .undemand _ => true
  | _ => false

namespace Path

variable {p q : Path}

/-! ## What runs on demand -/

/-- Whether the path has something that runs on demand. -/
def hasOnDemand (p : Path) : Bool := p.conf.hasOnDemandSource || p.conf.hasOnDemandLaunch

/-- **The activity**: the activation of the one thing that runs on demand. -/
def activity (p : Path) : OnDemand :=
  if p.conf.hasOnDemandSource then p.sourceDemand else p.launchDemand

/-- How long it may take to become ready. -/
def startTimeout (p : Path) : Nat :=
  if p.conf.hasOnDemandSource then p.conf.sourceStartTimeout else p.conf.launchStartTimeout

/-- **The path on which it was started** for a query. -/
def activated (p : Path) (query : String) : Path :=
  if p.conf.hasOnDemandSource then p.startSource query else p.startLaunch query

/-- The events of the start. -/
def startEvents (p : Path) (query : String) : List PathEvent :=
  if p.conf.hasOnDemandSource then [.sourceStarted true query, .sourceDemand query]
  else [.demand query]

/-- The events of the stop. -/
def stopEvents (p : Path) (reason : String) : List PathEvent :=
  if p.conf.hasOnDemandSource then [.sourceStopped reason, .sourceUndemand reason]
  else [.undemand reason]

/-- Asking for the path starts what runs on demand unless it was started before. -/
lemma awaken?_eq (h : p.hasOnDemand = true) (query : String) :
    p.awaken? query = some (if p.activity.isIdle then p.activated query else p) := by
  unfold awaken? activity activated
  cases hs : p.conf.hasOnDemandSource with
  | true => simp
  | false =>
    have hl : p.conf.hasOnDemandLaunch = true := by simpa [hasOnDemand, hs] using h
    simp [hl]

/-! ## Gathering -/

/-- **A path that starts**: it is alive and not ready, and what runs on demand was started. -/
structure Starting (p : Path) : Prop where
  live : p.ended = false
  unready : p.isReady = false
  onDemand : p.hasOnDemand = true
  started : p.activity.isIdle = false
  direct : p.source ≠ some .redirect

/-- **Joining**: those who ask are held, those who give up are marked, and commands are launched
again as time passes. -/
def join (p : Path) (s : PathStep) : Path :=
  { p with
    heldDescribes := p.heldDescribes.map (·.after [s]) ++ s.describer?.toList
    heldReaders := p.heldReaders.map (·.after [s]) ++ s.reader?.toList
    launcher :=
      match s with
      | .pass time => p.launcher.advance time
      | _ => p.launcher }

/-- Only commands are launched again by joining. -/
lemma relaunches_join (p : Path) (s : PathStep) : p.launcher.Relaunches (p.join s).launcher := by
  cases s with
  | pass time => exact p.launcher.relaunches_advance time
  | message | reload | expire | destroy => exact .pass p.launcher p.launcher.now

lemma join_describe (p : Path) (n : Nat) (query : String) :
    p.join (.message (.describe n query)) =
      { p with heldDescribes := p.heldDescribes ++ [{ request := n }] } := by
  simp [join, PathStep.describer?, PathStep.reader?, HeldDescribe.after, HeldReader.after, givenUp]

lemma join_addReader (p : Path) (n : Nat) (client : Client) (query : String) :
    p.join (.message (.addReader n client query)) =
      { p with heldReaders := p.heldReaders ++ [{ request := n, client }] } := by
  simp [join, PathStep.describer?, PathStep.reader?, HeldDescribe.after, HeldReader.after, givenUp]

lemma join_pass (p : Path) (time : Nat) : p.join (.pass time) = p.runTo time := by
  simp [join, PathStep.describer?, PathStep.reader?, HeldDescribe.after, HeldReader.after, givenUp,
    runTo]

lemma join_abandon (p : Path) (n : Nat) : p.join (.message (.abandon n)) = p.abandon n := by
  have hdescriber (d : HeldDescribe) : d.after [.message (.abandon n)] =
      if d.request = n then { d with abandoned := true } else d := by
    by_cases hn : d.request = n <;> simp [HeldDescribe.after, givenUp, hn]
  have hreader (r : HeldReader) : r.after [.message (.abandon n)] =
      if r.request = n then { r with abandoned := true } else r := by
    by_cases hn : r.request = n <;> simp [HeldReader.after, givenUp, hn]
  simp [join, abandon, PathStep.describer?, PathStep.reader?, hdescriber, hreader]

/-- Somebody asks for a path that is not ready: he is held after what runs on demand was started,
unless it was started before. -/
lemma receive_asking (hlive : p.ended = false) (hready : p.isReady = false)
    (hon : p.hasOnDemand = true) (hdirect : p.source ≠ some .redirect) {m : PathMessage}
    {request : Nat} {query : String} (hm : m.asks? = some (request, query)) :
    p.receive m =
      (if p.activity.isIdle then p.activated query else p).join (.message m) := by
  have hawake := awaken?_eq hon
  cases m with
  | describe n query' =>
    obtain ⟨rfl, rfl⟩ : n = request ∧ query' = query := by simpa [PathMessage.asks?] using hm
    rw [join_describe]
    simp only [receive, hlive, describe, hdirect, hready, hawake]
    exact closeIfUnused_of_held (by simp [holdsRequests])
  | addReader n client query' =>
    obtain ⟨rfl, rfl⟩ : n = request ∧ query' = query := by simpa [PathMessage.asks?] using hm
    rw [join_addReader]
    simp only [receive, hlive, addReader, hready, hawake]
    exact closeIfUnused_of_held (by simp [holdsRequests])
  | _ => cases hm

/-- **While a path starts**, requests join those who wait. -/
lemma Starting.step_eq (h : p.Starting) {s : PathStep} (hs : s.gathers = true) :
    p.step s = p.join s := by
  have hasks {m : PathMessage} {request : Nat} {query : String}
      (hm : m.asks? = some (request, query)) : p.receive m = p.join (.message m) := by
    have hreceive := receive_asking h.live h.unready h.onDemand h.direct hm
    rwa [if_neg (by simp [h.started])] at hreceive
  unfold PathStep.gathers at hs
  split at hs
  · next n query => exact hasks (m := .describe n query) rfl
  · next n client query => exact hasks (m := .addReader n client query) rfl
  · next n =>
    rw [join_abandon]
    simp [step, receive, h.live]
  · exact (p.join_pass _).symm
  · cases hs

/-- **While requests gather**, nothing changes but who waits and, with the time, which commands are
launched again.

**Proof sketch.** Induction on the steps. Each of them holds one more, marks some of those who are
held, or lets time pass; whoever is held is marked as soon as one of the steps gives his request
up. -/
theorem Starting.run_eq (h : p.Starting) {ss : List PathStep}
    (hss : ∀ s ∈ ss, s.gathers = true) :
    ∃ launcher, p.launcher.Relaunches launcher ∧
      p.run ss =
        { p with
          heldDescribes := p.heldDescribes.map (·.after ss) ++ describersOf ss
          heldReaders := p.heldReaders.map (·.after ss) ++ readersOf ss
          launcher } := by
  induction ss generalizing p with
  | nil =>
    exact ⟨p.launcher, .pass p.launcher p.launcher.now, by simp [run, describersOf, readersOf]⟩
  | cons s rest ih =>
    obtain ⟨hs, hrest⟩ := List.forall_mem_cons.1 hss
    have hnext : (p.join s).Starting := ⟨h.live, h.unready, h.onDemand, h.started, h.direct⟩
    obtain ⟨launcher, hagain, hrun⟩ := ih hnext hrest
    have hfirst : p.run (s :: rest) = (p.join s).run rest := by
      rw [← h.step_eq hs]
      rfl
    refine ⟨launcher, (p.relaunches_join s).trans hagain, ?_⟩
    rw [hfirst, hrun]
    cases hd : s.describer? <;> cases hr : s.reader? <;>
      simp [join, describersOf, readersOf, hd, hr, HeldDescribe.after_after,
        HeldReader.after_after]

/-! ## The first request -/

namespace InOrder

variable (h : p.InOrder)

include h

/-- A path with something that runs on demand does not send its readers elsewhere. -/
lemma source_ne_redirect (hon : p.hasOnDemand = true) : p.source ≠ some .redirect := by
  intro hs
  have hk : p.conf.source = .redirect := h.coherent.source.redirect_iff.1 hs
  simp [hasOnDemand, Conf.hasOnDemandSource, Conf.hasOnDemandLaunch, Conf.hasStaticSource,
    SourceKind.isStatic, hk] at hon

/-- A path with a source that runs on demand runs it itself. -/
lemma runsSource (hs : p.conf.hasOnDemandSource = true) : p.runsSource = true := by
  obtain ⟨url, heq⟩ := h.coherent.source.static_iff.2 (Bool.and_eq_true_iff.1 hs).1
  simp [Path.runsSource, heq]

/-- **The first request** starts what runs on demand, which concerns nothing else. -/
lemma activated_eq (query : String) :
    let q := p.activated query
    q = { p with
      query := q.query
      sourceDemand := q.sourceDemand
      launchDemand := q.launchDemand
      onUndemand := q.onUndemand
      launcher := q.launcher
      log := p.log ++ p.startEvents query } := by
  unfold activated startEvents
  cases hs : p.conf.hasOnDemandSource with
  | true => simp [startSource_eq, sourceCall, h.runsSource hs]
  | false => rfl

/-- What is started has to be ready in time. -/
lemma activity_activated (hidle : p.activity.isIdle = true) (query : String) :
    (p.activated query).activity =
      { phase := .starting, readyAt := some (p.now + p.startTimeout) } := by
  have hphase : p.activity.phase = .idle := by simpa [OnDemand.isIdle] using hidle
  unfold activated startTimeout
  cases hs : p.conf.hasOnDemandSource with
  | true =>
    have hnew : p.sourceDemand = {} :=
      h.paced.source.timed.eq_idle (by simpa [activity, hs] using hphase)
    simp [activity, hs, hnew, startSource_eq, OnDemand.begin]
  | false =>
    have hnew : p.launchDemand = {} :=
      h.paced.launch.timed.eq_idle (by simpa [activity, hs] using hphase)
    simp [activity, hs, hnew, startLaunch_eq, OnDemand.begin]

/-- The path starts from then on. -/
lemma starting_activated (hlive : p.ended = false) (hready : p.isReady = false)
    (hon : p.hasOnDemand = true) (hidle : p.activity.isIdle = true) (query : String) :
    (p.activated query).Starting := by
  refine ⟨?_, ?_, ?_, by rw [h.activity_activated hidle]; rfl, ?_⟩
  all_goals rw [h.activated_eq]
  · exact hlive
  · exact hready
  · exact hon
  · exact h.source_ne_redirect hon

/-- **From the first request on**, requests join those who wait on the path on which it started what
runs on demand. -/
lemma run_asking (hlive : p.ended = false) (hready : p.isReady = false)
    (hon : p.hasOnDemand = true) (hidle : p.activity.isIdle = true)
    (hheld : p.holdsRequests = false) {m : PathMessage} {request : Nat} {query : String}
    (hm : m.asks? = some (request, query)) {rest : List PathStep}
    (hrest : ∀ s ∈ rest, s.gathers = true) :
    ∃ launcher, (p.activated query).launcher.Relaunches launcher ∧
      p.run (.message m :: rest) =
        { p.activated query with
          heldDescribes := describersOf (.message m :: rest)
          heldReaders := readersOf (.message m :: rest)
          launcher } := by
  have hstarting := h.starting_activated hlive hready hon hidle query
  have hgathers : ∀ s ∈ .message m :: rest, s.gathers = true := by
    refine List.forall_mem_cons.2 ⟨?_, hrest⟩
    cases m with
    | describe | addReader => rfl
    | _ => cases hm
  obtain ⟨launcher, hagain, hrun⟩ := hstarting.run_eq hgathers
  -- who finds it idle does what he would do after the start
  have hreceive := receive_asking hlive hready hon (h.source_ne_redirect hon) hm
  rw [if_pos hidle] at hreceive
  have hfirst : p.step (.message m) = (p.activated query).step (.message m) :=
    hreceive.trans (hstarting.step_eq (hgathers _ List.mem_cons_self)).symm
  have hnone : p.heldDescribes = [] ∧ p.heldReaders = [] := by
    simpa [holdsRequests] using hheld
  have hdescribers : (p.activated query).heldDescribes = [] := by
    rw [h.activated_eq]
    exact hnone.1
  have hreaders : (p.activated query).heldReaders = [] := by
    rw [h.activated_eq]
    exact hnone.2
  rw [hdescribers, hreaders] at hrun
  exact ⟨launcher, hagain, (congrArg (Path.run · rest) hfirst).trans hrun⟩

end InOrder

/-- **Requests have gathered** for a path on which something was idle that runs on demand: it was
started once, for the query of the first request, and has to be ready in time, counted from that
request; nobody has been answered yet, and whoever has come is held, marked if he has given up.
Nothing else has been launched than by the start, but what is launched again as time passes. -/
structure Gathered (p : Path) (query : String) (ss : List PathStep) (q : Path) : Prop where
  live : q.ended = false
  unready : q.isReady = false
  same : q.identity = p.identity
  describers : q.heldDescribes = describersOf ss
  readers : q.heldReaders = readersOf ss
  started : p.logSince q = p.startEvents query
  activity : q.activity = { phase := .starting, readyAt := some (p.now + p.startTimeout) }
  launches : (p.activated query).launcher.Relaunches q.launcher
  inTime : q.now ≤ p.now + p.startTimeout

/-- Whatever runs on demand has one deadline while it starts. -/
lemma InOrder.deadline?_of_starting (h : p.InOrder) (hlive : p.ended = false)
    (hon : p.hasOnDemand = true) {d : Nat}
    (hstarting : p.activity = { phase := .starting, readyAt := some d }) :
    p.deadline? = some d := by
  unfold activity at hstarting
  cases hs : p.conf.hasOnDemandSource with
  | true =>
    rw [hs, if_pos rfl] at hstarting
    simp [deadline?, hlive, h.launch_eq_idle hs, hstarting, OnDemand.deadlines]
  | false =>
    have hl : p.conf.hasOnDemandLaunch = true := by simpa [hasOnDemand, hs] using hon
    simp only [hs, Bool.false_eq_true, ↓reduceIte] at hstarting
    simp [deadline?, hlive, h.source_eq_idle hl, hstarting, OnDemand.deadlines]

/-- **Requests gather** from the first one on. -/
lemma Reached.gathered (h : p.Reached) (hlive : p.ended = false) (hready : p.isReady = false)
    (hon : p.hasOnDemand = true) (hidle : p.activity.isIdle = true)
    (hheld : p.holdsRequests = false) {m : PathMessage} {request : Nat} {query : String}
    (hm : m.asks? = some (request, query)) {rest : List PathStep}
    (hrest : ∀ s ∈ rest, s.gathers = true) (hss : p.PermitsAll (.message m :: rest)) :
    p.Gathered query (.message m :: rest) (p.run (.message m :: rest)) := by
  have ho := h.orderly.live hlive
  have hactivity := ho.activity_activated hidle query
  have hstarting := ho.starting_activated hlive hready hon hidle query
  obtain ⟨launcher, hagain, hq⟩ := ho.run_asking hlive hready hon hidle hheld hm hrest
  have hlived : (p.run (.message m :: rest)).ended = false := by
    rw [hq]
    exact hstarting.live
  have hdeadline : (p.run (.message m :: rest)).deadline? = some (p.now + p.startTimeout) := by
    refine ((h.run hss).orderly.live hlived).deadline?_of_starting hlived ?_ ?_
    all_goals rw [hq]
    · exact hstarting.onDemand
    · exact hactivity
  refine ⟨hlived, ?_, ?_, ?_, ?_, ?_, ?_, ?_, (h.run hss).orderly.now_le_deadline hdeadline⟩
  all_goals rw [hq]
  · exact hstarting.unready
  · rw [ho.activated_eq]
    rfl
  · rw [ho.activated_eq]
    simp [logSince]
  · exact hactivity
  · exact hagain

/-! ## The end of waiting -/

/-- **The path opens** with a stream of some medias for those who wait: all of them are served, and
of the readers who have not given up the first different ones are attached, as many as there may
be. -/
structure OpensFor (p : Path) (request : Nat) (d : MediaDescription) (rtp : Bool) (q : Path) :
    Prop where
  stream : q.stream = some (p.announced d rtp)
  held : p.ServesHeld request q
  readers : q.readers =
    if p.conf.maxReaders = 0 then (p.openReaders.map (·.client)).eraseDups
    else (p.openReaders.map (·.client)).eraseDups.take p.conf.maxReaders

/-- **The time is over**: whoever waits is refused, what was started is stopped once and idle again,
and nothing is held any more. -/
structure TimesOut (p q : Path) : Prop where
  answers : (p.logSince q).filterMap PathEvent.answer? =
    p.waiting.map fun n => (n, .refused (.sourceTimedOut p.name))
  stops : (p.logSince q).filter (·.isStop) = p.stopEvents "timed out"
  idle : q.activity = {}
  held : q.holdsRequests = false

/-- **The source is ready** and announces something on a path that is not. -/
lemma Coherent.opensFor_sourceReady (hc : p.Coherent) (hlive : p.ended = false)
    (hready : p.isReady = false) {d : MediaDescription} (hd : d.isEmpty = false) (n : Nat)
    (rtp : Bool) : p.OpensFor n d rtp (p.receive (.sourceReady n d rtp)) := by
  have hs : p.stream = none := by simpa [isReady] using hready
  set r := (p.becomeReady (p.announced d rtp)).noteSourceReady with hr
  have hreceive : p.receive (.sourceReady n d rtp) = r.serve n := by
    unfold receive
    rw [if_neg (by simp [hlive])]
    simp only [Path.sourceReady, becomeUnready_of_none p hs, Stream.open?, hd]
    rfl
  have hlog : r.log = p.log ++ p.readyEvents (p.announced d rtp) := by
    rw [hr, noteSourceReady_eq]
    exact p.log_becomeReady _
  rw [noteSourceReady_eq, becomeReady_eq] at hr
  have hopen : r.isReady = true := by rw [hr]; rfl
  have hnobody : r.readers = [] := by rw [hr]; exact hc.readers hs
  have hquiet : ∀ e ∈ p.readyEvents (p.announced d rtp), e.answer? = none :=
    p.forall_readyEvents (P := (·.answer? = none)) (fun _ => rfl) rfl rfl _
  have hheld : p.ServesHeld n (r.serve n) :=
    servesHeld_serve hopen hnobody (by rw [hr]) (by rw [hr]) (by rw [hr]; exact ⟨rfl, rfl⟩) hlog
      hquiet n
  rw [hreceive]
  refine ⟨?_, hheld, hheld.readers.trans (seating_eq ..)⟩
  rw [serve_eq hopen hnobody, hr]
  rfl

/-- **A publisher is taken.** -/
lemma TakenBy.opensFor {request : Nat} {client : Client} {d : MediaDescription} {rtp : Bool}
    (h : p.TakenBy request client d rtp q) : p.OpensFor request d rtp q :=
  ⟨h.stream, h.serves, h.serves.readers.trans (seating_eq ..)⟩

/-- **Stopped**: those who waited were refused, what was started was stopped, and of what came after
that nothing answers anybody or stops anything. -/
structure Stopped (p q : Path) : Prop where
  held : q.holdsRequests = false
  source : q.sourceDemand = {}
  launch : q.launchDemand = {}
  log : ∃ es, q.log = p.log ++ p.timeouts ++ p.stopEvents "timed out" ++ es ∧
    ∀ e ∈ es, e.answer? = none ∧ e.isStop = false

/-- A path on which nothing is left may end, but then it neither answers nor stops anything. -/
lemma Stopped.closeIfUnused {r : Path} (h : p.Stopped r) (hs : r.stream = none) :
    p.Stopped r.closeIfUnused := by
  unfold Path.closeIfUnused
  split
  · next hunused =>
    have hsource : r.source = none := source_of_isUnused hunused
    have hbare : r.beginEnd.becomeUnready = r.beginEnd := becomeUnready_of_none _ hs
    have hrelease : r.beginEnd.sourceRelease = [] := by simp [sourceRelease, beginEnd, hsource]
    have hidle : r.beginEnd.launchDemand.isIdle = true := by
      simp [beginEnd, h.launch, OnDemand.stopTimers, OnDemand.isIdle]
    have hshutdown : r.shutdown = { r.beginEnd with source := none } := by
      rw [shutdown_eq, hbare, releaseSource_eq, hrelease, if_pos]
      · simp
      · exact hidle
    have hevents : r.endEvents = r.noticed .closed ++ [.uninit] := by
      simp [endEvents, waiting_eq_nil h.held, answerEvents]
    obtain ⟨es, hlog, hquiet⟩ := h.log
    rw [hshutdown]
    refine ⟨rfl, ?_, ?_, es ++ r.endEvents, ?_, List.forall_mem_append.2 ⟨hquiet, ?_⟩⟩
    · simp [beginEnd, h.source, OnDemand.stopTimers]
    · simp [beginEnd, h.launch, OnDemand.stopTimers]
    · rw [← List.append_assoc, ← hlog]
      exact r.log_beginEnd
    · rw [hevents]
      exact List.forall_mem_append.2
        ⟨r.forall_noticed ⟨rfl, rfl⟩, List.forall_mem_singleton.2 ⟨rfl, rfl⟩⟩
  · exact h

/-- Where all has been stopped, the time was over. -/
lemma Stopped.timesOut (h : p.Stopped q) : p.TimesOut q := by
  obtain ⟨es, hlog, hquiet⟩ := h.log
  have hsince : p.logSince q = p.timeouts ++ p.stopEvents "timed out" ++ es := by
    simp [logSince, hlog]
  refine ⟨?_, ?_, ?_, h.held⟩
  · have hes : es.filterMap PathEvent.answer? = [] :=
      List.filterMap_eq_nil_iff.2 fun e he => (hquiet e he).1
    have hstops : (p.stopEvents "timed out").filterMap PathEvent.answer? = [] := by
      unfold stopEvents
      split <;> rfl
    rw [hsince, List.filterMap_append, List.filterMap_append, hstops, hes,
      List.append_nil, List.append_nil]
    exact filterMap_answer?_answerEvents _
  · have hes : es.filter (·.isStop) = [] :=
      List.filter_eq_nil_iff.2 fun e he => by simp [(hquiet e he).2]
    have hanswers : p.timeouts.filter (·.isStop) = [] :=
      List.filter_eq_nil_iff.2 (forall_answerEvents fun _ _ => by simp [PathEvent.isStop])
    rw [hsince, List.filter_append, List.filter_append, hanswers, hes]
    unfold stopEvents
    split <;> rfl
  · simp [activity, h.source, h.launch]

/-- **The timer of the start goes off**: those who wait are refused, and what was started is
stopped. -/
lemma InOrder.stopped_expire (h : p.InOrder) (hdue : ∃ d ∈ p.deadline?, d ≤ p.now)
    (hon : p.hasOnDemand = true) (hstarting : p.activity.phase = .starting) :
    p.Stopped p.expire := by
  unfold activity at hstarting
  cases hs : p.conf.hasOnDemandSource with
  | true =>
    rw [hs, if_pos rfl] at hstarting
    have hlaunch := h.launch_eq_idle hs
    rcases h.expire_cases hdue with ⟨-, -, hready, heq⟩ | ⟨hp, -⟩ | ⟨hp, -⟩ | ⟨hp, -⟩
    · have hruns : (p.failHeld (.sourceTimedOut p.name)).runsSource = true := by
        rw [failHeld_eq]
        exact h.runsSource hs
      have hcall (e : PathEvent) : (p.failHeld (.sourceTimedOut p.name)).sourceCall e = [e] :=
        if_pos hruns
      rw [heq]
      refine Stopped.closeIfUnused ?_ ?_ <;> rw [stopSource_eq, hcall, failHeld_eq]
      · exact ⟨rfl, rfl, hlaunch, [], by simp [stopEvents, timeouts, hs], by simp⟩
      · simpa [isReady] using hready
    · simp [hstarting] at hp
    · simp [hlaunch] at hp
    · simp [hlaunch] at hp
  | false =>
    have hl : p.conf.hasOnDemandLaunch = true := by simpa [hasOnDemand, hs] using hon
    simp only [hs, Bool.false_eq_true, ↓reduceIte] at hstarting
    have hsource := h.source_eq_idle hl
    rcases h.expire_cases hdue with ⟨hp, -⟩ | ⟨hp, -⟩ | ⟨-, -, hready, heq⟩ | ⟨hp, -⟩
    · simp [hsource] at hp
    · simp [hsource] at hp
    · rw [heq]
      refine Stopped.closeIfUnused ?_ ?_ <;> rw [stopLaunch_eq, failHeld_eq]
      · exact ⟨rfl, hsource, rfl, [], by simp [stopEvents, timeouts, hs], by simp⟩
      · simpa [isReady] using hready
    · simp [hstarting] at hp

/-- **The time is over** for those who wait. -/
lemma Reached.timesOut (h : p.Reached) (hlive : p.ended = false) (hon : p.hasOnDemand = true)
    {d : Nat} (hstarting : p.activity = { phase := .starting, readyAt := some d }) {time : Nat}
    (hle : d ≤ time) : p.TimesOut (p.advance time) := by
  have hdeadline := (h.orderly.live hlive).deadline?_of_starting hlive hon hstarting
  have hpermits : p.Permits (.pass d) := by
    refine ⟨h.orderly.now_le_deadline hdeadline, fun d' hd' => ?_⟩
    exact Nat.le_of_eq (Option.some.inj (hdeadline.symm.trans hd'))
  have hlate : (p.runTo d).InOrder := (h.step hpermits).orderly.live hlive
  have hdue : ∃ d' ∈ (p.runTo d).deadline?, d' ≤ (p.runTo d).now :=
    ⟨d, hdeadline, Nat.le_of_eq (now_runTo ..).symm⟩
  have hstopped := hlate.stopped_expire hdue hon (congrArg OnDemand.phase hstarting)
  -- what else runs by the time concerns commands only
  have hall : p.Stopped ((p.runTo d).expire.runTo time) :=
    ⟨hstopped.held, hstopped.source, hstopped.launch, hstopped.log⟩
  rw [advance_of_deadline hdeadline hle (hlate.expire hlive hdue).2]
  exact hall.timesOut

/-! ## From the first request to the end of waiting -/

/-- **Requests gather and are served or refused together.** Let something run on demand on a live
path that can be reached, and let the path be not ready, the activity idle and nothing held. Then
whatever requests come and are given up while time passes, up to the deadline, the activity was
started once, for the first request, and nobody was answered. If the source then announces
something, or a publisher is taken, all who have not given up are served from the new stream:
whoever wants to know it is told, the first different readers are attached, as many as there may be,
they get the stream as often as they ask, and there are too many for the others. If the time passes
instead, all who have not given up are refused, the activity is stopped once and idle again, and
nothing is held.

**Proof sketch.** The first request starts the activity and every other one finds it started, so
that all of them only join those who wait. They are released together on a path where nobody reads,
or fail together when the one timer goes off that is armed; an unused path may end after that, but
has nothing left to answer or to stop. -/
theorem Reached.requests_gather (h : p.Reached) (hlive : p.ended = false)
    (hready : p.isReady = false) (hon : p.hasOnDemand = true) (hidle : p.activity.isIdle = true)
    (hheld : p.holdsRequests = false) {m : PathMessage} {request : Nat} {query : String}
    (hm : m.asks? = some (request, query)) {rest : List PathStep}
    (hrest : ∀ s ∈ rest, s.gathers = true) (hss : p.PermitsAll (.message m :: rest)) :
    let q := p.run (.message m :: rest)
    p.Gathered query (.message m :: rest) q ∧
    (∀ n d rtp, d.isEmpty = false →
      q.OpensFor n d rtp (q.receive (.sourceReady n d rtp))) ∧
    (∀ n client d rtp query expected, q.publisherFault? expected d = none →
      q.OpensFor n d rtp (q.receive (.addPublisher n client d rtp query expected))) ∧
    ∀ time, p.now + p.startTimeout ≤ time → q.TimesOut (q.advance time) := by
  intro q
  have hq : p.Gathered query (.message m :: rest) q :=
    h.gathered hlive hready hon hidle hheld hm hrest hss
  have hreached : q.Reached := h.run hss
  have hc := (hreached.orderly.live hq.live).coherent
  have hon' : q.hasOnDemand = true := by
    have hconf : q.conf = p.conf := congrArg (·.2.2.1) hq.same
    rwa [hasOnDemand, hconf]
  exact ⟨hq, fun n d rtp hd => hc.opensFor_sourceReady hq.live hq.unready hd n rtp,
    fun n client d rtp query expected hf =>
      (hc.takenBy_receive hq.live hf n client rtp query).opensFor,
    fun time hle => hreached.timesOut hq.live hon' hq.activity hle⟩

/-- A configuration whose source runs on demand for one reader. -/
def pulledByOne : ConfSet.Found where
  conf :=
    { name := "cam", source := .pull "rtsp://host/s", sourceOnDemand := true, maxReaders := 1 }
  captures := []

/-- Somebody wants to know the stream, one reader gives up, another one asks twice, and a third one,
who describes itself in the same way, comes after that. -/
def manyRequests : List PathStep :=
  [.message (.describe 0 "q"), .message (.addReader 1 ⟨0, ⟨"rtspSession", "a"⟩⟩ "r"),
    .message (.addReader 2 ⟨1, ⟨"rtspSession", "b"⟩⟩ ""), .message (.abandon 1), .pass 4000,
    .message (.addReader 3 ⟨1, ⟨"rtspSession", "b"⟩⟩ ""),
    .message (.addReader 4 ⟨2, ⟨"rtspSession", "b"⟩⟩ "")]

/-- The source is started once for all of them. The path attaches the second reader only, and there
are too many for the third one; if the source is not ready in time, all four requests that were not
given up are refused. -/
theorem requests_gather_manyRequests :
    (create {} 0 1 "cam" pulledByOne).Reached ∧
      (create {} 0 1 "cam" pulledByOne).PermitsAll manyRequests ∧
      (create {} 0 1 "cam" pulledByOne).Gathered "q" manyRequests
        ((create {} 0 1 "cam" pulledByOne).run manyRequests) ∧
      ((create {} 0 1 "cam" pulledByOne).run manyRequests).waiting = [0, 2, 3, 4] ∧
      (((create {} 0 1 "cam" pulledByOne).run manyRequests).receive
        (.sourceReady 5 ⟨[⟨.video, "H264"⟩]⟩ false)).readers = [⟨1, ⟨"rtspSession", "b"⟩⟩] ∧
      PathEvent.answered 4 (.refused (.maxReadersReached "cam")) ∈
        (((create {} 0 1 "cam" pulledByOne).run manyRequests).receive
          (.sourceReady 5 ⟨[⟨.video, "H264"⟩]⟩ false)).log ∧
      ((create {} 0 1 "cam" pulledByOne).run manyRequests).TimesOut
        (((create {} 0 1 "cam" pulledByOne).run manyRequests).advance 10000) := by
  have hreached : (create {} 0 1 "cam" pulledByOne).Reached := .create ..
  have hpermits : (create {} 0 1 "cam" pulledByOne).PermitsAll manyRequests := by decide
  obtain ⟨hgathered, hopens, -, htimes⟩ := hreached.requests_gather (by decide) (by decide)
    (by decide) (by decide) (by decide) (m := .describe 0 "q") rfl (by decide) hpermits
  have hserved := (hopens 5 ⟨[⟨.video, "H264"⟩]⟩ false rfl).readers
  exact ⟨hreached, hpermits, hgathered, by decide, hserved.trans (by decide), by decide,
    htimes 10000 (by decide)⟩

end Path

end LivePaths
