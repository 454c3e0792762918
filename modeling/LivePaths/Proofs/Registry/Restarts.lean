import LivePaths.Proofs.Registry.Closing

set_option relaxedAutoImplicit false
set_option autoImplicit false

/-!
# Commands that are launched again and again

A command that is to be restarted is alive until its job is stopped, and the only link between the
job and what it was started for is a teardown that the path keeps. Here it is compared with a book
that is kept from outside: whoever reads the events of a path knows which jobs have been started for
what, and which of these beginnings have not ended. The jobs of the path are exactly those, so that
no command outlives the readiness, the launch or the path that it was started for.

## Main definitions

* `JobBook`, `Path.jobBook` — the jobs of what has begun and not ended, as the events tell.
* `Path.KeepsBook` — the path agrees with its book.
* `Path.restarting` — the restarting commands that a path has to keep alive.
* `Registry.Reruns` — exactly these commands are alive in a registry.

## Main results

* `Path.Lived.keepsBook` — paths agree with their books all their lives.
* `Registry.Reachable.reruns` — the restarting commands of a registry at rest.
-/

namespace LivePaths

/-! ## The book of jobs -/

/-- Whether a command is launched again and again when it is started. -/
def CommandLine.restarts (c : CommandLine) : Bool := c.isSet && c.restart

/-- **Book of jobs**: how many jobs have been started, and which ones belong to what has begun and
not ended. -/
structure JobBook where
  started : Nat := 0
  init : Option Nat := none
  ready : Option Nat := none
  demand : Option Nat := none

namespace JobBook

/-- The number of the job of a command that is started, if it becomes a job. -/
def next? (b : JobBook) (c : CommandLine) : Option Nat :=
  if c.restarts then some b.started else none

/-- How many jobs there have been after the start of a command. -/
def after (b : JobBook) (c : CommandLine) : Nat := if c.restarts then b.started + 1 else b.started

/-- **Keeping the book**: what begins has the next job if its command is to be restarted, and what
ends has none any more. -/
def note (c : CommandConf) (b : JobBook) : PathEvent → JobBook
  | .init => { b with started := b.after c.onInit, init := b.next? c.onInit }
  | .ready => { b with started := b.after c.onReady, ready := b.next? c.onReady }
  | .demand _ => { b with started := b.after c.onDemand, demand := b.next? c.onDemand }
  | .uninit => { b with init := none }
  | .notReady => { b with ready := none }
  | .undemand _ => { b with demand := none }
  | _ => b

/-- Everything else does not concern the book. -/
lemma foldl_note_asides {c : CommandConf} {es : List PathEvent}
    (hes : ∀ e ∈ es, e.isMilestone = false) (b : JobBook) : es.foldl (note c) b = b := by
  induction es with
  | nil => rfl
  | cons e rest ih =>
    have hfirst : b.note c e = b := by
      have he := hes e List.mem_cons_self
      cases e <;> simp_all [note, PathEvent.isMilestone]
    rw [List.foldl_cons, hfirst, ih fun f hf => hes f (List.mem_cons_of_mem e hf)]

/-- **One entry**: of some events only one concerns the book. -/
lemma foldl_note_among {c : CommandConf} {es fs : List PathEvent} (e : PathEvent)
    (hes : ∀ e ∈ es, e.isMilestone = false) (hfs : ∀ e ∈ fs, e.isMilestone = false)
    (b : JobBook) : (es ++ [e] ++ fs).foldl (note c) b = b.note c e := by
  rw [List.foldl_append, List.foldl_append, foldl_note_asides hes, foldl_note_asides hfs]
  rfl

end JobBook

namespace Path

/-- **The book of a path**, by its events. -/
def jobBook (p : Path) : JobBook := p.log.foldl (JobBook.note p.conf.commands) {}

/-- **Agreement** with the book: the teardowns of a path stop the jobs that the book names. -/
structure KeepsBook (p : Path) : Prop where
  started : p.launcher.started = p.jobBook.started
  init : p.onUninit.bind (·.job) = p.jobBook.init
  ready : p.onNotReady.bind (·.job) = p.jobBook.ready
  demand : p.onUndemand.bind (·.job) = p.jobBook.demand

/-! ### Launchers -/

/-- What becomes of the numbers of jobs when a command is started. -/
lemma started_begin {l : Launcher} (hl : l.available = true) {b : JobBook}
    (hb : l.started = b.started) (c : CommandLine) (atEnd : String) (env : Environment) :
    (l.begin c atEnd env).1.started = b.after c ∧ (l.begin c atEnd env).2.job = b.next? c := by
  obtain ⟨launches, heq⟩ := l.start_eq c env
  have hkeeps : l.keeps c = c.restarts := by simp [Launcher.keeps, CommandLine.restarts, hl]
  unfold Launcher.begin JobBook.after JobBook.next?
  dsimp only
  rw [heq, hkeeps]
  split
  · exact ⟨congrArg (· + 1) hb, congrArg some hb⟩
  · exact ⟨hb, rfl⟩

/-- No job is started at an end. -/
lemma started_launcherAfter (p : Path) (t : Option Teardown) :
    (p.launcherAfter t).started = p.launcher.started := by
  cases t with
  | none => rfl
  | some t =>
    obtain ⟨launches, heq⟩ := p.launcher.tearDown_eq t
    rw [launcherAfter, heq]

namespace KeepsBook

variable {p q : Path} (h : p.KeepsBook)

include h

/-- **Asides** concern neither the jobs nor the book. -/
lemma aside (hcommands : q.conf.commands = p.conf.commands)
    (hstarted : q.launcher.started = p.launcher.started)
    (hsame : (q.onUninit, q.onNotReady, q.onUndemand) = (p.onUninit, p.onNotReady, p.onUndemand))
    {es : List PathEvent} (hlog : q.log = p.log ++ es) (hes : ∀ e ∈ es, e.isMilestone = false) :
    q.KeepsBook := by
  have hbook : q.jobBook = p.jobBook := by
    unfold jobBook
    rw [hlog, hcommands, List.foldl_append, JobBook.foldl_note_asides hes]
  simp only [Prod.mk.injEq] at hsame
  obtain ⟨hinit, hready, hdemand⟩ := hsame
  constructor
  · rw [hstarted, hbook, h.started]
  · rw [hinit, hbook, h.init]
  · rw [hready, hbook, h.ready]
  · rw [hdemand, hbook, h.demand]

/-- Nothing is told, and the jobs stay the same. -/
lemma silently (hcommands : q.conf.commands = p.conf.commands)
    (hstarted : q.launcher.started = p.launcher.started)
    (hsame : (q.onUninit, q.onNotReady, q.onUndemand) = (p.onUninit, p.onNotReady, p.onUndemand))
    (hlog : q.log = p.log) : q.KeepsBook :=
  h.aside hcommands hstarted hsame (hlog.trans (List.append_nil _).symm) (by simp)

/-- **What runs on demand** is begun and ended. -/
lemma drive (hl : p.launcher.available = true) (hq : p.Drive q) : q.KeepsBook := by
  cases hq with
  | pass time hle =>
    exact h.silently rfl (p.launcher.relaunches_advance time).started rfl rfl
  | startSource query hlive hidle =>
    rw [startSource_eq, List.append_assoc]
    exact h.aside rfl rfl rfl rfl (List.forall_mem_append.2
      ⟨p.forall_sourceCall rfl, List.forall_mem_singleton.2 rfl⟩)
  | stopSource reason hbusy =>
    rw [stopSource_eq, List.append_assoc]
    exact h.aside rfl rfl rfl rfl (List.forall_mem_append.2
      ⟨p.forall_sourceCall rfl, List.forall_mem_singleton.2 rfl⟩)
  | startLaunch query hlive hidle =>
    obtain ⟨hstarted, hjob⟩ := started_begin hl h.started p.conf.commands.onDemand
      p.conf.commands.onUndemand (p.baseEnvironment.forDemand query)
    have hbook : (p.startLaunch query).jobBook =
        p.jobBook.note p.conf.commands (.demand query) := by
      rw [startLaunch_eq]
      exact List.foldl_append
    constructor
    · rw [hbook]
      exact hstarted
    · rw [hbook]
      exact h.init
    · rw [hbook]
      exact h.ready
    · rw [hbook]
      exact hjob
  | stopLaunch reason hbusy =>
    have hbook : (p.stopLaunch reason).jobBook =
        p.jobBook.note p.conf.commands (.undemand reason) := by
      rw [stopLaunch_eq]
      exact List.foldl_append
    rw [stopLaunch_eq] at hbook ⊢
    constructor
    · rw [hbook]
      exact (p.started_launcherAfter _).trans h.started
    · rw [hbook]
      exact h.init
    · rw [hbook]
      exact h.ready
    · rw [hbook]
      rfl
  | sourceReady =>
    rw [noteSourceReady_eq]
    exact h.silently rfl rfl rfl rfl
  | publisherReady =>
    rw [notePublisherReady_eq]
    exact h.silently rfl rfl rfl rfl

/-- **Becoming ready** starts the command for this. -/
lemma becomeReady (hl : p.launcher.available = true) (s : Stream) :
    (p.becomeReady s).KeepsBook := by
  obtain ⟨hstarted, hjob⟩ := started_begin hl h.started p.conf.commands.onReady
    p.conf.commands.onNotReady (p.baseEnvironment.forReady p.sourceDescriptor p.query)
  have hrecord : ∀ e ∈ if p.conf.record.enabled then p.recordingStart s else [],
      e.isMilestone = false := by
    split
    · exact p.forall_recordingStart (P := (·.isMilestone = false)) (fun _ => rfl) s
    · simp
  have hbook : (p.becomeReady s).jobBook = p.jobBook.note p.conf.commands .ready := by
    have hlog := p.log_becomeReady s
    have hconf : (p.becomeReady s).conf = p.conf := by rw [becomeReady_eq]
    unfold jobBook
    rw [hlog, hconf, List.foldl_append]
    exact JobBook.foldl_note_among .ready hrecord (p.forall_noticed rfl) _
  rw [becomeReady_eq] at hbook ⊢
  constructor
  · rw [hbook]
    exact hstarted
  · rw [hbook]
    exact h.init
  · rw [hbook]
    exact hjob
  · rw [hbook]
    exact h.demand

/-- **Ceasing to be ready** stops it. -/
lemma becomeUnready {s : Stream} (hstream : p.stream = some s) : p.becomeUnready.KeepsBook := by
  have hbook : p.becomeUnready.jobBook = p.jobBook.note p.conf.commands .notReady := by
    have hlog := p.log_becomeUnready hstream
    have hconf : p.becomeUnready.conf = p.conf := by rw [becomeUnready_eq p hstream]
    unfold jobBook
    rw [hlog, hconf, List.foldl_append]
    exact JobBook.foldl_note_among .notReady
      (List.forall_mem_append.2 ⟨p.forall_noticed rfl, by simp [PathEvent.isMilestone]⟩)
      (p.forall_recordingEnd fun _ => rfl) _
  rw [becomeUnready_eq p hstream] at hbook ⊢
  constructor
  · rw [hbook]
    exact (p.started_launcherAfter _).trans h.started
  · rw [hbook]
    exact h.init
  · rw [hbook]
    rfl
  · rw [hbook]
    exact h.demand

/-- **The beginning of the end** stops the command of the path itself. -/
lemma beginEnd : p.beginEnd.KeepsBook := by
  have hbook : p.beginEnd.jobBook = p.jobBook.note p.conf.commands .uninit := by
    have hlog := p.log_beginEnd
    unfold jobBook
    rw [hlog, List.foldl_append]
    exact JobBook.foldl_note_among .uninit (p.forall_noticed rfl)
      (forall_answerEvents fun _ _ => rfl) _
  constructor
  · rw [hbook]
    exact (p.started_launcherAfter _).trans h.started
  · rw [hbook]
    rfl
  · rw [hbook]
    exact h.ready
  · rw [hbook]
    exact h.demand

/-- **Every change** keeps the agreement. -/
theorem change (hl : p.launcher.available = true) (hq : PureChange p q) : q.KeepsBook := by
  cases hq with
  | drive hq => exact h.drive hl hq
  | goOn hq => exact hq.elim
  | answer n hlive ha => exact h.aside rfl rfl rfl rfl (List.forall_mem_singleton.2 rfl)
  | attach n client hlive hready hm =>
    obtain ⟨cs, a, -, heq⟩ := p.attach_eq hready n client
    rw [heq]
    exact h.aside rfl rfl rfl rfl (List.forall_mem_singleton.2 rfl)
  | failHeld hlive =>
    rw [failHeld_eq]
    exact h.aside rfl rfl rfl rfl (forall_answerEvents fun _ _ => rfl)
  | removeReader client hlive =>
    rw [removeReader_eq]
    exact h.silently rfl rfl rfl rfl
  | becomeReady s hlive hstream hd => exact h.becomeReady hl s
  | becomeUnready hstream => exact h.becomeUnready hstream
  | evict client hlive hclient => exact h.aside rfl rfl rfl rfl (List.forall_mem_singleton.2 rfl)
  | reload c hlive hc =>
    have hcommands : c.commands = p.conf.commands := (Conf.eq_of_canHotReload hc).2.2
    rw [reload_eq, List.append_assoc]
    exact h.aside hcommands rfl rfl rfl (List.forall_mem_append.2
      ⟨p.forall_sourceCall rfl, p.forall_recordingChange c (fun _ => rfl) fun _ => rfl⟩)
  | beginEnd hlive silent =>
    have hsilent : { p with ended := silent }.KeepsBook := h.silently rfl rfl rfl rfl
    exact hsilent.beginEnd
  | releaseSource hended hstream =>
    rw [releaseSource_eq]
    exact h.aside rfl rfl rfl rfl (p.forall_sourceRelease (fun _ => rfl) fun _ => rfl)
  | holdDescribe | holdReader | abandon | clear | vacate | occupy =>
    exact h.silently rfl rfl rfl rfl

/-- **Media acts** start no jobs. -/
lemma media (m : MediaAct) : (p.media m).KeepsBook := by
  have hmodify (serial : Nat) (f : Stream → Stream) : (p.modifyStream serial f).KeepsBook := by
    obtain ⟨stream, pastStreams, -, -, heq⟩ := p.modifyStream_eq serial f
    rw [heq]
    exact h.silently rfl rfl rfl rfl
  have hrun (line : String) (env : Environment) :
      { p with launcher := p.launcher.runOnce line env }.KeepsBook := by
    obtain ⟨launches, heq⟩ := p.launcher.runOnce_eq line env
    rw [heq]
    exact h.silently rfl rfl rfl rfl
  cases m with
  | write serial u => exact hmodify serial _
  | subscribe serial => exact hmodify serial _
  | unsubscribe serial => exact hmodify serial _
  | segmentCreate segment | segmentComplete segment ms =>
    unfold Path.media
    dsimp only
    split
    · exact h
    · exact hrun _ _

end KeepsBook

/-- **A new path** agrees with its book. -/
lemma keepsBook_create (settings : PathSettings) (now id : Nat) (name : String)
    (found : ConfSet.Found) : (create settings now id name found).KeepsBook := by
  obtain ⟨hstarted, hjob⟩ := started_begin (l := { now }) rfl (b := {}) rfl
    found.conf.commands.onInit "" (.base name settings.rtspAddress found.captures)
  have hsource : ∀ e ∈ found.sourceStart name, e.isMilestone = false := by
    unfold ConfSet.Found.sourceStart
    split
    · split <;> simp [PathEvent.isMilestone]
    · simp
  have hbook : (create settings now id name found).jobBook =
      JobBook.note found.conf.commands {} .init := by
    rw [create_eq]
    exact (List.foldl_append).trans (congrArg (JobBook.note _ · .init)
      (JobBook.foldl_note_asides hsource {}))
  rw [create_eq] at hbook ⊢
  constructor
  · rw [hbook]
    exact hstarted
  · rw [hbook]
    exact hjob
  · rw [hbook]
    rfl
  · rw [hbook]
    rfl

/-- **Paths agree with their books** all their lives. -/
theorem Lived.keepsBook {p : Path} (h : p.Lived) : p.KeepsBook := by
  have hboth : p.Equipped ∧ p.KeepsBook := by
    refine h.induction (I := fun p => p.Equipped ∧ p.KeepsBook) (fun _ _ _ _ _ => ?_)
      (fun p q hchange hp => ?_) fun p m hp => ?_
    · exact ⟨equipped_create .., keepsBook_create ..⟩
    · exact ⟨(hp.1.change hchange).equipped, hp.2.change hp.1.serves.available hchange⟩
    · exact ⟨(hp.1.media m).1, hp.2.media m⟩
  exact hboth.2

/-! ## The commands of a path -/

/-- A command that is kept alive while something lasts, if it is configured to be restarted. -/
def keptWhile (lasts : Bool) (c : CommandLine) : List CommandLine :=
  if lasts && c.restarts then [c] else []

/-- **The restarting commands of a path**: the one for the path itself as long as it lives, the one
for its readiness while it is ready, and the one that is to publish while it is wanted. -/
def restarting (p : Path) : List CommandLine :=
  keptWhile (!p.ended) p.conf.commands.onInit ++ keptWhile p.isReady p.conf.commands.onReady ++
    keptWhile (!p.launchDemand.isIdle) p.conf.commands.onDemand

end Path

/-- **The jobs in the book**, with what they launch. -/
def JobBook.alive (c : CommandConf) (b : JobBook) : List (Nat × String) :=
  b.init.toList.map (·, c.onInit.line) ++ b.ready.toList.map (·, c.onReady.line) ++
    b.demand.toList.map (·, c.onDemand.line)

namespace Path

/-- **Keeping commands alive**: the jobs of a path are those of what has begun and not ended, each
under its own number, and they wait to be launched again. Something has a job exactly while it lasts
and if its command is to be restarted. -/
structure KeepsAlive (p : Path) : Prop where
  jobs : (p.launcher.jobs.map fun j => (j.id, j.line)).Perm (p.jobBook.alive p.conf.commands)
  numbers : (p.launcher.jobs.map (·.id)).Nodup
  waits : ∀ j ∈ p.launcher.jobs, p.now < j.nextLaunch
  init : p.jobBook.init.isSome = (!p.ended && p.conf.commands.onInit.restarts)
  ready : p.jobBook.ready.isSome = (p.isReady && p.conf.commands.onReady.restarts)
  demand : p.jobBook.demand.isSome =
    (!p.launchDemand.isIdle && p.conf.commands.onDemand.restarts)

/-- **The lines that are kept alive** are those of the restarting commands. -/
lemma KeepsAlive.lines {p : Path} (h : p.KeepsAlive) :
    (p.launcher.jobs.map (·.line)).Perm (p.restarting.map (·.line)) := by
  have hline {o : Option Nat} {lasts : Bool} {c : CommandLine}
      (ho : o.isSome = (lasts && c.restarts)) :
      (o.toList.map (·, c.line)).map Prod.snd = (keptWhile lasts c).map (·.line) := by
    unfold keptWhile
    rw [← ho]
    cases o <;> rfl
  have halive : (p.jobBook.alive p.conf.commands).map Prod.snd = p.restarting.map (·.line) := by
    unfold JobBook.alive restarting
    rw [List.map_append, List.map_append, List.map_append, List.map_append, hline h.init,
      hline h.ready, hline h.demand]
  have hjobs := h.jobs.map Prod.snd
  rwa [List.map_map, halive] at hjobs

/-- The job that is stopped at an end is there if its command is restarted. -/
lemma Equipped.isSome_job {p : Path} (h : p.Equipped) {c : CommandLine} {t : Option Teardown}
    (hd : ∀ u ∈ t, ⟨c, u⟩ ∈ p.duties) : (t.bind (·.job)).isSome = (t.isSome && c.restarts) := by
  cases t with
  | none => rfl
  | some u => exact h.serves.restarts _ (hd u rfl)

/-- **Paths keep their commands alive**, and no others. -/
theorem Lived.keepsAlive {p : Path} (h : p.Lived) : p.KeepsAlive := by
  have hequipped := h.equipped
  have hbook := h.keepsBook
  have hkeys (c : CommandLine) (t : Option Teardown) :
      ((t.toList.map (Duty.mk c)).flatMap Duty.keys).map (fun k => (k.1, k.2.1)) =
        (t.bind (·.job)).toList.map (·, c.line) := by
    cases t with
    | none => rfl
    | some u => cases hjob : u.job <;> simp [Duty.keys, hjob]
  have halive : (p.duties.flatMap Duty.keys).map (fun k => (k.1, k.2.1)) =
      p.jobBook.alive p.conf.commands := by
    unfold duties JobBook.alive
    rw [List.flatMap_append, List.flatMap_append, List.map_append, List.map_append, hkeys, hkeys,
      hkeys, hbook.init, hbook.ready, hbook.demand]
  refine ⟨?_, ?_, hequipped.serves.ahead, ?_, ?_, ?_⟩
  · have hjobs := hequipped.serves.jobs.map fun k => (k.1, k.2.1)
    rwa [halive, List.map_map] at hjobs
  · have hnodup := hequipped.serves.nodup
    rwa [List.map_map] at hnodup
  · rw [← hbook.init, ← hequipped.init]
    exact hequipped.isSome_job fun u hu => by simp [duties, Option.mem_def.1 hu]
  · rw [← hbook.ready, ← hequipped.ready]
    exact hequipped.isSome_job fun u hu => by simp [duties, Option.mem_def.1 hu]
  · rw [← hbook.demand, ← hequipped.demand]
    exact hequipped.isSome_job fun u hu => by simp [duties, Option.mem_def.1 hu]

end Path

/-! ## The commands of a registry -/

namespace Registry

/-- **Running again**: the restarting commands that are alive in a registry are exactly those of its
live paths, each once. Every path has the jobs of what has begun on it and not ended, and the paths
of the past have none. -/
structure Reruns (r : Registry) : Prop where
  commands : (r.paths.flatMap fun p => p.launcher.jobs.map fun j => (p.handle, j.line)).Perm
    (r.live.values.flatMap fun e => e.path.restarting.map fun c => (e.path.handle, c.line))
  paths : ∀ p ∈ r.paths, p.KeepsAlive
  gone : ∀ p ∈ r.past, p.launcher.jobs = []

/-- **The restarting commands of a registry at rest** are those of its live paths: for each path the
one for the path itself, for each ready one the one for its readiness, and for each one with an
activation of its launch the one that is to publish, if they are configured to be restarted. Each of
them is one job, which was started when the very thing began that has not ended yet.

**Proof sketch.** Induction over the lives of the paths: the teardowns that a path keeps name the
jobs of its book, which every change keeps, and its launcher serves exactly these teardowns. Paths
of the past are at rest. -/
theorem Reachable.reruns {Admits : ConfSet → Prop} {r : Registry} (h : r.Reachable Admits) :
    r.Reruns := by
  have hpaths : ∀ p ∈ r.paths, p.KeepsAlive := fun p hp => (h.lived p hp).keepsAlive
  have hgone : ∀ p ∈ r.past, p.launcher.jobs = [] := fun p hp =>
    ((h.lived p (mem_paths.2 (.inl hp))).atRest (h.hosts.gone p hp).1.ended).jobs
  refine ⟨?_, hpaths, hgone⟩
  have hpast : (r.past.flatMap fun p => p.launcher.jobs.map fun j => (p.handle, j.line)) = [] :=
    List.flatMap_eq_nil_iff.2 fun p hp => by rw [hgone p hp, List.map_nil]
  rw [Registry.paths, List.flatMap_append, hpast, List.nil_append, List.flatMap_map]
  refine List.Perm.flatMap_left _ fun e he => ?_
  obtain ⟨name, hget⟩ := (r.live.mem_values_iff e).1 he
  have hlines := (hpaths e.path (mem_paths.2 (.inr ⟨name, e, hget, rfl⟩))).lines
  have htagged := hlines.map fun line => (e.path.handle, line)
  rwa [List.map_map, List.map_map] at htagged

/-- A camera that was asked for, is published to, and whose publisher is replaced keeps two commands
alive: the one that was launched to publish, and the one for the second readiness. -/
theorem reruns_cameraReplaced :
    let r := cameraInUse.run [.request 3 { name := "cam", publish := true }
      (.publish ⟨2, ⟨"rtspSession", "c"⟩⟩ ⟨[⟨.video, "H264"⟩]⟩ false none)]
    r.Reachable (fun _ => True) ∧ r.Reruns ∧
      (r.paths.flatMap fun p => p.launcher.jobs.map fun j => (j.id, j.line)) =
        [(0, "launch"), (2, "follow")] := by
  have hreach : cameraInUse.Reachable (fun _ => True) :=
    Reachable.run (.start trivial {} .allowAll none) ⟨trivial, trivial, trivial, trivial⟩
  have hnext := hreach.apply (.request 3 { name := "cam", publish := true }
    (.publish ⟨2, ⟨"rtspSession", "c"⟩⟩ ⟨[⟨.video, "H264"⟩]⟩ false none)) trivial
  exact ⟨hnext, hnext.reruns, by cbv⟩

end Registry

end LivePaths
