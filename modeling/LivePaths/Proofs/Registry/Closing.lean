import Mathlib
import LivePaths.Proofs.Path.Destruction
import LivePaths.Proofs.Registry.Lives

set_option relaxedAutoImplicit false
set_option autoImplicit false

/-!
# The end of a registry

Closing a registry destroys all its paths, whatever they are doing: all that they hold is undone,
and nothing of them goes on. From then on whoever asks the registry or one of its paths for anything
is refused, and nothing changes any more but the time.

## Main definitions

* `Registry.reject` — an operation on a registry that refuses everything.
* `Registry.IsTerminated` — a registry that refuses everything, with all its paths at rest.

## Main results

* `Registry.Reachable.isTerminated` — closed registries are terminated.
* `Registry.Reachable.dissolves_close` — closing undoes all that a registry holds, once and for all.
-/

namespace LivePaths

namespace Registry

/-! ## Refusing everything -/

/-- **Rejection** of an operation: a request is refused, anything else does nothing. -/
def reject (r : Registry) (op : RegistryOp) : Registry :=
  match op.number? with
  | some n => r.refuse n .terminated
  | none => r

/-- Without live paths there are no names. -/
lemma names_of_empty {r : Registry} (hlive : r.live = .empty) : r.live.names = [] := by
  rw [hlive]
  rfl

/-- Without live paths time passes for those of the past. -/
lemma advance_of_empty {r : Registry} (hlive : r.live = .empty) (time : Nat) :
    r.advance time = { r with now := time, past := r.past.map (·.advance time) } := by
  unfold advance updateAll
  rw [names_of_empty hlive]
  rfl

section Closed

variable {r : Registry} (hclosed : r.closed = true) (hlive : r.live = .empty)

include hclosed hlive

/-- **A closed registry** rejects all operations but those that concern the time or media. -/
lemma apply_of_closed {op : RegistryOp} (hmedia : op.isMedia = false)
    (htime : ∀ ms, op ≠ .sleep ms) : r.apply op = r.reject op := by
  have hnames := names_of_empty hlive
  have hdead (handle : PathHandle) : r.isLive handle = false := by simp [isLive, hlive]
  unfold reject
  cases op with
  | request number access c =>
    simp [Registry.apply, request, acquire, hclosed, RegistryOp.number?]
  | requestOf number handle query c | sourceReady number handle d rtp =>
    simp [Registry.apply, requestOf, hdead, RegistryOp.number?]
  | unpublish handle client | unread handle client | sourceNotReady handle =>
    simp [Registry.apply, tell, updateHandle, hdead, RegistryOp.number?]
  | abandon number =>
    simp [Registry.apply, Registry.abandon, updateAll, hnames, RegistryOp.number?]
  | find access => simp [Registry.apply, find, hclosed, RegistryOp.number?]
  | reload confs =>
    simp [Registry.apply, Registry.reload, hclosed, Except.toOption, RegistryOp.number?]
  | setHls server =>
    simp [Registry.apply, setHls, hclosed, Except.toOption, RegistryOp.number?]
  | sleep ms => exact absurd rfl (htime ms)
  | close => simp [Registry.apply, close, hclosed, RegistryOp.number?]
  | _ => cases hmedia

end Closed

/-- No operation opens a closed registry again. -/
lemma Hosts.closed_apply {r : Registry} {now time : Nat} (h : r.Hosts now time)
    (hclosed : r.closed = true) (op : RegistryOp) : (r.apply op).closed = true := by
  cases hmedia : op.isMedia with
  | true =>
    rcases h.numbered.changesMedia_apply hmedia with heq | ⟨id, act, heq⟩
    · rwa [heq]
    · rwa [heq]
  | false =>
    by_cases htime : ∃ ms, op = .sleep ms
    · obtain ⟨ms, rfl⟩ := htime
      rw [Registry.apply, advance_of_empty (h.empty hclosed)]
      exact hclosed
    · rw [apply_of_closed hclosed (h.empty hclosed) hmedia fun ms heq => htime ⟨ms, heq⟩]
      unfold reject
      split <;> exact hclosed

/-- No run opens a closed registry again. -/
lemma Reachable.closed_run {Admits : ConfSet → Prop} {r : Registry} (h : r.Reachable Admits)
    (hclosed : r.closed = true) {ops : List RegistryOp} (hops : r.PermitsAll Admits ops) :
    (r.run ops).closed = true := by
  induction ops generalizing r with
  | nil => exact hclosed
  | cons op rest ih =>
    exact ih (h.apply op hops.1) (h.hosts.closed_apply hclosed op) hops.2

/-! ## Terminated registries -/

/-- **Termination**: no path is live, and those of the past are at rest; all requests and questions
are refused, and nothing changes any more but the time. -/
structure IsTerminated (r : Registry) : Prop where
  live : r.live = .empty
  rest : ∀ p ∈ r.paths, p.AtRest
  apply : ∀ op, op.isMedia = false → (∀ ms, op ≠ .sleep ms) → r.apply op = r.reject op
  sleep : ∀ ms, r.apply (.sleep ms) =
    { r with
      now := r.now + ms
      past := r.past.map fun p =>
        { p with launcher := { p.launcher with now := r.now + ms } } }
  find : ∀ access, r.find access = (r, .error .terminated)
  get : ∀ name, r.get name = .error .terminated
  list : r.list = .error .terminated
  snapshot : ∀ name, r.snapshot name = .error .terminated
  snapshotOf : ∀ handle, r.snapshotOf handle = .error .terminated
  reload : ∀ confs, r.reload confs = .error .terminated
  setHls : ∀ server, r.setHls server = .error .terminated
  close : r.close = r
  write : ∀ id u, r.write id u = (r, 0)
  subscribe : ∀ id, r.subscribe? id = none

/-- Nothing happens if nothing happens to a path. -/
lemma modifyPath_self (r : Registry) (id : Nat) : (r.modifyPath id fun p => p) = r := by
  have hlive : (r.live.mapValues fun e => e) = r.live :=
    NameMap.ext_get? fun name => by simp [NameMap.get?_mapValues]
  simp [modifyPath, hlive]

section Streams

variable {r : Registry} (hrest : ∀ p ∈ r.paths, p.AtRest)

include hrest

/-- All streams of paths at rest are closed. -/
lemma closed_of_stream? {id : StreamId} {s : Stream} (hs : r.stream? id = some s) :
    s.closed = true := by
  obtain ⟨p, hp, hs⟩ := Option.bind_eq_some_iff.1 hs
  exact (hrest p (List.mem_of_find?_eq_some hp)).closed_of_stream? hs

/-- Nobody subscribes to a stream of a path at rest. -/
lemma subscribe?_of_atRest (id : StreamId) : r.subscribe? id = none := by
  unfold subscribe?
  cases hs : r.stream? id with
  | none => rfl
  | some s => simp [Stream.subscribe?, closed_of_stream? hrest hs]

/-- Nothing is written to a stream of a path at rest. -/
lemma write_of_atRest (id : StreamId) (u : MediaUnit) : r.write id u = (r, 0) := by
  unfold write
  split
  · rfl
  · next s hs =>
    have hsame : r.modifyStream id (fun s => (s.write u).1) = r := by
      have hpath : r.modifyPath id.path (·.modifyStream id.serial fun s => (s.write u).1) =
          r.modifyPath id.path fun p => p := by
        refine modifyPath_congr fun p hp _ => (hrest p hp).modifyStream_eq id.serial fun s hs => ?_
        rw [Stream.write_of_closed hs]
      unfold modifyStream
      rw [hpath, modifyPath_self]
    rw [hsame, Stream.write_of_closed (closed_of_stream? hrest hs)]

end Streams

/-- **Closed registries** are terminated. -/
theorem Reachable.isTerminated {Admits : ConfSet → Prop} {r : Registry} (h : r.Reachable Admits)
    (hclosed : r.closed = true) : r.IsTerminated := by
  have hhosts := h.hosts
  have hlive := hhosts.empty hclosed
  have hrest : ∀ p ∈ r.paths, p.AtRest := by
    intro p hp
    refine (h.lived p hp).atRest ?_
    rcases mem_paths.1 hp with hp | ⟨name, e, he, -⟩
    · exact (hhosts.gone p hp).1.ended
    · simp [hlive] at he
  refine ⟨hlive, hrest, fun op => apply_of_closed hclosed hlive, fun ms => ?_, fun a => ?_,
    fun name => ?_, ?_, fun name => ?_, fun handle => ?_, fun confs => ?_, fun server => ?_, ?_,
    write_of_atRest hrest, subscribe?_of_atRest hrest⟩
  · have hpast : r.past.map (·.advance (r.now + ms)) = r.past.map fun p =>
        { p with launcher := { p.launcher with now := r.now + ms } } := by
      refine List.map_congr_left fun p hp => ?_
      have hp := hrest p (mem_paths.2 (.inl hp))
      rw [hp.isOver.advance_eq]
      exact hp.runTo_eq _
    rw [Registry.apply, advance_of_empty hlive, hpast]
  · simp [Registry.find, hclosed]
  · simp [Registry.get, hclosed]
  · simp [Registry.list, hclosed]
  · simp [Registry.snapshot, hclosed]
  · simp [Registry.snapshotOf, hlive]
  · simp [Registry.reload, hclosed]
  · simp [Registry.setHls, hclosed]
  · simp [Registry.close, hclosed]

/-! ## Closing -/

/-- **Closing a registry** undoes all that it holds, whatever its paths are doing: each live path is
dissolved, and joins those of the past. Whatever is asked of the registry or of its paths from then
on, they refuse it, and nothing changes any more but the time.

**Proof sketch.** All live paths are in states of lives, in which the teardowns, the timers, the
stream and the recording agree with each other, so that the end meets all that has to be undone. No
operation opens a closed registry again, and closed registries are terminated. -/
theorem Reachable.dissolves_close {Admits : ConfSet → Prop} {r : Registry}
    (h : r.Reachable Admits) :
    (r.closed = false →
      r.close =
        { r with
          live := .empty
          past := r.past ++ r.live.values.map (·.path.destroy)
          closed := true } ∧
      ∀ e ∈ r.live.values, Path.Dissolves e.path e.path.destroy) ∧
    ∀ ops, r.close.PermitsAll Admits ops → (r.close.run ops).IsTerminated := by
  refine ⟨fun hopen => ⟨by simp [Registry.close, hopen], fun e he => ?_⟩, fun ops hops => ?_⟩
  · obtain ⟨name, hget⟩ := (r.live.mem_values_iff e).1 he
    exact (h.lived e.path (mem_paths.2 (.inr ⟨name, e, hget, rfl⟩))).dissolves (h.hosts.alive hget)
  · have hclosed : r.close.closed = true := by
      unfold Registry.close
      split
      · next hc => exact hc
      · rfl
    have hreach : r.close.Reachable Admits := h.apply .close trivial
    exact (hreach.run hops).isTerminated (hreach.closed_run hclosed hops)

/-- A registry with a camera for which a command was launched, somebody publishes and somebody
reads. -/
def cameraInUse : Registry :=
  (start {} (.ofList [Path.attended.conf]) .allowAll none).run
    [.request 0 { name := "cam" } .describe,
      .request 1 { name := "cam", publish := true }
        (.publish ⟨0, ⟨"rtspSession", "a"⟩⟩ ⟨[⟨.video, "H264"⟩]⟩ false none),
      .request 2 { name := "cam" } (.read ⟨1, ⟨"rtspSession", "b"⟩⟩)]

/-- The end of this registry ends the readiness and the launch, for each of which its last command is
launched, and a client who has the path is refused from then on. -/
theorem dissolves_cameraInUse :
    cameraInUse.Reachable (fun _ => True) ∧ cameraInUse.closed = false ∧
      (∃ e ∈ cameraInUse.live.values, e.path.isReady = true ∧
        e.path.launchDemand.isIdle = false ∧ Path.Dissolves e.path e.path.destroy) ∧
      cameraInUse.close.past.map (fun p => p.launcher.commands.map (·.1)) =
        [["launch", "follow", "report", "recall"]] ∧
      (cameraInUse.close.run [.requestOf 3 ⟨"cam", 1⟩ "" .describe, .close]).IsTerminated ∧
      (cameraInUse.close.run [.requestOf 3 ⟨"cam", 1⟩ "" .describe, .close]).refusals =
        [(3, .terminated)] := by
  have hreach : cameraInUse.Reachable (fun _ => True) :=
    Reachable.run (.start trivial {} .allowAll none) ⟨trivial, trivial, trivial, trivial⟩
  have hopen : cameraInUse.closed = false := by cbv
  have hused : (cameraInUse.live.get? "cam").any (fun e => e.path.isReady = true ∧
      e.path.launchDemand.isIdle = false) = true := by cbv
  obtain ⟨e, he, hused⟩ := (Option.any_eq_true _ _).1 hused
  obtain ⟨hready, hbusy⟩ := of_decide_eq_true hused
  obtain ⟨hcloses, hlater⟩ := hreach.dissolves_close
  have hmem : e ∈ cameraInUse.live.values := (cameraInUse.live.mem_values_iff e).2 ⟨"cam", he⟩
  exact ⟨hreach, hopen, ⟨e, hmem, hready, hbusy, (hcloses hopen).2 e hmem⟩,
    by cbv, hlater _ ⟨trivial, trivial, trivial⟩, by cbv⟩

/-- A registry with a camera whose command for the loss of readiness has a null character, and to
which somebody publishes. -/
def cameraInVain : Registry :=
  (start {} (.ofList [Path.reportedInVain.conf]) .allowAll none).run
    [.request 0 { name := "cam", publish := true }
      (.publish ⟨0, ⟨"rtspSession", "a"⟩⟩ ⟨[⟨.video, "H264"⟩]⟩ false none)]

/-- **A command with a null character is not launched** when the registry is closed, though a path
is ready and the environment of its readiness has none. -/
theorem unlaunched_cameraInVain :
    cameraInVain.Reachable (fun _ => True) ∧ cameraInVain.closed = false ∧
      ∃ e ∈ cameraInVain.live.values, e.path.isReady = true ∧
        e.path.conf.commands.onNotReady.isEmpty = false ∧
        e.path.openings.ready = some Path.reportedEnvironment ∧
        Path.reportedEnvironment.IsNullFree ∧
        e.path.destroy ∈ cameraInVain.close.past ∧ e.path.destroy.launcher.commands = [] := by
  have hreach : cameraInVain.Reachable (fun _ => True) :=
    Reachable.run (.start trivial {} .allowAll none) ⟨trivial, trivial⟩
  have hopen : cameraInVain.closed = false := by cbv
  have hcamera : (cameraInVain.live.get? "cam").map (fun e =>
      (e.path.isReady, e.path.conf.commands, e.path.launcher.commands, e.path.openings.ready)) =
        some (true, Path.reportedInVain.conf.commands, [], some Path.reportedEnvironment) := by cbv
  obtain ⟨e, he, hcamera⟩ := Option.map_eq_some_iff.1 hcamera
  obtain ⟨hready, hcommands, hlaunches, henv⟩ := by simpa only [Prod.mk.injEq] using hcamera
  have hmem : e ∈ cameraInVain.live.values := (cameraInVain.live.mem_values_iff e).2 ⟨"cam", he⟩
  have hleft : e.path.destroy ∈ cameraInVain.close.past := by
    rw [Registry.close, if_neg (by simp [hopen])]
    exact List.mem_append_right _ (List.mem_map.2 ⟨e, hmem, rfl⟩)
  refine ⟨hreach, hopen, e, hmem, hready, by rw [hcommands]; rfl, henv, by decide, hleft,
    ?_⟩
  have hlived : e.path.Lived := hreach.lived e.path (mem_paths.2 (.inr ⟨"cam", e, he, rfl⟩))
  have hnull : ¬ NullFree Path.reportedInVain.conf.commands.onNotReady := by decide
  have hnone : Path.endLaunches e.path.conf.commands.onNotReady e.path.openings.ready = [] := by
    rw [hcommands, henv, Path.endLaunches, Option.toList_some, List.flatMap_singleton]
    exact launchOf_of_null hnull _
  have hundemanded :
      Path.endLaunches e.path.conf.commands.onUndemand e.path.openings.demand = [] := by
    rw [hcommands]
    cases e.path.openings.demand <;> rfl
  rw [hlived.equipped.commands_destroy (hreach.hosts.alive he), hlaunches, hnone, hundemanded]
  rfl

end Registry

end LivePaths
