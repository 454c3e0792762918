import LivePaths.Proofs.Path.Effects

set_option relaxedAutoImplicit false
set_option autoImplicit false

/-!
# Histories of paths

A path keeps its identity and its configuration whatever happens to it, but for a new configuration,
and its history only grows. It notifies the registry of its end exactly if it ends, and it refuses a
publisher because of the configuration only if the configurations differ.

## Main definitions

* `PathEvent.Agrees` — events other than refusing a configuration.
* `Path.Proceeds`, `Path.Continues` — a path goes on as another one, which may have ended.

## Main results

* `Path.continues_receive`, `Path.continues_advance`, `Path.proceeds_reload` — all that happens to a
  path lets it go on.
* `Path.continues_receive_of_agrees` — messages in which nobody expects another configuration.
* `Path.log_step`, `Path.log_run` — nothing is ever taken back.
-/

namespace LivePaths

/-! ## Events -/

namespace PathEvent

/-- **Agreement**: an event other than refusing a publisher because of the configuration. -/
def Agrees (e : PathEvent) : Prop := ∀ n, e ≠ .answered n (.refused .configurationChanged)

/-- Events that neither are the end of a path nor refuse a publisher because of the configuration.
-/
def isPlain : PathEvent → Bool
  | .noticed .closed => false
  | .answered _ (.refused .configurationChanged) => false
  | _ => true

lemma agrees_of_isPlain {e : PathEvent} (h : e.isPlain = true) : e.Agrees := by
  rintro n rfl
  simp [isPlain] at h

lemma ne_closed_of_isPlain {e : PathEvent} (h : e.isPlain = true) : e ≠ .noticed .closed := by
  rintro rfl
  simp [isPlain] at h

end PathEvent

/-- The configuration that a publisher expects, if it expects one. -/
def PathMessage.expected? : PathMessage → Option Conf
  | .addPublisher _ _ _ _ _ expected => expected
  | _ => none

namespace Path

/-! ## Going on -/

/-- **Identity**: what a path keeps whatever happens to it, but for a new configuration. -/
def identity (p : Path) : Nat × String × Conf × List String × PathSettings :=
  (p.id, p.name, p.conf, p.captures, p.settings)

/-- **Progress**: a path with the same identity that is alive exactly if the first one is, and whose
history has grown by plain events. -/
structure Proceeds (p q : Path) : Prop where
  same : q.identity = p.identity
  ended : q.ended = p.ended
  log : ∃ es, q.log = p.log ++ es ∧ ∀ e ∈ es, e.isPlain = true

namespace Proceeds

variable {p q r : Path}

lemma refl (p : Path) : Proceeds p p := ⟨rfl, rfl, [], by simp, by simp⟩

lemma trans (h : Proceeds p q) (h' : Proceeds q r) : Proceeds p r := by
  obtain ⟨es, hlog, hplain⟩ := h.log
  obtain ⟨fs, hlog', hplain'⟩ := h'.log
  refine ⟨h'.same.trans h.same, h'.ended.trans h.ended, es ++ fs, ?_, ?_⟩
  · rw [hlog', hlog, List.append_assoc]
  · exact List.forall_mem_append.2 ⟨hplain, hplain'⟩

/-- The history has only grown. -/
lemma grows (h : Proceeds p q) : p.log <+: q.log := by
  obtain ⟨es, hes, -⟩ := h.log
  exact hes ▸ List.prefix_append ..

/-- Changes of what is held, of readers and of timers are not part of the history. -/
lemma silently (hsame : q.identity = p.identity) (hended : q.ended = p.ended)
    (hlog : q.log = p.log) : Proceeds p q :=
  ⟨hsame, hended, [], by simp [hlog], by simp⟩

end Proceeds

/-- **Continuation**: a path goes on as another one with the same identity. Its history has grown by
events of some kind, the registry was told of the end exactly if the path has ended since, and only
a path of a pattern can end so. -/
structure Continues (Q : PathEvent → Prop) (p q : Path) : Prop where
  same : q.identity = p.identity
  ended : p.ended = true → q.ended = true
  kept : p.conf.hasPattern = false → q.ended = p.ended
  log : ∃ es, q.log = p.log ++ es ∧ (∀ e ∈ es, Q e) ∧
    (p.ended = false → (q.ended = true ↔ .noticed .closed ∈ es))

lemma Proceeds.continues {p q : Path} (h : Proceeds p q) : Continues PathEvent.Agrees p q := by
  obtain ⟨es, hlog, hplain⟩ := h.log
  refine ⟨h.same, fun hp => h.ended.trans hp, fun _ => h.ended, es, hlog,
    fun e he => PathEvent.agrees_of_isPlain (hplain e he), fun hp => ?_⟩
  rw [h.ended, hp]
  exact iff_of_false Bool.false_ne_true fun hmem =>
    PathEvent.ne_closed_of_isPlain (hplain _ hmem) rfl

namespace Continues

variable {Q : PathEvent → Prop} {p q r : Path}

lemma id_eq (h : Continues Q p q) : q.id = p.id := congrArg (·.1) h.same

lemma name_eq (h : Continues Q p q) : q.name = p.name := congrArg (·.2.1) h.same

lemma conf_eq (h : Continues Q p q) : q.conf = p.conf := congrArg (·.2.2.1) h.same

/-- The history has only grown. -/
lemma grows (h : Continues Q p q) : p.log <+: q.log := by
  obtain ⟨es, hes, -⟩ := h.log
  exact hes ▸ List.prefix_append ..

lemma trans (h : Continues Q p q) (h' : Continues Q q r) : Continues Q p r := by
  obtain ⟨es, hlog, hall, hend⟩ := h.log
  obtain ⟨fs, hlog', hall', hend'⟩ := h'.log
  refine ⟨h'.same.trans h.same, fun hp => h'.ended (h.ended hp),
    fun hp => (h'.kept (h.conf_eq ▸ hp)).trans (h.kept hp), es ++ fs, ?_, ?_, fun hp => ?_⟩
  · rw [hlog', hlog, List.append_assoc]
  · exact List.forall_mem_append.2 ⟨hall, hall'⟩
  · rw [List.mem_append]
    cases hq : q.ended with
    | true => exact iff_of_true (h'.ended hq) (.inl ((hend hp).1 hq))
    | false =>
      have hnot : .noticed .closed ∉ es := fun hmem => by simp [(hend hp).2 hmem] at hq
      simpa [hnot] using hend' hq

lemma mono {Q' : PathEvent → Prop} (hQ : ∀ e, Q e → Q' e) (h : Continues Q p q) :
    Continues Q' p q := by
  obtain ⟨es, hlog, hall, hend⟩ := h.log
  exact ⟨h.same, h.ended, h.kept, es, hlog, fun e he => hQ e (hall e he), hend⟩

end Continues

/-! ## Answers -/

/-- Answers to held requests are plain if none of them refuses a configuration. -/
lemma isPlain_answerEvents {answers : List (Nat × Answer)}
    (h : ∀ x ∈ answers, x.2 ≠ .refused .configurationChanged) :
    ∀ e ∈ answerEvents answers, e.isPlain = true := by
  intro e he
  obtain ⟨x, hx, rfl⟩ := List.mem_map.1 he
  have hne := h x hx
  unfold PathEvent.isPlain
  split <;> simp_all

/-! ## The operations -/

section Operations

variable (p : Path)

/-- Writing down a plain event. -/
lemma proceeds_emit {e : PathEvent} (he : e.isPlain = true) :
    Proceeds p (p.emit e) :=
  ⟨rfl, rfl, [e], rfl, by simpa using he⟩

/-- Answering a request, but not because of the configuration. -/
lemma proceeds_answer (request : Nat) {a : Answer} (ha : a ≠ .refused .configurationChanged) :
    Proceeds p (p.answer request a) := by
  refine proceeds_emit p ?_
  unfold PathEvent.isPlain
  split <;> simp_all

lemma proceeds_startSource (query : String) :
    Proceeds p (p.startSource query) := by
  rw [startSource_eq]
  refine ⟨rfl, rfl, _, List.append_assoc .., ?_⟩
  exact List.forall_mem_append.2 ⟨p.forall_sourceCall rfl, by simp [PathEvent.isPlain]⟩

lemma proceeds_stopSource (reason : String) :
    Proceeds p (p.stopSource reason) := by
  rw [stopSource_eq]
  refine ⟨rfl, rfl, _, List.append_assoc .., ?_⟩
  exact List.forall_mem_append.2 ⟨p.forall_sourceCall rfl, by simp [PathEvent.isPlain]⟩

lemma proceeds_startLaunch (query : String) :
    Proceeds p (p.startLaunch query) :=
  ⟨rfl, rfl, [.demand query], rfl, by simp [PathEvent.isPlain]⟩

lemma proceeds_stopLaunch (reason : String) :
    Proceeds p (p.stopLaunch reason) := by
  rw [stopLaunch_eq]
  exact ⟨rfl, rfl, _, rfl, by simp [PathEvent.isPlain]⟩

lemma proceeds_becomeReady (s : Stream) : Proceeds p (p.becomeReady s) := by
  have hlog := p.log_becomeReady s
  rw [becomeReady_eq] at hlog ⊢
  exact ⟨rfl, rfl, _, hlog,
    p.forall_readyEvents (P := (·.isPlain = true)) (fun _ => rfl) rfl rfl s⟩

lemma proceeds_becomeUnready : Proceeds p p.becomeUnready := by
  cases hs : p.stream with
  | none =>
    rw [becomeUnready_of_none p hs]
    exact .refl p
  | some s =>
    have hlog := p.log_becomeUnready hs
    rw [becomeUnready_eq p hs] at hlog ⊢
    exact ⟨rfl, rfl, _, hlog, p.forall_unreadyEvents rfl (fun _ => rfl) rfl fun _ => rfl⟩

lemma proceeds_failHeld {e : PathError} (he : e ≠ .configurationChanged) :
    Proceeds p (p.failHeld e) := by
  rw [failHeld_eq]
  refine ⟨rfl, rfl, _, rfl, isPlain_answerEvents ?_⟩
  simpa using fun _ _ => he

lemma Admits.ne_refused {p : Path} {a : Answer} (ha : p.Admits a) :
    a ≠ .refused .configurationChanged := by
  rcases ha with rfl | rfl <;> simp

lemma proceeds_attach (request : Nat) (client : Client) :
    Proceeds p (p.attach request client) := by
  by_cases hr : p.isReady = true
  · obtain ⟨cs, a, ha, heq⟩ := p.attach_eq hr request client
    rw [heq]
    have htaken : Proceeds p (p.takeIn cs) := .silently rfl rfl rfl
    exact htaken.trans (proceeds_answer _ request ha.ne_refused)
  · have heq : p.attach request client =
        p.answer request (.refused (.noStreamAvailable p.name)) := by
      simp [attach, hr]
    rw [heq]
    exact proceeds_answer p request (by simp)

lemma proceeds_releaseHeld : Proceeds p p.releaseHeld := by
  by_cases hr : p.isReady = true
  · obtain ⟨cs, answers, -, hall, heq⟩ := p.releaseHeld_eq hr
    rw [heq]
    exact ⟨rfl, rfl, _, rfl, isPlain_answerEvents fun x hx => (hall x hx).ne_refused⟩
  · simpa [releaseHeld, hr] using Proceeds.refl p

/-- **The end**: the registry is told, and the rest of the history is plain. -/
lemma shutdown_history : p.shutdown.identity = p.identity ∧
    ∃ es, p.shutdown.log = p.log ++ (p.noticed .closed ++ es) ∧ ∀ e ∈ es, e.isPlain = true := by
  have hrest : Proceeds p.beginEnd p.shutdown := by
    have hreleased : Proceeds p.beginEnd p.beginEnd.becomeUnready.releaseSource := by
      refine (proceeds_becomeUnready _).trans ?_
      rw [releaseSource_eq]
      exact ⟨rfl, rfl, _, rfl, forall_sourceRelease _ (fun _ => rfl) fun _ => rfl⟩
    rw [shutdown_eq]
    split
    · exact hreleased
    · exact hreleased.trans (proceeds_stopLaunch _ _)
  obtain ⟨es, hlog, hplain⟩ := hrest.log
  refine ⟨hrest.same, [.uninit] ++
    answerEvents (p.waiting.map fun n => (n, .refused .terminated)) ++ es, ?_, ?_⟩
  · rw [hlog]
    simp [beginEnd]
  · simp only [List.forall_mem_append]
    exact ⟨⟨by simp [PathEvent.isPlain], isPlain_answerEvents (by simp)⟩, hplain⟩

/-- The end of a path adds to its history. -/
lemma log_shutdown : p.log <+: p.shutdown.log := by
  obtain ⟨-, es, hlog, -⟩ := p.shutdown_history
  exact hlog ▸ List.prefix_append ..

/-- A path that is destroyed keeps its number. -/
lemma id_destroy : p.destroy.id = p.id := by
  unfold destroy
  split
  · rfl
  · exact congrArg (·.1) (shutdown_history { p with ended := true }).1

lemma log_destroy : p.log <+: p.destroy.log := by
  unfold destroy
  split
  · exact List.prefix_refl _
  · exact log_shutdown { p with ended := true }

/-- **An unused path ends**, and the registry is told. -/
lemma continues_closeIfUnused : Continues PathEvent.Agrees p p.closeIfUnused := by
  unfold closeIfUnused
  split
  · next hu =>
    obtain ⟨hsame, es, hlog, hplain⟩ := p.shutdown_history
    have hpattern : p.conf.hasPattern = true := by simp_all [isUnused]
    refine ⟨hsame, fun _ => p.isOver_shutdown.ended, fun h => by simp [hpattern] at h,
      _, hlog, ?_, fun he => ?_⟩
    · refine List.forall_mem_append.2 ⟨?_, fun e he => PathEvent.agrees_of_isPlain (hplain e he)⟩
      unfold noticed
      split <;> simp [PathEvent.Agrees]
    · exact iff_of_true p.isOver_shutdown.ended (by simp [noticed, he])
  · exact (Proceeds.refl p).continues

/-! ## The beginning -/

lemma proceeds_takeSource : Proceeds p p.takeSource := by
  have hcreated (url : String) : Proceeds p
      ({ p with source := some (.static url) }.emit (.sourceCreated p.name url p.captures)) :=
    ⟨rfl, rfl, _, rfl, by simp [PathEvent.isPlain]⟩
  unfold takeSource
  split
  · exact .silently rfl rfl rfl
  · exact .refl p
  · dsimp only
    split
    · exact hcreated _
    · exact (hcreated _).trans (proceeds_emit _ rfl)

/-- **A new path** is alive and has its identity, and its history is plain. -/
theorem create_history (settings : PathSettings) (now id : Nat) (name : String)
    (found : ConfSet.Found) :
    (create settings now id name found).identity =
        (id, name, found.conf, found.captures, settings) ∧
      (create settings now id name found).ended = false ∧
      ∀ e ∈ (create settings now id name found).log, e.isPlain = true := by
  let p : Path :=
    { id, name, conf := found.conf, captures := found.captures, settings, launcher := { now } }
  have hlaunched : Proceeds p.takeSource p.takeSource.launchInit := .silently rfl rfl rfl
  obtain ⟨hsame, hended, es, hlog, hplain⟩ :=
    (p.proceeds_takeSource.trans hlaunched).trans (proceeds_emit _ (e := .init) rfl)
  refine ⟨hsame, hended, ?_⟩
  rw [create, hlog]
  exact hplain

@[simp]
lemma id_create (settings : PathSettings) (now id : Nat) (name : String) (found : ConfSet.Found) :
    (create settings now id name found).id = id :=
  congrArg (·.1) (create_history settings now id name found).1

/-! ## Requests and reports -/

lemma proceeds_awaken {query : String} {q : Path} (h : p.awaken? query = some q) :
    Proceeds p q := by
  unfold awaken? at h
  split at h
  · obtain rfl := Option.some.inj h
    split
    · exact p.proceeds_startSource query
    · exact .refl p
  · split at h
    · obtain rfl := Option.some.inj h
      split
      · exact p.proceeds_startLaunch query
      · exact .refl p
    · cases h

lemma proceeds_describe (request : Nat) (query : String) :
    Proceeds p (p.describe request query) := by
  unfold describe
  split
  · exact proceeds_answer p request (by simp)
  · split
    · exact proceeds_answer p request (by simp)
    · split
      · next q hq =>
        exact (p.proceeds_awaken hq).trans (.silently rfl rfl rfl)
      · split <;> exact proceeds_answer p request (by simp)

lemma proceeds_addReader (request : Nat) (client : Client) (query : String) :
    Proceeds p (p.addReader request client query) := by
  unfold addReader
  split
  · exact p.proceeds_attach request client
  · split
    · next q hq =>
      exact (p.proceeds_awaken hq).trans (.silently rfl rfl rfl)
    · exact proceeds_answer p request (by simp)

lemma proceeds_removeReader (client : Client) :
    Proceeds p (p.removeReader client) := by
  rw [removeReader_eq]
  exact .silently rfl rfl rfl

lemma proceeds_removePublisher (client : Client) :
    Proceeds p (p.removePublisher client) := by
  unfold removePublisher
  split
  · exact p.proceeds_becomeUnready.trans (.silently rfl rfl rfl)
  · exact .refl p

lemma proceeds_evictPublisher : Proceeds p p.evictPublisher := by
  unfold evictPublisher
  split
  · exact .refl p
  · next client _ =>
    have hemit := p.proceeds_emit (e := .publisherClosed client) rfl
    exact (hemit.trans (proceeds_becomeUnready _)).trans
      (.silently rfl rfl rfl)

lemma proceeds_noteSourceReady : Proceeds p p.noteSourceReady := by
  unfold noteSourceReady
  split
  · exact .silently rfl rfl rfl
  · exact .refl p

lemma proceeds_notePublisherReady : Proceeds p p.notePublisherReady := by
  unfold notePublisherReady
  split
  · exact .silently rfl rfl rfl
  · exact .refl p

/-- What is refused for another reason than the configuration. -/
lemma ne_configurationChanged_of_open {path : String} {d : MediaDescription} {rtp : Bool}
    {capacity : Nat} {e : PathError} (h : Stream.open? path d rtp capacity = .error e) :
    e ≠ .configurationChanged := by
  unfold Stream.open? at h
  split at h
  · obtain rfl := Except.error.inj h
    simp
  · cases h

/-- Being taken over lets a path go on. -/
lemma proceeds_takenOver (client : Client) (query : String) (s : Stream) :
    Proceeds p ((p.takenOver client query).becomeReady s).notePublisherReady.releaseHeld := by
  refine .trans ?_ (proceeds_releaseHeld _)
  refine .trans ?_ (proceeds_notePublisherReady _)
  refine p.proceeds_evictPublisher.trans (.trans ?_ (proceeds_becomeReady _ s))
  exact .silently rfl rfl rfl

/-- A publisher who is taken lets the path go on. -/
lemma proceeds_addPublisher {request : Nat} {client : Client} {d : MediaDescription}
    {rtp : Bool} {query : String} {expected : Option Conf} {q : Path}
    (h : p.addPublisher request client d rtp query expected = .ok q) :
    Proceeds p q := by
  rw [addPublisher_eq] at h
  split at h
  · cases h
  · rw [← Except.ok.inj h]
    exact (p.proceeds_takenOver client query _).trans (proceeds_answer _ request (by simp))

/-- A publisher is refused because of the configuration only if it expects another one. -/
lemma addPublisher_ne_configurationChanged {request : Nat} {client : Client}
    {d : MediaDescription} {rtp : Bool} {query : String} {expected : Option Conf} {e : PathError}
    (h : p.addPublisher request client d rtp query expected = .error e)
    (hagrees : ∀ c ∈ expected, c = p.conf) : e ≠ .configurationChanged := by
  have hany : expected.any (· ≠ p.conf) = false := by
    cases expected <;> simp_all
  unfold addPublisher publisherFault? at h
  simp only [hany, Bool.false_eq_true, ↓reduceIte] at h
  split at h
  · next hf =>
    obtain rfl := Except.error.inj h
    split at hf
    · obtain rfl := Option.some.inj hf; simp
    · split at hf
      · obtain rfl := Option.some.inj hf; simp
      · split at hf
        · obtain rfl := Option.some.inj hf; simp
        · cases hf
  · cases hs : Stream.open? p.name d rtp p.settings.streamCapacity with
    | error e' =>
      simp only [hs, bind, Except.bind, Except.error.injEq] at h
      exact h ▸ ne_configurationChanged_of_open hs
    | ok s => simp [hs, bind, Except.bind] at h

lemma proceeds_sourceReady (request : Nat) (d : MediaDescription) (rtp : Bool) :
    Proceeds p (p.sourceReady request d rtp) := by
  unfold sourceReady
  split
  · next e hs =>
    refine p.proceeds_becomeUnready.trans (proceeds_answer _ request ?_)
    simpa using ne_configurationChanged_of_open hs
  · next s _ =>
    refine .trans ?_ (proceeds_answer _ request (by simp))
    refine .trans ?_ (proceeds_releaseHeld _)
    exact (p.proceeds_becomeUnready.trans (proceeds_becomeReady _ s)).trans
      (proceeds_noteSourceReady _)

lemma proceeds_sourceNotReady : Proceeds p p.sourceNotReady := by
  unfold sourceNotReady
  dsimp only
  split
  · exact p.proceeds_becomeUnready.trans (proceeds_stopSource _ _)
  · exact p.proceeds_becomeUnready

/-! ## Messages -/

/-- A message in which nobody expects another configuration lets a path proceed, and may end it
afterwards because it is unused. -/
lemma receive_proceeds (m : PathMessage) (hagrees : ∀ c ∈ m.expected?, c = p.conf) :
    ∃ q, Proceeds p q ∧ (p.receive m = q ∨ p.receive m = q.closeIfUnused) := by
  unfold receive
  split
  · exact ⟨p, .refl p, .inl rfl⟩
  · cases m with
    | describe request query => exact ⟨_, p.proceeds_describe request query, .inr rfl⟩
    | addPublisher request client d rtp query expected =>
      dsimp only
      split
      · next q hq => exact ⟨q, p.proceeds_addPublisher hq, .inl rfl⟩
      · next e he =>
        have hne := p.addPublisher_ne_configurationChanged he hagrees
        exact ⟨_, p.proceeds_answer request (by simpa using hne), .inr rfl⟩
    | removePublisher client => exact ⟨_, p.proceeds_removePublisher client, .inr rfl⟩
    | addReader request client query =>
      exact ⟨_, p.proceeds_addReader request client query, .inr rfl⟩
    | removeReader client => exact ⟨_, p.proceeds_removeReader client, .inl rfl⟩
    | sourceReady request d rtp => exact ⟨_, p.proceeds_sourceReady request d rtp, .inl rfl⟩
    | sourceNotReady => exact ⟨_, p.proceeds_sourceNotReady, .inr rfl⟩
    | abandon request => exact ⟨p.abandon request, .silently rfl rfl rfl, .inl rfl⟩

/-- **A message** in which nobody expects another configuration. -/
theorem continues_receive_of_agrees (m : PathMessage) (hagrees : ∀ c ∈ m.expected?, c = p.conf) :
    Continues PathEvent.Agrees p (p.receive m) := by
  obtain ⟨q, hq, heq | heq⟩ := p.receive_proceeds m hagrees
  · exact heq ▸ hq.continues
  · exact heq ▸ hq.continues.trans q.continues_closeIfUnused

/-- **A message.** -/
theorem continues_receive (m : PathMessage) : Continues (fun _ => True) p (p.receive m) := by
  by_cases hagrees : ∀ c ∈ m.expected?, c = p.conf
  · exact (p.continues_receive_of_agrees m hagrees).mono fun _ _ => trivial
  · cases m with
    | addPublisher request client d rtp query expected =>
      unfold receive
      split
      · exact (Proceeds.refl p).continues.mono fun _ _ => trivial
      · dsimp only
        split
        · next q hq => exact (p.proceeds_addPublisher hq).continues.mono fun _ _ => trivial
        · next e _ =>
          refine .trans ?_ ((continues_closeIfUnused _).mono fun _ _ => trivial)
          exact ⟨rfl, fun h => h, fun _ => rfl, [.answered request (.refused e)], rfl,
            fun _ _ => trivial, fun hp => by simp [answer, emit, hp]⟩
    | _ => exact absurd (by simp [PathMessage.expected?]) hagrees

/-! ## Time -/

lemma proceeds_runTo (time : Nat) : Proceeds p (p.runTo time) := .silently rfl rfl rfl

lemma continues_expire : Continues PathEvent.Agrees p p.expire := by
  have hfail := p.proceeds_failHeld (e := .sourceTimedOut p.name) (by simp)
  unfold expire
  split
  · exact (hfail.trans (proceeds_stopSource _ _)).continues.trans (continues_closeIfUnused _)
  · split
    · exact (p.proceeds_becomeUnready.trans (proceeds_stopSource _ _)).continues.trans
        (continues_closeIfUnused _)
    · split
      · exact (hfail.trans (proceeds_stopLaunch _ _)).continues.trans (continues_closeIfUnused _)
      · split
        · exact (p.proceeds_stopLaunch _).continues
        · exact (Proceeds.refl p).continues

lemma continues_passDeadline (time : Nat) : Continues PathEvent.Agrees p (p.passDeadline time) := by
  unfold passDeadline
  split
  · exact (Proceeds.refl p).continues
  · split
    · exact (p.proceeds_runTo _).continues.trans (continues_expire _)
    · exact (Proceeds.refl p).continues

/-- **Passing of time.** -/
theorem continues_advance (time : Nat) : Continues PathEvent.Agrees p (p.advance time) :=
  ((p.continues_passDeadline time).trans (continues_passDeadline _ time)).trans
    (proceeds_runTo _ time).continues

/-! ## New configurations and runs -/

/-- **A new configuration** only changes the configuration. -/
theorem proceeds_reload (c : Conf) : Proceeds { p with conf := c } (p.reload c) := by
  rw [reload_eq]
  refine ⟨rfl, rfl, _, List.append_assoc .., ?_⟩
  exact List.forall_mem_append.2
    ⟨p.forall_sourceCall rfl, p.forall_recordingChange c (fun _ => rfl) fun _ => rfl⟩

/-- **No step takes anything back** from the history. -/
theorem log_step (s : PathStep) : p.log <+: (p.step s).log := by
  cases s with
  | message m => exact (p.continues_receive m).grows
  | reload c => exact (p.proceeds_reload c).grows
  | pass time => exact (p.proceeds_runTo time).grows
  | expire => exact p.continues_expire.grows
  | destroy => exact p.log_destroy

/-- No run takes anything back. -/
theorem log_run (ss : List PathStep) : p.log <+: (p.run ss).log := by
  induction ss generalizing p with
  | nil => exact List.prefix_refl _
  | cons s rest ih => exact (p.log_step s).trans (ih _)

end Operations

end Path

end LivePaths
