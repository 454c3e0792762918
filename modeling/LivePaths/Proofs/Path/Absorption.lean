import LivePaths.Proofs.Path.Destruction
import LivePaths.Proofs.Path.Takeover

set_option relaxedAutoImplicit false
set_option autoImplicit false

/-!
# New configurations that a running path absorbs

A path goes on with its stream, its source, its readers and everybody who waits when a configuration
is handed over that differs in nothing but what it can pick up. The source that it runs itself is
told, and what is recorded follows the new configuration; nobody else hears of it.

## Main definitions

* `Path.Absorbs` — a path that has picked up a configuration, and what this has changed.

## Main results

* `Path.Reached.url_eq` — the source that a path runs itself is the one of its configuration.
* `Path.Reached.absorbs` — new configurations in all states that can be reached.
* `Path.canHotReload_after` — what all configurations of a life have in common.
-/

namespace LivePaths

namespace Path

variable {p q : Path}

/-! ## The source that a path runs itself -/

/-- **The source is the one of the configuration**, if the path runs it itself. -/
def SourceNamed (p : Path) : Prop :=
  ∀ url, p.source = some (.static url) → url = p.conf.source.toText

/-- A change after which the path still has its source and its configuration. -/
lemma SourceNamed.of_same (h : p.SourceNamed) (hsource : q.source = p.source)
    (hconf : q.conf = p.conf) : q.SourceNamed := by
  unfold SourceNamed
  rw [hsource, hconf]
  exact h

/-- What a path does not run itself needs no name. -/
lemma SourceNamed.of_ne (h : ∀ url, p.source ≠ some (.static url)) : p.SourceNamed :=
  fun url hs => absurd hs (h url)

/-- **Every change** keeps the source that of the configuration. -/
lemma SourceNamed.change {Came : PathMessage → Prop} (h : p.SourceNamed) (hq : Change Came p q) :
    q.SourceNamed := by
  cases hq with
  | drive hq =>
    obtain ⟨es, -, heq⟩ := hq.eq
    rw [heq]
    exact h
  | goOn hq =>
    rw [hq.same]
    exact h
  | attach n client hlive hready hm =>
    obtain ⟨cs, a, -, heq⟩ := p.attach_eq hready n client
    rw [heq]
    exact h
  | failHeld hlive =>
    rw [failHeld_eq]
    exact h
  | removeReader client hlive =>
    rw [removeReader_eq]
    exact h
  | becomeReady s hlive hstream hd hnew =>
    rw [becomeReady_eq]
    exact h
  | becomeUnready hstream =>
    rw [becomeUnready_eq p hstream]
    exact h
  | vacate client hlive hclient hstream => exact .of_ne (by simp)
  | occupy n client d rtp query expected hlive hsource hstream hm => exact .of_ne (by simp)
  | reload c hlive hc =>
    -- a source that the path runs itself is named anew with the configuration
    intro url hs
    rw [reload_eq] at hs ⊢
    simp only [sourceUnder] at hs
    split at hs
    · exact (Source.static.inj (Option.some.inj hs)).symm
    · next hne => exact absurd hs (hne url)
  | releaseSource hended hstream =>
    rw [releaseSource_eq]
    exact .of_ne (by simp)
  | answer | holdDescribe | holdReader | abandon | clear | evict | beginEnd => exact h

/-- **What a path runs itself** is what its configuration names, in every reached state. -/
theorem Reached.url_eq (h : p.Reached) {url : String} (hs : p.source = some (.static url)) :
    url = p.conf.source.toText := by
  have hnamed : p.SourceNamed := by
    refine h.induction (I := SourceNamed) (fun settings now id name found url hs => ?_)
      fun _ _ hchange hp => hp.change hchange
    rw [create_eq] at hs ⊢
    cases hk : found.conf.source <;> simp [SourceKind.first, SourceKind.toText, hk] at hs ⊢
    · exact hs.symm
    · exact hs.symm
  exact hnamed url hs

/-! ## Absorption -/

/-- **Absorption** of a configuration: but for the configuration, the recording and what is written
down, the path is the same one. The source that it runs itself is told once. If the path is ready
and what is recorded differs, the running recording is closed, and another one is started if the new
configuration asks for it and there is somebody who records. Nothing else is written down, so that
no request is answered, nobody is disconnected or notified, and no milestone is reported; from
outside the name of the configuration is the only difference. The source, what runs on demand, the
limit of readers and whether a publisher may be replaced are as before. -/
structure Absorbs (p : Path) (c : Conf) (q : Path) : Prop where
  same : q = { p with conf := c, recording := q.recording, log := q.log }
  log : q.log = p.log ++ (if p.conf.hasStaticSource then [.sourceReloaded c.name] else []) ++
    if p.isReady && p.conf.recordChanged c then
      (p.recording.toList.map fun r => .recordStopped r.params.pathFormat) ++
        if c.record.enabled && p.settings.recorders then
          p.stream.toList.map fun s => .recordStarted (.ofConf p.name c) s.description.toText
        else []
    else []
  recording : q.recording =
    if p.isReady && p.conf.recordChanged c then
      if c.record.enabled && p.settings.recorders then some (.ofConf p.name c) else none
    else p.recording
  due : q.recording = q.recordingDue
  unheard : ∀ e ∈ p.logSince q, e = .sourceReloaded c.name ∨ e.recorderCall?.isSome = true
  seen : q.snapshot = { p.snapshot with conf := c.name }
  source : c.source = p.conf.source
  onDemand : c.hasOnDemandSource = p.conf.hasOnDemandSource ∧
    c.hasOnDemandLaunch = p.conf.hasOnDemandLaunch
  maxReaders : c.maxReaders = p.conf.maxReaders
  overridePublisher : c.overridePublisher = p.conf.overridePublisher

/-- The source stays the same one under a configuration that names it. -/
lemma SourceNamed.sourceUnder_eq (h : p.SourceNamed) {c : Conf} (hc : c.source = p.conf.source) :
    p.sourceUnder c = p.source := by
  unfold sourceUnder
  split
  · next url hs => rw [hs, hc, h url hs]
  · rfl

/-- A path that lives runs its source itself if its configuration says so. -/
lemma Coherent.runsSource_eq (h : p.Coherent) : p.runsSource = p.conf.hasStaticSource := by
  have hiff := h.source.static_iff
  unfold runsSource Conf.hasStaticSource
  split
  · next url hs => exact (hiff.1 ⟨url, hs⟩).symm
  · next hne =>
    cases hk : p.conf.source.isStatic with
    | false => rfl
    | true =>
      obtain ⟨url, hs⟩ := hiff.2 hk
      exact absurd hs (hne url)

/-- **A configuration is absorbed** in every reached state in which this is possible.

**Proof sketch.** The source that the path runs itself is the one of its configuration in all
reached states, and the configurations agree on it, so that it stays when it is named anew. Only the
recording is left, which is due to the configuration before and after. -/
theorem Reached.absorbs (h : p.Reached) (hlive : p.ended = false) {c : Conf}
    (hc : p.conf.canHotReload c = true) : p.Absorbs c (p.reload c) := by
  have hsource := (Conf.eq_of_canHotReload hc).1
  have hcoherent := (h.orderly.live hlive).coherent
  have hkeeps : p.sourceUnder c = p.source := SourceNamed.sourceUnder_eq (fun _ => h.url_eq) hsource
  have hlog : (p.reload c).log =
      p.log ++ (p.sourceCall (.sourceReloaded c.name) ++ p.recordingChange c) := by
    rw [reload_eq]
    exact List.append_assoc ..
  refine ⟨?_, ?_, ?_, (h.step (s := .reload c) ⟨hlive, hc⟩).recorded.due, ?_, ?_, hsource,
    ⟨Conf.hasOnDemandSource_of_canHotReload hc, Conf.hasOnDemandLaunch_of_canHotReload hc⟩,
    Conf.maxReaders_of_canHotReload hc, Conf.overridePublisher_of_canHotReload hc⟩
  · simp only [reload_eq, hkeeps]
  · -- the source is told before the recording changes
    rw [reload_eq]
    simp only [sourceCall, hcoherent.runsSource_eq]
    rfl
  · rw [reload_eq]
    rfl
  · rw [logSince, hlog, List.drop_left]
    refine List.forall_mem_append.2 ⟨p.forall_sourceCall (.inl rfl), ?_⟩
    exact p.forall_recordingChange c (fun _ => .inr rfl) fun _ => .inr rfl
  · have htarget := Conf.sourceRedirect_of_canHotReload hc
    simp only [snapshot, sourceDescriptor, reload_eq, hkeeps, htarget, Snapshot.idle]
    cases p.stream <;> rfl

/-- A configuration whose source runs on demand and is recorded. -/
def pulledAndRecorded : ConfSet.Found where
  conf :=
    { name := "cam", source := .pull "rtsp://host/s", sourceOnDemand := true,
      record := { enabled := true, path := "a" } }
  captures := []

/-- The source was started for somebody who reads now, and the stream is recorded. -/
def watchedAndRecorded : Path :=
  (create { recorders := true } 0 1 "cam" pulledAndRecorded).run
    [.message (.addReader 0 ⟨0, ⟨"rtspSession", "a"⟩⟩ "q"), .pass 5,
      .message (.sourceReady 1 ⟨[⟨.video, "H264"⟩]⟩ false)]

/-- The same configuration under another name, which records to another place. -/
def recordedElsewhere : Conf :=
  { pulledAndRecorded.conf with name := "~^cam", record := { enabled := true, path := "b" } }

/-- The source is told the new name and a recording to the new place is started after the running
one was closed; the reader and the source that is in use stay. -/
theorem absorbs_watchedAndRecorded :
    watchedAndRecorded.Reached ∧ watchedAndRecorded.ended = false ∧
      watchedAndRecorded.conf.canHotReload recordedElsewhere = true ∧
      watchedAndRecorded.Absorbs recordedElsewhere (watchedAndRecorded.reload recordedElsewhere) ∧
      (watchedAndRecorded.reload recordedElsewhere).readers = [⟨0, ⟨"rtspSession", "a"⟩⟩] ∧
      (watchedAndRecorded.reload recordedElsewhere).sourceDemand = { phase := .inUse } ∧
      watchedAndRecorded.logSince (watchedAndRecorded.reload recordedElsewhere) =
        [.sourceReloaded "~^cam", .recordStopped "a",
          .recordStarted (.ofConf "cam" recordedElsewhere) "1 track (H264)"] := by
  have hreached : watchedAndRecorded.Reached :=
    Reached.run (.create { recorders := true } 0 1 "cam" pulledAndRecorded) (by decide)
  have hlive : watchedAndRecorded.ended = false := by decide
  have hc : watchedAndRecorded.conf.canHotReload recordedElsewhere = true := by decide
  exact ⟨hreached, hlive, hc, hreached.absorbs hlive hc, by decide, by decide, by decide⟩

/-! ## All configurations of a life -/

/-- **The configuration after an act** is one that the path could pick up. -/
lemma canHotReload_act {a : PathAct} (ha : p.Allows a) :
    p.conf.canHotReload (p.act a).conf = true := by
  have hsame {c : Conf} (hconf : c = p.conf) : p.conf.canHotReload c = true :=
    hconf ▸ p.conf.canHotReload_self
  cases a with
  | media between =>
    refine hsame ?_
    obtain ⟨stream, pastStreams, launcher, -, -, heq⟩ := p.media_eq between
    rw [act, heq]
  | step s =>
    cases s with
    | message m => exact hsame (p.continues_receive m).conf_eq
    | reload c =>
      have hconf : (p.reload c).conf = c := by rw [reload_eq]
      exact hconf.symm ▸ ha.2
    | pass time => exact hsame rfl
    | expire => exact hsame p.continues_expire.conf_eq
    | destroy =>
      have hconf : p.destroy.conf = p.conf := by
        unfold destroy
        split
        · rfl
        · exact congrArg (·.2.2.1) ({ p with ended := true } : Path).shutdown_history.1
      exact hsame hconf

/-- **All configurations of a life** are such that the first one could have been replaced by them at
once, so that the source, what runs on demand and all limits are the same in all its states. -/
theorem canHotReload_after {as : List PathAct} (has : p.AllowsAll as) :
    p.conf.canHotReload (p.after as).conf = true := by
  induction as generalizing p with
  | nil => exact p.conf.canHotReload_self
  | cons a rest ih =>
    exact Conf.canHotReload_trans (canHotReload_act has.1) (ih has.2)

end Path

end LivePaths
