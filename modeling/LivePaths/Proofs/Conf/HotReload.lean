import Mathlib.Logic.Basic
import Mathlib.Logic.Relation
import LivePaths.Conf.Reload

set_option relaxedAutoImplicit false
set_option autoImplicit false

/-!
# What a running path cannot pick up

Two configurations differ in what a running path picks up, in what is recorded, or in something for
which the path must be created anew. These three kinds of differences are told apart setting by
setting, and together they are all differences that there are.

## Main definitions

* `Conf.SameService` — configurations that agree in everything for which a path would have to be
  created anew.
* `Conf.SameRecording` — configurations under which the same is recorded.

## Main results

* `Conf.canHotReload_iff` — a path can move exactly between configurations with the same service;
  `Conf.maxReaders_of_canHotReload`, … — what is never picked up.
* `Conf.equivalence_canHotReload` — how a path came to its configuration does not matter.
* `Conf.eq_iff_of_changes` — no difference is missed.
* `Conf.checks_complement` — the two checks together.
-/

namespace LivePaths.Conf

/-- **The same service**: all settings agree for which a path would have to be created anew. -/
structure SameService (a b : Conf) : Prop where
  source : a.source = b.source
  sourceFingerprint : a.sourceFingerprint = b.sourceFingerprint
  sourceOnDemand : a.sourceOnDemand = b.sourceOnDemand
  sourceStartTimeout : a.sourceStartTimeout = b.sourceStartTimeout
  sourceCloseAfter : a.sourceCloseAfter = b.sourceCloseAfter
  sourceRedirect : a.sourceRedirect = b.sourceRedirect
  transport : a.transport = b.transport
  cameraId : a.camera.cameraId = b.camera.cameraId
  width : a.camera.width = b.camera.width
  height : a.camera.height = b.camera.height
  hFlip : a.camera.hFlip = b.camera.hFlip
  vFlip : a.camera.vFlip = b.camera.vFlip
  maxReaders : a.maxReaders = b.maxReaders
  fallback : a.fallback = b.fallback
  overridePublisher : a.overridePublisher = b.overridePublisher
  onInit : a.commands.onInit.line = b.commands.onInit.line
  onInitRestart : a.commands.onInit.restart = b.commands.onInit.restart
  onDemand : a.commands.onDemand.line = b.commands.onDemand.line
  onDemandRestart : a.commands.onDemand.restart = b.commands.onDemand.restart
  launchStartTimeout : a.launchStartTimeout = b.launchStartTimeout
  launchCloseAfter : a.launchCloseAfter = b.launchCloseAfter
  onUndemand : a.commands.onUndemand = b.commands.onUndemand
  onReady : a.commands.onReady.line = b.commands.onReady.line
  onReadyRestart : a.commands.onReady.restart = b.commands.onReady.restart
  onNotReady : a.commands.onNotReady = b.commands.onNotReady
  onSegmentCreate : a.commands.onSegmentCreate = b.commands.onSegmentCreate
  onSegmentComplete : a.commands.onSegmentComplete = b.commands.onSegmentComplete

/-- **The same recording**: all settings of recordings agree. -/
structure SameRecording (a b : Conf) : Prop where
  enabled : a.record.enabled = b.record.enabled
  path : a.record.path = b.record.path
  format : a.record.format = b.record.format
  partDuration : a.record.partDuration = b.record.partDuration
  maxPartSize : a.record.maxPartSize = b.record.maxPartSize
  segmentDuration : a.record.segmentDuration = b.record.segmentDuration
  deleteAfter : a.record.deleteAfter = b.record.deleteAfter

attribute [ext] CommandLine CommandConf CameraConf RecordConf Conf

variable {a b c : Conf}

/-! ## Setting by setting -/

namespace SameService

variable (h : a.SameService b)

include h

/-- All commands agree. -/
lemma commands : a.commands = b.commands :=
  CommandConf.ext (CommandLine.ext h.onInit h.onInitRestart)
    (CommandLine.ext h.onDemand h.onDemandRestart) h.onUndemand
    (CommandLine.ext h.onReady h.onReadyRestart) h.onNotReady h.onSegmentCreate h.onSegmentComplete

/-- The cameras agree in everything but what is changed while they run. -/
lemma camera : { a.camera with tuning := b.camera.tuning } = b.camera :=
  CameraConf.ext h.cameraId h.width h.height h.hFlip h.vFlip rfl

/-- A path picks up all the rest. -/
lemma absorb : a.absorb b = b :=
  Conf.ext rfl rfl h.source h.sourceFingerprint h.sourceOnDemand h.sourceStartTimeout
    h.sourceCloseAfter h.sourceRedirect h.transport h.camera h.maxReaders h.fallback
    h.overridePublisher rfl h.commands h.launchStartTimeout h.launchCloseAfter

end SameService

/-- **A path can move** exactly between configurations with the same service. -/
lemma canHotReload_iff : a.canHotReload b = true ↔ a.SameService b := by
  unfold canHotReload
  rw [decide_eq_true_iff]
  constructor
  · intro h
    rw [← h]
    constructor <;> rfl
  · exact SameService.absorb

/-- The greatest number of readers is never picked up. -/
lemma maxReaders_of_canHotReload (h : a.canHotReload b = true) : b.maxReaders = a.maxReaders :=
  (canHotReload_iff.1 h).maxReaders.symm

/-- Whether a publisher may be replaced is never picked up. -/
lemma overridePublisher_of_canHotReload (h : a.canHotReload b = true) :
    b.overridePublisher = a.overridePublisher :=
  (canHotReload_iff.1 h).overridePublisher.symm

/-- Where readers are sent is never picked up. -/
lemma sourceRedirect_of_canHotReload (h : a.canHotReload b = true) :
    b.sourceRedirect = a.sourceRedirect :=
  (canHotReload_iff.1 h).sourceRedirect.symm

/-- With the same recording there is no difference in what is recorded. -/
lemma SameRecording.record_eq (h : a.SameRecording b) : a.record = b.record :=
  RecordConf.ext h.enabled h.path h.format h.partDuration h.maxPartSize h.segmentDuration
    h.deleteAfter

/-- **Another recording** is started exactly if a setting of recordings differs. -/
lemma recordChanged_eq_false_iff : a.recordChanged b = false ↔ a.SameRecording b := by
  simp only [recordChanged, Bool.or_eq_false_iff, decide_eq_false_iff_not, ne_eq, not_not,
    and_assoc]
  constructor
  · rintro ⟨henabled, hpath, hformat, hpart, hsize, hsegment, hdelete⟩
    exact ⟨henabled, hpath, hformat, hpart, hsize, hsegment, hdelete⟩
  · intro h
    exact ⟨h.enabled, h.path, h.format, h.partDuration, h.maxPartSize, h.segmentDuration,
      h.deleteAfter⟩

/-- Configurations with one and the same recording do not differ in it. -/
lemma recordChanged_eq_false_iff_record : a.recordChanged b = false ↔ a.record = b.record :=
  recordChanged_eq_false_iff.trans ⟨SameRecording.record_eq, fun h => by constructor <;> rw [h]⟩

/-! ## The two checks -/

/-- What a path has picked up step by step it could have picked up at once. -/
lemma canHotReload_trans (h : a.canHotReload b = true) (h' : b.canHotReload c = true) :
    a.canHotReload c = true := by
  have hb : a.absorb b = b := by simpa [canHotReload] using h
  have hc : b.absorb c = c := by simpa [canHotReload] using h'
  rw [← hb] at hc
  exact decide_eq_true hc

/-- What a path can pick up it can give up again. -/
lemma canHotReload_symm (h : a.canHotReload b = true) : b.canHotReload a = true := by
  have hb : a.absorb b = b := by simpa [canHotReload] using h
  refine decide_eq_true ?_
  rw [← hb]
  rfl

/-- **Moves between configurations** are an equivalence. -/
lemma equivalence_canHotReload : Equivalence fun a b : Conf => a.canHotReload b = true :=
  ⟨canHotReload_self, canHotReload_symm, canHotReload_trans⟩

/-- A path that moves from one configuration to another over others could have moved at once. -/
lemma reflTransGen_canHotReload_iff :
    Relation.ReflTransGen (fun a b : Conf => a.canHotReload b = true) a b ↔
      a.canHotReload b = true := by
  refine ⟨fun h => ?_, fun h => .single h⟩
  induction h with
  | refl => exact canHotReload_self a
  | tail _ hlast ih => exact canHotReload_trans ih hlast

/-- **No difference is missed**: configurations agree if a path can move between them, no other
recording is started, and they have the same name, pattern and tuning of the camera. -/
lemma eq_iff_of_changes : a = b ↔ a.canHotReload b = true ∧ a.recordChanged b = false ∧
    a.name = b.name ∧ a.pattern = b.pattern ∧ a.camera.tuning = b.camera.tuning := by
  constructor
  · rintro rfl
    exact ⟨a.canHotReload_self, recordChanged_eq_false_iff_record.2 rfl, rfl, rfl, rfl⟩
  · rintro ⟨hservice, hrecord, hname, hpattern, htuning⟩
    have hsame : a.absorb b = b := (canHotReload_iff.1 hservice).absorb
    have hstays : a.absorb b = a := by
      unfold absorb
      rw [← hname, ← hpattern, ← htuning, ← recordChanged_eq_false_iff_record.1 hrecord]
    exact hstays.symm.trans hsame

/-- **The two checks complement each other**: a path can move exactly between configurations with
the same service, on whatever way, another recording is started exactly if a setting of recordings
differs, in both directions alike, and together with the name, the pattern and the tuning of the
camera this is all in which configurations can differ. -/
theorem checks_complement :
    (Equivalence fun a b : Conf => a.canHotReload b = true) ∧ ∀ a b : Conf,
      (a.canHotReload b = true ↔ a.SameService b) ∧
      (Relation.ReflTransGen (fun c d : Conf => c.canHotReload d = true) a b ↔
        a.canHotReload b = true) ∧
      a.recordChanged b = b.recordChanged a ∧
      (a.recordChanged b = false ↔ a.SameRecording b) ∧
      (a = b ↔ a.canHotReload b = true ∧ a.recordChanged b = false ∧ a.name = b.name ∧
        a.pattern = b.pattern ∧ a.camera.tuning = b.camera.tuning) := by
  refine ⟨equivalence_canHotReload, fun a b => ⟨canHotReload_iff, reflTransGen_canHotReload_iff, ?_,
    recordChanged_eq_false_iff, eq_iff_of_changes⟩⟩
  rw [Bool.eq_iff_iff, ← not_iff_not, Bool.not_eq_true, Bool.not_eq_true,
    recordChanged_eq_false_iff_record, recordChanged_eq_false_iff_record]
  exact eq_comm

end LivePaths.Conf
