import LivePaths.Proofs.Path.Changes
import LivePaths.Proofs.Registry.Update
import LivePaths.Proofs.Signals

set_option relaxedAutoImplicit false
set_option autoImplicit false

/-!
# What a path notifies of its readiness

A live path notifies its registry whenever it becomes ready and whenever it ceases to be ready, and
a path that is ending at most of its end. Its signals of readiness hence alternate, and the last one
tells whether it is ready. The registry remembers it and passes the signals on.

## Main definitions

* `Path.Notifies` — what a path has notified since an earlier state.

## Main results

* `Path.Change.notifies`, `Path.Changes.notifies` — what changes notify of.
* `Path.Changes.noticesSince_eq` — the notices of a live path that goes on or ends.
* `Registry.update_of_changes` — what the registry makes of them.
-/

namespace LivePaths

/-- Steady events are no notices. -/
lemma PathEvent.notice?_of_isSteady {e : PathEvent} (h : e.isSteady = true) : e.notice? = none := by
  cases e <;> simp_all [isSteady, isDriving, notice?]

namespace Path

/-! ## Notices -/

/-- **Notification**: since an earlier state the signals of a path have alternated. It is live and
the last signal tells whether it is ready, or it has ended and has notified at most of its end
after these signals. -/
def Notifies (p q : Path) : Prop :=
  ∃ es signals, q.log = p.log ++ es ∧ Alternates p.isReady signals ∧
    ((q.ended = false ∧ es.filterMap PathEvent.notice? = signals.map .ofSignal ∧
        levelAfter p.isReady signals = q.isReady) ∨
      (q.ended = true ∧ ∃ last, (last = [] ∨ last = [.closed]) ∧
        es.filterMap PathEvent.notice? = signals.map .ofSignal ++ last))

/-- The beginning. -/
lemma notifies_refl {p : Path} (hlive : p.ended = false) : Notifies p p :=
  ⟨[], [], by simp, by simp, .inl ⟨hlive, rfl, rfl⟩⟩

namespace Notifies

variable {p q r : Path}

/-- Nothing is notified, and nothing else has changed. -/
lemma silent (h : Notifies p q) {es : List PathEvent} (hlog : r.log = q.log ++ es)
    (hes : es.filterMap PathEvent.notice? = []) (hended : r.ended = q.ended)
    (hready : q.ended = false → r.isReady = q.isReady) : Notifies p r := by
  obtain ⟨fs, signals, hfs, halt, hnotices⟩ := h
  refine ⟨fs ++ es, signals, by rw [hlog, hfs, List.append_assoc], halt, ?_⟩
  simp only [List.filterMap_append, hes, List.append_nil, hended]
  refine hnotices.imp_left fun ⟨hlive, hmap, hlevel⟩ => ⟨hlive, hmap, ?_⟩
  exact hlevel.trans (hready hlive).symm

/-- A live path notifies of a change of its readiness. -/
lemma signal (h : Notifies p q) (hlive : q.ended = false) {es : List PathEvent} {ready : Bool}
    (hlog : r.log = q.log ++ es) (hes : es.filterMap PathEvent.notice? = [.ofSignal ready])
    (hended : r.ended = q.ended) (hne : q.isReady ≠ ready) (hready : r.isReady = ready) :
    Notifies p r := by
  obtain ⟨fs, signals, hfs, halt, ⟨-, hmap, hlevel⟩ | ⟨hend, -⟩⟩ := h
  · refine ⟨fs ++ es, signals ++ [ready], by rw [hlog, hfs, List.append_assoc], ?_,
      .inl ⟨hended.trans hlive, ?_, ?_⟩⟩
    · simpa [alternates_append, halt, hlevel] using hne
    · simp [hmap, hes]
    · simp [levelAfter_append, hready]
  · exact absurd (hlive.symm.trans hend) Bool.false_ne_true

/-- A live path begins to end. -/
lemma ends (h : Notifies p q) (hlive : q.ended = false) {es : List PathEvent}
    (hlog : r.log = q.log ++ es)
    (hes : es.filterMap PathEvent.notice? = [] ∨ es.filterMap PathEvent.notice? = [.closed])
    (hended : r.ended = true) : Notifies p r := by
  obtain ⟨fs, signals, hfs, halt, ⟨-, hmap, -⟩ | ⟨hend, -⟩⟩ := h
  · refine ⟨fs ++ es, signals, by rw [hlog, hfs, List.append_assoc], halt,
      .inr ⟨hended, _, hes, ?_⟩⟩
    simp [hmap]
  · exact absurd (hlive.symm.trans hend) Bool.false_ne_true

end Notifies

/-! ## The changes that notify -/

section Changes

variable {p q r : Path}

lemma filterMap_notice?_noticed (p : Path) (n : Notice) :
    (p.noticed n).filterMap PathEvent.notice? = if p.ended then [] else [n] := by
  unfold noticed
  split <;> simp [PathEvent.notice?]

lemma filterMap_notice?_recordingStart (p : Path) (s : Stream) :
    (p.recordingStart s).filterMap PathEvent.notice? = [] := by
  unfold recordingStart
  split <;> simp [PathEvent.notice?]

lemma filterMap_notice?_recordingEnd (p : Path) :
    p.recordingEnd.filterMap PathEvent.notice? = [] := by
  simp [recordingEnd, PathEvent.notice?]

lemma Notifies.becomeReady (h : Notifies p q) (hlive : q.ended = false) (hstream : q.stream = none)
    (s : Stream) : Notifies p (q.becomeReady s) := by
  have hlog : (q.becomeReady s).log = q.log ++
      ((if q.conf.record.enabled then q.recordingStart s else []) ++ [PathEvent.ready] ++
        q.noticed .ready) := by
    rw [becomeReady_eq]
    simp
  have hnotices : ((if q.conf.record.enabled then q.recordingStart s else []) ++
      [PathEvent.ready] ++ q.noticed .ready).filterMap PathEvent.notice? =
      [Notice.ofSignal true] := by
    have hrecording : (if q.conf.record.enabled then q.recordingStart s else []).filterMap
        PathEvent.notice? = [] := by
      split
      · exact q.filterMap_notice?_recordingStart s
      · rfl
    have hevent : [PathEvent.ready].filterMap PathEvent.notice? = [] := rfl
    simp only [List.filterMap_append, hrecording, hevent, filterMap_notice?_noticed, hlive]
    rfl
  refine h.signal hlive hlog hnotices (q.proceeds_becomeReady s).ended ?_ ?_
  · simp [isReady, hstream]
  · rw [becomeReady_eq]
    rfl

/-- A path that is ending already does not notify that it ceases to be ready. -/
lemma Notifies.becomeUnready (h : Notifies p q) {s : Stream} (hstream : q.stream = some s) :
    Notifies p q.becomeUnready := by
  have hlog : q.becomeUnready.log = q.log ++
      (q.noticed .notReady ++ q.readers.map .readerClosed ++ [.notReady] ++ q.recordingEnd) := by
    rw [becomeUnready_eq q hstream]
    simp
  have hnotices : (q.noticed .notReady ++ q.readers.map PathEvent.readerClosed ++
      [PathEvent.notReady] ++ q.recordingEnd).filterMap PathEvent.notice? =
      if q.ended then [] else [Notice.ofSignal false] := by
    have hreaders : (q.readers.map PathEvent.readerClosed).filterMap PathEvent.notice? = [] := by
      simp [PathEvent.notice?]
    have hevent : [PathEvent.notReady].filterMap PathEvent.notice? = [] := rfl
    simp only [List.filterMap_append, filterMap_notice?_noticed, filterMap_notice?_recordingEnd,
      hreaders, hevent, List.append_nil]
    rfl
  cases hended : q.ended with
  | true =>
    rw [hended] at hnotices
    exact h.silent hlog hnotices q.ended_becomeUnready fun hlive => by simp [hended] at hlive
  | false =>
    rw [hended] at hnotices
    refine h.signal hended hlog hnotices q.ended_becomeUnready ?_ ?_
    · simp [isReady, hstream]
    · simp [isReady, q.stream_becomeUnready]

lemma Notifies.reload (h : Notifies p q) (c : Conf) : Notifies p (q.reload c) := by
  obtain ⟨es, hlog, -⟩ := (q.proceeds_reload c).log
  have hnotices : es.filterMap PathEvent.notice? = [] :=
    (Registry.noticesSince_of_log hlog).symm.trans (Registry.noticesSince_reload q c)
  refine h.silent hlog hnotices (q.proceeds_reload c).ended fun _ => ?_
  rw [reload_eq]
  rfl

lemma Notifies.beginEnd (h : Notifies p q) (hlive : q.ended = false) (silent : Bool) :
    Notifies p { q with ended := silent }.beginEnd := by
  have hlog : { q with ended := silent }.beginEnd.log = q.log ++
      ({ q with ended := silent }.noticed .closed ++ [PathEvent.uninit] ++
        answerEvents (q.waiting.map fun n => (n, .refused .terminated))) := by
    simp [Path.beginEnd, waiting]
  refine h.ends hlive hlog ?_ rfl
  have hanswers : (answerEvents (q.waiting.map fun n =>
      (n, Answer.refused .terminated))).filterMap PathEvent.notice? = [] := by
    simp [answerEvents, PathEvent.notice?]
  have hevent : [PathEvent.uninit].filterMap PathEvent.notice? = [] := rfl
  simp only [List.filterMap_append, filterMap_notice?_noticed, hanswers, hevent, List.append_nil]
  cases silent <;> simp

end Changes

/-- **What a change notifies of.** -/
lemma Change.notifies {Came : PathMessage → Prop} {p q r : Path} (h : Change Came q r)
    (hp : Notifies p q) : Notifies p r := by
  rcases h.steady_or with hsteady | ⟨s, hlive, hstream, -, rfl⟩ | ⟨s, hstream, rfl⟩ |
    ⟨c, -, -, rfl⟩ | ⟨silent, hlive, rfl⟩
  · obtain ⟨es, hlog, hes⟩ := hsteady.log
    refine hp.silent hlog ?_ hsteady.ended fun _ => hsteady.isReady_eq
    exact List.filterMap_eq_nil_iff.2 fun e he => PathEvent.notice?_of_isSteady (hes e he)
  · exact hp.becomeReady hlive hstream s
  · exact hp.becomeUnready hstream
  · exact hp.reload c
  · exact hp.beginEnd hlive silent

/-- **What a live path notifies of** in a sequence of changes. -/
theorem Changes.notifies {Came : PathMessage → Prop} {p q : Path} (h : Changes Came p q)
    (hlive : p.ended = false) : Notifies p q :=
  h.keeps (fun _ _ => Change.notifies) (notifies_refl hlive)

/-- **The notices** of a live path that goes on, or ends of itself: alternating signals, and at the
end the notice of it. -/
theorem Changes.noticesSince_eq {Came : PathMessage → Prop} {Q : PathEvent → Prop} {p q : Path}
    (h : Changes Came p q) (hlive : p.ended = false) (hgoes : p.Continues Q q) :
    ∃ signals, Alternates p.isReady signals ∧
      ((q.ended = false ∧ Registry.noticesSince p q = signals.map .ofSignal ∧
          levelAfter p.isReady signals = q.isReady) ∨
        (q.ended = true ∧ Registry.noticesSince p q = signals.map .ofSignal ++ [.closed])) := by
  obtain ⟨es, signals, hlog, halt, hnotices⟩ := h.notifies hlive
  have hclosed : q.ended = true ↔ .closed ∈ es.filterMap PathEvent.notice? := by
    obtain ⟨fs, hlog', -, hend⟩ := hgoes.log
    obtain rfl := List.append_cancel_left (hlog.symm.trans hlog')
    exact (hend hlive).trans (Registry.closed_mem_notices es).symm
  have hnot : Notice.closed ∉ signals.map Notice.ofSignal := fun hmem => by
    obtain ⟨ready, -, heq⟩ := List.mem_map.1 hmem
    exact Notice.ofSignal_ne_closed ready heq
  rw [Registry.noticesSince_of_log hlog]
  refine ⟨signals, halt, hnotices.imp_right fun ⟨hended, last, hlast, heq⟩ => ⟨hended, ?_⟩⟩
  rcases hlast with rfl | rfl
  · rw [hclosed, heq] at hended
    exact absurd (by simpa using hended) hnot
  · exact heq

end Path

namespace Registry

/-! ## Taking up notices -/

lemma bulletins_append (hls : Option String) (path : PathHandle) (signals more : List Bool) :
    bulletins hls path (signals ++ more) =
      bulletins hls path signals ++ bulletins hls path more := by
  cases hls <;> simp [bulletins]

/-- **Signals are taken up** one after another: each is remembered and passed on. -/
lemma foldl_takeNotice_signals {name : String} (signals : List Bool) {r : Registry}
    {e : RegistryEntry} (h : r.live.get? name = some e) :
    (signals.map Notice.ofSignal).foldl (takeNotice name) r =
      { r with
        live := r.live.insert name { e with ready := levelAfter e.ready signals }
        news := r.news ++ bulletins r.hls e.path.handle signals } := by
  induction signals generalizing r e with
  | nil => simp [NameMap.insert_of_get? h]
  | cons s rest ih =>
    have hnews := bulletins_append r.hls e.path.handle [s] rest
    rw [List.map_cons, List.foldl_cons, takeNotice_ofSignal h, ih (e := { e with ready := s })
      (by simp [NameMap.get?_insert])]
    simpa using hnews.symm

@[simp]
lemma levelAfter_farewell (ready : Bool) : levelAfter ready (farewell ready) = false := by
  cases ready <;> rfl

@[simp]
lemma alternates_farewell (ready : Bool) : Alternates ready (farewell ready) := by
  cases ready <;> simp [farewell]

/-- **A live path goes on or ends**: its alternating signals are passed on, and what is remembered
of it afterwards is whether it is ready. -/
theorem update_of_changes {Came : PathMessage → Prop} {Q : PathEvent → Prop} {r : Registry}
    {name : String} {e : RegistryEntry} {q : Path} (h : r.live.get? name = some e)
    (hlive : e.path.ended = false) (hknown : e.ready = e.path.isReady)
    (hchanges : Path.Changes Came e.path q) (hgoes : e.path.Continues Q q) :
    ∃ signals, Alternates e.path.isReady signals ∧
      ((levelAfter e.path.isReady signals = q.isReady ∧ (r.update name fun _ => q) =
          { r with
            live := r.live.insert name { e with path := q, ready := q.isReady }
            news := r.news ++ bulletins r.hls e.path.handle signals }) ∨
        (levelAfter e.path.isReady signals = false ∧ (r.update name fun _ => q) =
          { r with
            live := r.live.erase name
            past := r.past ++ [q]
            news := r.news ++ bulletins r.hls e.path.handle signals })) := by
  have hhandle : q.handle = e.path.handle :=
    congrArg₂ PathHandle.mk hgoes.name_eq hgoes.id_eq
  have hget : { r with live := r.live.insert name { e with path := q } }.live.get? name =
      some { e with path := q } := by
    simp [NameMap.get?_insert]
  have hupdate : (r.update name fun _ => q) = (noticesSince e.path q).foldl (takeNotice name)
      { r with live := r.live.insert name { e with path := q } } := by
    simp [update, h]
  obtain ⟨signals, halt, ⟨-, hnotices, hlevel⟩ | ⟨-, hnotices⟩⟩ :=
    hchanges.noticesSince_eq hlive hgoes
  · -- the path goes on
    refine ⟨signals, halt, .inl ⟨hlevel, ?_⟩⟩
    rw [hupdate, hnotices, foldl_takeNotice_signals signals hget]
    simp [hknown, hlevel, hhandle]
  · -- it has ended: if the last signal said that it is ready, this is taken back
    set left := levelAfter e.path.isReady signals with hleft
    refine ⟨signals ++ farewell left, ?_, .inr ⟨?_, ?_⟩⟩
    · simp [alternates_append, halt, ← hleft]
    · simp [levelAfter_append, ← hleft]
    · rw [hupdate, hnotices, List.foldl_append, foldl_takeNotice_signals signals hget,
        List.foldl_cons, List.foldl_nil, takeNotice_closed (NameMap.get?_insert ..|>.trans
          (if_pos rfl)), bulletins_append]
      simp [hknown, ← hleft, hhandle]

end Registry

end LivePaths
