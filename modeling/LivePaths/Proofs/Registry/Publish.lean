import LivePaths.Proofs.Path.Deadline
import LivePaths.Proofs.Registry.Reload

set_option relaxedAutoImplicit false
set_option autoImplicit false

/-!
# Publishers that expect a configuration

A publisher may say which configuration it expects. The registry compares it with what governs the
name of the path, and the path compares it again with what it runs with. The two never disagree,
since a live path runs with what governs it.

## Main definitions

* `Registry.newEvents` — what has happened to a path since an earlier state of its registry.

## Main results

* `Registry.request_reaches` — a request that expects what governs its name reaches a path that runs
  with it, or the client is denied.
* `Registry.Reachable.publish_refused_iff` — whom the configuration keeps from publishing.
-/

namespace LivePaths

namespace Registry

/-! ## New events -/

/-- **New events** of a path since an earlier state of its registry. -/
def newEvents (before : Registry) (p : Path) : List PathEvent :=
  p.log.drop (before.eventsOf p.id)

/-- The answers since an earlier state are the refusals of the registry and those in new events. -/
lemma mem_answersSince {before after : Registry} {n : Nat} {a : Answer} :
    (n, a) ∈ before.answersSince after ↔
      (∃ e, a = .refused e ∧ (n, e) ∈ after.refusals.drop before.refusals.length) ∨
        ∃ p ∈ after.paths, .answered n a ∈ before.newEvents p := by
  have hevent (e : PathEvent) : e.answer? = some (n, a) ↔ e = .answered n a := by
    cases e <;> simp [PathEvent.answer?]
  simp only [answersSince, List.mem_append, List.mem_map, List.mem_flatMap, answersAfter,
    List.mem_filterMap, hevent, exists_eq_right, Prod.mk.injEq, Prod.exists, newEvents]
  refine or_congr ⟨?_, ?_⟩ Iff.rfl
  · rintro ⟨_, e, hmem, rfl, rfl⟩
    exact ⟨e, rfl, hmem⟩
  · rintro ⟨e, rfl, hmem⟩
    exact ⟨n, e, hmem, rfl, rfl⟩

section NewEvents

variable {r : Registry} (h : r.Numbered)

include h

/-- The new events of a path that has gone on are those by which its history has grown. -/
lemma newEvents_of_log {p q : Path} (hp : p ∈ r.paths) (hid : q.id = p.id) {es : List PathEvent}
    (hlog : q.log = p.log ++ es) : r.newEvents q = es := by
  simp [newEvents, eventsOf, hid, h.path?_eq hp, hlog]

/-- Nothing new has happened to a path that is as it was. -/
lemma newEvents_of_mem {p : Path} (hp : p ∈ r.paths) : r.newEvents p = [] :=
  newEvents_of_log h hp rfl (List.append_nil _).symm

/-- All events of a new path are new. -/
lemma newEvents_of_new {p : Path} (hid : r.created < p.id) : r.newEvents p = p.log := by
  simp [newEvents, eventsOf, h.path?_eq_none hid]

end NewEvents

/-! ## The paths of a registry -/

/-- When something happens to a live path, it goes on or ends, and all others are as they were. -/
lemma mem_paths_update {r : Registry} {name : String} {e : RegistryEntry}
    (he : r.live.get? name = some e) (halive : e.path.ended = false) {f : Path → Path}
    (hf : e.path.Continues (fun _ => True) (f e.path)) :
    f e.path ∈ (r.update name f).paths ∧ (r.update name f).refusals = r.refusals ∧
      ∀ q ∈ (r.update name f).paths, q = f e.path ∨ q ∈ r.past ∨
        ∃ other e', name ≠ other ∧ r.live.get? other = some e' ∧ e'.path = q := by
  rcases update_of_continues he hf halive with ⟨-, ready, news, heq⟩ | ⟨-, news, heq⟩
  · rw [heq]
    refine ⟨mem_paths.2 (.inr ⟨name, _, by rw [NameMap.get?_insert, if_pos rfl], rfl⟩), rfl,
      fun q hq => ?_⟩
    rcases mem_paths.1 hq with hpast | ⟨other, e', he', rfl⟩
    · exact .inr (.inl hpast)
    · rw [NameMap.get?_insert] at he'
      split at he'
      · exact .inl (Option.some.inj he' ▸ rfl)
      · next hne => exact .inr (.inr ⟨other, e', hne, he', rfl⟩)
  · rw [heq]
    refine ⟨mem_paths.2 (.inl (List.mem_append_right _ (List.mem_singleton.2 rfl))), rfl,
      fun q hq => ?_⟩
    rcases mem_paths.1 hq with hpast | ⟨other, e', he', rfl⟩
    · rcases List.mem_append.1 hpast with hpast | hnow
      · exact .inr (.inl hpast)
      · exact .inl (List.mem_singleton.1 hnow)
    · rw [NameMap.get?_erase] at he'
      split at he'
      · cases he'
      · next hne => exact .inr (.inr ⟨other, e', hne, he', rfl⟩)

/-! ## Requests -/

variable {r : Registry} {a : AccessRequest} {found : ConfSet.Found} {expected : Option Conf}

/-- **A request that expects what governs its name** reaches a path that runs with it, unless the
client is denied; the path was there, or it is new and has done nothing of interest yet. -/
theorem request_reaches (h : r.Sound) (hopen : r.closed = false)
    (hfind : r.governing a.name = .ok found) (hagrees : ∀ c ∈ expected, c = found.conf)
    (number : Nat) (m : PathMessage) :
    (∃ questions reason, r.request number a expected m =
        { r with questions }.refuse number (.authDenied reason)) ∨
      ∃ p : Path, p.ended = false ∧ p.conf = found.conf ∧
        (p ∈ r.paths ∨ r.created < p.id ∧ ∀ e ∈ p.log, e.isPlain = true) ∧
        deliver m p ∈ (r.request number a expected m).paths ∧
        (r.request number a expected m).refusals = r.refusals ∧
        ∀ q ∈ (r.request number a expected m).paths, q = deliver m p ∨ q ∈ r.paths := by
  unfold request
  obtain ⟨questions, ⟨reason, hacquire⟩ | hacquire⟩ :=
    acquire_eq h.governed.allAlive hopen hfind hagrees
  · rw [hacquire]
    exact .inl ⟨questions, reason, rfl⟩
  · rw [hacquire]
    refine .inr ?_
    cases hget : r.live.get? a.name with
    | some e =>
      have hg := h.governed.governs a.name e hget
      obtain ⟨captures, hsame⟩ := hg.found
      have hconf : e.conf = found.conf :=
        congrArg ConfSet.Found.conf (Except.ok.inj (hsame.symm.trans hfind))
      obtain ⟨hmem, hrefusals, hothers⟩ :=
        mem_paths_update (r := { r with questions }) hget hg.alive (continues_deliver m e.path)
      have hthere : r.live.contains a.name = true := by simp [NameMap.contains, hget]
      simp only [hthere, ↓reduceIte]
      refine ⟨e.path, hg.alive, hg.conf_eq.trans hconf,
        .inl (mem_paths.2 (.inr ⟨a.name, e, hget, rfl⟩)), hmem, hrefusals, fun q hq => ?_⟩
      rcases hothers q hq with hnow | hpast | ⟨other, e', -, he', rfl⟩
      · exact .inl hnow
      · exact .inr (mem_paths.2 (.inl hpast))
      · exact .inr (mem_paths.2 (.inr ⟨other, e', he', rfl⟩))
    | none =>
      let p := Path.create r.settings r.now (r.created + 1) a.name found
      obtain ⟨hsame, hended, hplain⟩ :=
        Path.create_history r.settings r.now (r.created + 1) a.name found
      have hnew : ({ r with questions }.createPath a.name found).live.get? a.name =
          some { path := p, conf := found.conf } := by
        simp [createPath, NameMap.get?_insert, p]
      obtain ⟨hmem, hrefusals, hothers⟩ :=
        mem_paths_update hnew hended (continues_deliver m p)
      have hmissing : r.live.contains a.name = false := by simp [NameMap.contains, hget]
      simp only [hmissing, Bool.false_eq_true, ↓reduceIte]
      refine ⟨p, hended, congrArg (·.2.2.1) hsame,
        .inr ⟨Nat.lt_of_lt_of_eq (Nat.lt_succ_self _) (congrArg (·.1) hsame).symm, hplain⟩, hmem,
        hrefusals, fun q hq => ?_⟩
      rcases hothers q hq with hnow | hpast | ⟨other, e', hne, he', rfl⟩
      · exact .inl hnow
      · exact .inr (mem_paths.2 (.inl hpast))
      · rw [createPath, NameMap.get?_insert, if_neg hne] at he'
        exact .inr (mem_paths.2 (.inr ⟨other, e', he', rfl⟩))

/-- A path that a request reaches is not kept from publishing by its configuration if nobody expects
another one. -/
lemma agrees_of_newEvents (h : r.Numbered) {p q : Path}
    (hp : p ∈ r.paths ∨ r.created < p.id ∧ ∀ e ∈ p.log, e.isPlain = true)
    (hq : p.Continues PathEvent.Agrees q) : ∀ e ∈ r.newEvents q, e.Agrees := by
  obtain ⟨es, hlog, hall, -⟩ := hq.log
  rcases hp with hp | ⟨hnew, hplain⟩
  · rw [newEvents_of_log h hp hq.id_eq hlog]
    exact hall
  · rw [newEvents_of_new h (hq.id_eq ▸ hnew), hlog]
    exact List.forall_mem_append.2 ⟨fun e he => PathEvent.agrees_of_isPlain (hplain e he), hall⟩

/-- What a path has answered since a request reached it is among its new events. -/
lemma newEvents_of_hasAnswered (h : r.Numbered) {p q : Path} (hid : q.id = p.id)
    (hp : p ∈ r.paths ∨ r.created < p.id) {n : Nat} (hq : p.HasAnswered q n) :
    ∃ answer, .answered n answer ∈ r.newEvents q := by
  obtain ⟨es, answer, hlog, hmem⟩ := hq
  refine ⟨answer, ?_⟩
  rcases hp with hp | hnew
  · rwa [newEvents_of_log h hp hid hlog]
  · rw [newEvents_of_new h (hid ▸ hnew), hlog]
    exact List.mem_append_right _ hmem

/-- A refusal of the registry is the only answer. -/
lemma answersSince_refuse (h : r.Numbered) (number : Nat) (e : PathError) :
    r.answersSince (r.refuse number e) = [(number, .refused e)] := by
  have hpaths : (r.paths.flatMap fun p => answersAfter (r.eventsOf p.id) p) = [] :=
    List.flatMap_eq_nil_iff.2 fun p hp => by
      simp [answersAfter, eventsOf, h.path?_eq hp]
  unfold answersSince refuse
  simp only [List.drop_left, List.map_cons, List.map_nil]
  exact congrArg ([(number, Answer.refused e)] ++ ·) hpaths

/-! ## Publishers -/

/-- **A publisher that expects another configuration** is refused, and nothing else happens. -/
lemma request_of_ne (hopen : r.closed = false) (hfind : r.governing a.name = .ok found) {c : Conf}
    (hne : c ≠ found.conf) (number : Nat) (m : PathMessage) :
    r.request number a (some c) m = r.refuse number .configurationChanged := by
  simp [request, acquire, hopen, hfind, hne]

/-- **A publisher that expects what governs the name** is answered, but not because of the
configuration.

**Proof sketch.** It is denied, or it reaches a path that runs with what the publisher expects. All
that is new in the histories of paths is what this path does then, and a path refuses a publisher
because of the configuration only if the two differ. -/
lemma answers_of_publish (h : r.Sound) (hopen : r.closed = false)
    (hfind : r.governing a.name = .ok found) (number : Nat) (client : Client)
    (d : MediaDescription) (rtp : Bool) (query : String) :
    let r' := r.request number a (some found.conf)
      (.addPublisher number client d rtp query (some found.conf))
    (∃ answer, (number, answer) ∈ r.answersSince r') ∧
      (number, .refused .configurationChanged) ∉ r.answersSince r' := by
  intro r'
  have hagrees : ∀ c ∈ some found.conf, c = found.conf := fun c hc => (Option.some.inj hc).symm
  rcases request_reaches h hopen hfind hagrees number
    (.addPublisher number client d rtp query (some found.conf)) with
    ⟨questions, reason, heq⟩ | ⟨p, halive, hconf, hp, hmem, hrefusals, hothers⟩
  · have hanswers : r.answersSince r' = [(number, .refused (.authDenied reason))] := by
      rw [show r' = _ from heq]
      exact answersSince_refuse h.numbered number (.authDenied reason)
    rw [hanswers]
    exact ⟨⟨_, List.mem_singleton.2 rfl⟩, by simp⟩
  · have hgoes : p.Continues PathEvent.Agrees
        (deliver (.addPublisher number client d rtp query (some found.conf)) p) := by
      refine (p.continues_receive_of_agrees _ ?_).trans (Path.continues_advance _ _)
      simp [PathMessage.expected?, hconf]
    refine ⟨?_, fun hrefused => ?_⟩
    · have hanswered : p.HasAnswered
          (deliver (.addPublisher number client d rtp query (some found.conf)) p) number :=
        (Path.hasAnswered_addPublisher halive number client d rtp query _).mono
          (Path.continues_advance _ _).grows
      obtain ⟨answer, hnew⟩ := newEvents_of_hasAnswered h.numbered hgoes.id_eq
        (hp.imp_right And.left) hanswered
      exact ⟨answer, mem_answersSince.2 (.inr ⟨_, hmem, hnew⟩)⟩
    · rcases mem_answersSince.1 hrefused with ⟨e, -, he⟩ | ⟨q, hq, he⟩
      · rw [show r'.refusals = r.refusals from hrefusals] at he
        simp at he
      · rcases hothers q hq with rfl | hq
        · exact agrees_of_newEvents h.numbered hp hgoes _ he number rfl
        · rw [newEvents_of_mem h.numbered hq] at he
          cases he

/-- **The configuration of a live path** is the one that governs its name and the one that was
handed to it last. Hence a publisher that expects a configuration is refused because of it exactly
if it expects another one than what governs the name, and then nothing changes. -/
theorem Reachable.publish_refused_iff (h : r.Reachable ConfSet.HasValidNames) :
    (∀ name e, r.live.get? name = some e → ∃ captures,
      r.governing name = .ok ⟨e.conf, captures⟩ ∧ e.path.conf = e.conf) ∧
    ∀ a found, r.closed = false → r.governing a.name = .ok found →
      ∀ number client d rtp c,
        let r' := r.apply (.request number a (.publish client d rtp (some c)))
        (∃ answer, (number, answer) ∈ r.answersSince r') ∧
        ((number, .refused .configurationChanged) ∈ r.answersSince r' ↔ c ≠ found.conf) ∧
        (c ≠ found.conf → r' = r.refuse number .configurationChanged ∧
          r.answersSince r' = [(number, .refused .configurationChanged)]) := by
  have hsound := h.sound
  refine ⟨fun name e he => ?_, fun a found hopen hfind number client d rtp c => ?_⟩
  · have hg := hsound.governed.governs name e he
    obtain ⟨captures, hfound⟩ := hg.found
    exact ⟨captures, hfound, hg.conf_eq⟩
  · intro r'
    by_cases hc : c = found.conf
    · subst hc
      obtain ⟨hanswer, hnot⟩ :=
        answers_of_publish hsound hopen hfind number client d rtp a.query
      exact ⟨hanswer, iff_of_false hnot fun hne => hne rfl, fun hne => absurd rfl hne⟩
    · have heq : r' = r.refuse number .configurationChanged :=
        request_of_ne hopen hfind hc number _
      have hanswers : r.answersSince r' = [(number, .refused .configurationChanged)] :=
        heq ▸ answersSince_refuse hsound.numbered number .configurationChanged
      rw [hanswers]
      exact ⟨⟨_, List.mem_singleton.2 rfl⟩, iff_of_true (List.mem_singleton.2 rfl) hc,
        fun _ => ⟨heq, rfl⟩⟩

/-- A client that wants to publish on a camera and expects a configuration. -/
def publishCamera (expected : Conf) : RegistryOp :=
  .request 1 { name := "cam", publish := true }
    (.publish ⟨0, ⟨"publisher", "a"⟩⟩ ⟨[⟨.video, "H264"⟩]⟩ false (some expected))

/-- Whoever expects the camera as it was is refused after it is recorded from now on, and whoever
expects it as it is may publish. -/
theorem publish_camera :
    let r := start {} twoCameras .allowAll none
    r.Reachable ConfSet.HasValidNames ∧ r.closed = false ∧
      r.governing "cam" = .ok ⟨{ name := "cam", record := { enabled := true } }, []⟩ ∧
      r.apply (publishCamera { name := "cam" }) = r.refuse 1 .configurationChanged ∧
      (1, .refused .configurationChanged) ∉ r.answersSince
        (r.apply (publishCamera { name := "cam", record := { enabled := true } })) ∧
      (1, .stream ⟨1, 0⟩) ∈ r.answersSince
        (r.apply (publishCamera { name := "cam", record := { enabled := true } })) := by
  intro r
  have hreach : r.Reachable ConfSet.HasValidNames :=
    .start (by decide : twoCameras.HasValidNames) {} .allowAll none
  have hopen : r.closed = false := by decide
  have hfind : r.governing "cam" =
      .ok ⟨{ name := "cam", record := { enabled := true } }, []⟩ := by decide
  have hpublish := hreach.publish_refused_iff.2 { name := "cam", publish := true } _ hopen hfind 1
    ⟨0, ⟨"publisher", "a"⟩⟩ ⟨[⟨.video, "H264"⟩]⟩ false
  obtain ⟨-, -, hrefused⟩ := hpublish { name := "cam" }
  obtain ⟨-, hagrees, -⟩ := hpublish { name := "cam", record := { enabled := true } }
  exact ⟨hreach, hopen, hfind, (hrefused (by decide)).1, fun h => hagrees.1 h rfl, by decide⟩

end Registry

end LivePaths
