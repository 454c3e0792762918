import LivePaths.Proofs.Registry.Governance

set_option relaxedAutoImplicit false
set_option autoImplicit false

/-!
# Soundness of the operations

A registry is sound if it is in agreement with its live paths and every path has a number of its
own. All operations but a new set of configurations are treated here.

## Main definitions

* `Registry.Sound` — what holds of every registry at rest.

## Main results

* `Registry.sound_start` — a new registry is sound.
* `Registry.Sound.request`, `Registry.Sound.advance`, … — the operations keep registries sound.
-/

namespace LivePaths

namespace Registry

/-- **Sound registries**: they are in agreement with their live paths, each of which has a number of
its own. -/
structure Sound (r : Registry) : Prop where
  governed : r.Governed
  numbered : r.Numbered

/-- A path that receives a message goes on or ends. -/
lemma continues_deliver (m : PathMessage) (p : Path) :
    p.Continues (fun _ => True) (deliver m p) :=
  (p.continues_receive m).trans ((Path.continues_advance _ _).mono fun _ _ => trivial)

/-- A path that lives through some time goes on or ends. -/
lemma continues_advance (time : Nat) (p : Path) : p.Continues (fun _ => True) (p.advance time) :=
  (p.continues_advance time).mono fun _ _ => trivial

/-! ## The path for a request -/

/-- Authentication only asks. -/
lemma authenticate_eq (r : Registry) (a : AccessRequest) :
    ∃ questions, (r.authenticate a).1 = { r with questions } := by
  unfold authenticate
  split
  · exact ⟨r.questions, rfl⟩
  · exact ⟨_, rfl⟩

/-- Nobody is denied because of the configuration. -/
lemma authDenied_of_authenticate {r : Registry} {a : AccessRequest} {e : PathError}
    (h : (r.authenticate a).2 = .error e) : ∃ reason, e = .authDenied reason := by
  unfold authenticate at h
  split at h
  · cases h
  · dsimp only at h
    cases hanswer : r.authenticator a.toAuthRequest with
    | ok _ => simp [hanswer, Except.mapError] at h
    | error reason => exact ⟨reason, by simpa [hanswer, Except.mapError] using h.symm⟩

/-- **The path for a request** that expects what governs its name: unless the client is denied, it
is looked up or created. -/
lemma acquire_eq {r : Registry} (halive : r.AllAlive) {a : AccessRequest} {expected : Option Conf}
    {found : ConfSet.Found} (hopen : r.closed = false) (hfind : r.governing a.name = .ok found)
    (hagrees : ∀ c ∈ expected, c = found.conf) :
    ∃ questions, (∃ reason,
        r.acquire a expected = ({ r with questions }, .error (.authDenied reason))) ∨
      r.acquire a expected =
        (if r.live.contains a.name then { r with questions }
          else { r with questions }.createPath a.name found, .ok ()) := by
  have hany : expected.any (· ≠ found.conf) = false := by
    cases expected <;> simp_all
  obtain ⟨questions, hq⟩ := r.authenticate_eq a
  refine ⟨questions, ?_⟩
  rcases hauth : r.authenticate a with ⟨asked, e | ⟨⟩⟩
  · obtain ⟨reason, rfl⟩ := authDenied_of_authenticate (congrArg (·.2) hauth)
    have hasked : asked = { r with questions } := by rw [← hq, hauth]
    refine .inl ⟨reason, ?_⟩
    rw [← hasked]
    simp only [acquire, hopen, hfind, hany, hauth, Bool.false_eq_true, ↓reduceIte]
  · have hasked : asked = { r with questions } := by rw [← hq, hauth]
    have hprovide : asked.provide a.name found =
        if r.live.contains a.name then asked else asked.createPath a.name found := by
      subst hasked
      exact AllAlive.provide_eq (r := { r with questions }) halive a.name found
    refine .inr ?_
    rw [← hasked, ← hprovide]
    simp only [acquire, hopen, hfind, hany, hauth, Bool.false_eq_true, ↓reduceIte]

/-- **The path for a request** in all cases: the request is refused, there is a path, or there is
one now. -/
lemma acquire_cases {r : Registry} (halive : r.AllAlive) (a : AccessRequest)
    (expected : Option Conf) :
    ∃ questions, (∃ e, r.acquire a expected = ({ r with questions }, .error e)) ∨
      (r.live.contains a.name = true ∧ r.acquire a expected = ({ r with questions }, .ok ())) ∨
      ∃ found, r.governing a.name = .ok found ∧ r.closed = false ∧
        r.live.contains a.name = false ∧
        r.acquire a expected = ({ r with questions }.createPath a.name found, .ok ()) := by
  by_cases hclosed : r.closed = true
  · exact ⟨r.questions, .inl ⟨.terminated, if_pos hclosed⟩⟩
  have hopen : r.closed = false := by simpa using hclosed
  cases hfind : r.governing a.name with
  | error e =>
    have heq : r.acquire a expected = (r, .error e) := by simp [acquire, hopen, hfind]
    exact ⟨r.questions, .inl ⟨e, heq⟩⟩
  | ok found =>
    by_cases hagrees : ∀ c ∈ expected, c = found.conf
    · obtain ⟨questions, ⟨reason, heq⟩ | heq⟩ := acquire_eq halive hopen hfind hagrees
      · exact ⟨questions, .inl ⟨.authDenied reason, heq⟩⟩
      · refine ⟨questions, .inr ?_⟩
        cases hlive : r.live.contains a.name with
        | true => exact .inl ⟨rfl, by simpa [hlive] using heq⟩
        | false => exact .inr ⟨found, rfl, hopen, rfl, by simpa [hlive] using heq⟩
    · have hany : expected.any (· ≠ found.conf) = true := by
        cases expected <;> simp_all
      have heq : r.acquire a expected = (r, .error .configurationChanged) := by
        simp only [acquire, hopen, hfind, hany, Bool.false_eq_true, ↓reduceIte]
      exact ⟨r.questions, .inl ⟨.configurationChanged, heq⟩⟩

/-! ## What the operations amount to -/

/-- Questions about configurations change nothing but what the authenticator was asked. -/
lemma find_eq (r : Registry) (a : AccessRequest) :
    ∃ questions, (r.find a).1 = { r with questions } := by
  unfold find
  split
  · exact ⟨r.questions, rfl⟩
  · split
    · exact ⟨r.questions, rfl⟩
    · exact r.authenticate_eq a

/-- Another HLS server changes nothing but what HLS servers were told. -/
lemma setHls_eq {r r' : Registry} {server : Option String} (h : r.setHls server = .ok r') :
    ∃ news, r' = { r with hls := server, news } := by
  unfold setHls at h
  split at h
  · cases h
  · obtain rfl := Except.ok.inj h
    refine List.foldlRecOn
      (motive := fun b : Registry => ∃ news : List HlsNews, b = { r with hls := server, news })
      _ _ ⟨r.news, rfl⟩ fun b hb e _ => ?_
    obtain ⟨news, rfl⟩ := hb
    exact ⟨_, tellHls_eq ..⟩

/-- **A request to a path** is refused, or the live path of this handle takes it. -/
lemma requestOf_cases (r : Registry) (number : Nat) (handle : PathHandle) (m : PathMessage) :
    r.requestOf number handle m = r.refuse number .terminated ∨
      ∃ e, r.live.get? handle.name = some e ∧ e.path.id = handle.id ∧
        r.requestOf number handle m = r.update handle.name (deliver m) := by
  unfold requestOf
  split
  · next hlive =>
    obtain ⟨e, he, hid⟩ := (Option.any_eq_true _ _).1 hlive
    exact .inr ⟨e, he, by simpa using hid, rfl⟩
  · exact .inl rfl

/-- A message that expects no answer is lost, or the live path of this handle takes it. -/
lemma tell_cases (r : Registry) (handle : PathHandle) (m : PathMessage) :
    r.tell handle m = r ∨ ∃ e, r.live.get? handle.name = some e ∧ e.path.id = handle.id ∧
      r.tell handle m = r.update handle.name (deliver m) := by
  unfold tell updateHandle
  split
  · next hlive =>
    obtain ⟨e, he, hid⟩ := (Option.any_eq_true _ _).1 hlive
    exact .inr ⟨e, he, by simpa using hid, rfl⟩
  · exact .inl rfl

/-! ## The beginning -/

/-- **A new registry** is sound. -/
theorem sound_start {confs : ConfSet} (hv : confs.HasValidNames) (settings : PathSettings)
    (authenticator : Authenticator) (hls : Option String) :
    (start settings confs authenticator hls).Sound where
  governed := governed_createMissing hv rfl fun name e he => by simp at he
  numbered := by
    refine Numbered.createMissing ⟨?_, ?_, ?_, ?_, ?_⟩
    all_goals simp [liveId, pastIds]

namespace Sound

variable {r : Registry} (h : r.Sound)

include h

/-! ## What concerns no path -/

/-- Changes that concern no live path. -/
lemma of_same {r' : Registry} (hsettings : r'.settings = r.settings) (hlive : r'.live = r.live)
    (hconfs : r'.confs = r.confs) (hclosed : r'.closed = r.closed) (hpast : r'.pastIds = r.pastIds)
    (hcreated : r'.created = r.created) : r'.Sound where
  governed := by
    have hfind : r'.governing = r.governing := by
      unfold governing
      rw [hsettings, hconfs]
    obtain ⟨hvalid, hgoverns, hcomplete, hempty⟩ := h.governed
    refine ⟨hconfs ▸ hvalid, fun name e he => ?_, fun hc => ?_, fun hc => ?_⟩
    · exact (hgoverns name e (hlive ▸ he)).of_same hfind rfl rfl rfl
    · rw [hconfs, hlive]
      exact hcomplete (hclosed ▸ hc)
    · rw [hlive]
      exact hempty (hclosed ▸ hc)
  numbered := h.numbered.of_same (by unfold liveId; rw [hlive]) hpast hcreated

lemma refuse (number : Nat) (e : PathError) : (r.refuse number e).Sound :=
  h.of_same rfl rfl rfl rfl rfl rfl

lemma authenticate (a : AccessRequest) : (r.authenticate a).1.Sound := by
  obtain ⟨questions, heq⟩ := r.authenticate_eq a
  exact heq ▸ h.of_same rfl rfl rfl rfl rfl rfl

lemma find (a : AccessRequest) : (r.find a).1.Sound := by
  obtain ⟨questions, heq⟩ := r.find_eq a
  exact heq ▸ h.of_same rfl rfl rfl rfl rfl rfl

/-- Another HLS server. -/
lemma setHls {server : Option String} {r' : Registry} (hr : r.setHls server = .ok r') :
    r'.Sound := by
  obtain ⟨news, rfl⟩ := setHls_eq hr
  exact h.of_same rfl rfl rfl rfl rfl rfl

/-! ## What happens to live paths -/

section Update

variable {f : Path → Path} (hf : ∀ p : Path, p.Continues (fun _ => True) (f p))

include hf

/-- Something happens to a live path. -/
lemma update (name : String) : (r.update name f).Sound where
  governed := h.governed.update hf
  numbered := h.numbered.update hf fun e he => (h.governed.governs name e he).alive

lemma updateHandle (handle : PathHandle) : (r.updateHandle handle f).Sound := by
  unfold Registry.updateHandle
  split
  · exact h.update hf _
  · exact h

lemma updateAll : (r.updateAll f).Sound :=
  List.foldlRecOn _ _ h fun _ hb name _ => hb.update hf name

end Update

/-! ## Requests -/

/-- A new path under the configuration that governs its name. -/
lemma createPath {name : String} {found : ConfSet.Found} (hopen : r.closed = false)
    (hfind : r.governing name = .ok found) : (r.createPath name found).Sound :=
  ⟨h.governed.createPath hopen hfind, h.numbered.createPath name found⟩

lemma acquire (a : AccessRequest) (expected : Option Conf) : (r.acquire a expected).1.Sound := by
  have hasked (questions : List AuthRequest) : { r with questions }.Sound :=
    h.of_same rfl rfl rfl rfl rfl rfl
  obtain ⟨questions, ⟨e, heq⟩ | ⟨-, heq⟩ | ⟨found, hfind, hopen, -, heq⟩⟩ :=
    acquire_cases h.governed.allAlive a expected
  · exact heq ▸ hasked questions
  · exact heq ▸ hasked questions
  · exact heq ▸ (hasked questions).createPath hopen hfind

/-- **A request** through the registry. -/
lemma request (number : Nat) (a : AccessRequest) (expected : Option Conf) (m : PathMessage) :
    (r.request number a expected m).Sound := by
  have hacquired := h.acquire a expected
  unfold Registry.request
  split
  · next heq => exact (heq ▸ hacquired).refuse number _
  · next heq => exact (heq ▸ hacquired).update (continues_deliver m) a.name

/-- A request to a path. -/
lemma requestOf (number : Nat) (handle : PathHandle) (m : PathMessage) :
    (r.requestOf number handle m).Sound := by
  unfold Registry.requestOf
  split
  · exact h.update (continues_deliver m) _
  · exact h.refuse number _

lemma tell (handle : PathHandle) (m : PathMessage) : (r.tell handle m).Sound :=
  h.updateHandle (continues_deliver m) handle

lemma abandon (number : Nat) : (r.abandon number).Sound :=
  h.updateAll (continues_deliver _)

/-! ## Time and end -/

/-- Passing of time. -/
lemma advance (time : Nat) : (r.advance time).Sound := by
  refine (h.updateAll (continues_advance time)).of_same rfl rfl rfl rfl ?_ rfl
  simp only [pastIds, Registry.advance, List.map_map]
  exact List.map_congr_left fun p _ => (continues_advance time p).id_eq

/-- **The end**: there is no live path any more. -/
lemma close : r.close.Sound := by
  refine ⟨?_, h.numbered.close⟩
  unfold Registry.close
  split
  · exact h.governed
  · exact ⟨h.governed.valid, fun name e he => by simp at he, fun hc => by simp at hc, fun _ => rfl⟩

/-! ## Streams and recordings -/

/-- What happens to a path without notice keeps its identity. -/
lemma modifyPath (id : Nat) {f : Path → Path}
    (hf : ∀ p : Path, (f p).identity = p.identity ∧ (f p).ended = p.ended) :
    (r.modifyPath id f).Sound := by
  have hkept (p : Path) : (if p.id = id then f p else p).identity = p.identity ∧
      (if p.id = id then f p else p).ended = p.ended := by
    split
    · exact hf p
    · exact ⟨rfl, rfl⟩
  have hget (name : String) : (r.modifyPath id f).live.get? name =
      (r.live.get? name).map fun e =>
        { e with path := if e.path.id = id then f e.path else e.path } :=
    r.live.get?_mapValues name _
  refine ⟨⟨h.governed.valid, fun name e he => ?_, fun hc c hcf => ?_, fun hc => ?_⟩,
    h.numbered.modifyPath id fun p => congrArg (·.1) (hf p).1⟩
  · rw [hget] at he
    obtain ⟨e', he', rfl⟩ := Option.map_eq_some_iff.1 he
    exact (h.governed.governs name e' he').of_same rfl (hkept e'.path).1 (hkept e'.path).2 rfl
  · simpa [hget] using h.governed.complete hc c hcf
  · have hempty := h.governed.empty hc
    unfold Registry.modifyPath
    rw [hempty]
    rfl

lemma modifyStream (stream : StreamId) (f : Stream → Stream) : (r.modifyStream stream f).Sound := by
  refine h.modifyPath _ fun p => ?_
  unfold Path.modifyStream
  split
  · exact ⟨rfl, rfl⟩
  · split
    · exact ⟨rfl, rfl⟩
    · exact ⟨rfl, rfl⟩

lemma write (stream : StreamId) (u : MediaUnit) : (r.write stream u).1.Sound := by
  unfold Registry.write
  split
  · exact h
  · exact h.modifyStream stream _

lemma subscribe {stream : StreamId} {r' : Registry} {position : Nat}
    (hr : r.subscribe? stream = some (r', position)) : r'.Sound := by
  obtain ⟨s, -, hs⟩ := Option.bind_eq_some_iff.1 hr
  obtain ⟨⟨subscribed, start⟩, -, heq⟩ := Option.bind_eq_some_iff.1 hs
  obtain ⟨rfl, rfl⟩ := Prod.mk.inj (Option.some.inj heq)
  exact h.modifyStream stream _

lemma segmentCreated {name segment : String} {r' : Registry}
    (hr : r.segmentCreated? name segment = some r') : r'.Sound := by
  obtain ⟨⟨p, recording⟩, -, heq⟩ := Option.bind_eq_some_iff.1 hr
  exact Option.some.inj heq ▸ h.modifyPath _ fun _ => ⟨rfl, rfl⟩

lemma segmentComplete {name segment : String} {ms : Nat} {r' : Registry}
    (hr : r.segmentComplete? name segment ms = some r') : r'.Sound := by
  obtain ⟨⟨p, recording⟩, -, heq⟩ := Option.bind_eq_some_iff.1 hr
  exact Option.some.inj heq ▸ h.modifyPath _ fun _ => ⟨rfl, rfl⟩

end Sound

end Registry

end LivePaths
