import Mathlib.Data.List.Induction
import LivePaths.Proofs.Path.Activity

set_option relaxedAutoImplicit false
set_option autoImplicit false

/-!
# Traffic does not postpone deadlines

While something starts on demand, requests come and go; while it is closing, clients ask for it
without reading. None of this moves a deadline. What starts has to be ready at a fixed time after
the first request for it, and what is closing is stopped at a fixed time after nobody has read any
more, unless a reader comes.

## Main definitions

* `Path.IsTraffic`, `Path.IsCalm` — what cannot move a deadline while something starts, and while it
  is closing.
* `Path.Unmoved` — a path on which nothing was started, stopped or postponed.
* `Path.startedAt?`, `Path.unreadSince?` — when something was started for the last time in a life,
  and when for the last time nobody was left who reads.

## Main results

* `Path.Lived.unmoved_traffic`, `Path.Lived.unmoved_calm` — one act of traffic.
* `Path.Lived.readyAt_act`, `Path.Lived.closeAt_act` — one act that may set a deadline.
* `Path.deadlines_stand` — all deadlines of a life.
-/

namespace LivePaths

namespace Path

variable {p q : Path} {a : PathAct}

/-! ## Traffic -/

/-- **Traffic** while something starts: clients ask, come, leave and give up, publishers and reports
are refused, configurations are handed over, and time passes. Snapshots are no acts: they change
nothing. -/
def IsTraffic (p : Path) : PathAct → Prop
  | .step (.message (.addPublisher _ _ d _ _ expected)) =>
    (p.publisherFault? expected d).isSome = true
  | .step (.message (.sourceReady _ d _)) => d.isEmpty = true
  | .step (.message .sourceNotReady) | .step .expire | .step .destroy => False
  | .step _ | .media _ => True

/-- **Calm traffic** while something is closing: nobody comes to read or is lost, and nothing is
reported. -/
def IsCalm (p : Path) : PathAct → Prop
  | .step (.message (.addPublisher _ _ d _ _ expected)) =>
    (p.publisherFault? expected d).isSome = true
  | .step (.message (.removePublisher client)) => p.publisher? ≠ some client
  | .step (.message (.removeReader client)) => client ∉ p.readers
  | .step (.message (.describe ..)) | .step (.message (.abandon _)) => True
  | .step (.reload _) | .step (.pass _) | .media _ => True
  | .step (.message (.addReader ..)) | .step (.message (.sourceReady ..)) => False
  | .step (.message .sourceNotReady) | .step .expire | .step .destroy => False

instance (p : Path) : (a : PathAct) → Decidable (p.IsTraffic a)
  | .step (.message (.addPublisher _ _ d _ _ expected)) =>
    inferInstanceAs (Decidable ((p.publisherFault? expected d).isSome = true))
  | .step (.message (.sourceReady _ d _)) => inferInstanceAs (Decidable (d.isEmpty = true))
  | .step (.message .sourceNotReady) | .step .expire | .step .destroy => .isFalse not_false
  | .step (.message (.describe ..)) | .step (.message (.addReader ..)) => .isTrue trivial
  | .step (.message (.removeReader _)) | .step (.message (.removePublisher _)) => .isTrue trivial
  | .step (.message (.abandon _)) | .step (.reload _) | .step (.pass _) => .isTrue trivial
  | .media _ => .isTrue trivial

instance (p : Path) : (a : PathAct) → Decidable (p.IsCalm a)
  | .step (.message (.addPublisher _ _ d _ _ expected)) =>
    inferInstanceAs (Decidable ((p.publisherFault? expected d).isSome = true))
  | .step (.message (.removePublisher client)) =>
    inferInstanceAs (Decidable (p.publisher? ≠ some client))
  | .step (.message (.removeReader client)) => inferInstanceAs (Decidable (client ∉ p.readers))
  | .step (.message (.describe ..)) | .step (.message (.abandon _)) => .isTrue trivial
  | .step (.reload _) | .step (.pass _) | .media _ => .isTrue trivial
  | .step (.message (.addReader ..)) | .step (.message (.sourceReady ..)) => .isFalse not_false
  | .step (.message .sourceNotReady) | .step .expire | .step .destroy => .isFalse not_false

/-- **Unmoved**: the path lives, is ready exactly if it was before, and what runs on demand is in
the same phase with the same deadlines. -/
structure Unmoved (p q : Path) : Prop where
  live : q.ended = false
  ready : q.isReady = p.isReady
  activity : q.activity = p.activity
  source : q.sourceDemand = p.sourceDemand
  launch : q.launchDemand = p.launchDemand

lemma Unmoved.refl (hlive : p.ended = false) : Unmoved p p := ⟨hlive, rfl, rfl, rfl, rfl⟩

lemma Unmoved.trans {r : Path} (h : Unmoved p q) (h' : Unmoved q r) : Unmoved p r :=
  ⟨h'.live, h'.ready.trans h.ready, h'.activity.trans h.activity, h'.source.trans h.source,
    h'.launch.trans h.launch⟩

/-- An act that leaves the activity of a path as it is moves nothing. -/
lemma Reached.unmoved_act (h : p.Reached) (hlive : p.ended = false) (ha : p.Allows a)
    (hnext : (p.act a).Reached) (hstays : (p.act a).ended = false)
    (hserial : (p.act a).serial? = p.serial?) (hactivity : (p.act a).activity = p.activity) :
    Unmoved p (p.act a) := by
  have hon := Conf.hasOnDemandSource_of_canHotReload (canHotReload_act ha)
  obtain ⟨hs, hl⟩ := (h.orderly.live hlive).demands_eq
  obtain ⟨hs', hl'⟩ := (hnext.orderly.live hstays).demands_eq
  refine ⟨hstays, isReady_of_serial? hserial, hactivity, ?_, ?_⟩
  · rw [hs', hs, hon, hactivity]
  · rw [hl', hl, hon, hactivity]

/-- Traffic brings no stream. -/
lemma IsTraffic.not_opens (ht : p.IsTraffic a) : ¬ p.Opens a := by
  intro hopens
  unfold Opens at hopens
  split at hopens
  · simp [IsTraffic, hopens] at ht
  · simp [IsTraffic, hopens] at ht
  · exact hopens

/-- Calm traffic is traffic. -/
lemma IsCalm.isTraffic (ht : p.IsCalm a) : p.IsTraffic a := by
  unfold IsCalm at ht
  split at ht
  · exact ht
  all_goals first | exact ht.elim | trivial

/-- Calm traffic takes no stream away. -/
lemma IsCalm.not_forsakes (ht : p.IsCalm a) : ¬ p.Forsakes a := by
  intro hforsakes
  unfold Forsakes at hforsakes
  split at hforsakes
  · exact ht hforsakes.2
  · exact ht
  · exact hforsakes

/-- **Traffic moves nothing** on a path in use on which something starts or is closing, if the
stream is not taken away and nobody is attached.

**Proof sketch.** Nobody is the first to ask, no stream comes or goes, and nothing is in use that
could be stopped for want of readers. -/
lemma Lived.unmoved_of_traffic (h : p.Lived) (hlive : p.ended = false) (ha : p.Allows a)
    (ht : p.IsTraffic a) (hidle : p.activity.phase ≠ .idle) (hinUse : p.activity.phase ≠ .inUse)
    (hused : p.isUnused = false) (hforsakes : ¬ p.Forsakes a)
    (hjoins : ∀ n client query, a = .step (.message (.addReader n client query)) →
      p.isReady = false) :
    Unmoved p (p.act a) := by
  have hunmoved := h.reached.unmoved_act hlive ha (h.act ha).reached
  cases h.reached.activityMove hlive ha with
  | ends hended hcause =>
    exfalso
    rcases hcause with hunused | hf | rfl | rfl
    · simp [hused] at hunused
    · exact hforsakes hf
    · exact ht
    · exact ht
  | stays hstays hactivity hserial => exact hunmoved hstays hserial hactivity
  | starts _ _ hphase => exact absurd hphase hidle
  | joins n client query heq _ hready => simp [hjoins n client query heq] at hready
  | leaves client _ hstays hactivity hserial =>
    -- readers who leave concern only what is in use
    refine hunmoved hstays hserial (hactivity.trans ?_)
    rw [OnDemand.readersGone_of_ne hinUse, ite_self]
  | opens hopens => exact absurd hopens ht.not_opens
  | forsakes hf => exact absurd hf hforsakes
  | stops hstops =>
    obtain rfl | rfl := hstops
    · exact ht.elim
    · exact ht.elim

/-- **Traffic while something starts** moves nothing: nobody has made the path ready, and whoever
has started it is still held, so that the path is in use. -/
lemma Lived.unmoved_traffic (h : p.Lived) (hlive : p.ended = false)
    (hstarting : p.activity.phase = .starting) (ha : p.Allows a) (ht : p.IsTraffic a) :
    Unmoved p (p.act a) := by
  have hunready : p.isReady = false :=
    (h.reached.orderly.live hlive).activity_paced.not_ready_of_starting hstarting
  have hused : p.isUnused = false := isUnused_of_held (h.holds_of_starting hlive hstarting)
  have hforsakes : ¬ p.Forsakes a := fun hf => by simp [hf.isReady] at hunready
  exact h.unmoved_of_traffic hlive ha ht (by simp [hstarting]) (by simp [hstarting]) hused
    hforsakes fun _ _ _ _ => hunready

/-- **Calm traffic while something is closing** moves nothing: a ready path has a source, so that it
is in use. -/
lemma Lived.unmoved_calm (h : p.Lived) (hlive : p.ended = false) (hready : p.isReady = true)
    (hclosing : p.activity.phase = .closing) (ha : p.Allows a) (ht : p.IsCalm a) :
    Unmoved p (p.act a) := by
  have hsource : p.source.isSome = true :=
    (h.reached.orderly.live hlive).coherent.isSome_source hready
  have hused : p.isUnused = false := isUnused_of_source hsource
  refine h.unmoved_of_traffic hlive ha ht.isTraffic (by simp [hclosing]) (by simp [hclosing]) hused
    ht.not_forsakes ?_
  rintro n client query rfl
  exact ht.elim

/-- **Any number of acts**: where one act of some kind moves nothing as long as nothing was moved,
any number of such acts moves nothing.

**Proof sketch.** Induction on the acts: after the first one nothing was moved, so that this holds
of the next one too. -/
lemma Lived.unmoved_after {I : Path → Prop} {Quiet : Path → PathAct → Prop}
    (stable : ∀ p q, I p → Unmoved p q → I q)
    (unmoved : ∀ p a, p.Lived → p.ended = false → I p → p.Allows a → Quiet p a →
      Unmoved p (p.act a))
    {p : Path} (h : p.Lived) (hlive : p.ended = false) (hI : I p) {as : List PathAct}
    (has : p.AllowsAll as) (hquiet : ∀ e ∈ p.episodes as, Quiet e.1 e.2) :
    Unmoved p (p.after as) := by
  induction as generalizing p with
  | nil => exact .refl hlive
  | cons a rest ih =>
    obtain ⟨hfirst, hrest⟩ := List.forall_mem_cons.1 hquiet
    have hact : Unmoved p (p.act a) := unmoved p a h hlive hI has.1 hfirst
    exact hact.trans (ih (h.act has.1) hact.live (stable p _ hI hact) has.2 hrest)

/-! ## Times in a life -/

/-- **The time of an act** by which something starts on demand. -/
def startTime? (p : Path) (a : PathAct) : Option Nat :=
  if p.activity.phase ≠ .starting ∧ (p.act a).activity.phase = .starting then some p.now else none

/-- **The time of an act** by which the path becomes ready with a new stream, or its last reader
goes. -/
def unreadTime? (p : Path) (a : PathAct) : Option Nat :=
  if ((p.act a).isReady = true ∧ (p.act a).serial? ≠ p.serial?) ∨
      (p.readers ≠ [] ∧ (p.act a).readers = []) then some p.now
  else none

/-- The last of certain times of acts in a part of a life. -/
def lastTime? (time? : Path → PathAct → Option Nat) (p : Path) (as : List PathAct) : Option Nat :=
  ((p.episodes as).filterMap fun e => time? e.1 e.2).getLast?

/-- **When something was started** on demand for the last time in a part of a life. -/
def startedAt? (p : Path) (as : List PathAct) : Option Nat := lastTime? startTime? p as

/-- **Since when nobody reads**: when the path has become ready or lost its last reader for the last
time in a part of a life. -/
def unreadSince? (p : Path) (as : List PathAct) : Option Nat := lastTime? unreadTime? p as

/-- The last act counts before all others. -/
lemma lastTime?_concat (time? : Path → PathAct → Option Nat) (p : Path) (as : List PathAct)
    (a : PathAct) :
    lastTime? time? p (as ++ [a]) = (time? (p.after as) a).or (lastTime? time? p as) := by
  unfold lastTime?
  rw [episodes_append, List.filterMap_append, List.getLast?_append]
  cases ht : time? (p.after as) a <;> simp [episodes, ht]

/-- **Times that are kept**: let there be nothing to keep at first, and let every act after which
there is something to keep either be the one whose time is kept, or keep the time from before. Then
the time that is kept is that of the last such act.

**Proof sketch.** Induction on the life from its last act on. -/
lemma Lived.exists_lastTime? {I : Path → Prop} {D : Path → Nat → Prop}
    {time? : Path → PathAct → Option Nat}
    (time_act : ∀ q a, q.Lived → q.Allows a → I (q.act a) →
      (∃ t, time? q a = some t ∧ D (q.act a) t) ∨
        time? q a = none ∧ I q ∧ ∀ t, D q t → D (q.act a) t)
    (h : p.Lived) (hnone : ¬ I p) {as : List PathAct} (has : p.AllowsAll as)
    (hI : I (p.after as)) : ∃ t, lastTime? time? p as = some t ∧ D (p.after as) t := by
  induction as using List.reverseRecOn with
  | nil => exact absurd hI hnone
  | append_singleton before a ih =>
    obtain ⟨hbefore, ha, -⟩ := (allowsAll_append p before [a]).1 has
    have hafter : p.after (before ++ [a]) = (p.after before).act a := p.after_append before [a]
    rw [hafter] at hI ⊢
    rw [lastTime?_concat]
    -- the last act has set the time, or it was set before and is carried over
    rcases time_act _ a (h.after hbefore) ha hI with ⟨t, ht, hD⟩ | ⟨ht, hkept, hcarries⟩
    · exact ⟨t, by rw [ht]; rfl, hD⟩
    · obtain ⟨t, hlast, hD⟩ := ih hbefore hkept
      exact ⟨t, by rw [ht]; exact hlast, hcarries t hD⟩

/-- **One act before something starts**: it is the one that has started it, or what starts did so
before for the same time. -/
lemma Lived.readyAt_act (h : p.Lived) (ha : p.Allows a) (hlive : (p.act a).ended = false)
    (hstarting : (p.act a).activity.phase = .starting) :
    (∃ t, p.startTime? a = some t ∧
        (p.act a).activity.readyAt = some (t + (p.act a).startTimeout)) ∨
      p.startTime? a = none ∧ (p.ended = false ∧ p.activity.phase = .starting) ∧
        ∀ t, p.activity.readyAt = some (t + p.startTimeout) →
          (p.act a).activity.readyAt = some (t + (p.act a).startTimeout) := by
  have hprev : p.ended = false := h.live_of_act ha hlive
  have hmove := h.reached.activityMove hprev ha
  rw [(timeouts_act ha).1]
  rcases hmove.starting_cases (h.reached.orderly.live hprev) hlive hstarting with
    ⟨hactivity, -⟩ | ⟨hidle, hreadyAt, -⟩
  · have hphase : p.activity.phase = .starting := hactivity ▸ hstarting
    exact .inr ⟨if_neg fun hnew => hnew.1 hphase, ⟨hprev, hphase⟩, fun t ht => hactivity ▸ ht⟩
  · exact .inl ⟨p.now, if_pos ⟨by simp [hidle], hstarting⟩, hreadyAt⟩

/-- **One act before something is closing** with a stream: it has brought the stream or taken the
last reader away, or the same stream was there before, without readers, to be stopped at the same
time. -/
lemma Lived.closeAt_act (h : p.Lived) (ha : p.Allows a) (hlive : (p.act a).ended = false)
    (hready : (p.act a).isReady = true) (hclosing : (p.act a).activity.phase = .closing) :
    (∃ t, p.unreadTime? a = some t ∧
        (p.act a).activity.closeAt = some (t + (p.act a).closeAfter)) ∨
      p.unreadTime? a = none ∧
        (p.ended = false ∧ p.isReady = true ∧ p.activity.phase = .closing) ∧
        ∀ t, p.activity.closeAt = some (t + p.closeAfter) →
          (p.act a).activity.closeAt = some (t + (p.act a).closeAfter) := by
  have hprev : p.ended = false := h.live_of_act ha hlive
  have hmove := h.reached.activityMove hprev ha
  rw [(timeouts_act ha).2]
  rcases hmove.closing_cases (h.reached.orderly.live hprev) hlive hready hclosing with
    ⟨hactivity, hcarried, hserial, hreaders⟩ | ⟨hcloseAt, hunread⟩
  · refine .inr ⟨if_neg ?_, ⟨hprev, hcarried, hactivity ▸ hclosing⟩, fun t ht => hactivity ▸ ht⟩
    rintro (⟨-, hne⟩ | ⟨hne, hnobody⟩)
    · exact hne hserial
    · exact hreaders hne hnobody
  · exact .inl ⟨p.now, if_pos (hunread.imp_left fun hne => ⟨hready, hne⟩), hcloseAt⟩

section Times

variable {settings : PathSettings} {now id : Nat} {name : String} {found : ConfSet.Found}
  {as : List PathAct} (has : (create settings now id name found).AllowsAll as)
  (hlive : ((create settings now id name found).after as).ended = false)

include has hlive

/-- **What starts** has to be ready at a fixed time after it was started. -/
lemma readyAt_of_starting
    (hstarting : ((create settings now id name found).after as).activity.phase = .starting) :
    ∃ t, (create settings now id name found).startedAt? as = some t ∧
      ((create settings now id name found).after as).activity.readyAt =
        some (t + ((create settings now id name found).after as).startTimeout) := by
  refine Lived.exists_lastTime? (I := fun q => q.ended = false ∧ q.activity.phase = .starting)
    (D := fun q t => q.activity.readyAt = some (t + q.startTimeout)) ?_
    (.create settings now id name found) (by simp) has ⟨hlive, hstarting⟩
  exact fun q a hq ha hI => hq.readyAt_act ha hI.1 hI.2

/-- **What is closing** with a stream is stopped at a fixed time after nobody has read any more. -/
lemma closeAt_of_closing
    (hready : ((create settings now id name found).after as).isReady = true)
    (hclosing : ((create settings now id name found).after as).activity.phase = .closing) :
    ∃ t, (create settings now id name found).unreadSince? as = some t ∧
      ((create settings now id name found).after as).activity.closeAt =
        some (t + ((create settings now id name found).after as).closeAfter) := by
  refine Lived.exists_lastTime?
    (I := fun q => q.ended = false ∧ q.isReady = true ∧ q.activity.phase = .closing)
    (D := fun q t => q.activity.closeAt = some (t + q.closeAfter)) ?_
    (.create settings now id name found) (by simp) has ⟨hlive, hready, hclosing⟩
  exact fun q a hq ha hI => hq.closeAt_act ha hI.1 hI.2.1 hI.2.2

end Times

/-! ## Readers who come -/

/-- **A reader who comes** while something is closing is attached, and nothing is stopped any
more. -/
lemma Reached.activity_addReader (h : p.Reached) (hlive : p.ended = false)
    (hready : p.isReady = true) (hclosing : p.activity.phase = .closing) (n : Nat)
    (client : Client) (query : String) :
    (p.receive (.addReader n client query)).activity = { phase := .inUse } := by
  have ho := h.orderly.live hlive
  have hnobody : p.readers = [] := ho.readers_eq_nil_of_closing hready hclosing
  have hroom : ¬ p.isFull = true := by
    rw [isFull_iff, hnobody]
    exact fun ⟨hlimit, hle⟩ => hlimit (Nat.le_zero.1 hle)
  have hattached : p.receive (.addReader n client query) =
      (p.takeIn [client]).answer n (.stream p.streamId) := by
    rw [receive_addReader h hlive hready, attach_of_ready hready, if_neg (by simp [hnobody]),
      if_neg hroom]
  have hreadyAt : p.activity.readyAt = none :=
    ho.activity_paced.timed.readyAt_eq_none (by simp [hclosing])
  have htaken : ((p.takeIn [client]).answer n (.stream p.streamId)).activity =
      p.activity.readerAttached := activity_takeIn ho.activity_eq_idle [client]
  rw [hattached, htaken, OnDemand.readerAttached_of_closing hclosing, hreadyAt]

/-! ## All deadlines of a life -/

/-- **Deadlines stand** in every state of a life. What starts has to be ready when its time is over
after it was started, and no traffic until then changes this: the path lives on, and everything that
runs on demand is in the same phase with the same deadlines. What is closing on a ready path is
stopped when its time is over after the path has become ready or lost its last reader, whichever was
later, and no calm traffic until then changes this; but every reader who comes keeps it running.

**Proof sketch.** The deadlines are found by induction on the life so far, and that nothing moves
them by induction on the traffic; both rest on the few moves that an act can make. -/
theorem deadlines_stand (settings : PathSettings) (now id : Nat) (name : String)
    (found : ConfSet.Found) {as : List PathAct}
    (has : (create settings now id name found).AllowsAll as)
    (hlive : ((create settings now id name found).after as).ended = false) :
    let p := create settings now id name found
    let q := p.after as
    (q.sourceDemand.phase = .starting ∨ q.launchDemand.phase = .starting →
      (∃ t, p.startedAt? as = some t ∧ q.activity.readyAt = some (t + q.startTimeout)) ∧
      ∀ bs, q.AllowsAll bs → (∀ e ∈ q.episodes bs, e.1.IsTraffic e.2) →
        Unmoved q (q.after bs)) ∧
    (q.isReady = true →
      q.sourceDemand.phase = .closing ∨ q.launchDemand.phase = .closing →
      (∃ t, p.unreadSince? as = some t ∧ q.activity.closeAt = some (t + q.closeAfter)) ∧
      (∀ bs, q.AllowsAll bs → (∀ e ∈ q.episodes bs, e.1.IsCalm e.2) → Unmoved q (q.after bs)) ∧
      ∀ n client query,
        (q.receive (.addReader n client query)).activity = { phase := .inUse }) := by
  intro p q
  have hq : q.Lived := Lived.after (.create ..) has
  have ho := hq.reached.orderly.live hlive
  refine ⟨fun hdemand => ?_, fun hready hdemand => ?_⟩
  · have hstarting := ho.activity_phase_of_demands (by simp) hdemand
    refine ⟨readyAt_of_starting has hlive hstarting, fun bs hbs htraffic => ?_⟩
    exact hq.unmoved_after (I := fun p => p.activity.phase = .starting)
      (fun _ _ hphase hsame => hsame.activity ▸ hphase)
      (fun _ _ hp hl hphase ha ht => hp.unmoved_traffic hl hphase ha ht) hlive hstarting hbs
      htraffic
  · have hclosing := ho.activity_phase_of_demands (by simp) hdemand
    refine ⟨closeAt_of_closing has hlive hready hclosing, fun bs hbs hcalm => ?_,
      hq.reached.activity_addReader hlive hready hclosing⟩
    exact hq.unmoved_after (I := fun p => p.isReady = true ∧ p.activity.phase = .closing)
      (fun _ _ hI hsame => ⟨hsame.ready.trans hI.1, hsame.activity ▸ hI.2⟩)
      (fun _ _ hp hl hI ha ht => hp.unmoved_calm hl hI.1 hI.2 ha ht) hlive ⟨hready, hclosing⟩ hbs
      hcalm

/-- A configuration whose source runs on demand, with short times. -/
def pulledShortly : ConfSet.Found where
  conf :=
    { name := "cam", source := .pull "rtsp://host/s", sourceOnDemand := true,
      sourceStartTimeout := 20, sourceCloseAfter := 30 }
  captures := []

/-- A path whose source runs on demand. -/
def newPulledShortly : Path := create {} 0 1 "cam" pulledShortly

/-- Somebody wants to know the stream for the first time. -/
def asked : List PathAct := [.step (.pass 5), .step (.message (.describe 0 ""))]

/-- Others come and leave, and the source announces nothing. -/
def askedAgain : List PathAct :=
  [.step (.pass 10), .step (.message (.addReader 1 ⟨0, ⟨"rtspSession", "a"⟩⟩ "")),
    .step (.message (.removeReader ⟨0, ⟨"rtspSession", "a"⟩⟩)), .step (.message (.abandon 1)),
    .step (.message (.sourceReady 2 ⟨[]⟩ false)), .step (.pass 20)]

/-- Somebody reads what the source announces, and leaves. -/
def askedAndRead : List PathAct :=
  [.step (.pass 5), .step (.message (.addReader 0 ⟨0, ⟨"rtspSession", "a"⟩⟩ "")),
    .step (.message (.sourceReady 1 ⟨[⟨.video, "H264"⟩]⟩ false)), .step (.pass 22),
    .step (.message (.removeReader ⟨0, ⟨"rtspSession", "a"⟩⟩))]

/-- Somebody wants to know the stream, and the reader leaves once more. -/
def askedCalmly : List PathAct :=
  [.step (.pass 30), .step (.message (.describe 2 "")),
    .step (.message (.removeReader ⟨0, ⟨"rtspSession", "a"⟩⟩)), .step (.pass 50)]

/-- The source that was started at 5 has to be ready at 25 whoever comes in between. After its last
reader has left at 22 it is stopped at 52, unless a reader comes. -/
theorem deadlines_stand_pulledShortly :
    (newPulledShortly.startedAt? asked = some 5 ∧
      (newPulledShortly.after asked).activity.readyAt = some 25 ∧
      Unmoved (newPulledShortly.after asked)
        ((newPulledShortly.after asked).after askedAgain)) ∧
    newPulledShortly.unreadSince? askedAndRead = some 22 ∧
      (newPulledShortly.after askedAndRead).activity.closeAt = some 52 ∧
      Unmoved (newPulledShortly.after askedAndRead)
        ((newPulledShortly.after askedAndRead).after askedCalmly) ∧
      ((newPulledShortly.after askedAndRead).receive
        (.addReader 3 ⟨1, ⟨"rtspSession", "b"⟩⟩ "")).activity = { phase := .inUse } := by
  have hasked : newPulledShortly.AllowsAll asked := by decide +kernel
  have hread : newPulledShortly.AllowsAll askedAndRead := by decide +kernel
  obtain ⟨⟨t, ht, hreadyAt⟩, htraffic⟩ :=
    (deadlines_stand {} 0 1 "cam" pulledShortly hasked (by decide +kernel)).1
      (.inl (by decide +kernel))
  obtain ⟨⟨u, hu, hcloseAt⟩, hcalm, hcomes⟩ :=
    (deadlines_stand {} 0 1 "cam" pulledShortly hread (by decide +kernel)).2 (by decide +kernel)
      (.inl (by decide +kernel))
  have hstarted : newPulledShortly.startedAt? asked = some 5 := by decide +kernel
  have hunread : newPulledShortly.unreadSince? askedAndRead = some 22 := by decide +kernel
  obtain rfl : 5 = t := Option.some.inj (hstarted.symm.trans ht)
  obtain rfl : 22 = u := Option.some.inj (hunread.symm.trans hu)
  exact ⟨⟨hstarted, hreadyAt, htraffic askedAgain (by decide +kernel) (by decide +kernel)⟩,
    hunread, hcloseAt, hcalm askedCalmly (by decide +kernel) (by decide +kernel), hcomes 3 _ ""⟩

end Path

end LivePaths
