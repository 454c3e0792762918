import LivePaths.Proofs.Path.Activity

set_option relaxedAutoImplicit false
set_option autoImplicit false

/-!
# Clients who leave without being attached

A client who stops publishing or reading may not be attached any more: the path has disconnected
it, or it never was attached. Whoever stops publishing so is ignored. Whoever stops reading so is
ignored unless what runs on demand has lost its stream while it was in use: nobody reads then, and
the path takes the stranger for the last reader who leaves. Which acts lead there is known.

## Main definitions

* `Path.IgnoresStrangers` — nothing happens when a client leaves who is not attached.
* `Path.LeftInUse` — what runs on demand is in use without a stream.
* `Path.LeavesInUse` — the acts after which it is.

## Main results

* `Path.InOrder.removeReader_stranger` — what happens when somebody leaves who does not read.
* `Path.InOrder.ignoresStrangers_iff` — where strangers are ignored.
* `Path.strangers_ignored_iff` — in which lives they always are.
-/

namespace LivePaths

/-- Nothing is in use after the last reader has gone. -/
lemma OnDemand.phase_readersGone_ne (o : OnDemand) (d : Nat) :
    (o.readersGone d).phase ≠ .inUse := by
  unfold readersGone
  split
  · simp [scheduleClose]
  · assumption

namespace Path

variable {p q : Path} {a : PathAct}

/-! ## Strangers -/

/-- **Strangers are ignored**: nothing happens to the path when a client stops publishing or reading
that is not attached, but that an unused path ends on its next occasion. -/
structure IgnoresStrangers (p : Path) : Prop where
  publisher : ∀ client, p.publisher? ≠ some client →
    p.receive (.removePublisher client) = if p.isUnused then p.shutdown else p
  reader : ∀ client, client ∉ p.readers → p.receive (.removeReader client) = p

/-- **Left in use**: what runs on demand is in use, but the path has no stream. -/
def LeftInUse (p : Path) : Prop := p.isReady = false ∧ p.activity.phase = .inUse

instance (p : Path) : Decidable p.LeftInUse := by unfold LeftInUse; infer_instance

/-- **Acts that leave in use** what runs on demand: while somebody reads, the publisher stops
publishing on a path that does not end by this, or the source announces nothing. -/
def LeavesInUse (p : Path) : PathAct → Prop
  | .step (.message (.removePublisher client)) =>
    p.publisher? = some client ∧ p.conf.hasPattern = false ∧ p.activity.phase = .inUse
  | .step (.message (.sourceReady _ d _)) =>
    p.isReady = true ∧ d.isEmpty = true ∧ p.activity.phase = .inUse
  | _ => False

instance (p : Path) (a : PathAct) : Decidable (p.LeavesInUse a) := by
  unfold LeavesInUse
  split <;> infer_instance

/-- That nobody reads any more concerns what is in use. -/
lemma noteReadersGone_of_ne (hs : p.sourceDemand.phase ≠ .inUse)
    (hl : p.launchDemand.phase ≠ .inUse) : p.noteReadersGone = p := by
  unfold noteReadersGone
  rw [OnDemand.readersGone_of_ne hs, OnDemand.readersGone_of_ne hl, ite_self, ite_self]

namespace InOrder

variable (h : p.InOrder)

include h

/-- What is in use on a path is its activity. -/
lemma noteReadersGone_eq_self (hphase : p.activity.phase ≠ .inUse) : p.noteReadersGone = p := by
  obtain ⟨hs, hl⟩ := h.demands_eq
  refine noteReadersGone_of_ne ?_ ?_
  · rw [hs]
    split
    · exact hphase
    · simp
  · rw [hl]
    split
    · simp
    · exact hphase

/-- **Somebody leaves who does not read**: what was left in use is closing from then on, and nothing
happens otherwise. -/
lemma removeReader_stranger {client : Client} (hclient : client ∉ p.readers) :
    p.removeReader client = if p.LeftInUse then p.noteReadersGone else p := by
  have hrest : p.readers.filter (· ≠ client) = p.readers :=
    List.filter_eq_self.2 fun c hc => by
      simpa using fun heq : c = client => hclient (heq ▸ hc)
  have hremove : p.removeReader client = if p.readers.isEmpty then p.noteReadersGone else p := by
    unfold Path.removeReader
    rw [hrest]
  rw [hremove]
  by_cases hleft : p.LeftInUse
  · have hnobody : p.readers = [] := h.coherent.readers (by simpa [isReady] using hleft.1)
    rw [if_pos hleft, hnobody]
    rfl
  · rw [if_neg hleft]
    split
    · next hnobody =>
      -- somebody would read what is in use if the path were ready
      refine h.noteReadersGone_eq_self fun hphase => hleft ⟨?_, hphase⟩
      by_contra hready
      exact h.readers_ne_nil (by simpa using hready) hphase (by simpa using hnobody)
    · rfl

/-- **Strangers are ignored** by a live path unless what runs on demand was left in use. -/
lemma ignoresStrangers_iff (hlive : p.ended = false) : p.IgnoresStrangers ↔ ¬ p.LeftInUse := by
  have hreceive (client : Client) :
      p.receive (.removeReader client) = p.removeReader client := by simp [Path.receive, hlive]
  constructor
  · intro hignores hleft
    have hnobody : p.readers = [] := h.coherent.readers (by simpa [isReady] using hleft.1)
    have hgone : p.noteReadersGone = p := by
      have hstranger : (⟨0, ⟨"", ""⟩⟩ : Client) ∉ p.readers := by simp [hnobody]
      have hsame := hignores.reader _ hstranger
      rwa [hreceive, h.removeReader_stranger hstranger, if_pos hleft] at hsame
    have hphase : (p.activity.readersGone (p.now + p.closeAfter)).phase = .inUse := by
      rw [← activity_noteReadersGone h.activity_eq_idle, hgone, hleft.2]
    exact OnDemand.phase_readersGone_ne _ _ hphase
  · intro hleft
    refine ⟨fun client => receive_removePublisher_stranger hlive, fun client hclient => ?_⟩
    rw [hreceive, h.removeReader_stranger hclient, if_neg hleft]

end InOrder

/-! ## How something is left in use -/

/-- An act that leaves something in use happens in a live path, and nobody reads afterwards. -/
lemma LeavesInUse.leftInUse (h : p.Reached) (ha : p.LeavesInUse a) :
    (p.act a).ended = false ∧ (p.act a).LeftInUse := by
  have hlive : p.ended = false := by
    -- after the end there is neither a publisher nor a stream
    by_contra hended
    obtain ⟨-, -, hstream, hsource, -⟩ := h.orderly.gone (by simpa using hended)
    unfold LeavesInUse at ha
    split at ha
    · simp [publisher?, hsource] at ha
    · simp [isReady, hstream] at ha
    · exact ha
  have hended : p.becomeUnready.ended = false := p.ended_becomeUnready.trans hlive
  have hleft (hphase : p.activity.phase = .inUse) : p.becomeUnready.LeftInUse :=
    ⟨p.isReady_becomeUnready, (congrArg OnDemand.phase p.activity_becomeUnready).trans hphase⟩
  unfold LeavesInUse at ha
  split at ha
  · next client =>
    obtain ⟨hclient, hfixed, hphase⟩ := ha
    have hkept : p.vacated.conf.hasPattern = false :=
      (congrArg Conf.hasPattern p.sources_becomeUnready.1).trans hfixed
    rw [act, step, receive_removePublisher_publisher hlive hclient, closeIfUnused_of_fixed hkept]
    exact ⟨hended, hleft hphase⟩
  · next n d rtp =>
    obtain ⟨-, hd, hphase⟩ := ha
    rw [act, step, receive_sourceReady_of_isEmpty hlive hd]
    exact ⟨hended, hleft hphase⟩
  · exact ha.elim

/-- A path under a pattern ends when its publisher stops publishing. -/
lemma Coherent.ended_removePublisher (h : p.Coherent) (hlive : p.ended = false)
    {client : Client} (hready : p.isReady = true) (hclient : p.publisher? = some client)
    (hpattern : p.conf.hasPattern = true) :
    (p.receive (.removePublisher client)).ended = true := by
  have hnone := h.held hready
  obtain ⟨s, hs⟩ := Option.isSome_iff_exists.1 hready
  rw [receive_removePublisher_publisher hlive hclient, Path.vacated, becomeUnready_eq p hs,
    closeIfUnused, if_pos]
  · exact (isOver_shutdown _).ended
  · simpa [isUnused, hpattern, holdsRequests] using hnone

/-- **Nothing else leaves something in use** in a live path where nothing was left so before. -/
lemma ActivityMove.leavesInUse (h : p.InOrder) (hlive : p.ended = false) (hfree : ¬ p.LeftInUse)
    (hmove : p.ActivityMove a (p.act a)) (hq : (p.act a).ended = false)
    (hleft : (p.act a).LeftInUse) : p.LeavesInUse a := by
  obtain ⟨hunready, hphase⟩ := hleft
  cases hmove with
  | ends hended => simp [hq] at hended
  | stays _ hactivity hserial =>
    exact absurd ⟨(isReady_of_serial? hserial).symm.trans hunready, hactivity ▸ hphase⟩ hfree
  | starts _ _ _ hactivity => simp [hactivity] at hphase
  | joins n client query _ _ hready _ hserial =>
    simp [isReady_of_serial? hserial, hready] at hunready
  | leaves client _ _ hactivity hserial =>
    rw [hactivity] at hphase
    split at hphase
    · exact absurd hphase (OnDemand.phase_readersGone_ne _ _)
    · exact absurd ⟨(isReady_of_serial? hserial).symm.trans hunready, hphase⟩ hfree
  | opens _ _ hready => simp [hready] at hunready
  | forsakes hforsakes hstays hlost hactivity hreaders =>
    rw [hactivity] at hphase
    unfold Forsakes at hforsakes
    split at hforsakes
    · next client =>
      refine ⟨hforsakes.2, ?_, hphase⟩
      by_contra hpattern
      have hended : (p.act (.step (.message (.removePublisher client)))).ended = true :=
        h.coherent.ended_removePublisher hlive hforsakes.1 hforsakes.2 (by simpa using hpattern)
      simp [hended] at hq
    · exact ⟨hforsakes.1, hforsakes.2, hphase⟩
    · exact hforsakes.elim
  | stops _ _ hactivity => simp [hactivity] at hphase

/-! ## Strangers in a life -/

/-- **Something is left in use** in a life only by the acts that do this. -/
lemma Lived.leftInUse_after_iff (h : p.Lived) (hfree : p.ended = false → ¬ p.LeftInUse)
    {as : List PathAct} (has : p.AllowsAll as) :
    (∀ bs, bs <+: as → (p.after bs).ended = false → ¬ (p.after bs).LeftInUse) ↔
      ∀ e ∈ p.episodes as, ¬ e.1.LeavesInUse e.2 := by
  refine h.forall_after_iff (L := fun q => q.ended = false → ¬ q.LeftInUse)
    (fun q a hq ha hbefore => ⟨fun hkept hleaves => ?_, fun hno hlive hleft => ?_⟩) hfree has
  · obtain ⟨hlive, hleft⟩ := hleaves.leftInUse hq.reached
    exact hkept hlive hleft
  · have hprev : q.ended = false := hq.live_of_act ha hlive
    exact hno ((hq.reached.activityMove hprev ha).leavesInUse (hq.reached.orderly.live hprev)
      hprev (hbefore hprev) hlive hleft)

/-- **In which lives strangers are always ignored**: in those in which no act leaves in use what
runs on demand. Whatever has happened so far, whoever stops publishing on a live path without
publishing is ignored; whoever stops reading without reading is ignored too, also if the path has
disconnected it just before, unless something was left in use, which then begins to close although
nobody has left.

**Proof sketch.** A stranger is heard only where nobody reads and something is in use. A ready path
has readers if something is in use, so that this takes the loss of a stream by an act that stops
nothing; no other move of the activity leads there. -/
theorem strangers_ignored_iff (settings : PathSettings) (now id : Nat) (name : String)
    (found : ConfSet.Found) {as : List PathAct}
    (has : (create settings now id name found).AllowsAll as) :
    let p := create settings now id name found
    ((∀ bs, bs <+: as → (p.after bs).ended = false → (p.after bs).IgnoresStrangers) ↔
      ∀ e ∈ p.episodes as, ¬ e.1.LeavesInUse e.2) ∧
    ∀ bs, bs <+: as → (p.after bs).ended = false →
      (∀ client, (p.after bs).publisher? ≠ some client →
        (p.after bs).receive (.removePublisher client) =
          if (p.after bs).isUnused then (p.after bs).shutdown else p.after bs) ∧
      ∀ client, client ∉ (p.after bs).readers →
        (p.after bs).receive (.removeReader client) =
          if (p.after bs).LeftInUse then (p.after bs).noteReadersGone else p.after bs := by
  intro p
  have hp : p.Lived := .create settings now id name found
  have hlived {bs : List PathAct} (hbs : bs <+: as) : (p.after bs).Lived := by
    obtain ⟨cs, rfl⟩ := hbs
    exact hp.after ((allowsAll_append p bs cs).1 has).1
  have hlaw := hp.leftInUse_after_iff (fun _ hleft => by simp [p, LeftInUse] at hleft) has
  refine ⟨⟨fun hignores => ?_, fun hno bs hbs hlive => ?_⟩, fun bs hbs hlive => ⟨?_, ?_⟩⟩
  · refine hlaw.1 fun bs hbs hlive => ?_
    exact (((hlived hbs).reached.orderly.live hlive).ignoresStrangers_iff hlive).1
      (hignores bs hbs hlive)
  · exact (((hlived hbs).reached.orderly.live hlive).ignoresStrangers_iff hlive).2
      (hlaw.2 hno bs hbs hlive)
  · exact fun client => receive_removePublisher_stranger hlive
  · intro client hclient
    have hreceive : (p.after bs).receive (.removeReader client) =
        (p.after bs).removeReader client := by simp [receive, hlive]
    rw [hreceive, ((hlived hbs).reached.orderly.live hlive).removeReader_stranger hclient]

/-- A command is launched for somebody who asks, and the publisher for whom it was launched comes,
is read and stops publishing. -/
def launchedAndLeft : List PathAct :=
  [.step (.message (.describe 0 "")),
    .step (.message (.addPublisher 1 ⟨0, ⟨"rtspSession", "a"⟩⟩ ⟨[⟨.video, "H264"⟩]⟩ false "" none)),
    .step (.message (.addReader 2 ⟨1, ⟨"rtspSession", "b"⟩⟩ "")),
    .step (.message (.removePublisher ⟨0, ⟨"rtspSession", "a"⟩⟩))]

/-- While somebody publishes strangers are ignored; when he has left, this was the act that leaves
the launch in use, and the reader who was disconnected is not ignored any more. -/
theorem strangers_ignored_launchedAndLeft :
    newLaunched.AllowsAll launchedAndLeft ∧
      (newLaunched.after (launchedAndLeft.take 3)).IgnoresStrangers ∧
      ¬ ∀ bs, bs <+: launchedAndLeft → (newLaunched.after bs).ended = false →
        (newLaunched.after bs).IgnoresStrangers := by
  have has : newLaunched.AllowsAll launchedAndLeft := by decide
  have hbefore : newLaunched.AllowsAll (launchedAndLeft.take 3) := by decide
  refine ⟨has, ?_, ?_⟩
  · exact (strangers_ignored_iff {} 0 1 "cam" launchedOnDemand hbefore).1.2 (by decide) _
      List.prefix_rfl (by decide)
  · intro hignores
    have hnone := (strangers_ignored_iff {} 0 1 "cam" launchedOnDemand has).1.1 hignores
    exact absurd hnone (by decide)

/-- **Not every stranger is ignored**: when the reader whom the loss of the stream has disconnected
stops reading, the launch begins to close. -/
theorem not_ignored_launchedAndLeft :
    newLaunched.AllowsAll launchedAndLeft ∧
      (newLaunched.after launchedAndLeft).ended = false ∧
      ⟨1, ⟨"rtspSession", "b"⟩⟩ ∉ (newLaunched.after launchedAndLeft).readers ∧
      (newLaunched.after launchedAndLeft).launchDemand = { phase := .inUse } ∧
      ((newLaunched.after launchedAndLeft).receive
        (.removeReader ⟨1, ⟨"rtspSession", "b"⟩⟩)).launchDemand.phase = .closing := by
  decide

end Path

end LivePaths
