import LivePaths.Proofs.Path.Changes

set_option relaxedAutoImplicit false
set_option autoImplicit false

/-!
# The life of a path

A path lives through steps and, in between, through what sources, subscribers and recorders do with
its streams and recordings. The states of such a life are reached ones; they are known in full, in
particular what happened between two steps.

## Main definitions

* `MediaAct`, `Path.media` — what happens to a path between steps.
* `PathAct`, `Path.act`, `Path.AllowsAll` — everything that can happen to a path.
* `Path.after`, `Path.episodes` — the state after a part of a life, and what happened in which
  state.
* `Path.Lived` — the states of lives.

## Main results

* `Path.goesOn_media` — media acts are what can happen between steps.
* `Path.Lived.reached` — the states of lives are reached.
* `Path.Lived.forall_after_iff` — a law that every act keeps but for some.
* `Path.Lived.induction` — what a new path has and every change and media act keeps holds in them.
-/

namespace LivePaths

/-! ## Between steps -/

namespace Stream

lemma description_write (s : Stream) (u : MediaUnit) :
    (s.write u).1.description = s.description := by
  unfold write
  split
  · rfl
  · dsimp only
    split <;> rfl

/-- The stream after a subscription, if it was possible. -/
def subscribed (s : Stream) : Stream := (s.subscribe?.map (·.1)).getD s

lemma description_subscribed (s : Stream) : s.subscribed.description = s.description := by
  unfold subscribed subscribe?
  split <;> rfl

end Stream

/-- **Media acts**: units are written to a stream, subscribers come and go, and the last recording
reports its segments. -/
inductive MediaAct where
  | write (serial : Nat) (unit : MediaUnit)
  | subscribe (serial : Nat)
  | unsubscribe (serial : Nat)
  | segmentCreate (segment : String)
  /-- A segment is complete and has some length in milliseconds. -/
  | segmentComplete (segment : String) (ms : Nat)

namespace Path

/-- **One media act**; nothing happens if there is no such stream or recording. -/
def media (p : Path) : MediaAct → Path
  | .write serial u => p.modifyStream serial fun s => (s.write u).1
  | .subscribe serial => p.modifyStream serial Stream.subscribed
  | .unsubscribe serial => p.modifyStream serial Stream.unsubscribe
  | .segmentCreate segment =>
    match p.lastRecording? with
    | none => p
    | some recording =>
      { p with
        launcher :=
          p.launcher.onSegmentCreate p.baseEnvironment recording.onSegmentCreate segment }
  | .segmentComplete segment ms =>
    match p.lastRecording? with
    | none => p
    | some recording =>
      { p with
        launcher :=
          p.launcher.onSegmentComplete p.baseEnvironment recording.onSegmentComplete segment
            (ms / 1000) (ms % 1000 * 1000000) }

/-- What a change of a stream does depends on this stream alone. -/
lemma modifyStream_congr (p : Path) {serial : Nat} {s : Stream} {f g : Stream → Stream}
    (hs : p.stream? serial = some s) (h : f s = g s) :
    p.modifyStream serial f = p.modifyStream serial g := by
  unfold modifyStream
  unfold stream? at hs
  split
  · next hlt =>
    rw [List.getElem?_append_left hlt] at hs
    have hmodify : p.pastStreams.modify serial f = p.pastStreams.modify serial g := by
      refine List.ext_getElem? fun i => ?_
      simp only [List.getElem?_modify]
      split
      · next hi => simp [← hi, hs, h]
      · rfl
    rw [hmodify]
  · split
    · next hserial =>
      have hstream : p.stream = some s := by
        cases hp : p.stream <;> simp [hserial, hp] at hs
        rw [hs]
      simp [hstream, h]
    · rfl

/-- A stream whose description stays goes on between steps. -/
lemma goesOn_modifyStream (p : Path) (serial : Nat) {f : Stream → Stream}
    (hf : ∀ s, (f s).description = s.description) : p.GoesOn (p.modifyStream serial f) := by
  unfold modifyStream
  split
  · exact ⟨rfl, rfl, rfl⟩
  · split
    · refine ⟨rfl, ?_, rfl⟩
      cases hs : p.stream with
      | none => rfl
      | some s => simp [hf s]
    · exact ⟨rfl, rfl, rfl⟩

/-- **Media acts** are what can happen between steps. -/
theorem goesOn_media (p : Path) (act : MediaAct) : p.GoesOn (p.media act) := by
  cases act with
  | write serial u => exact p.goesOn_modifyStream serial fun s => s.description_write u
  | subscribe serial => exact p.goesOn_modifyStream serial Stream.description_subscribed
  | unsubscribe serial => exact p.goesOn_modifyStream serial fun _ => rfl
  | segmentCreate segment =>
    unfold media
    dsimp only
    split
    · exact ⟨rfl, rfl, rfl⟩
    · exact ⟨rfl, rfl, Launcher.now_onSegmentCreate ..⟩
  | segmentComplete segment ms =>
    unfold media
    dsimp only
    split
    · exact ⟨rfl, rfl, rfl⟩
    · exact ⟨rfl, rfl, Launcher.now_onSegmentComplete ..⟩

/-- A change of a stream begins or ends no stream. -/
lemma modifyStream_eq (p : Path) (serial : Nat) (f : Stream → Stream) : ∃ stream pastStreams,
    stream.isSome = p.stream.isSome ∧ pastStreams.length = p.pastStreams.length ∧
      p.modifyStream serial f = { p with stream, pastStreams } := by
  unfold modifyStream
  split
  · exact ⟨p.stream, p.pastStreams.modify serial f, rfl, by simp, rfl⟩
  · split
    · exact ⟨p.stream.map f, p.pastStreams, by simp, rfl, rfl⟩
    · exact ⟨p.stream, p.pastStreams, rfl, rfl, rfl⟩

/-- A media act concerns nothing but streams and launches, and no stream begins or ends by it. -/
lemma media_eq (p : Path) (act : MediaAct) :
    ∃ stream pastStreams launcher, stream.isSome = p.stream.isSome ∧
      pastStreams.length = p.pastStreams.length ∧
      p.media act = { p with stream, pastStreams, launcher } := by
  have hmodify (serial : Nat) (f : Stream → Stream) : ∃ stream pastStreams launcher,
      stream.isSome = p.stream.isSome ∧ pastStreams.length = p.pastStreams.length ∧
        p.modifyStream serial f = { p with stream, pastStreams, launcher } := by
    obtain ⟨stream, pastStreams, hsome, hlength, heq⟩ := p.modifyStream_eq serial f
    exact ⟨stream, pastStreams, p.launcher, hsome, hlength, heq⟩
  cases act with
  | write serial u => exact hmodify serial _
  | subscribe serial => exact hmodify serial _
  | unsubscribe serial => exact hmodify serial _
  | segmentCreate segment | segmentComplete segment ms =>
    unfold media
    dsimp only
    split
    · exact ⟨p.stream, p.pastStreams, p.launcher, rfl, rfl, rfl⟩
    · exact ⟨p.stream, p.pastStreams, _, rfl, rfl, rfl⟩

end Path

/-! ## Lives -/

/-- **Everything that can happen** to a path: a step, or something between steps. -/
inductive PathAct where
  | step (s : PathStep)
  | media (act : MediaAct)

namespace Path

/-- **One act.** -/
def act (p : Path) : PathAct → Path
  | .step s => p.step s
  | .media act => p.media act

/-- **Possible acts**: steps have to be possible, and media acts always are. -/
def Allows (p : Path) : PathAct → Prop
  | .step s => p.Permits s
  | .media _ => True

/-- **Possible sequences of acts** from a path on. -/
def AllowsAll : Path → List PathAct → Prop
  | _, [] => True
  | p, a :: rest => p.Allows a ∧ (p.act a).AllowsAll rest

instance (p : Path) (a : PathAct) : Decidable (p.Allows a) := by
  cases a <;> unfold Allows <;> infer_instance

instance decidableAllowsAll : (p : Path) → (as : List PathAct) → Decidable (p.AllowsAll as)
  | _, [] => .isTrue trivial
  | p, a :: rest =>
    have := decidableAllowsAll (p.act a) rest
    inferInstanceAs (Decidable (p.Allows a ∧ (p.act a).AllowsAll rest))

/-- **The state after some acts.** -/
def after (p : Path) (as : List PathAct) : Path := as.foldl act p

/-- **The episodes of a life**: each act with the state in which it happens. -/
def episodes : Path → List PathAct → List (Path × PathAct)
  | _, [] => []
  | p, a :: rest => (p, a) :: (p.act a).episodes rest

/-- **The states of lives.** -/
inductive Lived : Path → Prop where
  | create (settings : PathSettings) (now id : Nat) (name : String) (found : ConfSet.Found) :
      Lived (create settings now id name found)
  | act {p : Path} (h : p.Lived) {a : PathAct} (ha : p.Allows a) : Lived (p.act a)

namespace Lived

variable {p : Path} (h : p.Lived)

include h

/-- **The states of lives** are reached. -/
theorem reached : p.Reached := by
  induction h with
  | create settings now id name found => exact .create settings now id name found
  | @act p _ a ha ih =>
    cases a with
    | step s => exact ih.step ha
    | media act => exact ih.goOn (p.goesOn_media act)

/-- A step in a life. -/
lemma step {s : PathStep} (hs : p.Permits s) : (p.step s).Lived := h.act (a := .step s) hs

/-- A run of steps in a life. -/
lemma run {ss : List PathStep} (hss : p.PermitsAll ss) : (p.run ss).Lived := by
  induction ss generalizing p with
  | nil => exact h
  | cons s rest ih => exact ih (h.step hss.1) hss.2

/-- What happens between steps is part of a life. -/
lemma media (act : MediaAct) : (p.media act).Lived := h.act (a := .media act) trivial

/-- Possible acts lead through a life. -/
lemma after {as : List PathAct} (has : p.AllowsAll as) : (p.after as).Lived := by
  induction as generalizing p with
  | nil => exact h
  | cons a rest ih => exact ih (h.act has.1) has.2

/-- The acts of a life happen in its states and are possible there. -/
lemma of_episode {as : List PathAct} (has : p.AllowsAll as) :
    ∀ e ∈ p.episodes as, e.1.Lived ∧ e.1.Allows e.2 := by
  induction as generalizing p with
  | nil => simp [episodes]
  | cons a rest ih =>
    intro e he
    rcases List.mem_cons.1 he with rfl | he
    · exact ⟨h, has.1⟩
    · exact ih (h.act has.1) has.2 e he

end Lived

/-! ## Parts of a life -/

section Parts

variable (p : Path) (as bs : List PathAct)

lemma after_append : p.after (as ++ bs) = (p.after as).after bs := List.foldl_append

lemma episodes_append : p.episodes (as ++ bs) = p.episodes as ++ (p.after as).episodes bs := by
  induction as generalizing p with
  | nil => rfl
  | cons a rest ih => exact congrArg ((p, a) :: ·) (ih (p.act a))

lemma allowsAll_append :
    p.AllowsAll (as ++ bs) ↔ p.AllowsAll as ∧ (p.after as).AllowsAll bs := by
  induction as generalizing p with
  | nil => exact (iff_of_eq (true_and _)).symm
  | cons a rest ih => exact (and_congr_right' (ih (p.act a))).trans and_assoc.symm

end Parts

/-- **Laws with exceptions along a life**: let a law hold at first, and let every act keep it unless
the act is an exception, which breaks it. Then the law holds all along a life exactly if the life
has no exception. -/
theorem Lived.forall_after_iff {L : Path → Prop} {Breaks : Path → PathAct → Prop}
    (act_iff : ∀ p a, p.Lived → p.Allows a → L p → (L (p.act a) ↔ ¬ Breaks p a))
    {p : Path} (h : p.Lived) (hL : L p) {as : List PathAct} (has : p.AllowsAll as) :
    (∀ bs, bs <+: as → L (p.after bs)) ↔ ∀ e ∈ p.episodes as, ¬ Breaks e.1 e.2 := by
  induction as generalizing p with
  | nil =>
    refine iff_of_true (fun bs hbs => ?_) (by simp [episodes])
    obtain rfl := List.prefix_nil.1 hbs
    exact hL
  | cons a rest ih =>
    have hact := act_iff p a h has.1 hL
    have hlater (hq : L (p.act a)) := ih (h.act has.1) hq has.2
    simp only [episodes, List.forall_mem_cons]
    constructor
    · intro hall
      have hq : L (p.act a) := hall [a] (List.prefix_append [a] rest)
      exact ⟨hact.1 hq,
        (hlater hq).1 fun bs hbs => hall (a :: bs) ((List.prefix_cons_inj a).2 hbs)⟩
    · rintro ⟨hb, hrest⟩ bs hbs
      cases bs with
      | nil => exact hL
      | cons b bs =>
        obtain ⟨rfl, hprefix⟩ := List.cons_prefix_cons.1 hbs
        exact (hlater (hact.2 hb)).2 hrest bs hprefix

/-! ## Changes in a life -/

/-- **Pure changes**: those of steps, where nothing happens in between. -/
abbrev PureChange : Path → Path → Prop := ChangeWith (fun _ _ => False) fun _ => True

/-- **Sequences of pure changes.** -/
abbrev PureChanges : Path → Path → Prop := ChangesWith (fun _ _ => False) fun _ => True

/-- **Steps in a life** are sequences of pure changes. -/
lemma Lived.changes_step {p : Path} (h : p.Lived) {s : PathStep} (hs : p.Permits s) :
    PureChanges p (p.step s) :=
  Path.changes_step h.reached.orderly hs fun _ _ => trivial

/-- **Induction over lives**: what a new path has and every change and media act keeps holds in all
states of lives. -/
theorem Lived.induction {I : Path → Prop}
    (create : ∀ settings now id name found, I (Path.create settings now id name found))
    (change : ∀ p q, PureChange p q → I p → I q) (media : ∀ p act, I p → I (p.media act))
    {p : Path} (h : p.Lived) : I p := by
  induction h with
  | create settings now id name found => exact create settings now id name found
  | @act p h a ha ih =>
    cases a with
    | step s => exact (h.changes_step ha).keeps change ih
    | media act => exact media p act ih

end Path

end LivePaths
