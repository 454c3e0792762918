import LivePaths.Proofs.Path.Vouching
import LivePaths.Proofs.Registry.Stages

set_option relaxedAutoImplicit false
set_option autoImplicit false

/-!
# Where the clients of a registry come from

A request through the registry that fails a check leaves all paths as they are, and one that passes
all checks was granted unless its client was known already. Since nothing else brings messages to
paths but those who have a handle, everybody who publishes, reads or waits on a path was let in.

## Main definitions

* `Registry.Vouches` — the clients of all live paths go back to messages of some kind.

## Main results

* `Registry.Stage.vouches`, `Registry.vouches_run` — what stages and runs keep.
* `Registry.granted_run` — who is let in, and who is not, after any run.
-/

namespace LivePaths

namespace Registry

/-- **Vouching**: everybody who publishes or reads on a live path has sent it a message of some kind
that was answered with a stream, and everybody who waits there has sent one. -/
def Vouches (Sent : PathHandle → PathMessage → Prop) (r : Registry) : Prop :=
  ∀ name e, r.live.get? name = some e → e.path.Vouched (Sent ⟨name, e.path.id⟩) e.path.Welcomes

section Stages

variable {Came Sent : PathHandle → PathMessage → Prop} {r r' : Registry}
  (hsent : ∀ handle m, Came handle m → Sent handle m)

include hsent

/-- A path that follows what it was has the clients that it had, or those that have come. -/
lemma Follows.vouched {name : String} {e e' : RegistryEntry} (h : Follows Came name e e')
    (he : e.path.Vouched (Sent ⟨name, e.path.id⟩) e.path.Welcomes) :
    e'.path.Vouched (Sent ⟨name, e'.path.id⟩) e'.path.Welcomes := by
  obtain ⟨hid, ⟨ss, hreached, hss, hm, hpath⟩ | hchange⟩ := h
  · rw [hid, hpath]
    exact he.run hreached.orderly hss fun m hmem => hsent _ m (hm m hmem)
  · rw [hid]
    exact he.changes_of_not (.single hchange) (fun _ hfalse => hfalse.elim)
      fun _ _ _ _ _ _ => not_false

/-- **Every stage** brings only clients that have come. -/
lemma Stage.vouches (h : Stage Came r r') (hr : r.Vouches Sent) : r'.Vouches Sent := by
  intro name e' he'
  obtain ⟨found, hpath⟩ | ⟨e, he, hfollows⟩ := h.live_cases he'
  · rw [hpath]
    exact Path.Vouched.create ..
  · exact hfollows.vouched hsent (hr name e he)

lemma Stages.vouches (h : Stages Came r r') (hr : r.Vouches Sent) : r'.Vouches Sent :=
  h.keeps (fun _ _ hstage => hstage.vouches hsent) hr

end Stages

/-- **Every operation** brings only clients whose messages it brings. -/
lemma Hosts.vouches_apply {Admits : ConfSet → Prop} {Sent : PathHandle → PathMessage → Prop}
    {r : Registry} (h : r.Hosts r.now r.now) {op : RegistryOp} (hop : r.Permits Admits op)
    (hsent : ∀ handle m, op.Brings r.authenticator handle m → Sent handle m)
    (hr : r.Vouches Sent) : (r.apply op).Vouches Sent := by
  cases hglobal : op.isGlobal with
  | false => exact (h.stages_apply hop hglobal).vouches hsent hr
  | true =>
    rcases apply_of_isGlobal hglobal with ⟨-, heq⟩ | ⟨server, news, -, heq⟩ | ⟨-, hlive⟩
    · rw [heq]
      exact hr
    · rw [heq]
      exact hr
    · intro name e he
      simp [hlive] at he

/-- **In a run** all clients go back to messages that its operations bring. -/
lemma Hosts.vouches_run {Admits : ConfSet → Prop} {Sent : PathHandle → PathMessage → Prop}
    {r : Registry} (h : r.Hosts r.now r.now) {ops : List RegistryOp}
    (hops : r.PermitsAll Admits ops)
    (hsent : ∀ op ∈ ops, ∀ handle m, op.Brings r.authenticator handle m → Sent handle m)
    (hr : r.Vouches Sent) : (r.run ops).Vouches Sent := by
  induction ops generalizing r with
  | nil => exact hr
  | cons op rest ih =>
    have hauth : (r.apply op).authenticator = r.authenticator := (questions_apply h.numbered op).1
    have hbrought := h.vouches_apply hops.1 (hsent op List.mem_cons_self) hr
    exact ih (h.apply hops.1) hops.2
      (fun op' hmem => hauth ▸ hsent op' (List.mem_cons_of_mem op hmem)) hbrought

/-- A new registry has no clients. -/
lemma vouches_start (Sent : PathHandle → PathMessage → Prop) (settings : PathSettings)
    (confs : ConfSet) (authenticator : Authenticator) (hls : Option String) :
    (start settings confs authenticator hls).Vouches Sent := by
  have hstages : Stages Sent { settings, confs, authenticator, hls }
      (start settings confs authenticator hls) := stages_createMissing _
  exact hstages.vouches (fun _ _ hm => hm) fun name e he => by simp at he

/-- **Who is let in**, after any run. A request that fails a check is turned away with the error of
the first one, and nothing changes but what the authenticator was asked; one that passes all checks
is passed on to its path. The authenticator is asked once by a request that comes to the last check
and whose client is not known already, and by nobody else but those who ask for a configuration. So
everybody who publishes, reads or waits on a live path goes back to an operation of the run: one of
a client that has the handle, or a request for the name of this path that was granted, or whose
client was known already.

**Proof sketch.** Each operation is a sequence of stages, and the only messages that paths take in
them are those that the operation brings. A held request stays the one it was until it is answered,
and nobody is attached but by a message or from what is held. -/
theorem granted_run {Admits : ConfSet → Prop} (settings : PathSettings) (confs : ConfSet)
    (authenticator : Authenticator) (hls : Option String) {ops : List RegistryOp}
    (hops : (start settings confs authenticator hls).PermitsAll Admits ops) :
    let r := (start settings confs authenticator hls).run ops
    r.authenticator = authenticator ∧
      (∀ number a c e, r.fault? a c.expected? = some e → r.apply (.request number a c) =
        { r with
          questions := r.questions ++ (r.question? a c.expected?).toList
          refusals := r.refusals ++ [(number, e)] }) ∧
      (∀ number a c, r.fault? a c.expected? = none → ∃ found,
        r.governing a.name = .ok found ∧ r.apply (.request number a c) =
          (if r.live.contains a.name then r.asked a c.expected?
            else (r.asked a c.expected?).createPath a.name found).update a.name
              (deliver (c.message number a.query))) ∧
      (∀ op, (r.apply op).questions = r.questions ++ (r.questionOf? op).toList) ∧
      r.Vouches fun handle m => ∃ op ∈ ops, op.Brings authenticator handle m := by
  intro r
  have hstart := hosts_start settings confs authenticator hls
  have hhosts : r.Hosts r.now r.now := hstart.run hops
  have hauth : (start settings confs authenticator hls).authenticator = authenticator := by
    obtain ⟨live, heq, -⟩ := createMissing_eq { settings, confs, authenticator, hls }
    rw [start, heq]
  refine ⟨(authenticator_run hstart hops).trans hauth, fun number a c e hfault => ?_,
    fun number a c hfault => ?_, fun op => (questions_apply hhosts.numbered op).2, ?_⟩
  · exact apply_request_of_fault hfault number
  · obtain ⟨-, found, -, hfind, hacquire⟩ := acquire_of_admitted hfault
    refine ⟨found, hfind, ?_⟩
    rw [hhosts.allAlive.provide_asked] at hacquire
    change r.request number a c.expected? (c.message number a.query) = _
    rw [request, hacquire]
  · refine hstart.vouches_run hops (fun op hmem handle m hm => ⟨op, hmem, ?_⟩)
      (vouches_start _ settings confs authenticator hls)
    exact hauth ▸ hm

/-- An authenticator that lets nobody but Ann do anything. -/
def annOnly : Authenticator := fun q =>
  if q.credentials.user = "ann" then .ok () else .error (.denied q.credentials.user q.path)

/-- A request of a user for a camera. -/
def askCamera (number : Nat) (user : String) (c : ClientRequest) : RegistryOp :=
  .request number { name := "cam", credentials := some { user } } c

/-- Ann publishes on a camera and reads from it, and Eve wants to read, too. -/
def annAndEve : List RegistryOp :=
  [askCamera 1 "ann" (.publish ⟨2, ⟨"publisher", "ann"⟩⟩ ⟨[⟨.video, "H264"⟩]⟩ false none),
    askCamera 2 "ann" (.read ⟨0, ⟨"rtspSession", "ann"⟩⟩),
    askCamera 3 "eve" (.read ⟨1, ⟨"rtspSession", "eve"⟩⟩)]

/-- Eve is turned away, and again when she tries once more; Ann reads because she was let in. -/
theorem granted_annAndEve :
    let r := (start {} oneCamera annOnly none).run annAndEve
    (start {} oneCamera annOnly none).PermitsAll (fun _ => True) annAndEve ∧
      r.refusals = [(3, .authDenied (.denied "eve" "cam"))] ∧ r.questions.length = 3 ∧
      r.apply (askCamera 4 "eve" .describe) =
        { r with
          questions := r.questions ++ [{ path := "cam", credentials := { user := "eve" } }]
          refusals := r.refusals ++ [(4, .authDenied (.denied "eve" "cam"))] } ∧
      (r.live.get? "cam").map (fun e => (e.path.id, e.path.readers)) =
        some (1, [⟨0, ⟨"rtspSession", "ann"⟩⟩]) ∧
      ∃ n query, ∃ op ∈ annAndEve,
        op.Brings annOnly ⟨"cam", 1⟩ (.addReader n ⟨0, ⟨"rtspSession", "ann"⟩⟩ query) := by
  intro r
  have hops : (start {} oneCamera annOnly none).PermitsAll (fun _ => True) annAndEve :=
    ⟨trivial, trivial, trivial, trivial⟩
  obtain ⟨-, hfails, -, -, hvouches⟩ := granted_run {} oneCamera annOnly none hops
  have hreaders : (r.live.get? "cam").map (fun e => (e.path.id, e.path.readers)) =
      some (1, [⟨0, ⟨"rtspSession", "ann"⟩⟩]) := by decide
  refine ⟨hops, by decide, by decide, ?_, hreaders, ?_⟩
  · have hquestion : r.question? { name := "cam", credentials := some { user := "eve" } } none =
        some { path := "cam", credentials := { user := "eve" } } := by decide
    rw [askCamera, hfails 4 _ .describe (.authDenied (.denied "eve" "cam")) (by decide)]
    change { r with questions := r.questions ++ (r.question? _ none).toList, refusals := _ } = _
    rw [hquestion]
    rfl
  · obtain ⟨e, he, heq⟩ := Option.map_eq_some_iff.1 hreaders
    obtain ⟨hid, hread⟩ := Prod.mk.inj heq
    obtain ⟨n, query, hbrought, -⟩ := (hvouches "cam" e he).reader ⟨0, ⟨"rtspSession", "ann"⟩⟩
      (by simp [hread])
    exact ⟨n, query, hid ▸ hbrought⟩

end Registry

end LivePaths
