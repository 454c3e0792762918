import LivePaths.Proofs.Registry.Hosting

set_option relaxedAutoImplicit false
set_option autoImplicit false

/-!
# Admission of requests

A request through the registry passes several checks before it reaches a path: that its name is a
path name, that something governs this name, that this is what a publisher expects, and that the
client may do what it asks. The first check that fails decides the error, the authenticator is asked
by the last one only, and a request that fails leaves everything else as it was.

## Main definitions

* `Registry.earlyFault?`, `Registry.fault?` — the first check that a request fails.
* `Registry.question?`, `Registry.questionOf?` — what the authenticator is asked.
* `Registry.refusalOf?` — who is turned away.
* `Registry.desk` — who decides, what was asked and who was turned away.

## Main results

* `Registry.acquire_of_fault`, `Registry.acquire_of_admitted` — the checks decide about a request.
* `Registry.Reachable.provide_asked` — no request meets a path that has ended and has not left yet.
* `Registry.apply_request_of_fault` — a request that fails changes nothing else.
* `Registry.desk_apply` — whom an operation asks, and whom it turns away.
-/

namespace LivePaths

namespace Registry

/-! ## The checks -/

/-- **The name** is no path name. -/
def nameFault? (a : AccessRequest) : Option PathError :=
  (Name.fault? a.name).map fun f => .invalidName a.name (.fault f)

/-- **Nothing governs** the name. -/
def confFault? (r : Registry) (a : AccessRequest) : Option PathError :=
  if (r.confs.governing? r.settings.matching a.name).isNone then some (.notFound a.name) else none

/-- **Another configuration** is expected than the one that governs the name. -/
def expectationFault? (r : Registry) (a : AccessRequest) (expected : Option Conf) :
    Option PathError :=
  let governing := r.confs.governing? r.settings.matching a.name
  if expected.any fun c => governing.any (c ≠ ·.conf) then some .configurationChanged else none

/-- **The client** may not do what it asks; nobody asks about one that is known already. -/
def accessFault? (r : Registry) (a : AccessRequest) : Option PathError :=
  if a.skipAuth then none
  else
    match r.authenticator a.toAuthRequest with
    | .ok () => none
    | .error e => some (.authDenied e)

/-- **The first early check** that a request fails; the registry may also have ended. -/
def earlyFault? (r : Registry) (a : AccessRequest) (expected : Option Conf) : Option PathError :=
  [if r.closed then some .terminated else none, nameFault? a, r.confFault? a,
    r.expectationFault? a expected].findSome? id

/-- **The first check** that a request fails; whether the client may do what it asks is checked
last. -/
def fault? (r : Registry) (a : AccessRequest) (expected : Option Conf) : Option PathError :=
  (r.earlyFault? a expected).or (r.accessFault? a)

/-- **The question** that a request raises: it must pass the early checks, and its client must not
be known already. -/
def question? (r : Registry) (a : AccessRequest) (expected : Option Conf) : Option AuthRequest :=
  if (r.earlyFault? a expected).isNone && !a.skipAuth then some a.toAuthRequest else none

/-- The registry after the question that a request raises. -/
def asked (r : Registry) (a : AccessRequest) (expected : Option Conf) : Registry :=
  { r with questions := r.questions ++ (r.question? a expected).toList }

section Checks

variable {r : Registry} {a : AccessRequest} {expected : Option Conf}

/-- A request that passes the early checks comes to an open registry, and its name is governed by
what it expects. -/
lemma earlyFault?_eq_none (h : r.earlyFault? a expected = none) : r.closed = false ∧
    ∃ found, r.governing a.name = .ok found ∧ ∀ c ∈ expected, c = found.conf := by
  simp only [earlyFault?, List.findSome?_eq_none_iff, List.mem_cons, List.not_mem_nil, or_false,
    forall_eq_or_imp, forall_eq, id_eq] at h
  obtain ⟨hclosed, hname, hconf, hexpected⟩ := h
  have hvalid : Name.fault? a.name = none := by simpa [nameFault?] using hname
  obtain ⟨found, hfound⟩ : ∃ found, r.confs.governing? r.settings.matching a.name = some found := by
    cases hg : r.confs.governing? r.settings.matching a.name with
    | none => simp [confFault?, hg] at hconf
    | some found => exact ⟨found, rfl⟩
  have hfind : r.governing a.name = .ok found := by
    rw [governing, ConfSet.find_of_valid hvalid, hfound]
  refine ⟨by simpa using hclosed, found, hfind, fun c hc => ?_⟩
  simpa [expectationFault?, hfound, Option.mem_def.1 hc] using hexpected

/-- **The early checks** agree with the look-up of what governs a name and the comparison with what
is expected. -/
lemma acquire_of_earlyFault {e : PathError} (h : r.earlyFault? a expected = some e) :
    r.acquire a expected = (r, .error e) ∧ (expected = none → r.find a = (r, .error e)) := by
  by_cases hclosed : r.closed = true
  · obtain rfl : PathError.terminated = e := by simpa [earlyFault?, hclosed] using h
    exact ⟨by simp [acquire, hclosed], fun _ => by simp [Registry.find, hclosed]⟩
  · have hopen : r.closed = false := by simpa using hclosed
    cases hname : Name.fault? a.name with
    | some f =>
      obtain rfl : PathError.invalidName a.name (.fault f) = e := by
        simpa [earlyFault?, hopen, nameFault?, hname] using h
      have hfind : r.governing a.name = _ := ConfSet.find_of_fault hname
      exact ⟨by simp [acquire, hopen, hfind], fun _ => by simp [Registry.find, hopen, hfind]⟩
    | none =>
      have hfind : r.governing a.name = _ := ConfSet.find_of_valid hname
      cases hg : r.confs.governing? r.settings.matching a.name with
      | none =>
        obtain rfl : PathError.notFound a.name = e := by
          simpa [earlyFault?, hopen, nameFault?, hname, confFault?, hg] using h
        rw [hg] at hfind
        exact ⟨by simp [acquire, hopen, hfind], fun _ => by simp [Registry.find, hopen, hfind]⟩
      | some found =>
        rw [hg] at hfind
        cases expected with
        | none =>
          simp [earlyFault?, hopen, nameFault?, hname, confFault?, hg, expectationFault?] at h
        | some c =>
          by_cases hc : c = found.conf
          · simp [earlyFault?, hopen, nameFault?, hname, confFault?, hg, expectationFault?,
              hc] at h
          · obtain rfl : PathError.configurationChanged = e := by
              simpa [earlyFault?, hopen, nameFault?, hname, confFault?, hg, expectationFault?,
                hc] using h
            exact ⟨by simp [acquire, hopen, hfind, hc], fun hn => by cases hn⟩

/-- **The last check** asks the authenticator, unless the client is known already. -/
lemma authenticate_of_early (h : r.earlyFault? a expected = none) :
    r.authenticate a = (r.asked a expected,
      match r.accessFault? a with
      | some e => .error e
      | none => .ok ()) := by
  unfold authenticate asked question? accessFault?
  rw [h]
  cases a.skipAuth with
  | true => simp
  | false =>
    cases hanswer : r.authenticator a.toAuthRequest with
    | error e => simp [hanswer, Except.mapError]
    | ok u => simp [hanswer, Except.mapError]

/-- **A request that fails a check** gets its error, and only the question is remembered. -/
theorem acquire_of_fault {e : PathError} (h : r.fault? a expected = some e) :
    r.acquire a expected = (r.asked a expected, .error e) := by
  cases hearly : r.earlyFault? a expected with
  | some e' =>
    obtain rfl : e' = e := by simpa [fault?, hearly] using h
    have hsame : r.asked a expected = r := by simp [asked, question?, hearly]
    rw [hsame]
    exact (acquire_of_earlyFault hearly).1
  | none =>
    have haccess : r.accessFault? a = some e := by simpa [fault?, hearly] using h
    obtain ⟨hopen, found, hfind, hagrees⟩ := earlyFault?_eq_none hearly
    have hany : expected.any (· ≠ found.conf) = false := by cases expected <;> simp_all
    have hauth := authenticate_of_early hearly
    rw [haccess] at hauth
    simp only [acquire, hopen, hfind, hany, hauth, Bool.false_eq_true, ↓reduceIte]

/-- **A request that passes all checks** is admitted to the path of its name. -/
theorem acquire_of_admitted (h : r.fault? a expected = none) :
    (a.skipAuth = true ∨ r.authenticator a.toAuthRequest = .ok ()) ∧
      ∃ found, r.closed = false ∧ r.governing a.name = .ok found ∧
        r.acquire a expected = ((r.asked a expected).provide a.name found, .ok ()) := by
  obtain ⟨hearly, haccess⟩ := Option.or_eq_none_iff.1 h
  obtain ⟨hopen, found, hfind, hagrees⟩ := earlyFault?_eq_none hearly
  have hany : expected.any (· ≠ found.conf) = false := by cases expected <;> simp_all
  have hauth := authenticate_of_early hearly
  rw [haccess] at hauth
  refine ⟨?_, found, hopen, hfind, ?_⟩
  · unfold accessFault? at haccess
    split at haccess
    · next hskip => exact .inl hskip
    · split at haccess
      · next hok => exact .inr hok
      · cases haccess
  · simp only [acquire, hopen, hfind, hany, hauth, Bool.false_eq_true, ↓reduceIte]

/-- **The path of the name** is looked up or created where all live paths are alive. -/
lemma AllAlive.provide_asked (h : r.AllAlive) (a : AccessRequest) (expected : Option Conf)
    (found : ConfSet.Found) : (r.asked a expected).provide a.name found =
      if r.live.contains a.name then r.asked a expected
        else (r.asked a expected).createPath a.name found :=
  AllAlive.provide_eq (r := r.asked a expected) h a.name found

/-- **No request meets a path that has ended** where a registry is at rest: what its paths have
notified has been taken up, so that the path of a name is alive, or there is none and a new one is
created. -/
theorem Reachable.provide_asked {Admits : ConfSet → Prop} (h : r.Reachable Admits)
    (a : AccessRequest) (expected : Option Conf) (found : ConfSet.Found) :
    (∀ e, r.live.get? a.name = some e → e.path.ended = false) ∧
      (r.asked a expected).provide a.name found =
        if r.live.contains a.name then r.asked a expected
          else (r.asked a expected).createPath a.name found :=
  ⟨fun _ => h.hosts.alive, h.hosts.allAlive.provide_asked a expected found⟩

/-- A question about a configuration only asks the authenticator. -/
lemma find_eq_asked (r : Registry) (a : AccessRequest) : (r.find a).1 = r.asked a none := by
  cases hearly : r.earlyFault? a none with
  | some e =>
    rw [(acquire_of_earlyFault hearly).2 rfl]
    simp [asked, question?, hearly]
  | none =>
    obtain ⟨hopen, found, hfind, -⟩ := earlyFault?_eq_none hearly
    simp [Registry.find, hopen, hfind, authenticate_of_early hearly]

end Checks

/-! ## The front desk -/

/-- **The front desk** of a registry: who decides, what was asked, and who was turned away. -/
def desk (r : Registry) : Authenticator × List AuthRequest × List (Nat × PathError) :=
  (r.authenticator, r.questions, r.refusals)

section Desk

variable (r : Registry)

@[simp]
lemma desk_tellHls (ready : Bool) (path : PathHandle) : (r.tellHls ready path).desk = r.desk := by
  unfold tellHls
  split <;> rfl

@[simp]
lemma desk_takeNotice (name : String) (n : Notice) : (takeNotice name r n).desk = r.desk := by
  unfold takeNotice
  split
  · rfl
  · cases n with
    | ready => exact desk_tellHls ..
    | notReady => exact desk_tellHls ..
    | closed =>
      dsimp only
      split
      · exact desk_tellHls ..
      · rfl

/-- Nothing that happens to paths concerns the front desk. -/
@[simp]
lemma desk_update (name : String) (f : Path → Path) : (r.update name f).desk = r.desk := by
  unfold update
  split
  · rfl
  · exact List.foldlRecOn (motive := fun r' : Registry => r'.desk = r.desk) _ _ rfl
      fun r' hr n _ => (r'.desk_takeNotice name n).trans hr

lemma desk_updateAll (f : Path → Path) : (r.updateAll f).desk = r.desk :=
  List.foldlRecOn (motive := fun r' : Registry => r'.desk = r.desk) _ _ rfl
    fun r' hr name _ => (r'.desk_update name f).trans hr

@[simp]
lemma desk_removePath (name : String) : (r.removePath name).desk = r.desk := by
  unfold removePath
  split
  · rfl
  · dsimp only
    split
    · exact desk_tellHls ..
    · rfl

@[simp]
lemma desk_provide (name : String) (found : ConfSet.Found) :
    (r.provide name found).desk = r.desk := by
  unfold provide
  split
  · rfl
  · split
    · exact desk_removePath ..
    · rfl

lemma desk_createMissing : r.createMissing.desk = r.desk :=
  List.foldlRecOn (motive := fun r' : Registry => r'.desk = r.desk) _ _ rfl fun _ hr _ _ => hr

/-- A new set of configurations does not concern the front desk. -/
lemma desk_reload {new : ConfSet} {r' : Registry} (h : r.reload new = .ok r') :
    r'.desk = r.desk := by
  have hopen := open_of_reload h
  obtain rfl := Except.ok.inj ((reload_of_open hopen).symm.trans h)
  refine (desk_createMissing _).trans ?_
  refine List.foldlRecOn (motive := fun r' : Registry => r'.desk = r.desk) _ _ rfl
    fun r' hr name _ => ?_
  unfold reloadStep reloadPath
  split
  · exact hr
  · split
    · exact hr
    · unfold handOver
      exact (desk_update ..).trans hr
    · exact (desk_removePath ..).trans hr

lemma desk_setHls {server : Option String} {r' : Registry} (h : r.setHls server = .ok r') :
    r'.desk = r.desk := by
  obtain ⟨news, rfl⟩ := setHls_eq h
  rfl

lemma desk_tell (handle : PathHandle) (m : PathMessage) : (r.tell handle m).desk = r.desk := by
  rcases r.tell_cases handle m with heq | ⟨e, -, -, heq⟩
  · rw [heq]
  · rw [heq, desk_update]

/-- A request to a path is turned away if the path is not live, and asks nobody. -/
lemma desk_requestOf (number : Nat) (handle : PathHandle) (m : PathMessage) :
    (r.requestOf number handle m).desk = (r.authenticator, r.questions,
      r.refusals ++ (if r.isLive handle then none else some (number, .terminated)).toList) := by
  unfold requestOf
  split
  · exact (r.desk_update handle.name (deliver m)).trans
      (congrArg (fun l => (_, _, l)) (List.append_nil _).symm)
  · rfl

end Desk

/-- Media do not concern the front desk. -/
lemma ChangesMedia.desk_eq {r r' : Registry} (h : r.ChangesMedia r') : r'.desk = r.desk := by
  rcases h with rfl | ⟨id, act, rfl⟩ <;> rfl

/-! ## Operations -/

/-- **The question** that an operation raises: only requests through the registry and questions
about configurations raise one. -/
def questionOf? (r : Registry) : RegistryOp → Option AuthRequest
  | .request _ a c => r.question? a c.expected?
  | .find a => r.question? a none
  | _ => none

/-- **The refusal** that an operation leads to without reaching a path: a request through the
registry fails a check, or one to a path comes too late. -/
def refusalOf? (r : Registry) : RegistryOp → Option (Nat × PathError)
  | .request number a c => (r.fault? a c.expected?).map (number, ·)
  | .requestOf number h .. | .sourceReady number h .. =>
    if r.isLive h then none else some (number, .terminated)
  | _ => none

/-- **A request that fails a check** is turned away, and nothing else changes but that the
authenticator may have been asked. -/
theorem apply_request_of_fault {r : Registry} {a : AccessRequest} {c : ClientRequest}
    {e : PathError} (h : r.fault? a c.expected? = some e) (number : Nat) :
    r.apply (.request number a c) =
      { r with
        questions := r.questions ++ (r.questionOf? (.request number a c)).toList
        refusals := r.refusals ++ [(number, e)] } := by
  change r.request number a c.expected? _ = _
  unfold request
  rw [acquire_of_fault h]
  rfl

/-- The front desk after a request that passes all checks. -/
lemma desk_request_of_admitted {r : Registry} {a : AccessRequest} {expected : Option Conf}
    (h : r.fault? a expected = none) (number : Nat) (m : PathMessage) :
    (r.request number a expected m).desk = (r.asked a expected).desk := by
  obtain ⟨-, found, -, -, hacquire⟩ := acquire_of_admitted h
  unfold request
  rw [hacquire]
  dsimp only
  rw [desk_update, desk_provide]

/-- **The front desk after an operation**: the authenticator stays the same, is asked one question
or none, and one request or none is turned away. -/
theorem desk_apply {r : Registry} (h : r.Numbered) (op : RegistryOp) :
    (r.apply op).desk = (r.authenticator, r.questions ++ (r.questionOf? op).toList,
      r.refusals ++ (r.refusalOf? op).toList) := by
  have hsame {r' : Registry} (hdesk : r'.desk = r.desk) :
      r'.desk = (r.authenticator, r.questions ++ [], r.refusals ++ []) := by
    rw [hdesk, List.append_nil, List.append_nil]
    rfl
  have hrequestOf (number : Nat) (handle : PathHandle) (m : PathMessage) :
      (r.requestOf number handle m).desk = (r.authenticator, r.questions ++ [],
        r.refusals ++ (if r.isLive handle then none else some (number, .terminated)).toList) := by
    rw [desk_requestOf, List.append_nil]
  by_cases hmedia : op.isMedia = true
  · have hnone : r.questionOf? op = none ∧ r.refusalOf? op = none := by
      cases op <;> first | exact ⟨rfl, rfl⟩ | cases hmedia
    rw [hnone.1, hnone.2]
    exact hsame (h.changesMedia_apply hmedia).desk_eq
  cases op with
  | request number a c =>
    cases hfault : r.fault? a c.expected? with
    | some e =>
      rw [apply_request_of_fault hfault, refusalOf?, hfault]
      rfl
    | none =>
      have hdesk := desk_request_of_admitted hfault number (c.message number a.query)
      rw [refusalOf?, hfault]
      exact hdesk.trans (congrArg (fun l => (_, _, l)) (List.append_nil _).symm)
  | requestOf number handle query c => exact hrequestOf number handle _
  | sourceReady number handle d rtp => exact hrequestOf number handle _
  | unpublish handle client => exact hsame (r.desk_tell handle _)
  | unread handle client => exact hsame (r.desk_tell handle _)
  | sourceNotReady handle => exact hsame (r.desk_tell handle _)
  | abandon number => exact hsame (r.desk_updateAll _)
  | find a =>
    change (r.find a).1.desk = _
    rw [find_eq_asked]
    exact congrArg (fun l => (_, _, l)) (List.append_nil _).symm
  | reload confs =>
    refine hsame (?_ : ((r.reload confs).toOption.getD r).desk = r.desk)
    cases heq : r.reload confs with
    | error e => rfl
    | ok r' => exact r.desk_reload heq
  | setHls server =>
    refine hsame (?_ : ((r.setHls server).toOption.getD r).desk = r.desk)
    cases heq : r.setHls server with
    | error e => rfl
    | ok r' => exact r.desk_setHls heq
  | sleep ms => exact hsame (r.desk_updateAll _)
  | close =>
    refine hsame (?_ : r.close.desk = r.desk)
    unfold Registry.close
    split <;> rfl
  | write _ _ | subscribe _ | unsubscribe _ | segmentCreate _ _ | segmentComplete _ _ _ =>
    exact absurd rfl hmedia

/-- **Whom an operation asks**: the authenticator decides one question or none, and stays the same.
-/
theorem questions_apply {r : Registry} (h : r.Numbered) (op : RegistryOp) :
    (r.apply op).authenticator = r.authenticator ∧
      (r.apply op).questions = r.questions ++ (r.questionOf? op).toList :=
  have hdesk := desk_apply h op
  ⟨congrArg (·.1) hdesk, congrArg (·.2.1) hdesk⟩

/-- The authenticator of a run never changes. -/
lemma authenticator_run {Admits : ConfSet → Prop} {r : Registry} (h : r.Hosts r.now r.now)
    {ops : List RegistryOp} (hops : r.PermitsAll Admits ops) :
    (r.run ops).authenticator = r.authenticator := by
  induction ops generalizing r with
  | nil => rfl
  | cons op rest ih =>
    exact (ih (h.apply hops.1) hops.2).trans (questions_apply h.numbered op).1

end Registry

end LivePaths
