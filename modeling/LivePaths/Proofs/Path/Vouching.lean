import LivePaths.Proofs.Path.Audience

set_option relaxedAutoImplicit false
set_option autoImplicit false

/-!
# Where the clients of a path come from

Nobody is attached to a path and nobody waits there without having sent a request. A request that
is held may be the reason for an attachment much later, and a publisher may be replaced by another
one, yet each client goes back to a message that the path has received.

## Main definitions

* `Path.Welcomes` — a request was answered with a stream of the path.
* `Path.Vouched` — all clients go back to messages of some kind.

## Main results

* `Path.Vouched.change` — what every change keeps.
* `Path.Vouched.step`, `Path.Vouched.run` — clients go back to the messages of a run.
-/

namespace LivePaths

namespace Path

/-- **Welcome**: a request was answered with a stream of the path. -/
def Welcomes (p : Path) (n : Nat) : Prop :=
  ∃ serial, .answered n (.stream ⟨p.id, serial⟩) ∈ p.log

/-- What was answered stays answered. -/
lemma Welcomes.grow {p q : Path} {n : Nat} (h : p.Welcomes n) (hid : q.id = p.id)
    (hlog : p.log <+: q.log) : q.Welcomes n := by
  obtain ⟨serial, hmem⟩ := h
  exact ⟨serial, hid ▸ hlog.subset hmem⟩

/-- **Vouching**: everybody who publishes or reads has sent a message of some kind and has been
served, and everybody who waits has sent one. -/
structure Vouched (Sent : PathMessage → Prop) (Served : Nat → Prop) (p : Path) : Prop where
  publisher : ∀ c, p.source = some (.publisher c) → ∃ n d rtp query expected,
    Sent (.addPublisher n c d rtp query expected) ∧ Served n
  reader : ∀ c ∈ p.readers, ∃ n query, Sent (.addReader n c query) ∧ Served n
  heldReader : ∀ h ∈ p.heldReaders, ∃ query, Sent (.addReader h.request h.client query)
  heldDescribe : ∀ h ∈ p.heldDescribes, ∃ query, Sent (.describe h.request query)

/-- **Leaving**: nobody has come to a path since, and what was answered is still known. -/
structure Leaves (p q : Path) : Prop where
  id_eq : q.id = p.id
  grows : p.log <+: q.log
  publisher : ∀ c, q.source = some (.publisher c) → p.source = some (.publisher c)
  readers : q.readers ⊆ p.readers
  heldReaders : q.heldReaders.map (fun h => (h.request, h.client)) ⊆
    p.heldReaders.map fun h => (h.request, h.client)
  heldDescribes : q.heldDescribes.map (·.request) ⊆ p.heldDescribes.map (·.request)

/-- **Most changes bring nobody.** The others hold a request, attach a reader or take a
publisher. -/
lemma Change.leaves_or {Came : PathMessage → Prop} {p q : Path} (h : Change Came p q) :
    Leaves p q ∨
      (∃ n query, Came (.describe n query) ∧
        q = { p with heldDescribes := p.heldDescribes ++ [{ request := n }] }) ∨
      (∃ n client query, Came (.addReader n client query) ∧
        q = { p with heldReaders := p.heldReaders ++ [{ request := n, client }] }) ∨
      (∃ n client, p.isReady = true ∧ p.Awaits Came n client ∧ q = p.attach n client) ∨
      ∃ n client d rtp query expected, Came (.addPublisher n client d rtp query expected) ∧
        q = { p with source := some (.publisher client), query } := by
  have hkept {α : Type} (l : List α) : l ⊆ l := List.Subset.refl l
  cases h with
  | drive h =>
    obtain ⟨es, -, heq⟩ := h.eq
    rw [heq]
    exact .inl ⟨rfl, List.prefix_append .., fun _ hc => hc, hkept _, hkept _, hkept _⟩
  | goOn h =>
    rw [h.same]
    exact .inl ⟨rfl, List.prefix_rfl, fun _ hc => hc, hkept _, hkept _, hkept _⟩
  | answer n hlive ha =>
    exact .inl ⟨rfl, List.prefix_append .., fun _ hc => hc, hkept _, hkept _, hkept _⟩
  | holdDescribe n query hlive hready hm => exact .inr (.inl ⟨n, query, hm, rfl⟩)
  | holdReader n client query hlive hready hm =>
    exact .inr (.inr (.inl ⟨n, client, query, hm, rfl⟩))
  | abandon n hlive =>
    have hreaders : (p.abandon n).heldReaders.map (fun h => (h.request, h.client)) =
        p.heldReaders.map fun h => (h.request, h.client) := by
      simp only [Path.abandon, List.map_map]
      refine List.map_congr_left fun h _ => ?_
      simp only [Function.comp_apply]
      split <;> rfl
    have hdescribes : (p.abandon n).heldDescribes.map (·.request) =
        p.heldDescribes.map (·.request) := by
      simp only [Path.abandon, List.map_map]
      refine List.map_congr_left fun h _ => ?_
      simp only [Function.comp_apply]
      split <;> rfl
    exact .inl ⟨rfl, List.prefix_rfl, fun _ hc => hc, hkept _, hreaders ▸ hkept _,
      hdescribes ▸ hkept _⟩
  | attach n client hlive hready hm =>
    exact .inr (.inr (.inr (.inl ⟨n, client, hready, hm, rfl⟩)))
  | clear hlive hready =>
    exact .inl ⟨rfl, List.prefix_rfl, fun _ hc => hc, hkept _, List.nil_subset _,
      List.nil_subset _⟩
  | failHeld hlive =>
    rw [failHeld_eq]
    exact .inl ⟨rfl, List.prefix_append .., fun _ hc => hc, hkept _, List.nil_subset _,
      List.nil_subset _⟩
  | removeReader client hlive =>
    rw [removeReader_eq]
    exact .inl ⟨rfl, List.prefix_rfl, fun _ hc => hc, List.filter_sublist.subset, hkept _, hkept _⟩
  | becomeReady s hlive hstream hd =>
    have hgrows := (p.proceeds_becomeReady s).grows
    rw [becomeReady_eq] at hgrows ⊢
    exact .inl ⟨rfl, hgrows, fun _ hc => hc, hkept _, hkept _, hkept _⟩
  | becomeUnready hstream =>
    have hgrows := p.proceeds_becomeUnready.grows
    rw [becomeUnready_eq p hstream] at hgrows ⊢
    exact .inl ⟨rfl, hgrows, fun _ hc => hc, List.nil_subset _, hkept _, hkept _⟩
  | evict client hlive hclient =>
    exact .inl ⟨rfl, List.prefix_append .., fun _ hc => hc, hkept _, hkept _, hkept _⟩
  | vacate client hlive hclient hstream =>
    exact .inl ⟨rfl, List.prefix_rfl, (fun _ hc => by cases hc), hkept _, hkept _, hkept _⟩
  | occupy n client d rtp query expected hlive hsource hstream hm =>
    exact .inr (.inr (.inr (.inr ⟨n, client, d, rtp, query, expected, hm, rfl⟩)))
  | reload c hlive hc =>
    have hgrows : p.log <+: (p.reload c).log := (p.proceeds_reload c).grows
    rw [reload_eq] at hgrows ⊢
    refine .inl ⟨rfl, hgrows, fun client hclient => ?_, hkept _, hkept _, hkept _⟩
    change p.sourceUnder c = some (.publisher client) at hclient
    unfold sourceUnder at hclient
    split at hclient
    · cases hclient
    · exact hclient
  | beginEnd hlive silent =>
    refine .inl ⟨rfl, ?_, fun _ hc => hc, hkept _, List.nil_subset _, List.nil_subset _⟩
    exact ((List.prefix_append ..).trans (List.prefix_append ..)).trans (List.prefix_append ..)
  | releaseSource hended hstream =>
    rw [releaseSource_eq]
    exact .inl ⟨rfl, List.prefix_append .., (fun _ hc => by cases hc), hkept _, hkept _, hkept _⟩

namespace Vouched

variable {Sent : PathMessage → Prop} {Served : Nat → Prop} {p q : Path}

/-- More may have been served. -/
lemma mono (h : Vouched Sent Served p) {Served' : Nat → Prop} (hs : ∀ n, Served n → Served' n) :
    Vouched Sent Served' p where
  publisher c hc := by
    obtain ⟨n, d, rtp, query, expected, hsent, hserved⟩ := h.publisher c hc
    exact ⟨n, d, rtp, query, expected, hsent, hs n hserved⟩
  reader c hc := by
    obtain ⟨n, query, hsent, hserved⟩ := h.reader c hc
    exact ⟨n, query, hsent, hs n hserved⟩
  heldReader := h.heldReader
  heldDescribe := h.heldDescribe

/-- Nobody comes. -/
lemma leaves (h : Vouched Sent Served p) (hq : Leaves p q) : Vouched Sent Served q where
  publisher c hc := h.publisher c (hq.publisher c hc)
  reader c hc := h.reader c (hq.readers hc)
  heldReader k hk := by
    obtain ⟨k', hk', heq⟩ := List.mem_map.1 (hq.heldReaders (List.mem_map_of_mem hk))
    obtain ⟨hrequest, hclient⟩ := Prod.mk.inj heq
    exact hrequest ▸ hclient ▸ h.heldReader k' hk'
  heldDescribe k hk := by
    obtain ⟨k', hk', heq⟩ := List.mem_map.1 (hq.heldDescribes (List.mem_map_of_mem hk))
    exact heq ▸ h.heldDescribe k' hk'

/-- A new path has no clients. -/
lemma create (settings : PathSettings) (now id : Nat) (name : String) (found : ConfSet.Found) :
    Vouched Sent Served (create settings now id name found) := by
  rw [create_eq]
  refine ⟨fun c hc => ?_, by simp, by simp, by simp⟩
  exact absurd hc (by cases found.conf.source <;> simp [SourceKind.first])

/-- **A reader comes** to a ready path, who has sent a request or waits for the answer to one. -/
lemma attach (h : Vouched Sent Served p) (hready : p.isReady = true) {n : Nat} {client : Client}
    (hsent : ∃ query, Sent (.addReader n client query))
    (hserved : ∀ m, (p.attach n client).Welcomes m → Served m) :
    Vouched Sent Served (p.attach n client) := by
  have hkept {a : Answer} : Vouched Sent Served (p.answer n a) :=
    ⟨h.publisher, h.reader, h.heldReader, h.heldDescribe⟩
  rw [attach_of_ready hready] at hserved ⊢
  split
  · exact hkept
  · split
    · exact hkept
    · next hnew hroom =>
      rw [if_neg hnew, if_neg hroom] at hserved
      refine ⟨h.publisher, fun c hc => ?_, h.heldReader, h.heldDescribe⟩
      rcases List.mem_append.1 hc with hc | hc
      · exact h.reader c hc
      · obtain rfl := List.mem_singleton.1 hc
        obtain ⟨query, hquery⟩ := hsent
        refine ⟨n, query, hquery, hserved n ⟨p.pastStreams.length, ?_⟩⟩
        exact List.mem_append_right _ (List.mem_singleton_self _)

/-- **What every change keeps**: all clients go back to messages that were sent, and whoever
publishes or reads was answered, but for a publisher whose answer is due. -/
lemma change {Came : PathMessage → Prop} {Due : Nat → Prop}
    (h : Vouched Sent (fun n => p.Welcomes n ∨ Due n) p) (hq : Change Came p q)
    (hsent : ∀ m, Came m → Sent m)
    (hdue : ∀ n c d rtp query expected, Came (.addPublisher n c d rtp query expected) → Due n) :
    Vouched Sent (fun n => q.Welcomes n ∨ Due n) q := by
  rcases hq.leaves_or with hleaves | ⟨n, query, hm, rfl⟩ | ⟨n, client, query, hm, rfl⟩ |
    ⟨n, client, hready, hm, rfl⟩ | ⟨n, client, d, rtp, query, expected, hm, rfl⟩
  · refine (h.leaves hleaves).mono fun n hn => hn.imp_left fun hw => ?_
    exact hw.grow hleaves.id_eq hleaves.grows
  · refine ⟨h.publisher, h.reader, h.heldReader, List.forall_mem_append.2 ⟨h.heldDescribe, ?_⟩⟩
    intro k hk
    obtain rfl := List.mem_singleton.1 hk
    exact ⟨query, hsent _ hm⟩
  · refine ⟨h.publisher, h.reader, List.forall_mem_append.2 ⟨h.heldReader, ?_⟩, h.heldDescribe⟩
    intro k hk
    obtain rfl := List.mem_singleton.1 hk
    exact ⟨query, hsent _ hm⟩
  · have hgrows : p.log <+: (p.attach n client).log := (p.proceeds_attach n client).grows
    have hid : (p.attach n client).id = p.id :=
      congrArg (·.1) (p.proceeds_attach n client).same
    refine (h.mono fun m hm => hm.imp_left fun hw => hw.grow hid hgrows).attach hready ?_
      fun m hw => .inl hw
    rcases hm with ⟨query, hcame⟩ | ⟨k, hk, -, rfl, rfl⟩
    · exact ⟨query, hsent _ hcame⟩
    · exact h.heldReader k hk
  · refine ⟨fun c hc => ?_, h.reader, h.heldReader, h.heldDescribe⟩
    obtain rfl : client = c := Source.publisher.inj (Option.some.inj hc)
    exact ⟨n, d, rtp, query, expected, hsent _ hm, .inr (hdue _ _ _ _ _ _ hm)⟩

/-- **Sequences of changes**, after which some publishers may be due. -/
lemma changes {Came : PathMessage → Prop} {Due : Nat → Prop} (h : Vouched Sent p.Welcomes p)
    (hq : Changes Came p q) (hsent : ∀ m, Came m → Sent m)
    (hdue : ∀ n c d rtp query expected, Came (.addPublisher n c d rtp query expected) → Due n) :
    Vouched Sent (fun n => q.Welcomes n ∨ Due n) q :=
  hq.keeps (I := fun q => Vouched Sent (fun n => q.Welcomes n ∨ Due n) q)
    (fun _ _ hchange hp => hp.change hchange hsent hdue) (h.mono fun _ hn => .inl hn)

/-- **Sequences of changes** in which no publisher comes. -/
lemma changes_of_not {Came : PathMessage → Prop} (h : Vouched Sent p.Welcomes p)
    (hq : Changes Came p q) (hsent : ∀ m, Came m → Sent m)
    (hnot : ∀ n c d rtp query expected, ¬ Came (.addPublisher n c d rtp query expected)) :
    Vouched Sent q.Welcomes q := by
  have hq' : Vouched Sent (fun n => q.Welcomes n ∨ False) q := h.changes hq hsent hnot
  exact hq'.mono fun _ hn => hn.resolve_right not_false

/-- **A message** brings its own client at most. A publisher is answered last, so that until then
the answer is due. -/
lemma receive (h : Vouched Sent p.Welcomes p) (hc : p.ended = false → p.Coherent)
    {m : PathMessage} (hm : Sent m) : Vouched Sent (p.receive m).Welcomes (p.receive m) := by
  by_cases hended : p.ended = true
  · rwa [receive_of_ended hended]
  have hlive : p.ended = false := by simpa using hended
  have hother (hnot : ∀ n c d rtp query expected, m ≠ .addPublisher n c d rtp query expected) :
      Vouched Sent (p.receive m).Welcomes (p.receive m) := by
    have hchanges : Changes (m = ·) p (p.receive m) := changes_receive hc rfl
    exact h.changes_of_not hchanges (fun _ heq => heq ▸ hm) hnot
  cases m with
  | addPublisher n client d rtp query expected =>
    rw [Path.receive, if_neg hended]
    split
    · next q hq =>
      obtain ⟨ready, hchanges, -, -, rfl⟩ := changes_addPublisher hlive (hc hlive) rfl hq
      have hready : Vouched Sent (fun k => ready.Welcomes k ∨ k = n) ready :=
        h.changes hchanges (fun m heq => heq ▸ hm)
          fun k _ _ _ _ _ heq => (PathMessage.addPublisher.inj heq).1.symm
      have hanswered : Vouched Sent (fun k => ready.Welcomes k ∨ k = n)
          (ready.answer n (.stream ready.streamId)) :=
        ⟨hready.publisher, hready.reader, hready.heldReader, hready.heldDescribe⟩
      refine hanswered.mono fun k hk => ?_
      rcases hk with hw | rfl
      · exact hw.grow rfl (List.prefix_append ..)
      · exact ⟨ready.pastStreams.length, List.mem_append_right _ (List.mem_singleton_self _)⟩
    · next e hq =>
      have hchanges : Changes (fun _ => False) p (p.answer n (.refused e)).closeIfUnused :=
        changes_refuse hlive hq
      exact h.changes_of_not hchanges (fun _ hfalse => hfalse.elim) fun _ _ _ _ _ _ => not_false
  | _ => exact hother (by simp)

/-- **Every possible step** brings the client of its message at most. -/
lemma step (h : Vouched Sent p.Welcomes p) (hp : p.Orderly) {s : PathStep} (hs : p.Permits s)
    (hm : ∀ m, s = .message m → Sent m) : Vouched Sent (p.step s).Welcomes (p.step s) := by
  have hother (hnot : ∀ m, s ≠ .message m) : Vouched Sent (p.step s).Welcomes (p.step s) := by
    have hchanges : Changes (fun _ => False) p (p.step s) := changes_step hp hs hnot
    exact h.changes_of_not hchanges (fun _ hfalse => hfalse.elim) fun _ _ _ _ _ _ => not_false
  cases s with
  | message m => exact h.receive (fun hlive => (hp.live hlive).coherent) (hm m rfl)
  | _ => exact hother (by simp)

/-- **In a run** all clients go back to its messages, or to earlier ones. -/
theorem run (h : Vouched Sent p.Welcomes p) (hp : p.Orderly) {ss : List PathStep}
    (hs : p.PermitsAll ss) (hm : ∀ m, .message m ∈ ss → Sent m) :
    Vouched Sent (p.run ss).Welcomes (p.run ss) := by
  induction ss generalizing p with
  | nil => exact h
  | cons s rest ih =>
    exact ih (h.step hp hs.1 fun m heq => hm m (heq ▸ List.mem_cons_self)) (hp.step hs.1) hs.2
      fun m hmem => hm m (List.mem_cons_of_mem s hmem)

end Vouched

end Path

end LivePaths
