import LivePaths.Proofs.Path.Streams
import LivePaths.Proofs.Registry.Succession

set_option relaxedAutoImplicit false
set_option autoImplicit false

/-!
# The streams of a registry

Whoever was given a stream of a path may write to it or subscribe to it whenever he likes, also when
the path has another stream by now or has ended. What is done with one stream concerns no other one,
and nothing at all comes of what is written to a closed one. What a path counts for its present
stream is therefore what was written to this stream, and to no other one.

## Main definitions

* `Registry.Develops` — what becomes of the paths of a registry but for what is done with streams.
* `RegistryOp.actOn` — what an operation does with a stream.
* `Tally`, `Registry.tally` — an account of what has gone through a stream, kept apart from it.
* `Registry.Airs` — a registry whose streams are in order and agree with an account.

## Main results

* `Registry.Reachable.stream?_apply` — what one operation does to a stream.
* `Registry.Reachable.tallied_run` — the account agrees with the counters of a stream.
* `Registry.airs_run` — whole runs.
-/

namespace LivePaths

namespace Registry

/-! ## Paths that develop -/

/-- **Development** of a registry: each path goes through some changes, and so does each one that
has come, which has a greater number than those before. -/
structure Develops (r r' : Registry) : Prop where
  kept : ∀ p ∈ r.paths, ∃ q ∈ r'.paths, Path.PureChanges p q
  come : ∀ q ∈ r'.paths, (∃ p ∈ r.paths, Path.PureChanges p q) ∨
    r.created < q.id ∧ ∃ settings now name found,
      Path.PureChanges (Path.create settings now q.id name found) q
  created : r.created ≤ r'.created

namespace Develops

variable {r r' r'' : Registry}

/-- The paths stay as they are. -/
lemma of_paths (hpaths : r'.paths = r.paths) (hcreated : r'.created = r.created) : Develops r r' :=
  ⟨fun p hp => ⟨p, hpaths ▸ hp, .refl⟩, fun q hq => .inl ⟨q, hpaths ▸ hq, .refl⟩,
    Nat.le_of_eq hcreated.symm⟩

lemma trans (h : Develops r r') (h' : Develops r' r'') : Develops r r'' := by
  refine ⟨fun p hp => ?_, fun q hq => ?_, h.created.trans h'.created⟩
  · obtain ⟨q, hq, hchanges⟩ := h.kept p hp
    obtain ⟨q', hq', hchanges'⟩ := h'.kept q hq
    exact ⟨q', hq', hchanges.trans hchanges'⟩
  · rcases h'.come q hq with ⟨p', hp', hchanges'⟩ | ⟨hlt, hnew⟩
    · rcases h.come p' hp' with ⟨p, hp, hchanges⟩ | ⟨hlt, settings, now, name, found, hchanges⟩
      · exact .inl ⟨p, hp, hchanges.trans hchanges'⟩
      · have hid : q.id = p'.id := Path.id_of_changes hchanges'
        exact .inr ⟨hid ▸ hlt, settings, now, name, found, hid ▸ hchanges.trans hchanges'⟩
    · exact .inr ⟨Nat.lt_of_le_of_lt h.created hlt, hnew⟩

/-- One path goes through changes, and the others stay. -/
lemma of_others {p q : Path} {others : List Path} (hbefore : r.paths.Perm (p :: others))
    (hafter : r'.paths.Perm (q :: others)) (hcreated : r'.created = r.created)
    (hchanges : Path.PureChanges p q) : Develops r r' := by
  refine ⟨fun p' hp' => ?_, fun q' hq' => .inl ?_, Nat.le_of_eq hcreated.symm⟩
  · rcases List.mem_cons.1 (hbefore.mem_iff.1 hp') with rfl | hother
    · exact ⟨q, hafter.mem_iff.2 List.mem_cons_self, hchanges⟩
    · exact ⟨p', hafter.mem_iff.2 (List.mem_cons_of_mem _ hother), .refl⟩
  · rcases List.mem_cons.1 (hafter.mem_iff.1 hq') with rfl | hother
    · exact ⟨p, hbefore.mem_iff.2 List.mem_cons_self, hchanges⟩
    · exact ⟨q', hbefore.mem_iff.2 (List.mem_cons_of_mem _ hother), .refl⟩

variable {name : String} {e : RegistryEntry} (he : r.live.get? name = some e)

include he

/-- All paths are the live one of a name and the others. -/
lemma paths_perm :
    r.paths.Perm (e.path :: (r.past ++ (r.live.erase name).values.map (·.path))) := by
  have hperm := (NameMap.values_perm_of_get? he).map (·.path)
  exact (hperm.append_left r.past).trans List.perm_middle

/-- The live path of a name goes through changes. -/
lemma insert {e' : RegistryEntry} (hlive : r'.live = r.live.insert name e')
    (hpast : r'.past = r.past) (hcreated : r'.created = r.created)
    (hchanges : Path.PureChanges e.path e'.path) : Develops r r' := by
  refine .of_others (paths_perm he) (q := e'.path) ?_ hcreated hchanges
  have hperm := (r.live.values_insert_perm name e').map (·.path)
  unfold paths
  rw [hlive, hpast]
  exact (hperm.append_left r.past).trans List.perm_middle

/-- The live path of a name goes through changes and becomes one of the past. -/
lemma erase {q : Path} (hlive : r'.live = r.live.erase name) (hpast : r'.past = r.past ++ [q])
    (hcreated : r'.created = r.created) (hchanges : Path.PureChanges e.path q) : Develops r r' := by
  refine .of_others (paths_perm he) (q := q) ?_ hcreated hchanges
  unfold paths
  rw [hlive, hpast, List.append_assoc]
  exact List.perm_middle

end Develops

/-- **Stages that do not concern media** let a registry develop. -/
theorem StageWith.develops {Came : PathHandle → PathMessage → Prop} {r r' : Registry}
    (h : StageWith False Came r r') : Develops r r' := by
  cases h with
  | note confs questions refusals => exact .of_paths rfl rfl
  | @steps name e ss he hname hlive hreached hss hm hgoes =>
    have hchanges : Path.PureChanges e.path (e.path.run ss) :=
      Path.changes_run hreached.orderly hss fun _ _ => trivial
    rcases update_of_continues he (f := fun _ => e.path.run ss) hgoes hlive with
      ⟨-, ready, news, heq⟩ | ⟨-, news, heq⟩
    · rw [heq]
      exact .insert he rfl rfl rfl hchanges
    · rw [heq]
      exact .erase he rfl rfl rfl hchanges
  | @create name found hnone =>
    have hperm := (r.live.values_insert_perm name
      { path := Path.create r.settings r.now (r.created + 1) name found, conf := found.conf }).map
        (·.path)
    rw [NameMap.erase_of_get? hnone] at hperm
    have hafter := (hperm.append_left r.past).trans List.perm_middle
    refine ⟨fun p hp => ⟨p, hafter.mem_iff.2 (List.mem_cons_of_mem _ hp), .refl⟩, fun q hq => ?_,
      Nat.le_succ _⟩
    rcases List.mem_cons.1 (hafter.mem_iff.1 hq) with rfl | hold
    · refine .inr ⟨?_, r.settings, r.now, name, found, ?_⟩
      · rw [Path.id_create]
        exact Nat.lt_succ_self _
      · rw [Path.id_create]
    · exact .inl ⟨q, hold, .refl⟩
  | @handOver name e c he hlive hc =>
    rw [handOver_eq he]
    exact .insert he rfl rfl rfl (.single (.reload e.path c hlive hc))
  | @remove name e he hlive =>
    rw [removePath_eq he]
    exact .erase he rfl rfl rfl e.path.changes_destroy
  | media id act hmedia => exact hmedia.elim
  | age time hpast =>
    have hage {p : Path} (hp : p ∈ r.past) : Path.PureChanges p (p.advance time) := by
      obtain ⟨hover, hle⟩ := hpast p hp
      rw [hover.advance_eq]
      exact .single (.drive (.pass p time hle))
    refine ⟨fun p hp => ?_, fun q hq => .inl ?_, le_rfl⟩
    · rcases List.mem_append.1 hp with hp | hp
      · exact ⟨_, List.mem_append_left _ (List.mem_map_of_mem hp), hage hp⟩
      · exact ⟨p, List.mem_append_right _ hp, .refl⟩
    · rcases List.mem_append.1 hq with hq | hq
      · obtain ⟨p, hp, rfl⟩ := List.mem_map.1 hq
        exact ⟨p, List.mem_append_left _ hp, hage hp⟩
      · exact ⟨q, List.mem_append_right _ hq, .refl⟩

/-- Sequences of such stages let a registry develop. -/
lemma StagesWith.develops {Came : PathHandle → PathMessage → Prop} {r r' : Registry}
    (h : StagesWith False Came r r') : Develops r r' := by
  induction h with
  | refl => exact .of_paths rfl rfl
  | tail _ hstage ih => exact ih.trans hstage.develops

/-- **All operations** but those on media let a registry develop. -/
lemma Reachable.develops_apply {Admits : ConfSet → Prop} {r : Registry} (h : r.Reachable Admits)
    {op : RegistryOp} (hop : r.Permits Admits op) (hmedia : op.isMedia = false) :
    Develops r (r.apply op) := by
  cases hglobal : op.isGlobal with
  | false =>
    exact StagesWith.develops (h.hosts.stagesWith_apply hop hglobal (by simp [hmedia]))
  | true =>
    cases op with
    | setHls server =>
      change Develops r ((r.setHls server).toOption.getD r)
      cases heq : r.setHls server with
      | error e => exact .of_paths rfl rfl
      | ok r' =>
        obtain ⟨news, rfl⟩ := setHls_eq heq
        exact .of_paths rfl rfl
    | close =>
      change Develops r r.close
      unfold Registry.close
      split
      · exact .of_paths rfl rfl
      · refine ⟨fun p hp => ?_, fun q hq => .inl ?_, le_rfl⟩
        · rcases List.mem_append.1 hp with hp | hp
          · exact ⟨p, List.mem_append_left _ (List.mem_append_left _ hp), .refl⟩
          · obtain ⟨e, he, rfl⟩ := List.mem_map.1 hp
            exact ⟨_, List.mem_append_left _ (List.mem_append_right _ (List.mem_map_of_mem he)),
              e.path.changes_destroy⟩
        · rcases List.mem_append.1 hq with hq | hq
          · rcases List.mem_append.1 hq with hq | hq
            · exact ⟨q, List.mem_append_left _ hq, .refl⟩
            · obtain ⟨e, he, rfl⟩ := List.mem_map.1 hq
              exact ⟨e.path, List.mem_append_right _ (List.mem_map_of_mem he),
                e.path.changes_destroy⟩
          · cases hq
    | _ => cases hglobal

/-- A new path has no stream yet. -/
lemma stream?_create (settings : PathSettings) (now id : Nat) (name : String)
    (found : ConfSet.Found) (serial : Nat) :
    (Path.create settings now id name found).stream? serial = none := by
  simp [Path.stream?, Path.create_eq]

/-- **Streams age** in a registry that develops. -/
lemma Develops.ages {r r' : Registry} (h : Develops r r') (hr : r.Numbered) (hr' : r'.Numbered)
    (id : StreamId) : Stream.Ages (r.stream? id) (r'.stream? id) := by
  unfold stream?
  cases hpath : r.path? id.path with
  | some p =>
    have hid : p.id = id.path := by simpa using List.find?_some hpath
    obtain ⟨q, hq, hchanges⟩ := h.kept p (List.mem_of_find?_eq_some hpath)
    have hpath' : r'.path? id.path = some q := by
      rw [← hid, ← Path.id_of_changes hchanges]
      exact hr'.path?_eq hq
    rw [hpath']
    exact Path.ages_changes hchanges id.serial
  | none =>
    cases hpath' : r'.path? id.path with
    | none => exact .refl none
    | some q =>
      have hid : q.id = id.path := by simpa using List.find?_some hpath'
      rcases h.come q (List.mem_of_find?_eq_some hpath') with
        ⟨p, hp, hchanges⟩ | ⟨-, settings, now, name, found, hchanges⟩
      · -- there was no path with this number
        have hsome := hr.path?_eq hp
        rw [← Path.id_of_changes hchanges, hid, hpath] at hsome
        cases hsome
      · have hages := Path.ages_changes hchanges id.serial
        rwa [stream?_create] at hages

end Registry

/-! ## What is done with streams -/

/-- **What an operation does with the stream** of an identifier, on behalf of who has it. -/
def RegistryOp.actOn (id : StreamId) : RegistryOp → Stream → Stream
  | .write stream u => if stream = id then fun s => (s.write u).1 else fun s => s
  | .subscribe stream => if stream = id then Stream.subscribed else fun s => s
  | .unsubscribe stream => if stream = id then Stream.unsubscribe else fun s => s
  | _ => fun s => s

/-- Nothing that is done with a stream closes it. -/
lemma RegistryOp.closed_actOn (op : RegistryOp) (id : StreamId) (s : Stream) :
    (op.actOn id s).closed = s.closed := by
  cases op with
  | write stream u =>
    simp only [actOn]
    split
    · exact s.closed_write u
    · rfl
  | subscribe stream =>
    simp only [actOn]
    split
    · exact s.closed_subscribed
    · rfl
  | unsubscribe stream =>
    simp only [actOn]
    split <;> rfl
  | _ => rfl

/-- Nothing that is done with a closed stream touches its counters. -/
lemma RegistryOp.counters_actOn (op : RegistryOp) (id : StreamId) {s : Stream}
    (hclosed : s.closed = true) :
    (op.actOn id s).received = s.received ∧ (op.actOn id s).sent = s.sent := by
  cases op with
  | write stream u =>
    simp only [actOn]
    split
    · simp [Stream.write_of_closed hclosed]
    · exact ⟨rfl, rfl⟩
  | subscribe stream =>
    simp only [actOn]
    split
    · simp [Stream.subscribed, Stream.subscribe?, hclosed]
    · exact ⟨rfl, rfl⟩
  | unsubscribe stream =>
    simp only [actOn]
    split <;> exact ⟨rfl, rfl⟩
  | _ => exact ⟨rfl, rfl⟩

namespace Registry

variable {r : Registry}

/-- What happens to a path without notice happens to the path that is found by its number. -/
lemma path?_modifyPath (r : Registry) (id : Nat) {f : Path → Path} (hf : ∀ p, (f p).id = p.id)
    (other : Nat) : (r.modifyPath id f).path? other =
      (r.path? other).map fun p => if p.id = id then f p else p := by
  have hsame : (fun p : Path => decide (p.id = other)) ∘ (fun p => if p.id = id then f p else p) =
      fun p => decide (p.id = other) := by
    funext p
    rw [Function.comp_apply]
    split
    · rw [hf p]
    · rfl
  rw [path?, paths_modifyPath, List.find?_map, hsame]
  rfl

/-- What concerns no stream leaves all streams as they are. -/
lemma stream?_modifyPath (r : Registry) (id : Nat) {f : Path → Path} (hf : ∀ p, (f p).id = p.id)
    (hstreams : ∀ p serial, (f p).stream? serial = p.stream? serial) (other : StreamId) :
    (r.modifyPath id f).stream? other = r.stream? other := by
  rw [stream?, path?_modifyPath r id hf, stream?]
  cases r.path? other.path with
  | none => rfl
  | some p =>
    rw [Option.map_some, Option.bind_some, Option.bind_some]
    split
    · exact hstreams p other.serial
    · rfl

/-- **What is done with one stream** concerns no other one, whoever's it is. -/
theorem stream?_modifyStream (r : Registry) (id : StreamId) (f : Stream → Stream)
    (other : StreamId) : (r.modifyStream id f).stream? other =
      if id = other then (r.stream? other).map f else r.stream? other := by
  have hid (p : Path) : (p.modifyStream id.serial f).id = p.id := by
    obtain ⟨stream, pastStreams, -, -, heq⟩ := p.modifyStream_eq id.serial f
    rw [heq]
  rw [modifyStream, stream?, path?_modifyPath r id.path hid, stream?]
  cases hfind : r.path? other.path with
  | none => simp
  | some p =>
    have hother : p.id = other.path := by simpa using List.find?_some hfind
    rw [Option.map_some, Option.bind_some, Option.bind_some]
    by_cases hpaths : id.path = other.path
    · rw [if_pos (hother.trans hpaths.symm), Path.stream?_modifyStream]
      by_cases hserial : id.serial = other.serial
      · rw [if_pos hserial, if_pos]
        exact congrArg₂ StreamId.mk hpaths hserial
      · rw [if_neg hserial, if_neg]
        exact fun heq => hserial (congrArg StreamId.serial heq)
    · rw [if_neg fun heq => hpaths (heq.symm.trans hother), if_neg]
      exact fun heq => hpaths (congrArg StreamId.path heq)

section Media

/-- **Writing** to a stream. -/
lemma stream?_write (r : Registry) (stream : StreamId) (u : MediaUnit) (id : StreamId) :
    (r.write stream u).1.stream? id =
      (r.stream? id).map ((RegistryOp.write stream u).actOn id) := by
  unfold write
  split
  · next hnone =>
    by_cases hid : stream = id
    · simp [← hid, hnone]
    · simp [RegistryOp.actOn, hid]
  · rw [stream?_modifyStream]
    simp only [RegistryOp.actOn]
    split <;> simp

/-- **Subscribing** to a stream. -/
lemma stream?_subscribe (r : Registry) (stream id : StreamId) :
    (((r.subscribe? stream).map (·.1)).getD r).stream? id =
      (r.stream? id).map ((RegistryOp.subscribe stream).actOn id) := by
  unfold subscribe?
  cases hs : r.stream? stream with
  | none =>
    by_cases hid : stream = id
    · simp [← hid, hs]
    · simp [RegistryOp.actOn, hid]
  | some s =>
    cases hsub : s.subscribe? with
    | none =>
      by_cases hid : stream = id
      · simp [← hid, hs, hsub, RegistryOp.actOn, Stream.subscribed]
      · simp [hsub, RegistryOp.actOn, hid]
    | some x =>
      simp only [Option.bind_eq_bind, Option.bind_some, hsub, Option.map_some, Option.getD_some,
        stream?_modifyStream, RegistryOp.actOn]
      split
      · next hid => simp [← hid, hs, hsub, Stream.subscribed]
      · simp

end Media

/-- **What becomes of a stream** in one operation: what the operation does with it; and when this is
nothing, it ages. -/
theorem Reachable.stream?_apply {Admits : ConfSet → Prop} (h : r.Reachable Admits)
    {op : RegistryOp} (hop : r.Permits Admits op) (id : StreamId) :
    Stream.Ages ((r.stream? id).map (op.actOn id)) ((r.apply op).stream? id) := by
  have hdone (heq : (r.apply op).stream? id = (r.stream? id).map (op.actOn id)) :
      Stream.Ages ((r.stream? id).map (op.actOn id)) ((r.apply op).stream? id) :=
    heq ▸ .refl _
  cases hmedia : op.isMedia with
  | true =>
    cases op with
    | write stream u => exact hdone (stream?_write r stream u id)
    | subscribe stream => exact hdone (stream?_subscribe r stream id)
    | unsubscribe stream =>
      refine hdone ((stream?_modifyStream r stream _ id).trans ?_)
      simp only [RegistryOp.actOn]
      split <;> simp
    | segmentCreate name segment =>
      refine hdone ?_
      change ((r.segmentCreated? name segment).getD r).stream? id = (r.stream? id).map fun s => s
      rw [Option.map_id']
      unfold segmentCreated?
      cases r.lastRecording? name with
      | none => rfl
      | some x =>
        rw [Option.bind_eq_bind, Option.bind_some, Option.getD_some]
        refine stream?_modifyPath r _ (fun _ => ?_) (fun _ _ => ?_) id <;> rfl
    | segmentComplete name segment ms =>
      refine hdone ?_
      change ((r.segmentComplete? name segment ms).getD r).stream? id =
        (r.stream? id).map fun s => s
      rw [Option.map_id']
      unfold segmentComplete?
      cases r.lastRecording? name with
      | none => rfl
      | some x =>
        rw [Option.bind_eq_bind, Option.bind_some, Option.getD_some]
        refine stream?_modifyPath r _ (fun _ => ?_) (fun _ _ => ?_) id <;> rfl
    | _ => cases hmedia
  | false =>
    have hnothing : op.actOn id = fun s => s := by
      funext s
      cases op <;> first | rfl | cases hmedia
    rw [hnothing, Option.map_id']
    exact (h.develops_apply hop hmedia).ages h.hosts.numbered (h.apply op hop).hosts.numbered id

end Registry

/-! ## Accounts -/

/-- **Tally** of what has gone through a stream: the subscribers, the bytes that were written, and
for each unit its bytes as often as there were subscribers. -/
structure Tally where
  subscribers : Nat := 0
  received : Nat := 0
  sent : Nat := 0
  deriving DecidableEq, Repr

namespace Tally

/-- What an operation adds to the tally of a stream. -/
def note (t : Tally) (id : StreamId) : RegistryOp → Tally
  | .write stream u =>
    if stream = id then
      { t with
        received := t.received + u.payload.size
        sent := t.sent + u.payload.size * t.subscribers }
    else t
  | .subscribe stream => if stream = id then { t with subscribers := t.subscribers + 1 } else t
  | .unsubscribe stream => if stream = id then { t with subscribers := t.subscribers - 1 } else t
  | _ => t

/-- **Fitting**: nothing is noted of a stream that has not been opened yet, and the counters of an
open one are those of the tally. They have 64 bits. -/
def Fits (t : Tally) : Option Stream → Prop
  | none => t = {}
  | some s => s.closed = false → s.subscribers = t.subscribers ∧
      s.received = .ofNat t.received ∧ s.sent = .ofNat t.sent

/-- A tally fits until something is done with the stream. -/
lemma Fits.ages {t : Tally} {o o' : Option Stream} (h : t.Fits o) (hages : Stream.Ages o o') :
    t.Fits o' := by
  cases o with
  | none =>
    obtain rfl : t = {} := h
    cases o' with
    | none => rfl
    | some s =>
      intro hopen
      rcases hages with hnew | hclosed
      · rw [hnew]
        exact ⟨rfl, rfl, rfl⟩
      · simp [hclosed] at hopen
  | some s =>
    cases o' with
    | none => exact hages.elim
    | some s' =>
      rcases hages with rfl | rfl
      · exact h
      · intro hopen
        cases hopen

/-- **What is done with an open stream** is noted. -/
lemma Fits.act {t : Tally} {o : Option Stream} (h : t.Fits o) (id : StreamId) (op : RegistryOp) :
    (if o.any (!·.closed) then t.note id op else t).Fits (o.map (op.actOn id)) := by
  cases o with
  | none => exact h
  | some s =>
    intro hopen
    rw [op.closed_actOn] at hopen
    obtain ⟨hsubscribers, hreceived, hsent⟩ := h hopen
    have hany : (some s).any (!·.closed) = true := by simp [hopen]
    rw [if_pos hany]
    cases op with
    | write stream u =>
      simp only [RegistryOp.actOn, note]
      split
      · unfold Stream.write
        simp only [hopen, Bool.false_eq_true, ↓reduceIte]
        split <;> simp [hsubscribers, hreceived, hsent, UInt64.ofNat_add, UInt64.ofNat_mul]
      · exact ⟨hsubscribers, hreceived, hsent⟩
    | subscribe stream =>
      simp only [RegistryOp.actOn, note]
      split
      · simp [Stream.subscribed, Stream.subscribe?, hopen, hsubscribers, hreceived, hsent]
      · exact ⟨hsubscribers, hreceived, hsent⟩
    | unsubscribe stream =>
      simp only [RegistryOp.actOn, note]
      split
      · simp [Stream.unsubscribe, hsubscribers, hreceived, hsent]
      · exact ⟨hsubscribers, hreceived, hsent⟩
    | _ => exact ⟨hsubscribers, hreceived, hsent⟩

end Tally

namespace Registry

/-- Whether there is an open stream of an identifier. -/
def isOpen (r : Registry) (id : StreamId) : Bool := (r.stream? id).any (!·.closed)

/-- **The tally of a run**: all that is done with a stream is noted while it is open. -/
def tally (id : StreamId) : Tally → Registry → List RegistryOp → Tally
  | t, _, [] => t
  | t, r, op :: rest => tally id (if r.isOpen id then t.note id op else t) (r.apply op) rest

/-- **The tally fits the stream** all along a run.

**Proof sketch.** Induction on the operations. Each one does with the stream what is noted, or lets
it age. -/
theorem Reachable.tallied_run {Admits : ConfSet → Prop} {r : Registry} (h : r.Reachable Admits)
    {id : StreamId} {t : Tally} (ht : t.Fits (r.stream? id)) {ops : List RegistryOp}
    (hops : r.PermitsAll Admits ops) : (tally id t r ops).Fits ((r.run ops).stream? id) := by
  induction ops generalizing r t with
  | nil => exact ht
  | cons op rest ih =>
    exact ih (h.apply op hops.1) ((ht.act id op).ages (h.stream?_apply hops.1 id)) hops.2

/-- A new registry has no open stream that anything was done with. -/
lemma fits_start (settings : PathSettings) (confs : ConfSet) (authenticator : Authenticator)
    (hls : Option String) (id : StreamId) :
    Tally.Fits {} ((start settings confs authenticator hls).stream? id) := by
  have hempty := numbered_empty settings confs authenticator hls
  have hstages : StagesWith False (fun _ _ => False) { settings, confs, authenticator, hls }
      (start settings confs authenticator hls) := stages_createMissing _
  have hages := hstages.develops.ages hempty hempty.createMissing id
  exact Tally.Fits.ages (o := none) rfl hages

/-! ## Closed streams -/

/-- **A closed stream** stays closed, and its counters stay as they are. -/
theorem Reachable.closed_stream_run {Admits : ConfSet → Prop} {r : Registry}
    (h : r.Reachable Admits) {id : StreamId} {s : Stream} (hs : r.stream? id = some s)
    (hclosed : s.closed = true) {ops : List RegistryOp} (hops : r.PermitsAll Admits ops) :
    ∃ s', (r.run ops).stream? id = some s' ∧ s'.closed = true ∧ s'.received = s.received ∧
      s'.sent = s.sent := by
  induction ops generalizing r s with
  | nil => exact ⟨s, hs, hclosed, rfl, rfl⟩
  | cons op rest ih =>
    have hages := h.stream?_apply hops.1 id
    obtain ⟨hreceived, hsent⟩ := op.counters_actOn id hclosed
    have hnext : ∃ s', (r.apply op).stream? id = some s' ∧ s'.closed = true ∧
        s'.received = s.received ∧ s'.sent = s.sent := by
      rw [hs] at hages
      cases hs' : (r.apply op).stream? id with
      | none =>
        rw [hs'] at hages
        exact hages.elim
      | some s' =>
        rw [hs'] at hages
        rcases hages with rfl | rfl
        · exact ⟨_, rfl, (op.closed_actOn id s).trans hclosed, hreceived, hsent⟩
        · exact ⟨_, rfl, rfl, hreceived, hsent⟩
    obtain ⟨s', hs', hclosed', hreceived', hsent'⟩ := hnext
    obtain ⟨s'', hs'', hclosed'', hreceived'', hsent''⟩ :=
      ih (h.apply op hops.1) hs' hclosed' hops.2
    exact ⟨s'', hs'', hclosed'', hreceived''.trans hreceived', hsent''.trans hsent'⟩

/-- Nothing comes of what is written to a closed stream. -/
lemma Numbered.write_of_closed {r : Registry} (h : r.Numbered) {id : StreamId} {s : Stream}
    (hs : r.stream? id = some s) (hclosed : s.closed = true) (u : MediaUnit) :
    r.write id u = (r, 0) := by
  have hsame : r.modifyStream id (fun s => (s.write u).1) = r := by
    have hpath : r.modifyPath id.path (·.modifyStream id.serial fun s => (s.write u).1) =
        r.modifyPath id.path fun p => p := by
      refine modifyPath_congr fun p hp hid => ?_
      have hfound : r.path? id.path = some p := hid ▸ h.path?_eq hp
      have hstream : p.stream? id.serial = some s := by simpa [stream?, hfound] using hs
      rw [p.modifyStream_congr (g := fun s => s) hstream (by rw [Stream.write_of_closed hclosed])]
      exact p.modifyStream_self id.serial
    unfold modifyStream
    rw [hpath, modifyPath_self]
  unfold write
  rw [hs]
  dsimp only
  rw [hsame, Stream.write_of_closed hclosed]

/-! ## Whole runs -/

/-- **Streams in order**: each time a path has become ready it has opened a stream, which was closed
at the next end of readiness, so that only the present one is open, and none after the end; whoever
was given a stream was given the one that was open then. What a snapshot counts is what an account
says of the present stream, up to multiples of `UInt64.size`. What is written to a closed stream
reaches nobody and changes nothing, and what is written to an open one changes no other stream. -/
structure Airs (r : Registry) (account : StreamId → Tally) : Prop where
  gives : ∀ p ∈ r.paths, Path.GivesOpen p.id p.log
  opened_iff : ∀ p ∈ r.paths, ∀ serial,
    (p.stream? serial).isSome = true ↔ serial < p.log.count .ready
  closed_iff : ∀ p ∈ r.paths, ∀ serial s, p.stream? serial = some s →
    (s.closed = true ↔ serial < p.log.count .notReady)
  present : ∀ p ∈ r.paths, ∀ serial s, p.stream? serial = some s →
    (s.closed = false ↔ serial = p.streamId.serial ∧ p.stream = some s)
  ended : ∀ p ∈ r.paths, p.ended = true → p.stream = none
  counted : ∀ p ∈ r.paths, p.isReady = true →
    p.snapshot.received.toNat = (account p.streamId).received % UInt64.size ∧
      p.snapshot.sent.toNat = (account p.streamId).sent % UInt64.size
  stale : ∀ id s, r.stream? id = some s → s.closed = true → ∀ u, r.write id u = (r, 0)
  apart : ∀ id other u, id ≠ other → (r.write id u).1.stream? other = r.stream? other

/-- **Whole runs**: at the end the streams are in order and agree with the tallies of the run; and
those that were closed on the way are still closed, with the counters that they had then.

**Proof sketch.** All paths are in states of lives, in which streams agree with the events. The
tally of a run fits each stream, in particular the present one of a path. -/
theorem airs_run {Admits : ConfSet → Prop} {confs : ConfSet} (hconfs : Admits confs)
    (settings : PathSettings) (authenticator : Authenticator) (hls : Option String)
    {before after : List RegistryOp}
    (hops : (start settings confs authenticator hls).PermitsAll Admits (before ++ after)) :
    let first := start settings confs authenticator hls
    let last := first.run (before ++ after)
    last.Airs (fun id => tally id {} first (before ++ after)) ∧
      ∀ id s, (first.run before).stream? id = some s → s.closed = true →
        ∃ s', last.stream? id = some s' ∧ s'.closed = true ∧ s'.received = s.received ∧
          s'.sent = s.sent := by
  intro first last
  have hfirst : first.Reachable Admits := .start hconfs settings authenticator hls
  have hlast : last.Reachable Admits := hfirst.run hops
  obtain ⟨hbefore, hafter⟩ := permitsAll_append.1 hops
  have hkeeps {p : Path} (hp : p ∈ last.paths) : p.KeepsStreams := (hlast.lived p hp).keepsStreams
  refine ⟨⟨fun p hp => (hkeeps hp).gives, fun p hp => (hkeeps hp).isSome_stream?_iff,
    fun p hp serial s hs => (hkeeps hp).closed_iff hs,
    fun p hp serial s hs => ⟨(hkeeps hp).eq_present hs, fun h => (hkeeps hp).present s h.2⟩,
    fun p hp hended => ((hlast.lived p hp).atRest hended).isOver.stream, fun p hp hready => ?_,
    fun id s hs hclosed u => ?_, fun id other u hne => ?_⟩, fun id s hs hclosed => ?_⟩
  · obtain ⟨s, hs⟩ := Option.isSome_iff_exists.1 hready
    have hopen : s.closed = false := (hkeeps hp).present s hs
    have hstream : last.stream? p.streamId = some s := by
      have hfound : last.path? p.streamId.path = some p := hlast.hosts.numbered.path?_eq hp
      rw [stream?, hfound, Option.bind_some]
      simp [Path.stream?, Path.streamId, hs]
    have hfits := hfirst.tallied_run (fits_start settings confs authenticator hls p.streamId) hops
    rw [show (first.run (before ++ after)).stream? p.streamId = some s from hstream] at hfits
    obtain ⟨-, hreceived, hsent⟩ := hfits hopen
    simp only [Path.snapshot, hs]
    exact ⟨by rw [hreceived, UInt64.toNat_ofNat'], by rw [hsent, UInt64.toNat_ofNat']⟩
  · exact hlast.hosts.numbered.write_of_closed hs hclosed u
  · rw [stream?_write]
    simp [RegistryOp.actOn, hne]
  · have hrun : last = (first.run before).run after := List.foldl_append ..
    rw [hrun]
    exact (hfirst.run hbefore).closed_stream_run hs hclosed hafter

/-- A client publishes at the camera, another one takes its place, and both write. -/
theorem airs_twoPublishers :
    let first := start {} oneCamera .allowAll none
    let before := [
      .request 0 { name := "cam", publish := true }
        (.publish ⟨0, ⟨"rtspSession", "a"⟩⟩ ⟨[⟨.video, "H264"⟩]⟩ false none),
      .subscribe ⟨1, 0⟩,
      .write ⟨1, 0⟩ { payload := ⟨"abc", 1⟩ },
      .request 1 { name := "cam", publish := true }
        (.publish ⟨1, ⟨"rtspSession", "b"⟩⟩ ⟨[⟨.video, "H264"⟩]⟩ false none)]
    let after := [
      .subscribe ⟨1, 1⟩,
      .subscribe ⟨1, 1⟩,
      .write ⟨1, 0⟩ { payload := ⟨"late", 1⟩ },
      .write ⟨1, 1⟩ { payload := ⟨"hello", 2⟩ }]
    let last := first.run (before ++ after)
    first.PermitsAll (fun _ => True) (before ++ after) ∧
      last.Airs (fun id => tally id {} first (before ++ after)) ∧
      (last.stream? ⟨1, 0⟩).any (fun s => s.closed && s.received == 3) = true ∧
      (tally ⟨1, 1⟩ {} first (before ++ after)) = { subscribers := 2, received := 10, sent := 20 } ∧
      (last.snapshots.map fun s => (s.ready, s.received, s.sent)) = [(true, 10, 20)] := by
  intro first before after last
  have hops : first.PermitsAll (fun _ => True) (before ++ after) := by
    refine ⟨?_, ?_, ?_, ?_, ?_, ?_, ?_, ?_, ?_⟩ <;> trivial
  have hairs : last.Airs fun id => tally id {} first (before ++ after) :=
    (airs_run trivial {} .allowAll none hops).1
  exact ⟨hops, hairs, by decide +kernel, by decide +kernel, by decide +kernel⟩

end Registry

end LivePaths
