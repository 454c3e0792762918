import LivePaths.Proofs.Registry.Soundness

set_option relaxedAutoImplicit false
set_option autoImplicit false

/-!
# New sets of configurations

What a registry does with a new set of configurations is decided from the names of those that
changed and from what governs each path now. It amounts to a rule for each path alone, which does
not mention the former set.

## Main definitions

* `Path.under` — the rule for one path.
* `Registry.Reloaded` — a registry in which all paths have followed the rule.

## Main results

* `Registry.fateOf_eq`, `Registry.reload_eq` — the decision from the names agrees with the rule.
* `Registry.Sound.reload_spec` — all paths follow the rule.
* `Registry.Sound.reload_confs` — the same set changes nothing.
* `Registry.Reachable.sound` — every registry at rest is sound.
-/

namespace LivePaths

/-! ## The rule -/

/-- **The rule for one path** under a new set of configurations: it ends if nothing governs its
name or if it cannot move to what does; else it is handed what governs it, once, if that is
something else than it runs with. -/
def Path.under (m : Matching) (p : Path) (new : ConfSet) : Option Path :=
  match new.find m p.name with
  | .error _ => none
  | .ok found =>
    if p.conf.canHotReload found.conf then
      some (if found.conf = p.conf then p else p.reload found.conf)
    else none

/-- A path that follows the rule and stays runs with what governs its name, and is still itself. -/
lemma Path.under_spec {m : Matching} {p q : Path} {new : ConfSet} (h : p.under m new = some q) :
    (∃ captures, new.find m p.name = .ok ⟨q.conf, captures⟩) ∧
      q.id = p.id ∧ q.name = p.name ∧ q.ended = p.ended := by
  unfold Path.under at h
  split at h
  · cases h
  · next found hfind =>
    split at h
    · obtain rfl := Option.some.inj h
      split
      · next heq => exact ⟨⟨found.captures, heq ▸ hfind⟩, rfl, rfl, rfl⟩
      · have hp := p.proceeds_reload found.conf
        have hconf : (p.reload found.conf).conf = found.conf := congrArg (·.2.2.1) hp.same
        exact ⟨⟨found.captures, by rw [hfind, hconf]⟩, congrArg (·.1) hp.same,
          congrArg (·.2.1) hp.same, hp.ended⟩
    · cases h

/-- What a registry has for a live path after it has followed the rule. -/
def RegistryEntry.under (m : Matching) (e : RegistryEntry) (new : ConfSet) :
    Option RegistryEntry :=
  (e.path.under m new).map fun p => { e with path := p, conf := p.conf }

namespace ConfSet

/-- The names of the configurations with a change, by the configurations. -/
lemma mem_namesWith {old : ConfSet} {c : Conf} (h : old.get? c.name = some c) (new : ConfSet)
    (change : Change) : c.name ∈ old.namesWith new change ↔ new.changeOf c = change := by
  unfold namesWith
  rw [List.mem_map]
  constructor
  · rintro ⟨o, ho, hname⟩
    obtain ⟨hmem, hchange⟩ := List.mem_filter.1 ho
    have hget : old.get? c.name = some o := hname ▸ mem_toList.1 hmem
    obtain rfl : o = c := Option.some.inj (hget.symm.trans h)
    simpa using hchange
  · exact fun hchange => ⟨c, List.mem_filter.2 ⟨mem_toList.2 h, by simpa using hchange⟩, rfl⟩

end ConfSet

namespace Registry

variable {r r₀ : Registry} {new : ConfSet} {name : String} {e : RegistryEntry}

/-- **The decision agrees with the rule**: if the configuration of the path up to now stands in the
set, then whether its name is among those of changed configurations tells whether the path can move
to what governs it from now on.

**Proof sketch.** What governs a path stands in its set under its own name. If both have one name,
the change of the old one is hence the difference between the two; and they are equal exactly if
nothing has changed under this name, as a configuration can always move to itself. -/
theorem fateOf_eq (m : Matching) (hg : r₀.Carries name e) :
    fateOf m new (r₀.confs.namesWith new .absorbed) (r₀.confs.namesWith new .replaced) name e.conf =
      match new.find m name with
      | .error _ => .remove
      | .ok found =>
        if e.conf.canHotReload found.conf then
          if found.conf = e.conf then .keep else .reload found.conf
        else .remove := by
  have hget := hg.stored
  unfold fateOf
  cases hfind : new.find m name with
  | error _ => rfl
  | ok found =>
    dsimp only
    by_cases hname : found.conf.name = e.conf.name
    · have hnew : new.get? e.conf.name = some found.conf := hname ▸ ConfSet.get?_of_find hfind
      have hchange : new.changeOf e.conf =
          if found.conf = e.conf then .same
          else if e.conf.canHotReload found.conf then .absorbed else .replaced := by
        simp [ConfSet.changeOf, hnew]
      simp only [hname, ne_eq, not_true_eq_false, ↓reduceIte,
        ConfSet.mem_namesWith hget, hchange]
      by_cases heq : found.conf = e.conf
      · simp [heq, Conf.canHotReload_self]
      · by_cases hmove : e.conf.canHotReload found.conf = true
        · simp [heq, hmove]
        · simp [heq, hmove]
    · have heq : found.conf ≠ e.conf := fun h => hname (congrArg Conf.name h)
      simp [hname, heq]

/-! ## All live paths -/

/-- One live path takes up what becomes of it when a set replaces another. -/
def reloadStep (old new : ConfSet) : Registry → String → Registry :=
  reloadPath new (old.namesWith new .absorbed) (old.namesWith new .replaced)

/-- The paths of entries that do not stay, as they end. -/
def leaving (m : Matching) (es : List RegistryEntry) (new : ConfSet) : List Path :=
  (es.filter fun e => (e.under m new).isNone).map (·.path.destroy)

/-- Who leaves. -/
lemma mem_leaving {m : Matching} {es : List RegistryEntry} {p : Path} :
    p ∈ leaving m es new ↔ ∃ e ∈ es, e.path.under m new = none ∧ e.path.destroy = p := by
  simp [leaving, RegistryEntry.under, and_assoc]

/-- **One live path** follows the rule. -/
lemma reloadStep_eq (new : ConfSet) (hg : r₀.Carries name e) (he : r.live.get? name = some e) :
    (∃ e', e.under r.settings.matching new = some e' ∧
        reloadStep r₀.confs new r name = { r with live := r.live.insert name e' }) ∨
      (e.under r.settings.matching new = none ∧ ∃ news, reloadStep r₀.confs new r name =
        { r with live := r.live.erase name, past := r.past ++ [e.path.destroy], news }) := by
  have hname := hg.name_eq
  have hconf := hg.conf_eq
  unfold reloadStep reloadPath RegistryEntry.under Path.under
  simp only [he, fateOf_eq _ hg, hname, hconf]
  cases hfind : new.find r.settings.matching name with
  | error _ => exact .inr ⟨rfl, _, removePath_eq he⟩
  | ok found =>
    dsimp only
    by_cases hmove : e.conf.canHotReload found.conf = true
    · simp only [hmove, ↓reduceIte]
      by_cases heq : found.conf = e.conf
      · refine .inl ⟨e, ?_, ?_⟩
        · simp [heq, hconf]
        · simp [heq, NameMap.insert_of_get? he]
      · have hreloaded : (e.path.reload found.conf).conf = found.conf :=
          congrArg (·.2.2.1) (e.path.proceeds_reload found.conf).same
        refine .inl ⟨{ e with conf := found.conf, path := e.path.reload found.conf }, ?_, ?_⟩
        · simp [heq, hreloaded]
        · simpa [heq] using handOver_eq he found.conf
    · simp only [hmove, Bool.false_eq_true, ↓reduceIte]
      exact .inr ⟨rfl, _, removePath_eq he⟩

/-- What one path does keeps its number. -/
lemma Numbered.reloadStep (h : r.Numbered) (hg : r₀.Carries name e)
    (he : r.live.get? name = some e) : (reloadStep r₀.confs new r name).Numbered := by
  rcases reloadStep_eq new hg he with ⟨e', hunder, heq⟩ | ⟨-, news, heq⟩
  · obtain ⟨p, hp, rfl⟩ := Option.map_eq_some_iff.1 hunder
    rw [heq]
    exact h.insert_same he (Path.under_spec hp).2.1 r.news
  · rw [heq]
    exact h.erase he (Path.id_destroy _) news

/-- **All live paths** follow the rule, one after another; each keeps its number.

**Proof sketch.** Induction on the entries that are still to come. As their names differ, what
happens to one of them leaves the others in place. -/
lemma foldl_reloadStep (r₀ r : Registry) (new : ConfSet) (es : List (String × RegistryEntry))
    (hn : (es.map (·.1)).Nodup)
    (h : ∀ x ∈ es, r.live.get? x.1 = some x.2 ∧ r₀.Carries x.1 x.2) :
    ∃ live news, (es.map (·.1)).foldl (reloadStep r₀.confs new) r =
        { r with live, past := r.past ++ leaving r.settings.matching (es.map (·.2)) new, news } ∧
      (∀ x ∈ es, live.get? x.1 = x.2.under r.settings.matching new) ∧
      (∀ other, other ∉ es.map (·.1) → live.get? other = r.live.get? other) ∧
      (r.Numbered → ((es.map (·.1)).foldl (reloadStep r₀.confs new) r).Numbered) := by
  induction es generalizing r with
  | nil => exact ⟨r.live, r.news, by simp [leaving], by simp, by simp, id⟩
  | cons x rest ih =>
    obtain ⟨he, hg⟩ := h x List.mem_cons_self
    obtain ⟨hnot, hrest⟩ := List.nodup_cons.1 hn
    have hne (y : String × RegistryEntry) (hy : y ∈ rest) : x.1 ≠ y.1 := fun hxy =>
      hnot (List.mem_map.2 ⟨y, hy, hxy.symm⟩)
    -- what the first path does, seen from all names
    have hstep : ∃ past news, reloadStep r₀.confs new r x.1 =
          { r with live := (reloadStep r₀.confs new r x.1).live, past := r.past ++ past, news } ∧
        past ++ leaving r.settings.matching (rest.map (·.2)) new =
          leaving r.settings.matching (x.2 :: rest.map (·.2)) new ∧
        (reloadStep r₀.confs new r x.1).live.get? x.1 = x.2.under r.settings.matching new ∧
        ∀ other, x.1 ≠ other →
          (reloadStep r₀.confs new r x.1).live.get? other = r.live.get? other := by
      rcases reloadStep_eq new hg he with ⟨e', hunder, heq⟩ | ⟨hunder, news, heq⟩
      · refine ⟨[], r.news, by rw [heq]; simp, by simp [leaving, hunder], ?_, fun other ho => ?_⟩
        · rw [heq, NameMap.get?_insert, if_pos rfl, hunder]
        · rw [heq, NameMap.get?_insert, if_neg ho]
      · refine ⟨[x.2.path.destroy], news, by rw [heq], by simp [leaving, hunder], ?_,
          fun other ho => ?_⟩
        · rw [heq, NameMap.get?_erase, if_pos rfl, hunder]
        · rw [heq, NameMap.get?_erase, if_neg ho]
    obtain ⟨past, news, heq, hpast, hget, hother⟩ := hstep
    have hsettings : (reloadStep r₀.confs new r x.1).settings = r.settings := by rw [heq]
    obtain ⟨live, news', hfold, hin, hout, hnum⟩ :=
      ih (reloadStep r₀.confs new r x.1) hrest fun y hy =>
        ⟨(hother y.1 (hne y hy)).trans (h y (List.mem_cons_of_mem _ hy)).1,
          (h y (List.mem_cons_of_mem _ hy)).2⟩
    rw [hsettings] at hfold hin
    refine ⟨live, news', ?_, fun y hy => ?_, fun other ho => ?_, fun hr => ?_⟩
    · rw [List.map_cons, List.foldl_cons, hfold, heq, List.map_cons, ← hpast, List.append_assoc]
    · rcases List.mem_cons.1 hy with rfl | hy
      · exact (hout y.1 hnot).trans hget
      · exact hin y hy
    · obtain ⟨hox, ho⟩ := not_or.1 (mt List.mem_cons.2 ho)
      exact (hout other ho).trans (hother other (Ne.symm hox))
    · exact hnum (hr.reloadStep hg he)

/-- A registry that takes up a set is open. -/
lemma open_of_reload {r' : Registry} (hr : r.reload new = .ok r') : r.closed = false := by
  by_contra hc
  have hclosed : r.closed = true := by simpa using hc
  simp [Registry.reload, hclosed] at hr

/-- An open registry reloads its live paths one after another. -/
lemma reload_of_open (hopen : r.closed = false) : r.reload new =
    .ok { r.live.names.foldl (reloadStep r.confs new) r with confs := new }.createMissing := by
  simp only [Registry.reload, hopen, Bool.false_eq_true, ↓reduceIte]
  rfl

/-- **What becomes of the live paths** under a new set: each follows the rule, and then the missing
paths are created. -/
theorem reload_eq (hg : ∀ name e, r.live.get? name = some e → r.Carries name e)
    (hopen : r.closed = false) (new : ConfSet) :
    ∃ live news,
      r.reload new = .ok { r with
        confs := new
        live
        past := r.past ++ leaving r.settings.matching r.live.values new
        news }.createMissing ∧
      (∀ name, live.get? name = (r.live.get? name).bind (·.under r.settings.matching new)) ∧
      (r.Numbered → { r with
        confs := new
        live
        past := r.past ++ leaving r.settings.matching r.live.values new
        news }.Numbered) := by
  obtain ⟨live, news, hfold, hin, hout, hnum⟩ :=
    foldl_reloadStep r r new r.live.entries r.live.nodup_names fun x hx =>
      have hget := (r.live.mem_entries_iff x.1 x.2).1 hx
      ⟨hget, hg x.1 x.2 hget⟩
  refine ⟨live, news, ?_, fun name => ?_, fun hr => ?_⟩
  · rw [reload_of_open hopen]
    exact congrArg (fun m : Registry => Except.ok { m with confs := new }.createMissing) hfold
  · cases he : r.live.get? name with
    | none =>
      rw [hout name, he]
      · rfl
      · intro hname
        simpa [he] using (r.live.mem_names_iff name).1 hname
    | some e => exact hin (name, e) ((r.live.mem_entries_iff name e).2 he)
  · exact (hfold ▸ hnum hr).of_same rfl rfl rfl

/-! ## A new set -/

/-- **Reloaded registries**: all live paths have followed the rule, and only the paths of
configurations without a pattern have been created besides. -/
structure Reloaded (r : Registry) (new : ConfSet) (r' : Registry) : Prop where
  /-- Everything else stays as it is. -/
  rest : ∃ live past created news,
    r' = { r with confs := new, live, past, created, news }
  /-- A path that stays is the same one, and runs with what governs its name from now on. -/
  stays : ∀ name e p, r.live.get? name = some e → e.path.under r.settings.matching new = some p →
    p.id = e.path.id ∧ p.ended = false ∧
      (∃ captures, new.find r.settings.matching name = .ok ⟨p.conf, captures⟩) ∧
      r'.live.get? name = some { e with path := p, conf := p.conf }
  /-- All others are destroyed, and no other path is. -/
  past_eq : r'.past = r.past ++ leaving r.settings.matching r.live.values new
  /-- A path that is destroyed was alive, is over from then on, and no live path has its number. -/
  leaves : ∀ name e, r.live.get? name = some e → e.path.under r.settings.matching new = none →
    e.path.ended = false ∧ e.path.destroy ∈ r'.past ∧ e.path.destroy.id = e.path.id ∧
      e.path.destroy.IsOver ∧ ∀ other e', r'.live.get? other = some e' → e'.path.id ≠ e.path.id
  /-- Whatever else is live is new and has a larger number than any path before. -/
  begins : ∀ name e', r'.live.get? name = some e' →
    (∃ e p, r.live.get? name = some e ∧ e.path.under r.settings.matching new = some p) ∨
      ∃ c ∈ new.fixed, c.name = name ∧ ∃ id, e' = r.newEntry id c ∧ ∀ p ∈ r.paths, p.id < id
  /-- Every configuration without a pattern has its path. -/
  complete : ∀ c ∈ new.fixed, (r'.live.get? c.name).isSome = true
  /-- No two paths have the same number. -/
  nodup : (r'.paths.map (·.id)).Nodup

/-- **A new set of configurations** makes all live paths follow the rule, and keeps a registry
sound.

**Proof sketch.** The paths that stay are governed by what they were handed, since this is how the
rule has chosen it. Then the missing paths are created, none of them under the name of one that
stays. -/
theorem Sound.reload_spec (h : r.Sound) (hopen : r.closed = false) (hv : new.HasValidNames) :
    ∃ r', r.reload new = .ok r' ∧ r.Reloaded new r' ∧ r'.Sound := by
  obtain ⟨live, news, hreload, hget, hnum⟩ :=
    reload_eq (fun name e he => (h.governed.governs name e he).carries) hopen new
  let moved : Registry :=
    { r with
      confs := new, live, past := r.past ++ leaving r.settings.matching r.live.values new, news }
  have hstays (name : String) (e : RegistryEntry) (p : Path) (he : r.live.get? name = some e)
      (hp : e.path.under r.settings.matching new = some p) :
      live.get? name = some { e with path := p, conf := p.conf } := by
    rw [hget, he]
    exact Option.map_eq_some_iff.2 ⟨p, hp, rfl⟩
  have hmoved (name : String) (e' : RegistryEntry) (he' : live.get? name = some e') :
      (∃ e p, r.live.get? name = some e ∧ e.path.under r.settings.matching new = some p) ∧
        moved.Governs name e' := by
    rw [hget] at he'
    obtain ⟨e, he, hunder⟩ := Option.bind_eq_some_iff.1 he'
    obtain ⟨p, hp, rfl⟩ := Option.map_eq_some_iff.1 hunder
    obtain ⟨hfound, -, hname, hended⟩ := Path.under_spec hp
    have hg := h.governed.governs name e he
    exact ⟨⟨e, p, he, hp⟩, hname.trans hg.name_eq, hended.trans hg.alive, rfl,
      hg.name_eq ▸ hfound⟩
  have hsound : moved.createMissing.Sound :=
    ⟨governed_createMissing hv hopen fun name e' he' => (hmoved name e' he').2,
      (hnum h.numbered).createMissing⟩
  obtain ⟨live', hcreate, hlive'⟩ := foldl_createPath moved.missing moved
  have heq : moved.createMissing =
      { moved with live := live', created := moved.created + moved.missing.length } := hcreate
  have hcomplete : ∀ c ∈ new.fixed, (moved.createMissing.live.get? c.name).isSome = true := by
    have hall := hsound.governed.complete
    rw [heq] at hall ⊢
    exact hall hopen
  have hpast : moved.createMissing.past =
      r.past ++ leaving r.settings.matching r.live.values new := by rw [heq]
  refine ⟨moved.createMissing, hreload, ⟨?_, fun name e p he hp => ?_, hpast,
    fun name e he hnone => ?_, fun name e' he' => ?_, hcomplete, hsound.numbered.nodup_ids⟩, hsound⟩
  · rw [heq]
    exact ⟨_, _, _, _, rfl⟩
  · obtain ⟨hfound, hid, -, hended⟩ := Path.under_spec hp
    have hg := h.governed.governs name e he
    refine ⟨hid, hended.trans hg.alive, hg.name_eq ▸ hfound, ?_⟩
    rw [heq]
    rcases hlive' name with ⟨c, hc, rfl, -⟩ | ⟨-, hsame⟩
    · have := (List.mem_filter.1 hc).2
      simp [NameMap.contains, moved, hstays c.name e p he hp] at this
    · exact hsame.trans (hstays name e p he hp)
  · have halive := (h.governed.governs name e he).alive
    have hleft : e.path.destroy ∈ moved.createMissing.past := by
      rw [hpast]
      exact List.mem_append_right _
        (mem_leaving.2 ⟨e, (r.live.mem_values_iff e).2 ⟨name, he⟩, hnone, rfl⟩)
    refine ⟨halive, hleft, Path.id_destroy _, Path.isOver_destroy halive,
      fun other e' he' hid => ?_⟩
    refine hsound.numbered.apart other e.path.id (by simp [liveId, he', hid]) ?_
    exact List.mem_map.2 ⟨_, hleft, Path.id_destroy _⟩
  · rw [heq] at he'
    rcases hlive' name with ⟨c, hc, hname, id, hlt, -, hnew⟩ | ⟨-, hsame⟩
    · refine .inr ⟨c, (List.mem_filter.1 hc).1, hname, id, ?_, fun p hp => ?_⟩
      · exact Option.some.inj (he'.symm.trans hnew)
      · exact Nat.lt_of_le_of_lt (h.numbered.id_le hp) hlt
    · exact .inl (hmoved name e' (hsame.symm.trans he')).1

/-- **The same set again** changes nothing at all. -/
theorem Sound.reload_confs (h : r.Sound) (hopen : r.closed = false) :
    r.reload r.confs = .ok r := by
  have hkeep (name : String) : reloadStep r.confs r.confs r name = r := by
    unfold reloadStep reloadPath
    cases he : r.live.get? name with
    | none => rfl
    | some e =>
      have hg := h.governed.governs name e he
      obtain ⟨captures, hfind⟩ := hg.found
      rw [governing] at hfind
      simp [fateOf_eq _ hg.carries, hfind, Conf.canHotReload_self]
  have hfold : r.live.names.foldl (reloadStep r.confs r.confs) r = r :=
    List.foldl_fixed' hkeep r.live.names
  have hmissing : r.missing = [] := by
    unfold missing
    refine List.filter_eq_nil_iff.2 fun c hc => ?_
    simp [NameMap.contains, h.governed.complete hopen c hc]
  rw [reload_of_open hopen, hfold]
  unfold createMissing
  rw [hmissing]
  rfl

/-! ## Every registry at rest -/

/-- **One operation** keeps a registry sound. -/
theorem Sound.apply (h : r.Sound) {op : RegistryOp} (hop : r.Permits ConfSet.HasValidNames op) :
    (r.apply op).Sound := by
  cases op with
  | request number access c => exact h.request number access c.expected? _
  | requestOf number handle query c => exact h.requestOf number handle _
  | unpublish handle client => exact h.tell handle _
  | unread handle client => exact h.tell handle _
  | sourceReady number handle d rtp => exact h.requestOf number handle _
  | sourceNotReady handle => exact h.tell handle _
  | abandon number => exact h.abandon number
  | find access => exact h.find access
  | reload confs =>
    change ((r.reload confs).toOption.getD r).Sound
    cases hclosed : r.closed with
    | true => simpa [Registry.reload, hclosed, Except.toOption] using h
    | false =>
      obtain ⟨r', heq, -, hsound⟩ := h.reload_spec hclosed hop
      simpa [heq, Except.toOption] using hsound
  | setHls server =>
    change ((r.setHls server).toOption.getD r).Sound
    cases heq : r.setHls server with
    | error e => exact h
    | ok r' => exact h.setHls heq
  | sleep ms => exact h.advance _
  | close => exact h.close
  | write stream u => exact h.write stream u
  | subscribe stream =>
    change (((r.subscribe? stream).map (·.1)).getD r).Sound
    cases heq : r.subscribe? stream with
    | none => exact h
    | some x => exact h.subscribe heq
  | unsubscribe stream => exact h.modifyStream stream _
  | segmentCreate name segment =>
    change ((r.segmentCreated? name segment).getD r).Sound
    cases heq : r.segmentCreated? name segment with
    | none => exact h
    | some r' => exact h.segmentCreated heq
  | segmentComplete name segment ms =>
    change ((r.segmentComplete? name segment ms).getD r).Sound
    cases heq : r.segmentComplete? name segment ms with
    | none => exact h
    | some r' => exact h.segmentComplete heq

/-- **Every registry at rest is sound** if all sets of configurations have valid names. -/
theorem Reachable.sound (h : r.Reachable ConfSet.HasValidNames) : r.Sound := by
  induction h with
  | start hv settings authenticator hls => exact sound_start hv settings authenticator hls
  | apply _ op hop ih => exact ih.apply hop

/-! ## Cameras -/

/-- A set with one configuration. -/
def oneCamera : ConfSet := .ofList [{ name := "cam" }]

/-- A set in which this camera is recorded, and in which there is another one. -/
def twoCameras : ConfSet :=
  .ofList [{ name := "cam", record := { enabled := true } }, { name := "door" }]

end Registry

end LivePaths
