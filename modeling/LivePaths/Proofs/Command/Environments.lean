import LivePaths.Proofs.Command.Launches

set_option relaxedAutoImplicit false
set_option autoImplicit false

/-!
# The environments of launches

A launcher only ever launches commands in environments that it was given: when a command is started,
when an end is carried out, or with a job that is launched again. What all these environments have
in common is hence true of everything that is launched. For the commands of a path these are the
groups of its captures.

## Main definitions

* `Launcher.Adds` — launches are added, all of them in environments of one kind.
* `Environment.groupName`, `Environment.HasGroups` — the variables of the groups of some captures.

## Main results

* `Launcher.adds_begin`, `Launcher.adds_tearDown`, `Launcher.adds_advance` — the environments of
  what is launched at a beginning, at an end and as time passes.
* `Environment.hasGroups_base`, `Environment.HasGroups.forReady`, … — all commands of a path find
  the groups of its captures.
-/

namespace LivePaths

namespace Launcher

/-! ## Added launches -/

/-- **Addition**: launches come after those of before, and they, as well as whatever is to be
launched again, have environments of one kind. -/
structure Adds (P : Environment → Prop) (l l' : Launcher) : Prop where
  launches : ∃ ls, l'.launches = l.launches ++ ls ∧ ∀ x ∈ ls, P x.environment
  jobs : ∀ j ∈ l'.jobs, P j.environment

variable {P : Environment → Prop} {l l' l'' : Launcher}

namespace Adds

/-- What was launched before comes first. -/
lemma grows (h : Adds P l l') : l.launches <+: l'.launches :=
  have ⟨ls, hls, _⟩ := h.launches
  ⟨ls, hls.symm⟩

lemma trans (h : Adds P l l') (h' : Adds P l' l'') : Adds P l l'' := by
  obtain ⟨ls, hls, hall⟩ := h.launches
  obtain ⟨ms, hms, hall'⟩ := h'.launches
  refine ⟨⟨ls ++ ms, ?_, List.forall_mem_append.2 ⟨hall, hall'⟩⟩, h'.jobs⟩
  rw [hms, hls, List.append_assoc]

end Adds

section Small

variable (hjobs : ∀ j ∈ l.jobs, P j.environment)

include hjobs

/-- Nothing is launched. -/
lemma adds_of_launches (hlaunches : l'.launches = l.launches) (hsub : l'.jobs ⊆ l.jobs) :
    Adds P l l' :=
  ⟨⟨[], by rw [hlaunches, List.append_nil], by simp⟩, fun j hj => hjobs j (hsub hj)⟩

lemma adds_refl : Adds P l l := adds_of_launches hjobs rfl (List.Subset.refl _)

lemma adds_launch (line : String) {env : Environment} (henv : P env) :
    Adds P l (l.launch line env) := by
  rw [launch_eq]
  refine ⟨⟨_, rfl, fun x hx => ?_⟩, hjobs⟩
  split at hx
  · obtain rfl := List.mem_singleton.1 hx
    exact henv
  · cases hx

/-- A command that is launched once. -/
lemma adds_runOnce (line : String) {env : Environment} (henv : P env) :
    Adds P l (l.runOnce line env) := by
  unfold runOnce
  split
  · exact adds_refl hjobs
  · exact adds_launch hjobs line henv

/-- The start of a command, which may be launched again later. -/
lemma adds_start (c : CommandLine) {env : Environment} (henv : P env) :
    Adds P l (l.start c env).1 := by
  have hlaunched := adds_launch hjobs c.line henv
  unfold start
  split
  · split
    · refine ⟨hlaunched.launches, List.forall_mem_append.2 ⟨hjobs, ?_⟩⟩
      simpa using henv
    · exact hlaunched
  · exact adds_refl hjobs

/-! ## Beginnings, ends and time -/

/-- **A beginning.** -/
lemma adds_begin (c : CommandLine) (atEnd : String) {env : Environment} (henv : P env) :
    Adds P l (l.begin c atEnd env).1 :=
  adds_start hjobs c henv

/-- **An end.** -/
lemma adds_tearDown {t : Teardown} (ht : P t.environment) : Adds P l (l.tearDown t) := by
  have hstopped : Adds P l (l.stop t.job) :=
    adds_of_launches hjobs rfl (List.filter_subset_self _)
  exact hstopped.trans (adds_runOnce hstopped.jobs t.line ht)

/-- Jobs are launched again. -/
lemma adds_relaunch (time : Nat) : Adds P l (l.relaunch time) := by
  have hdue : ∀ js : List Job, (∀ j ∈ js, P j.environment) → ∀ l' : Launcher,
      (∀ j ∈ l'.jobs, P j.environment) →
        Adds P l' (js.foldl (fun l j => l.launch j.line j.environment) l') := by
    intro js hjs
    induction js with
    | nil => exact fun l' hl' => adds_refl hl'
    | cons j rest ih =>
      intro l' hl'
      obtain ⟨hj, hrest⟩ := List.forall_mem_cons.1 hjs
      have hfirst := adds_launch hl' j.line hj
      exact hfirst.trans (ih hrest _ hfirst.jobs)
  have hlaunched := hdue (l.jobs.filter (·.nextLaunch = time))
    (fun j hj => hjobs j (List.mem_filter.1 hj).1) { l with now := time } hjobs
  refine ⟨hlaunched.launches, fun j' hj' => ?_⟩
  obtain ⟨j, hj, rfl⟩ := List.mem_map.1 hj'
  split
  · exact hjobs j hj
  · exact hjobs j hj

/-- **Passing of time.**

**Proof sketch.** Induction on the launches that are due before the time. -/
lemma adds_advance (time : Nat) : Adds P l (l.advance time) := by
  fun_induction advance l time with
  | case1 l due hdue hle ih =>
    have hfirst := adds_relaunch hjobs due
    exact hfirst.trans (ih hfirst.jobs)
  | case2 => exact adds_of_launches hjobs rfl (List.Subset.refl _)
  | case3 => exact adds_of_launches hjobs rfl (List.Subset.refl _)

end Small

end Launcher

/-! ## Groups -/

namespace Environment

/-- The name of the variable of a group. -/
def groupName (i : Nat) : String := "G" ++ toString i

/-- Each group has a variable of its own. -/
lemma groupName_inj {i j : Nat} (h : groupName i = groupName j) : i = j := by
  have hdigits : Nat.toDigits 10 i = Nat.toDigits 10 j := by
    simpa [groupName, toString, Nat.repr] using congrArg String.toList h
  simpa using congrArg (Nat.ofDigitChars 10 · 0) hdigits

/-- No other variable is that of a group: the names of all others begin with another letter. -/
lemma ne_groupName {name : String} (h : name.toList.head? ≠ some 'G') (i : Nat) :
    name ≠ groupName i := by
  rintro rfl
  simp [groupName] at h

/-- **The groups of some captures**: each group but the whole match has a variable, and there are no
variables of other groups. -/
def HasGroups (captures : List String) (env : Environment) : Prop :=
  ∀ i, env.get? (groupName i) = if i = 0 then none else captures[i]?

/-- Other variables do not concern the groups. -/
lemma HasGroups.insert {captures : List String} {env : Environment} (h : HasGroups captures env)
    {name : String} (hname : name.toList.head? ≠ some 'G') (value : String) :
    HasGroups captures (NameMap.insert env name value) := by
  intro i
  rw [NameMap.get?_insert, if_neg (ne_groupName hname i)]
  exact h i

/-- **Variables are added** for groups of different numbers. -/
lemma get?_foldl_groups (cs : List (String × Nat)) (hn : (cs.map (·.2)).Nodup) (env : Environment)
    (i : Nat) :
    (cs.foldl (fun env c => NameMap.insert env (groupName c.2) c.1) env).get? (groupName i) =
      ((cs.find? (·.2 = i)).map (·.1)).or (env.get? (groupName i)) := by
  induction cs generalizing env with
  | nil => rfl
  | cons c rest ih =>
    obtain ⟨hnot, hrest⟩ := List.nodup_cons.1 hn
    rw [List.foldl_cons, ih hrest, NameMap.get?_insert]
    by_cases hc : c.2 = i
    · have hnone : rest.find? (·.2 = i) = none :=
        List.find?_eq_none.2 fun d hd => by
          have hne : d.2 ≠ c.2 := fun hdc => hnot (List.mem_map.2 ⟨d, hd, hdc⟩)
          simpa [← hc] using hne
      rw [List.find?_cons_of_pos (by simpa using hc), hnone, if_pos (congrArg groupName hc)]
      rfl
    · rw [List.find?_cons_of_neg (by simpa using hc), if_neg fun h => hc (groupName_inj h)]

/-- What has a number in a numbered list is found where this number says. -/
lemma find?_zipIdx (cs : List String) (k i : Nat) :
    ((cs.zipIdx k).find? (·.2 = i)).map (·.1) = if i < k then none else cs[i - k]? := by
  induction cs generalizing k with
  | nil => simp
  | cons c rest ih =>
    rw [List.zipIdx_cons]
    by_cases hk : k = i
    · subst hk
      simp
    · rw [List.find?_cons_of_neg (by simpa using hk), ih]
      by_cases hlt : i < k
      · rw [if_pos hlt, if_pos (Nat.lt_succ_of_lt hlt)]
      · have hnext : i - k = i - (k + 1) + 1 := by omega
        rw [if_neg hlt, if_neg (by omega), hnext, List.getElem?_cons_succ]

/-- **All commands of a path** find the groups of its captures. -/
lemma hasGroups_base (path rtspAddress : String) (captures : List String) :
    HasGroups captures (base path rtspAddress captures) := by
  intro i
  -- before the groups come variables with names of other kinds
  have hpath : "MTX_PATH" ≠ groupName i := ne_groupName (by decide) i
  have hrtsp : "RTSP_PATH" ≠ groupName i := ne_groupName (by decide) i
  have hport : "RTSP_PORT" ≠ groupName i := ne_groupName (by decide) i
  have hfixed : (((NameMap.empty.insert "MTX_PATH" path).insert "RTSP_PATH" path).insert
      "RTSP_PORT" (portOf rtspAddress) : Environment).get? (groupName i) = none := by
    simp only [NameMap.get?_insert, if_neg hpath, if_neg hrtsp, if_neg hport, NameMap.get?_empty]
  have hnodup : ((captures.zipIdx.drop 1).map (·.2)).Nodup := by
    rw [List.map_drop, List.zipIdx_map_snd]
    exact List.Nodup.sublist (List.drop_sublist ..) List.nodup_range'
  refine (get?_foldl_groups _ hnodup _ i).trans ?_
  rw [hfixed, Option.or_none]
  cases captures with
  | nil => simp
  | cons whole groups =>
    rw [List.zipIdx_cons, List.drop_one, List.tail_cons, find?_zipIdx]
    cases i with
    | zero => rfl
    | succ i => simp

/-! ### Occasions -/

section Occasions

variable {captures : List String} {env : Environment} (h : HasGroups captures env)

include h

/-- Somebody asks for the path. -/
lemma HasGroups.forDemand (query : String) : HasGroups captures (env.forDemand query) :=
  h.insert (by decide) query

/-- The path is ready. -/
lemma HasGroups.forReady (source : Option Descriptor) (query : String) :
    HasGroups captures (env.forReady source query) := by
  unfold Environment.forReady
  cases source with
  | none => exact h.forDemand query
  | some d => exact ((h.forDemand query).insert (by decide) _).insert (by decide) _

/-- A segment is created. -/
lemma HasGroups.forSegment (segment : String) : HasGroups captures (env.forSegment segment) :=
  h.insert (by decide) segment

/-- A segment is complete. -/
lemma HasGroups.forCompleteSegment (segment : String) (secs nanos : Nat) :
    HasGroups captures (env.forCompleteSegment segment secs nanos) :=
  (h.forSegment segment).insert (by decide) _

end Occasions

end Environment

end LivePaths
