import LivePaths.Command.Run
import LivePaths.Proofs.Command.Environments

set_option relaxedAutoImplicit false
set_option autoImplicit false

/-!
# The variables of a path

What all commands of a path find in their environments, whatever they are launched for: the path
itself, the port of the server and the groups of the captures. What belongs to an occasion is added
under other names. Commands can be launched in all these environments, as long as nobody brings a
null character in.

## Main definitions

* `HookStep.environment?` — the environment in which the commands of a step are launched.
* `Environment.Describes` — an environment tells a path, a port and the groups of some captures.
* `HookStep.texts` — the texts that a step brings in.

## Main results

* `Environment.portOf_append`, `Environment.portOf_of_notMem` — the port of an address.
* `HookStep.describes` — the environments of all steps.
* `HookStep.isNullFree` — all steps have environments without null characters.
-/

namespace LivePaths

/-- **The environment of a step**, if commands are launched for it. -/
def HookStep.environment? (base : Environment) : HookStep → Option Environment
  | .init => some base
  | .demand query => some (base.forDemand query)
  | .ready source query => some (base.forReady source query)
  | .segmentCreate segment => some (base.forSegment segment)
  | .segmentComplete segment secs nanos => some (base.forCompleteSegment segment secs nanos)
  | .tearDown _ | .sleep _ => none

namespace Environment

variable {path rtspAddress : String} {captures : List String} {env : Environment}

/-! ## The port -/

/-- **The port** is what comes after the last colon. -/
lemma portOf_append (host : String) {port : String} (h : ':' ∉ port.toList) :
    portOf (host ++ ":" ++ port) = port := by
  have hcolon : (host ++ ":" ++ port).toList.reverse =
      port.toList.reverse ++ ':' :: host.toList.reverse := by simp
  have hport : ∀ c ∈ port.toList.reverse, decide (c ≠ ':') = true := by
    intro c hc
    have hne : c ≠ ':' := fun heq => h (heq ▸ List.mem_reverse.1 hc)
    simpa using hne
  unfold portOf
  rw [if_pos (by simp), hcolon, List.takeWhile_append_of_pos hport,
    List.takeWhile_cons_of_neg (by simp), List.append_nil, List.reverse_reverse,
    String.ofList_toList]

/-- An address without a colon has no port. -/
lemma portOf_of_notMem (h : ':' ∉ rtspAddress.toList) : portOf rtspAddress = "" := if_neg h

/-! ## Fixed variables -/

/-- **The fixed variables** of a path. -/
def fixedNames : List String := ["MTX_PATH", "RTSP_PATH", "RTSP_PORT"]

/-- **Description** of a path: the path itself and the port under fixed names, and the groups. -/
structure Describes (path rtspAddress : String) (captures : List String) (env : Environment) :
    Prop where
  groups : HasGroups captures env
  mtxPath : env.get? "MTX_PATH" = some path
  rtspPath : env.get? "RTSP_PATH" = some path
  rtspPort : env.get? "RTSP_PORT" = some (portOf rtspAddress)

/-- Groups are not added under other names. -/
lemma get?_withGroups {name : String} (hname : ∀ i, name ≠ groupName i) (captures : List String)
    (env : Environment) : (env.withGroups captures).get? name = env.get? name := by
  unfold withGroups
  induction captures.zipIdx.drop 1 generalizing env with
  | nil => rfl
  | cons c rest ih =>
    rw [List.foldl_cons, ih, NameMap.get?_insert]
    exact if_neg (hname c.2).symm

/-- **The base environment** describes a path. -/
lemma describes_base (path rtspAddress : String) (captures : List String) :
    Describes path rtspAddress captures (base path rtspAddress captures) := by
  have hget : ∀ name : String, name.toList.head? ≠ some 'G' →
      (base path rtspAddress captures).get? name =
        if "RTSP_PORT" = name then some (portOf rtspAddress)
        else if "RTSP_PATH" = name then some path
        else if "MTX_PATH" = name then some path
        else none := by
    intro name hname
    unfold base
    dsimp only
    rw [get?_withGroups (ne_groupName hname)]
    simp only [NameMap.get?_insert, NameMap.get?_empty]
  exact ⟨hasGroups_base path rtspAddress captures, (hget _ (by decide)).trans (by simp),
    (hget _ (by decide)).trans (by simp), (hget _ (by decide)).trans (by simp)⟩

/-- **Other variables** do not overwrite the description. -/
lemma Describes.insert (h : Describes path rtspAddress captures env) {name : String}
    (hname : name.toList.head? ≠ some 'G') (hfixed : name ∉ fixedNames) (value : String) :
    Describes path rtspAddress captures (NameMap.insert env name value) := by
  have hother : ∀ fixed ∈ fixedNames,
      (NameMap.insert env name value).get? fixed = env.get? fixed := by
    intro fixed hmem
    have hne : name ≠ fixed := fun heq => hfixed (heq ▸ hmem)
    rw [NameMap.get?_insert, if_neg hne]
  exact ⟨h.groups.insert hname value, (hother _ (by decide)).trans h.mtxPath,
    (hother _ (by decide)).trans h.rtspPath, (hother _ (by decide)).trans h.rtspPort⟩

end Environment

open Environment in
/-- **All environments** describe the path. -/
lemma HookStep.describes {path rtspAddress : String} {captures : List String} {s : HookStep}
    {env : Environment} (h : s.environment? (.base path rtspAddress captures) = some env) :
    Describes path rtspAddress captures env := by
  have hbase := describes_base path rtspAddress captures
  cases s with
  | tearDown | sleep => cases h
  | init =>
    cases h
    exact hbase
  | demand query =>
    cases h
    exact hbase.insert (by decide) (by decide) query
  | ready source query =>
    cases h
    have hquery : Describes path rtspAddress captures (forDemand _ query) :=
      hbase.insert (by decide) (by decide) query
    cases source with
    | none => exact hquery
    | some d =>
      exact (hquery.insert (by decide) (by decide) d.kind).insert (by decide) (by decide) d.id
  | segmentCreate segment =>
    cases h
    exact hbase.insert (by decide) (by decide) segment
  | segmentComplete segment secs nanos =>
    cases h
    exact (hbase.insert (by decide) (by decide) segment).insert (by decide) (by decide) _

/-! ## Texts without null characters -/

/-- **The texts** that a step brings in. -/
def HookStep.texts : HookStep → List String
  | .demand query => [query]
  | .ready source query => query :: source.toList.flatMap fun d => [d.kind, d.id]
  | .segmentCreate segment => [segment]
  | .segmentComplete segment _ _ => [segment]
  | .init | .tearDown _ | .sleep _ => []

/-- Decimal digits are no null characters. -/
lemma ne_null_of_isDigit {c : Char} (h : c.isDigit = true) : c ≠ '\x00' := by
  rintro rfl
  exact absurd h (by decide)

lemma null_notMem_toDigits (n : Nat) : '\x00' ∉ Nat.toDigits 10 n := fun h =>
  ne_null_of_isDigit (Nat.isDigit_of_mem_toDigits (by decide) (by decide) h) rfl

namespace Text

/-- Decimal numbers have no null characters. -/
lemma null_notMem_positional {whole fraction : List Char} (hw : '\x00' ∉ whole)
    (hf : '\x00' ∉ fraction) : '\x00' ∉ positional whole fraction := by
  have htrim : '\x00' ∉ trimZeros fraction := fun h =>
    hf (List.mem_reverse.1 ((List.dropWhile_sublist _).subset (List.mem_reverse.1 h)))
  unfold positional
  dsimp only
  split
  · exact hw
  · rw [List.mem_append, List.mem_cons]
    rintro (h | h | h)
    · exact hw h
    · cases h
    · exact htrim h

lemma null_notMem_padded (width n : Nat) : '\x00' ∉ padded width n := by
  unfold padded
  rw [List.mem_append]
  rintro (h | h)
  · cases List.eq_of_mem_replicate h
  · exact null_notMem_toDigits n h

/-- Numbers of seconds have no null characters. -/
lemma nullFree_seconds (secs nanos : Nat) : NullFree (seconds secs nanos) := by
  unfold NullFree seconds Double.toText
  dsimp only
  split
  · decide
  · split
    · rw [String.toList_ofList, List.mem_append]
      rintro (h | h)
      · exact null_notMem_toDigits _ h
      · cases List.eq_of_mem_replicate h
    · rw [String.toList_ofList]
      exact null_notMem_positional (null_notMem_toDigits _) (null_notMem_padded _ _)

end Text

namespace Environment

variable {env : Environment}

/-- A variable without null characters is added. -/
lemma isNullFree_insert (h : env.IsNullFree) {name value : String}
    (hname : NullFree name) (hvalue : NullFree value) :
    IsNullFree (NameMap.insert env name value) := by
  intro e he
  rcases NameMap.mem_insertEntry he with rfl | he
  · exact ⟨hname, hvalue⟩
  · exact h e he

lemma nullFree_groupName (i : Nat) : NullFree (groupName i) := by
  have hdigits : (groupName i).toList = 'G' :: Nat.toDigits 10 i := by
    simp [groupName, toString, Nat.repr]
  rw [NullFree, hdigits, List.mem_cons]
  rintro (h | h)
  · cases h
  · exact null_notMem_toDigits i h

/-- A port has no null characters that are not in the address. -/
lemma nullFree_portOf {rtspAddress : String} (h : NullFree rtspAddress) :
    NullFree (portOf rtspAddress) := by
  unfold portOf NullFree
  dsimp only
  split
  · rw [String.toList_ofList]
    intro hmem
    exact h (List.mem_reverse.1 ((List.takeWhile_sublist _).subset (List.mem_reverse.1 hmem)))
  · decide

/-- **The base environment.** -/
lemma isNullFree_base {path rtspAddress : String} {captures : List String}
    (hpath : NullFree path) (haddress : NullFree rtspAddress)
    (hcaptures : ∀ c ∈ captures, NullFree c) :
    IsNullFree (base path rtspAddress captures) := by
  have hgroups : ∀ (cs : List (String × Nat)) (env : Environment), (∀ c ∈ cs, NullFree c.1) →
      env.IsNullFree →
        IsNullFree (cs.foldl (fun env c => NameMap.insert env (groupName c.2) c.1) env) := by
    intro cs
    induction cs with
    | nil => exact fun _ _ henv => henv
    | cons c rest ih =>
      intro env hcs henv
      obtain ⟨hc, hrest⟩ := List.forall_mem_cons.1 hcs
      exact ih _ hrest (isNullFree_insert henv (nullFree_groupName c.2) hc)
  refine hgroups _ _ (fun c hc => hcaptures c.1 ?_) ?_
  · exact List.fst_mem_of_mem_zipIdx (List.mem_of_mem_drop hc)
  · have hempty : IsNullFree (NameMap.empty : Environment) := by decide
    exact isNullFree_insert (isNullFree_insert (isNullFree_insert hempty (by decide) hpath)
      (by decide) hpath) (by decide) (nullFree_portOf haddress)

end Environment

open Environment in
/-- **All environments** are without null characters, if the texts that were brought in are. -/
lemma HookStep.isNullFree {base env : Environment} {s : HookStep}
    (hbase : base.IsNullFree) (hs : ∀ text ∈ s.texts, NullFree text)
    (h : s.environment? base = some env) : env.IsNullFree := by
  cases s with
  | tearDown | sleep => cases h
  | init =>
    cases h
    exact hbase
  | demand query =>
    cases h
    exact isNullFree_insert hbase (by decide) (hs _ List.mem_cons_self)
  | ready source query =>
    cases h
    have hquery : (base.forDemand query).IsNullFree :=
      isNullFree_insert hbase (by decide) (hs _ List.mem_cons_self)
    cases source with
    | none => exact hquery
    | some d =>
      exact isNullFree_insert (isNullFree_insert hquery (by decide)
        (hs d.kind (by simp [texts]))) (by decide) (hs d.id (by simp [texts]))
  | segmentCreate segment =>
    cases h
    exact isNullFree_insert hbase (by decide) (hs _ List.mem_cons_self)
  | segmentComplete segment secs nanos =>
    cases h
    exact isNullFree_insert (isNullFree_insert hbase (by decide) (hs _ List.mem_cons_self))
      (by decide) (Text.nullFree_seconds secs nanos)

end LivePaths
