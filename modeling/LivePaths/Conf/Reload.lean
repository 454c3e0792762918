import LivePaths.Conf.Basic

set_option relaxedAutoImplicit false
set_option autoImplicit false

/-!
# Changes that a running path can absorb

A running path picks up some settings while it runs: its configuration's name and pattern, what it
records, and the tuning of its camera. Any other change needs a new path.

## Main definitions

* `Conf.absorb` — a configuration with the running settings of another one.
* `Conf.canHotReload` — whether a path can move from one configuration to another.
* `Conf.recordChanged` — whether the move starts another recording.

## Main results

* `Conf.canHotReload_self` — a path can always stay with its configuration.
* `Conf.hasOnDemandSource_of_canHotReload`, … — what runs on demand is never picked up.
-/

namespace LivePaths.Conf

/-- **Absorption**: `old` with those settings of `new` that a running path picks up. What is
recorded is picked up setting by setting. -/
def absorb (old new : Conf) : Conf :=
  { old with
    name := new.name
    pattern := new.pattern
    record :=
      { old.record with
        enabled := new.record.enabled
        path := new.record.path
        format := new.record.format
        partDuration := new.record.partDuration
        maxPartSize := new.record.maxPartSize
        segmentDuration := new.record.segmentDuration
        deleteAfter := new.record.deleteAfter }
    camera := { old.camera with tuning := new.camera.tuning } }

/-- **Hot reload**: a path can move from `old` to `new` while it runs if nothing differs but what
it picks up. -/
def canHotReload (old new : Conf) : Bool := old.absorb new = new

/-- What a path keeps when it moves: the source, whether it is on demand, and the commands. -/
theorem eq_of_canHotReload {old new : Conf} (h : old.canHotReload new = true) :
    new.source = old.source ∧ new.sourceOnDemand = old.sourceOnDemand ∧
      new.commands = old.commands := by
  have heq : old.absorb new = new := by simpa [canHotReload] using h
  exact ⟨(congrArg source heq).symm, (congrArg sourceOnDemand heq).symm,
    (congrArg commands heq).symm⟩

/-- A path can always stay with its configuration. -/
theorem canHotReload_self (c : Conf) : c.canHotReload c = true := by
  simp [canHotReload, absorb]

/-- Whether the source is static is never picked up. -/
theorem hasStaticSource_of_canHotReload {old new : Conf} (h : old.canHotReload new = true) :
    new.hasStaticSource = old.hasStaticSource := by
  simp [hasStaticSource, eq_of_canHotReload h]

/-- Whether the source runs on demand is never picked up. -/
theorem hasOnDemandSource_of_canHotReload {old new : Conf} (h : old.canHotReload new = true) :
    new.hasOnDemandSource = old.hasOnDemandSource := by
  simp [hasOnDemandSource, hasStaticSource_of_canHotReload h, eq_of_canHotReload h]

/-- Whether a command is launched on demand is never picked up. -/
theorem hasOnDemandLaunch_of_canHotReload {old new : Conf} (h : old.canHotReload new = true) :
    new.hasOnDemandLaunch = old.hasOnDemandLaunch := by
  simp [hasOnDemandLaunch, eq_of_canHotReload h]

/-- **Other recordings**: whether a setting of recordings differs. The settings are those that
`Conf.absorb` picks up, listed once more. -/
def recordChanged (old new : Conf) : Bool :=
  old.record.enabled ≠ new.record.enabled ||
    old.record.path ≠ new.record.path ||
    old.record.format ≠ new.record.format ||
    old.record.partDuration ≠ new.record.partDuration ||
    old.record.maxPartSize ≠ new.record.maxPartSize ||
    old.record.segmentDuration ≠ new.record.segmentDuration ||
    old.record.deleteAfter ≠ new.record.deleteAfter

end LivePaths.Conf
