import LivePaths.Proofs.Registry.Closing

set_option relaxedAutoImplicit false
set_option autoImplicit false

/-!
# The turnover of paths

A new set of configurations sorts the live paths by one rule: those that can move to what governs
them from now on stay, and all others leave. Staying is treated with the rule itself. Leaving is a
destruction, so that whoever used the path, its source and its commands are done with, in whatever
state the path is.

## Main results

* `Registry.Reachable.reload_follows_rule` — all live paths follow the rule, those that leave are
  dissolved, and the same set changes nothing.
-/

namespace LivePaths

namespace Registry

variable {r : Registry} {new : ConfSet}

/-- **Whoever leaves is dissolved**: what it holds is undone, and it is found under its number among
the paths that have ended. -/
lemma Reloaded.dissolves {Admits : ConfSet → Prop} {r' : Registry} (hr : r.Reloaded new r')
    (h : r.Reachable Admits) {name : String} {e : RegistryEntry} (he : r.live.get? name = some e)
    (hleaves : e.path.under r.settings.matching new = none) :
    ∃ q ∈ r'.past, q.id = e.path.id ∧ q.ended = true ∧ Path.Dissolves e.path q := by
  obtain ⟨halive, hpast, hid, hover, -⟩ := hr.leaves name e he hleaves
  have hlived : e.path.Lived := h.lived e.path (mem_paths.2 (.inr ⟨name, e, he, rfl⟩))
  exact ⟨e.path.destroy, hpast, hid, hover.ended, hlived.dissolves halive⟩

/-- **Reloading follows the rule**, whatever has happened before: all live paths follow it, each on
its own; all that those hold which leave is undone; and the same set again changes nothing at all.

**Proof sketch.** Registries at rest are sound, so that the decision from the names of changed
configurations agrees with the rule. All live paths are in states of lives, and the destruction of
such a path undoes all that it holds. -/
theorem Reachable.reload_follows_rule (h : r.Reachable ConfSet.HasValidNames)
    (hopen : r.closed = false) (hv : new.HasValidNames) :
    (∃ r', r.reload new = .ok r' ∧ r.Reloaded new r' ∧
      ∀ name e, r.live.get? name = some e → e.path.under r.settings.matching new = none →
        ∃ q ∈ r'.past, q.id = e.path.id ∧ q.ended = true ∧ Path.Dissolves e.path q) ∧
    r.reload r.confs = .ok r := by
  obtain ⟨r', heq, hreloaded, -⟩ := h.sound.reload_spec hopen hv
  exact ⟨⟨r', heq, hreloaded, fun _ _ he hleaves => hreloaded.dissolves h he hleaves⟩,
    h.sound.reload_confs hopen⟩

/-- Two cameras, to the second of which somebody publishes while somebody reads. -/
def busyDoor : Registry :=
  (start {} twoCameras .allowAll none).run
    [.request 0 { name := "door", publish := true }
        (.publish ⟨0, ⟨"rtspSession", "a"⟩⟩ ⟨[⟨.video, "H264"⟩]⟩ false none),
      .request 1 { name := "door" } (.read ⟨1, ⟨"rtspSession", "b"⟩⟩)]

/-- The first camera is not recorded any more, and the second one has given way to a third. -/
def camAndGate : ConfSet := .ofList [{ name := "cam" }, { name := "gate" }]

/-- What there is to see of a path: its number, whether it has ended, and whom it has closed. -/
def farewells (p : Path) : Nat × Bool × List PathEvent :=
  (p.id, p.ended, p.log.filter fun
    | .publisherClosed _ | .readerClosed _ => true
    | _ => false)

/-- The first camera keeps its path, the path of the second one ends and closes its publisher and
its reader, and the third one gets a new path. -/
theorem reload_cameras :
    busyDoor.Reachable ConfSet.HasValidNames ∧ busyDoor.closed = false ∧
      camAndGate.HasValidNames ∧
      (∃ r', busyDoor.reload camAndGate = .ok r' ∧ busyDoor.Reloaded camAndGate r' ∧
        (r'.liveId "cam", r'.liveId "door", r'.liveId "gate") = (some 1, none, some 3) ∧
        r'.past.map farewells = [(2, true, [.readerClosed ⟨1, ⟨"rtspSession", "b"⟩⟩,
          .publisherClosed ⟨0, ⟨"rtspSession", "a"⟩⟩])] ∧
        ∃ e, busyDoor.live.get? "door" = some e ∧ e.path.isReady = true ∧
          ∃ q ∈ r'.past, q.id = e.path.id ∧ q.ended = true ∧ Path.Dissolves e.path q) ∧
      busyDoor.reload twoCameras = .ok busyDoor := by
  have hreach : busyDoor.Reachable ConfSet.HasValidNames :=
    Reachable.run (.start (by decide : twoCameras.HasValidNames) {} .allowAll none)
      ⟨trivial, trivial, trivial⟩
  have hopen : busyDoor.closed = false := by cbv
  have hv : camAndGate.HasValidNames := by decide
  have hdoor : (busyDoor.live.get? "door").any (fun e => e.path.isReady = true ∧
      (e.path.under busyDoor.settings.matching camAndGate).isNone = true) = true := by cbv
  have hconfs : busyDoor.confs = twoCameras := by cbv
  have hresult : (busyDoor.reload camAndGate).toOption.map (fun r' =>
      ((r'.liveId "cam", r'.liveId "door", r'.liveId "gate"), r'.past.map farewells)) =
      some ((some 1, none, some 3), [(2, true, [.readerClosed ⟨1, ⟨"rtspSession", "b"⟩⟩,
        .publisherClosed ⟨0, ⟨"rtspSession", "a"⟩⟩])]) := by cbv
  obtain ⟨⟨r', heq, hreloaded, hleaves⟩, hsame⟩ := hreach.reload_follows_rule hopen hv
  rw [hconfs] at hsame
  rw [heq] at hresult
  obtain ⟨hids, hpast⟩ := Prod.mk.inj (Option.some.inj hresult)
  obtain ⟨e, he, hdoor⟩ := (Option.any_eq_true _ _).1 hdoor
  obtain ⟨hready, hnone⟩ := of_decide_eq_true hdoor
  exact ⟨hreach, hopen, hv, ⟨r', heq, hreloaded, hids, hpast, e, he, hready,
    hleaves "door" e he (Option.isNone_iff_eq_none.1 hnone)⟩, hsame⟩

end Registry

end LivePaths
