import Mathlib
import LivePaths.Access.Users

set_option relaxedAutoImplicit false
set_option autoImplicit false

/-!
# Decisions by a list of users

A list of users decides a request by the permissions of those users who may be the client. Which
paths a permission extends to is said without the search through the list, and so is what a decision
depends on. All this holds for whatever way to match expressions with names.

## Main definitions

* `Matching.Matches` — texts that a well-formed expression matches.
* `Permission.ExtendsTo`, `User.Permits` — what users may do.
* `Includes`, `Rearranged` — lists with at least the permissions of another one, and lists in
  another order.
* `Authenticator.DecidesBy` — all that a decision depends on.

## Main results

* `Permission.covers_iff`, `User.grants_iff` — what the search looks for.
* `Authenticator.ofUsers_of_includes` — who may do something with some permissions may do it with
  more.
* `Authenticator.decidesBy_permissions` — the decision of every list of users.
* `Authenticator.denied_tildeCamera` — a name that is written in a permission may be denied.
-/

namespace LivePaths

/-! ## Permissions -/

/-- **Matching**: an expression is well formed and matches somewhere in a text. -/
def Matching.Matches (m : Matching) (expression text : String) : Prop :=
  ∃ p, m.compile? expression = some p ∧ m.isMatch p text = true

/-- Matching by programs can be tried out. -/
lemma Matching.engine_matches_iff (expression text : String) :
    Matching.engine.Matches expression text ↔
      (Pattern.program? expression).any (fun program => (program.captures text).isSome) = true := by
  unfold Matching.Matches Matching.engine Matching.isMatch Pattern.compile?
  dsimp only
  split
  · next program hprogram => simp [hprogram, Pattern.captures?]
  · next hnone => simp [hnone]

/-- Expressions without a program are malformed. -/
lemma Matching.engine_compile?_eq_none_iff {expression : String} :
    Matching.engine.compile? expression = none ↔ Pattern.program? expression = none := by
  unfold Matching.engine Pattern.compile?
  dsimp only
  split
  · next program hprogram => simp [hprogram]
  · next hnone => simp [hnone]

variable {m : Matching}

/-- **The paths of a permission**: all of them, the one that is written in it, if this is no
expression, or those that its expression matches. -/
def Permission.ExtendsTo (m : Matching) (p : Permission) (path : String) : Prop :=
  p.path = none ∨ (p.path = some path ∧ path.toList.head? ≠ some '~') ∨
    ∃ expression, p.path = some ("~" ++ expression) ∧ m.Matches expression path

/-- A text that begins with a tilde is a tilde and the rest. -/
lemma eq_tilde_append {text : String} {cs : List Char} (h : text.toList = '~' :: cs) :
    text = "~" ++ .ofList cs := by
  rw [← String.toList_inj, h]
  simp

/-- **The search** finds whether a permission extends to a path. -/
lemma Permission.covers_iff (p : Permission) (path : String) :
    p.covers m path = true ↔ p.ExtendsTo m path := by
  unfold Permission.covers Permission.ExtendsTo
  cases p.path with
  | none => simp
  | some text =>
    simp only [reduceCtorEq, Option.some.injEq, false_or]
    split
    · next expression htext =>
      obtain rfl := eq_tilde_append htext
      -- a permission with an expression names no path
      have hnamed : ¬ ("~" ++ String.ofList expression = path ∧ path.toList.head? ≠ some '~') := by
        rintro ⟨rfl, hhead⟩
        exact hhead (by simp)
      rw [or_iff_right hnamed]
      constructor
      · intro h
        split at h
        · next pattern hpattern => exact ⟨_, rfl, pattern, hpattern, h⟩
        · cases h
      · rintro ⟨expression', heq, pattern, hpattern, hmatch⟩
        obtain rfl : String.ofList expression = expression' := by simpa using heq
        rw [hpattern]
        exact hmatch
    · next hplain =>
      have hhead : text.toList.head? ≠ some '~' := by
        intro h
        obtain ⟨cs, hcs⟩ := List.head?_eq_some_iff.1 h
        exact hplain cs hcs
      have hexpression : ¬ ∃ expression, text = "~" ++ expression ∧
          m.Matches expression path := by
        rintro ⟨expression, rfl, -⟩
        exact hhead (by simp)
      rw [or_iff_left hexpression, decide_eq_true_iff]
      exact ⟨fun h => ⟨h, h ▸ hhead⟩, And.left⟩

/-- A permission with a malformed expression extends to no path. -/
lemma Permission.not_extendsTo_of_malformed {p : Permission} {expression : String}
    (hp : p.path = some ("~" ++ expression)) (hbad : m.compile? expression = none)
    (path : String) : ¬ p.ExtendsTo m path := by
  rintro (hall | ⟨hnamed, hplain⟩ | ⟨expression', hexpression, pattern, hpattern, -⟩)
  · simp [hp] at hall
  · obtain rfl : "~" ++ expression = path := by simpa [hp] using hnamed
    exact hplain (by simp)
  · obtain rfl : expression = expression' := by simpa [hp] using hexpression
    simp [hbad] at hpattern

/-! ## Users -/

/-- **What a user permits**: the entry stands for all clients, or has the user and the password of
the client, and one of its permissions is for this action and extends to the path. -/
def User.Permits (m : Matching) (u : User) (r : AuthRequest) : Prop :=
  (u.name = User.anyone ∨ u.name = r.credentials.user ∧ u.pass = r.credentials.pass) ∧
    ∃ p ∈ u.permissions, p.action = r.action ∧ p.ExtendsTo m r.path

lemma User.grants_iff (u : User) (r : AuthRequest) : u.grants m r = true ↔ u.Permits m r := by
  simp only [User.grants, User.isClient, User.Permits, Permission.allows, Bool.and_eq_true,
    Bool.or_eq_true, decide_eq_true_iff, List.any_eq_true, Permission.covers_iff]

/-- Whom a wrong password belongs to permits nothing, unless the entry stands for all clients. -/
lemma User.not_permits_of_pass {u : User} {r : AuthRequest} (hname : u.name ≠ User.anyone)
    (hpass : r.credentials.pass ≠ u.pass) : ¬ u.Permits m r := by
  rintro ⟨hany | ⟨-, heq⟩, -⟩
  · exact hname hany
  · exact hpass heq.symm

/-! ## Lists of users -/

/-- **At least the permissions** of another list: every user of this list is there, with the same
password and all permissions, wherever others were added. -/
def Includes (users more : List User) : Prop :=
  ∀ u ∈ users, ∃ v ∈ more, v.name = u.name ∧ v.pass = u.pass ∧ u.permissions ⊆ v.permissions

/-- **Another order** of users and of the permissions of each of them. -/
def Rearranged (users users' : List User) : Prop :=
  ∃ between, List.Forall₂ (fun u v => v.name = u.name ∧ v.pass = u.pass ∧
      u.permissions.Perm v.permissions) users between ∧ between.Perm users'

/-- Whoever is in one of two lists whose members are related pairwise has a partner in the other
one. -/
lemma exists_partner {α β : Type} {R : α → β → Prop} {l : List α} {l' : List β}
    (h : List.Forall₂ R l l') : ∀ a ∈ l, ∃ b ∈ l', R a b := by
  induction h with
  | nil => simp
  | cons hr _ ih =>
    intro a ha
    rcases List.mem_cons.1 ha with rfl | ha
    · exact ⟨_, List.mem_cons_self, hr⟩
    · obtain ⟨b, hb, hr⟩ := ih a ha
      exact ⟨b, List.mem_cons_of_mem _ hb, hr⟩

/-- In another order there are the same permissions. -/
lemma Rearranged.includes {users users' : List User} (h : Rearranged users users') :
    Includes users users' ∧ Includes users' users := by
  obtain ⟨between, hsame, hp⟩ := h
  constructor
  · intro u hu
    obtain ⟨v, hv, hname, hpass, hpermissions⟩ := exists_partner hsame u hu
    exact ⟨v, hp.subset hv, hname, hpass, hpermissions.subset⟩
  · intro v hv
    obtain ⟨u, hu, hname, hpass, hpermissions⟩ := exists_partner hsame.flip v (hp.symm.subset hv)
    exact ⟨u, hu, hname.symm, hpass.symm, hpermissions.symm.subset⟩

/-- With at least the permissions somebody may do at least as much. -/
lemma Includes.permits {users more : List User} {r : AuthRequest} (h : Includes users more)
    (hu : ∃ u ∈ users, u.Permits m r) : ∃ v ∈ more, v.Permits m r := by
  obtain ⟨u, hmem, hclient, p, hp, hallowed⟩ := hu
  obtain ⟨v, hv, hname, hpass, hsub⟩ := h u hmem
  exact ⟨v, hv, by rwa [hname, hpass], p, hsub hp, hallowed⟩

namespace Authenticator

variable {users more : List User} {r : AuthRequest}

/-- **A list decides** by what its users permit. -/
lemma ofUsers_eq_ok_iff : ofUsers m users r = .ok () ↔ ∃ u ∈ users, u.Permits m r := by
  unfold ofUsers
  simp only [← User.grants_iff, ← List.any_eq_true]
  split <;> simp_all

/-- There is one way to be denied. -/
lemma ofUsers_of_ne (h : ofUsers m users r ≠ .ok ()) :
    ofUsers m users r = .error (.denied r.credentials.user r.path) := by
  unfold ofUsers at h ⊢
  split
  · next hgrants => exact absurd (if_pos hgrants) h
  · rfl

/-- Lists that permit the same decide alike. -/
lemma ofUsers_congr (h : (∃ u ∈ users, u.Permits m r) ↔ ∃ u ∈ more, u.Permits m r) :
    ofUsers m users r = ofUsers m more r := by
  rw [← ofUsers_eq_ok_iff, ← ofUsers_eq_ok_iff] at h
  by_cases hok : ofUsers m users r = .ok ()
  · rw [hok, h.1 hok]
  · rw [ofUsers_of_ne hok, ofUsers_of_ne (mt h.2 hok)]

/-- **More permissions revoke nothing.** -/
lemma ofUsers_of_includes (h : Includes users more) (hok : ofUsers m users r = .ok ()) :
    ofUsers m more r = .ok () :=
  ofUsers_eq_ok_iff.2 (h.permits (ofUsers_eq_ok_iff.1 hok))

/-- Whoever permits nothing may as well be missing. -/
lemma ofUsers_drop {before after : List User} {u : User} (hu : ¬ u.Permits m r) :
    ofUsers m (before ++ u :: after) r = ofUsers m (before ++ after) r := by
  refine ofUsers_congr ?_
  simp only [List.mem_append, List.mem_cons, or_and_right, exists_or, exists_eq_left, hu, false_or]

/-- A permission with a malformed expression may as well be missing. -/
lemma ofUsers_drop_permission {before after : List User} {u : User} {ps qs : List Permission}
    {p : Permission} {expression : String} (hp : p.path = some ("~" ++ expression))
    (hbad : m.compile? expression = none) :
    ofUsers m (before ++ { u with permissions := ps ++ p :: qs } :: after) r =
      ofUsers m (before ++ { u with permissions := ps ++ qs } :: after) r := by
  have hnot := Permission.not_extendsTo_of_malformed hp hbad r.path
  refine ofUsers_congr ?_
  simp only [List.mem_append, List.mem_cons, or_and_right, exists_or, exists_eq_left, User.Permits,
    hnot, and_false, false_or]

/-! ## Decisions -/

/-- **Decision**: who is granted a request, what the others are told, and what the decision does not
depend on. -/
structure DecidesBy (m : Matching) (users : List User) (r : AuthRequest) : Prop where
  /-- The request is granted if some user permits it. -/
  granted_iff : ofUsers m users r = .ok () ↔ ∃ u ∈ users, u.Permits m r
  /-- Else it is denied, to this user for this path. -/
  denied_iff : ofUsers m users r = .error (.denied r.credentials.user r.path) ↔
    ¬ ∃ u ∈ users, u.Permits m r
  /-- Query, address and protocol do not matter. -/
  irrelevant : ∀ query address protocol,
    ofUsers m users { r with query, address, protocol } = ofUsers m users r
  /-- The order of the users and of their permissions does not matter. -/
  order : ∀ users', Rearranged users users' → ofUsers m users' r = ofUsers m users r
  /-- Further users and permissions revoke nothing. -/
  grows : ∀ more, Includes users more → ofUsers m users r = .ok () → ofUsers m more r = .ok ()
  /-- A permission with a malformed expression grants nothing. -/
  malformed : ∀ (before after : List User) (u : User) (ps qs : List Permission) (p : Permission)
      (expression : String),
    users = before ++ { u with permissions := ps ++ p :: qs } :: after →
      p.path = some ("~" ++ expression) → m.compile? expression = none →
        ofUsers m users r = ofUsers m (before ++ { u with permissions := ps ++ qs } :: after) r
  /-- With another password nothing is gained from a user, unless it stands for all clients. -/
  password : ∀ before u after, users = before ++ u :: after → u.name ≠ User.anyone →
    r.credentials.pass ≠ u.pass → ofUsers m users r = ofUsers m (before ++ after) r

/-- **Lists decide by permissions**: every list of users grants every request that one of its users
permits and denies all others, and depends on nothing else.

**Proof sketch.** The search through the list finds a user that permits the request
(`Authenticator.ofUsers_eq_ok_iff`). Whether there is one depends on what users and permissions are
in the list only, neither on their order nor on those that permit nothing. -/
theorem decidesBy_permissions (m : Matching) (users : List User) (r : AuthRequest) :
    DecidesBy m users r where
  granted_iff := ofUsers_eq_ok_iff
  denied_iff := by
    rw [← ofUsers_eq_ok_iff]
    constructor
    · intro hdenied hok
      rw [hok] at hdenied
      cases hdenied
    · exact ofUsers_of_ne
  irrelevant _ _ _ := rfl
  order _ h := ofUsers_congr ⟨h.includes.2.permits, h.includes.1.permits⟩
  grows _ h := ofUsers_of_includes h
  malformed := by
    rintro before after u ps qs p expression rfl hp hbad
    exact ofUsers_drop_permission hp hbad
  password := by
    rintro before u after rfl hname hpass
    exact ofUsers_drop (User.not_permits_of_pass hname hpass)

/-- A cameraman may publish to cameras. -/
def cameraman : User where
  name := "pub"
  pass := "secret"
  permissions := [{ action := .publish, path := some "~^cam" }]

/-- Everybody may read; the cameraman has a permission too many. -/
def station : List User :=
  [{ name := User.anyone, permissions := [{ action := .read }] },
    { cameraman with
      permissions := { action := .publish, path := some "~(" } :: cameraman.permissions }]

/-- A client that wants to publish. -/
def publishing (path pass : String) : AuthRequest where
  action := .publish
  path := path
  credentials := { user := "pub", pass }

/-- The cameraman may publish to a camera, also if the users are in another order, there are more of
them, or the malformed expression is missing, but not with another password. -/
theorem decidesBy_station :
    ofUsers .engine station (publishing "cam1" "secret") = .ok () ∧
      ofUsers .engine station.reverse (publishing "cam1" "secret") = .ok () ∧
      ofUsers .engine (station ++ [{ name := "late" }]) (publishing "cam1" "secret") = .ok () ∧
      ofUsers .engine (station.take 1 ++ [cameraman]) (publishing "cam1" "secret") = .ok () ∧
      ofUsers .engine station (publishing "cam1" "guess") = .error (.denied "pub" "cam1") := by
  have hdecides := decidesBy_permissions .engine station
  have hcamera : ofUsers .engine station (publishing "cam1" "secret") = .ok () := by
    refine (hdecides _).granted_iff.2 ⟨_, List.mem_cons_of_mem _ List.mem_cons_self,
      .inr ⟨rfl, rfl⟩, _, List.mem_cons_of_mem _ List.mem_cons_self, rfl, .inr (.inr ⟨"^cam", ?_⟩)⟩
    exact ⟨by decide, (Matching.engine_matches_iff _ _).2 (by cbv)⟩
  refine ⟨hcamera, ?_, ?_, ?_, ?_⟩
  · rw [(hdecides _).order _ ⟨station, ?_, station.reverse_perm.symm⟩, hcamera]
    exact List.forall₂_same.2 fun u _ => ⟨rfl, rfl, .refl _⟩
  · exact (hdecides _).grows _
      (fun u hu => ⟨u, List.mem_append_left _ hu, rfl, rfl, List.Subset.refl _⟩) hcamera
  · rw [← hcamera]
    exact ((hdecides _).malformed (station.take 1) [] cameraman [] cameraman.permissions
      { action := .publish, path := some "~(" } "(" rfl (by decide)
      (Matching.engine_compile?_eq_none_iff.2 (by cbv))).symm
  · rw [(hdecides _).password (station.take 1) _ [] rfl (by decide) (by decide)]
    rfl

/-- Everybody may read what is called like an expression. -/
def tildeReader : User where
  name := "any"
  permissions := [{ action := .read, path := some "~^cam$" }]

/-- A client that wants to read just that. -/
def tildeRequest : AuthRequest where
  path := "~^cam$"

/-- **A named expression is denied**: everybody may read `~^cam$`, and it is this that the client
asks for, but what begins with a tilde is an expression, and the expression does not match. -/
theorem denied_tildeCamera :
    ∃ (users : List User) (r : AuthRequest),
      (∃ u ∈ users,
        (u.name = User.anyone ∨ u.name = r.credentials.user ∧ u.pass = r.credentials.pass) ∧
          ∃ p ∈ u.permissions, p.action = r.action ∧
            (p.path = none ∨ p.path = some r.path ∨ ∃ expression,
              p.path = some ("~" ++ expression) ∧ Matching.engine.Matches expression r.path)) ∧
        ofUsers .engine users r = .error (.denied "" "~^cam$") := by
  have hmatches : ¬ Matching.engine.Matches "^cam$" "~^cam$" := by
    rw [Matching.engine_matches_iff, Bool.not_eq_true]
    cbv
  have hdenied : ¬ ∃ u ∈ [tildeReader], u.Permits .engine tildeRequest := by
    rintro ⟨u, hu, -, p, hp, -, hextends⟩
    obtain rfl := List.mem_singleton.1 hu
    obtain rfl := List.mem_singleton.1 hp
    rcases hextends with hall | ⟨-, hplain⟩ | ⟨expression, hexpression, hmatches'⟩
    · cases hall
    · exact hplain (by decide)
    · obtain rfl : "^cam$" = expression :=
        (String.append_right_inj "~").1 (Option.some.inj hexpression)
      exact hmatches hmatches'
  exact ⟨[tildeReader], tildeRequest,
    ⟨_, List.mem_singleton_self _, .inl rfl, _, List.mem_singleton_self _, rfl, .inr (.inl rfl)⟩,
    (decidesBy_permissions .engine [tildeReader] tildeRequest).denied_iff.2 hdenied⟩

end Authenticator

end LivePaths
