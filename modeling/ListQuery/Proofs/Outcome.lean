import Mathlib.Data.List.Forall2

/-!
# Steps that may fail, one for each element of a list

* `mapM_eq_ok_iff` — all of the steps succeed, each with its own result.
* `mapM_eq_error_iff` — the first step that fails decides the error.
* `exists_right_of_mem`, `exists_right_of_getElem?`, `exists_forall₂` — where two lists are related,
  each element has a partner, which is found at its own place; and where each element could have
  one, there is a list of partners.
* `getElem?_eq_of_results` — what a step gives is decided by its own element.
* `mapM_eq_ok_iff_map` — where a result is written down from something that is found, the results
  are written down from what is found for all elements.
* `mapM_together` — two kinds of steps that succeed and fail together do so on whole lists, and
  both stop at the same element with the same error.
* `findSome?_reverse_eq_some_iff` — of steps that may have no result, the last one that has.
-/

set_option autoImplicit false
namespace ListQuery

variable {ε α β : Type} {f : α → Except ε β} {xs : List α} {ys : List β}

theorem map_eq_ok_iff {outcome : Except ε α} {g : α → β} {y : β} :
    outcome.map g = .ok y ↔ ∃ x, outcome = .ok x ∧ y = g x := by
  cases outcome with
  | error e => exact ⟨nofun, nofun⟩
  | ok x =>
    constructor
    · intro h
      cases h
      exact ⟨x, rfl, rfl⟩
    · rintro ⟨_, hx, rfl⟩
      cases hx
      rfl

theorem map_eq_error_iff {outcome : Except ε α} {g : α → β} {e : ε} :
    outcome.map g = .error e ↔ outcome = .error e := by
  cases outcome with
  | error e' => rw [Except.map, Except.error.injEq, Except.error.injEq]
  | ok x => exact ⟨nofun, nofun⟩

theorem exists_eq_ok {outcome : Except ε α} (h : outcome.isOk = true) : ∃ x, outcome = .ok x := by
  cases outcome with
  | error e => cases h
  | ok x => exact ⟨x, rfl⟩

/-- What is known of every result holds of the one that there is. -/
theorem of_eq_ok {outcome : Except ε α} {known : α → Prop} {e : ε}
    (h : (∃ x, outcome = .ok x ∧ known x) ∨ outcome = .error e) {x : α} (hx : outcome = .ok x) :
    known x := by
  subst hx
  obtain ⟨y, hy, hknown⟩ | he := h
  · rwa [Except.ok.inj hy]
  · cases he

theorem exists_of_bind_eq_ok {outcome : Except ε α} {g : α → Except ε β} {y : β}
    (h : outcome >>= g = .ok y) : ∃ x, outcome = .ok x ∧ g x = .ok y := by
  cases outcome with
  | error e => cases h
  | ok x => exact ⟨x, rfl, h⟩

theorem mapM_eq_ok_iff :
    xs.mapM f = .ok ys ↔ List.Forall₂ (fun x y => f x = .ok y) xs ys := by
  induction xs generalizing ys with
  | nil => simp [pure, Except.pure, eq_comm]
  | cons x xs ih =>
    rw [List.mapM_cons, List.forall₂_cons_left_iff]
    cases hx : f x with
    | error e => simp [bind, Except.bind]
    | ok y =>
      cases hxs : xs.mapM f with
      | error e =>
        rw [hxs] at ih
        simp [bind, Except.bind, ← ih]
      | ok zs =>
        rw [hxs] at ih
        simp [bind, Except.bind, pure, Except.pure, ← ih, eq_comm]

theorem exists_right_of_mem {found : α → β → Prop} (h : List.Forall₂ found xs ys) {x : α}
    (hx : x ∈ xs) : ∃ y ∈ ys, found x y := by
  induction h with
  | nil => cases hx
  | @cons z y zs ys hz _ ih =>
    obtain rfl | hx := List.mem_cons.1 hx
    · exact ⟨y, List.mem_cons_self, hz⟩
    · obtain ⟨w, hw, hxw⟩ := ih hx
      exact ⟨w, List.mem_cons_of_mem y hw, hxw⟩

theorem exists_forall₂ {found : α → β → Prop} (h : ∀ x ∈ xs, ∃ y, found x y) :
    ∃ ys, List.Forall₂ found xs ys := by
  induction xs with
  | nil => exact ⟨[], .nil⟩
  | cons x xs ih =>
    obtain ⟨y, hy⟩ := h x List.mem_cons_self
    obtain ⟨ys, hys⟩ := ih fun z hz => h z (List.mem_cons_of_mem x hz)
    exact ⟨y :: ys, .cons hy hys⟩

theorem rel_getElem? {found : α → β → Prop} (h : List.Forall₂ found xs ys) (i : Nat) :
    Option.Rel found xs[i]? ys[i]? := by
  induction h generalizing i with
  | nil => exact .none
  | cons hxy _ ih =>
    cases i with
    | zero => exact .some hxy
    | succ i => exact ih i

/-- An element has a partner at its own place. -/
theorem exists_right_of_getElem? {found : α → β → Prop} (h : List.Forall₂ found xs ys) {i : Nat}
    {x : α} (hx : xs[i]? = some x) : ∃ y, ys[i]? = some y ∧ found x y := by
  have hrel := rel_getElem? h i
  rw [hx] at hrel
  generalize ys[i]? = partner at hrel
  cases hrel with
  | some hxy => exact ⟨_, rfl, hxy⟩

/-- What a step gives is decided by its own element, whatever the others are. -/
theorem getElem?_eq_of_results {xs' : List α} {ys' : List β}
    (h : List.Forall₂ (fun x y => f x = .ok y) xs ys)
    (h' : List.Forall₂ (fun x y => f x = .ok y) xs' ys') {i : Nat} (hi : xs[i]? = xs'[i]?) :
    ys[i]? = ys'[i]? := by
  have hrel := rel_getElem? h i
  have hrel' := rel_getElem? h' i
  rw [← hi] at hrel'
  generalize xs[i]? = x, ys[i]? = y, ys'[i]? = y' at hrel hrel'
  cases hrel with
  | none =>
    cases hrel'
    rfl
  | some hx =>
    obtain ⟨hx'⟩ := hrel'
    rw [hx, Except.ok.injEq] at hx'
    rw [hx']

/-- Each step succeeds by finding something, from which its result is written down. -/
theorem mapM_eq_ok_iff_map {ρ : Type} {found : α → ρ → Prop} {result : ρ → β}
    (h : ∀ x ∈ xs, ∀ y, f x = .ok y ↔ ∃ r, found x r ∧ y = result r) :
    xs.mapM f = .ok ys ↔ ∃ rs, List.Forall₂ found xs rs ∧ ys = rs.map result := by
  rw [mapM_eq_ok_iff]
  constructor
  · intro hall
    induction hall with
    | nil => exact ⟨[], .nil, rfl⟩
    | @cons x y xs ys hx _ ih =>
      obtain ⟨r, hr, rfl⟩ := (h x List.mem_cons_self y).1 hx
      obtain ⟨rs, hrs, rfl⟩ := ih fun z hz => h z (List.mem_cons_of_mem x hz)
      exact ⟨r :: rs, .cons hr hrs, rfl⟩
  · rintro ⟨rs, hrs, rfl⟩
    induction hrs with
    | nil => exact .nil
    | @cons x r xs rs hr _ ih =>
      refine .cons ((h x List.mem_cons_self _).2 ⟨r, hr, rfl⟩) ?_
      exact ih fun z hz => h z (List.mem_cons_of_mem x hz)

theorem mapM_cons_of_ok {x : α} {y : β} (h : f x = .ok y) (xs : List α) :
    (x :: xs).mapM f = (xs.mapM f).map (y :: ·) := by
  rw [List.mapM_cons, h]
  show (xs.mapM f).bind (fun ys => .ok (y :: ys)) = _
  cases xs.mapM f <;> rfl

theorem mapM_cons_of_error {x : α} {e : ε} (h : f x = .error e) (xs : List α) :
    (x :: xs).mapM f = .error e := by
  rw [List.mapM_cons, h]
  rfl

theorem mapM_eq_error_iff {e : ε} :
    xs.mapM f = .error e ↔
      ∃ before x after, xs = before ++ x :: after ∧ (∀ y ∈ before, ∃ z, f y = .ok z) ∧
        f x = .error e := by
  induction xs with
  | nil => exact ⟨nofun, by rintro ⟨before, x, after, hxs, -⟩; simp at hxs⟩
  | cons x xs ih =>
    cases hx : f x with
    | error e' =>
      rw [mapM_cons_of_error hx]
      constructor
      · rintro ⟨⟩
        exact ⟨[], x, xs, rfl, nofun, hx⟩
      · rintro ⟨before, y, after, hxs, hbefore, hy⟩
        -- The first step has failed, so there is none before it.
        cases before with
        | nil =>
          cases hxs
          rw [hx, Except.error.injEq] at hy
          rw [hy]
        | cons z before =>
          cases hxs
          obtain ⟨w, hw⟩ := hbefore x List.mem_cons_self
          rw [hx] at hw
          cases hw
    | ok y =>
      rw [mapM_cons_of_ok hx, map_eq_error_iff, ih]
      constructor
      · rintro ⟨before, z, after, rfl, hbefore, hz⟩
        refine ⟨x :: before, z, after, rfl, ?_, hz⟩
        rintro w (_ | ⟨_, hw⟩)
        · exact ⟨y, hx⟩
        · exact hbefore w hw
      · rintro ⟨before, z, after, hxs, hbefore, hz⟩
        cases before with
        | nil =>
          cases hxs
          rw [hx] at hz
          cases hz
        | cons w before =>
          cases hxs
          exact ⟨before, z, after, rfl, fun v hv => hbefore v (List.mem_cons_of_mem _ hv), hz⟩

/-- Two kinds of steps succeed together, with results that belong together, or fail together, with
the same error.  Then so do the runs of these steps over a list: there are results for all elements,
or both runs end at the first element that has none. -/
theorem mapM_together {γ ρ : Type} {g : α → Except ε γ} {origin : ρ → α} {left : ρ → β}
    {right : ρ → γ}
    (h : ∀ x ∈ xs, (∃ r, origin r = x ∧ f x = .ok (left r) ∧ g x = .ok (right r)) ∨
      ∃ e, f x = .error e ∧ g x = .error e) :
    (∃ rs : List ρ, rs.map origin = xs ∧ xs.mapM f = .ok (rs.map left) ∧
        xs.mapM g = .ok (rs.map right)) ∨
      ∃ before x after e, xs = before ++ x :: after ∧ (∀ y ∈ before, ∃ z, f y = .ok z) ∧
        f x = .error e ∧ xs.mapM f = .error e ∧ xs.mapM g = .error e := by
  induction xs with
  | nil => exact Or.inl ⟨[], rfl, rfl, rfl⟩
  | cons x xs ih =>
    obtain ⟨r, hr, hf, hg⟩ | ⟨e, hf, hg⟩ := h x List.mem_cons_self
    · rw [mapM_cons_of_ok hf, mapM_cons_of_ok hg]
      obtain ⟨rs, hrs, hfs, hgs⟩ | ⟨before, y, after, e, hxs, hbefore, hy, hfs, hgs⟩ :=
        ih fun y hy => h y (List.mem_cons_of_mem x hy)
      · refine Or.inl ⟨r :: rs, ?_, ?_, ?_⟩
        · rw [List.map_cons, hr, hrs]
        · rw [hfs]
          rfl
        · rw [hgs]
          rfl
      · refine Or.inr ⟨x :: before, y, after, e, ?_, ?_, hy, ?_, ?_⟩
        · rw [hxs, List.cons_append]
        · rintro z (_ | ⟨_, hz⟩)
          · exact ⟨left r, hf⟩
          · exact hbefore z hz
        · rw [hfs]
          rfl
        · rw [hgs]
          rfl
    · exact Or.inr ⟨[], x, xs, e, rfl, nofun, hf, mapM_cons_of_error hf xs,
        mapM_cons_of_error hg xs⟩

/-- The last element for which `f` has a value, and its value. -/
theorem findSome?_reverse_eq_some_iff {f : α → Option β} {y : β} :
    xs.reverse.findSome? f = some y ↔
      ∃ before x after, xs = before ++ x :: after ∧ f x = some y ∧ ∀ z ∈ after, f z = none := by
  rw [List.findSome?_eq_some_iff]
  constructor
  · rintro ⟨later, x, earlier, hxs, hx, hlater⟩
    refine ⟨earlier.reverse, x, later.reverse, ?_, hx, fun z hz => hlater z (List.mem_reverse.1 hz)⟩
    rw [List.reverse_eq_append_iff] at hxs
    rw [hxs, List.reverse_cons, List.append_assoc, List.singleton_append]
  · rintro ⟨before, x, after, rfl, hx, hafter⟩
    refine ⟨after.reverse, x, before.reverse, ?_, hx, fun z hz => hafter z (List.mem_reverse.1 hz)⟩
    rw [List.reverse_append, List.reverse_cons, List.append_assoc, List.singleton_append]

end ListQuery
