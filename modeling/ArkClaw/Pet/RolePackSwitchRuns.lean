import ArkClaw.Pet.RolePackSwitch
import Mathlib.Data.List.Count

/-!
# Who owns the resources of a role pack

`Outcome` says once what an operation can do to the packs; that every resource has one holder, and that the old pack
is closed after the new one is published, is read off it. A resource is held by the active pack, by a prepared
candidate, or by its one close.
-/

namespace ArkClaw.Pet

open ArkClaw.Library

namespace RolePackCandidate

/-- The candidate still owns its resources. -/
def prepared (c : RolePackCandidate) : Bool := !(c.closed || c.transferred)

def held (resource : Nat) (c : RolePackCandidate) : Nat := if c.prepared then c.resources.count resource else 0

end RolePackCandidate

namespace RolePackSwitching

/-! ## Holders -/

/-- How often a resource is held: by the active pack, by prepared candidates, and by its closes. -/
def holders (s : RolePackSwitching) (resource : Nat) : Nat :=
  s.active.resources.count resource + (s.candidates.map (·.held resource)).sum + s.events.count (.closed resource)

/-- The active pack is open, and every resource that was built has exactly one holder. -/
structure Accounted (s : RolePackSwitching) : Prop where
  open_ : s.active.closed = false
  held : ∀ resource, s.holders resource = if resource < s.built then 1 else 0

/-- The coordinator as it starts on a pack of `n` resources. -/
def start (identity : ValidatedRolePackIdentity) (n : Nat) : RolePackSwitching where
  active := { identity, resources := List.range n }
  built := n

/-- Numbers in a row are counted once. -/
theorem count_range' (first n resource : Nat) :
    (List.range' first n).count resource = if first ≤ resource ∧ resource < first + n then 1 else 0 := by
  rw [List.Nodup.count (List.nodup_range' 1)]
  simp only [List.mem_range'_1]

theorem start_accounted (identity : ValidatedRolePackIdentity) (n : Nat) : (start identity n).Accounted := by
  refine ⟨rfl, fun resource => ?_⟩
  have hheld : (start identity n).holders resource = (List.range n).count resource := rfl
  rw [hheld, List.range_eq_range', count_range']
  exact if_congr (by simp [start]) rfl rfl

/-! ## What an operation does -/

/-- Resources are closed in their order. -/
def closing (s : RolePackSwitching) (resources : List Nat) : RolePackSwitching :=
  { s with events := s.events ++ resources.map .closed }

/-- What an operation can do to the packs. -/
inductive Outcome (s : RolePackSwitching) : RolePackSwitching → Prop where
  | unchanged : Outcome s s
  /-- A candidate that is spent was published all the same. -/
  | announced (candidate : Nat) : Outcome s { s with events := s.events ++ [.published candidate] }
  | partlyBuilt (n : Nat) :
      Outcome s ({ s with built := s.built + n }.closing (List.range' s.built n).reverse)
  | prepared (identity : ValidatedRolePackIdentity) (n : Nat) :
      Outcome s { s with
        built := s.built + n
        candidates := s.candidates ++ [{ identity, resources := List.range' s.built n }] }
  | discarded (candidate : Nat) (c : RolePackCandidate) (hc : s.candidates[candidate]? = some c)
      (hprepared : c.prepared = true) :
      Outcome s ({ s with candidates := s.candidates.set candidate { c with closed := true } }.closing
        c.resources.reverse)
  | switched (candidate : Nat) (c : RolePackCandidate) (hc : s.candidates[candidate]? = some c)
      (hprepared : c.prepared = true) :
      Outcome s { s with
        active := { identity := c.identity, resources := c.resources }
        candidates := s.candidates.set candidate { c with transferred := true }
        events := s.events ++ .published candidate ::
          if s.active.closed then [] else s.active.resources.reverse.map .closed }

section

variable {closeRaises : Nat → Bool} {s : RolePackSwitching}

/-- Whatever closing raises, every resource is closed. -/
theorem closeEach_spec (resources : List Nat) (s : RolePackSwitching) :
    Wp (closeEach closeRaises resources) (fun _ s' => s' = s.closing resources) (fun _ _ => False) s := by
  induction resources generalizing s with
  | nil =>
    show s = s.closing []
    simp [closing]
  | cons resource rest ih =>
    have hrest : Wp (closeEach closeRaises rest) (fun _ s' => s' = s.closing (resource :: rest)) (fun _ _ => False)
        (s.closing [resource]) := by
      refine (ih _).imp (fun _ s' h => ?_)
      simp [h, closing]
    simp only [closeEach, closeResource, record, wp_bind, wp_attempt, wp_modify]
    split
    next => exact wp_throw.mpr hrest
    next => exact hrest

/-- Builders make resources in a row, until one raises. -/
theorem build_spec (builders : List Bool) (resources : List Nat) (s : RolePackSwitching) :
    Wp (build builders resources)
      (fun made s' => ∃ n, s' = { s with built := s.built + n } ∧ made.1 = resources ++ List.range' s.built n)
      (fun _ _ => False) s := by
  induction builders generalizing resources s with
  | nil => exact ⟨0, rfl, by simp⟩
  | cons returns builders ih =>
    unfold build
    split
    next => exact ⟨0, rfl, by simp⟩
    next =>
      refine (ih _ _).imp (fun made s' h => ?_)
      obtain ⟨n, rfl, hmade⟩ := h
      refine ⟨n + 1, ?_, ?_⟩
      · simp only [Nat.add_assoc, Nat.add_comm 1 n]
      · rw [hmade]
        simp [List.range'_succ]

theorem wp_getCandidate (candidate : Nat) (Q : RolePackCandidate → RolePackSwitching → Prop)
    (R : PetError → RolePackSwitching → Prop) : Wp (getCandidate candidate) Q R s ↔
      (∀ c, s.candidates[candidate]? = some c → Q c s) ∧ (s.candidates[candidate]? = none → R .key s) := by
  simp only [getCandidate, wp_bind, wp_get]
  cases s.candidates[candidate]? <;> simp

theorem prepare_outcome (identity : ValidatedRolePackIdentity) (builders : List Bool) :
    Wp (prepare closeRaises identity builders) (fun _ => Outcome s) (fun _ => Outcome s) s := by
  refine wp_bind.mpr ((build_spec builders [] s).mono (fun made s' h => ?_) fun _ _ => False.elim)
  obtain ⟨resources, finished⟩ := made
  obtain ⟨n, rfl, hmade⟩ := h
  obtain rfl : resources = List.range' s.built n := by simpa using hmade
  dsimp only
  split
  next =>
    refine wp_bind.mpr ((closeEach_spec _ _).mono (fun _ s' h => ?_) fun _ _ => False.elim)
    rw [h]
    exact .partlyBuilt n
  next => exact .prepared identity n

/-- A candidate that is still prepared is discarded, and a spent one is left as it is. -/
theorem closeCandidate_spec (candidate : Nat) (s : RolePackSwitching) :
    Wp (closeCandidate closeRaises candidate)
      (fun _ s' => s' = s ∨ ∃ c, s.candidates[candidate]? = some c ∧ c.prepared = true
        ∧ s' = { s with candidates := s.candidates.set candidate { c with closed := true } }.closing c.resources.reverse)
      (fun _ s' => s' = s) s := by
  refine wp_bind.mpr ((wp_getCandidate _ _ _).mpr ⟨fun c hc => ?_, fun _ => rfl⟩)
  split
  next => exact .inl rfl
  next hprepared =>
    refine (closeEach_spec _ _).mono (fun _ s' h => .inr ⟨c, hc, ?_, h⟩) fun _ _ => False.elim
    simpa [RolePackCandidate.prepared] using hprepared

theorem closeCandidate_outcome (candidate : Nat) :
    Wp (closeCandidate closeRaises candidate) (fun _ s' => Outcome s s' ∧ s'.active = s.active)
      (fun _ s' => Outcome s s' ∧ s'.active = s.active) s := by
  refine (closeCandidate_spec candidate s).mono (fun _ s' h => ?_) fun _ s' h => ?_
  · obtain rfl | ⟨c, hc, hprepared, rfl⟩ := h
    · exact ⟨.unchanged, rfl⟩
    · exact ⟨.discarded candidate c hc hprepared, rfl⟩
  · rw [h]
    exact ⟨.unchanged, rfl⟩

/-- The result of a switch changes nothing. -/
theorem result_spec (host : RolePackSwitchHost) (outcome : RolePackSwitchOutcome) {P : RolePackSwitching → Prop}
    (h : P s) : Wp (result host outcome) (fun _ => P) (fun _ => P) s := by
  simp only [result, wp_bind, wp_get, wp_getOrRaise, wp_pure]
  exact ⟨fun _ _ => h, fun _ _ => h⟩

/-- Close the candidate and answer. -/
theorem giveUp_outcome (host : RolePackSwitchHost) (outcome : RolePackSwitchOutcome) (candidate : Nat) :
    Wp (do closeCandidate closeRaises candidate; result host outcome)
      (fun _ s' => Outcome s s' ∧ s'.active = s.active) (fun _ s' => Outcome s s' ∧ s'.active = s.active) s :=
  wp_bind.mpr ((closeCandidate_outcome candidate).imp
    (fun _ _ h => result_spec (P := fun s' => Outcome s s' ∧ s'.active = s.active) host outcome h))

/-- Publishing raises before anything shows, announces a spent candidate, or hands a prepared one over. -/
theorem publish_spec (host : RolePackSwitchHost) {candidate : Nat} {c : RolePackCandidate}
    (hc : s.candidates[candidate]? = some c) : Wp (publish host candidate)
      (fun active s' => (∀ error, host.publishRolePack ≠ .error error) ∧ c.prepared = true
        ∧ active = { identity := c.identity, resources := c.resources }
        ∧ s' = { s with
          candidates := s.candidates.set candidate { c with transferred := true }
          events := s.events ++ [.published candidate] })
      (fun _ s' => s' = s ∨ c.prepared = false ∧ s' = { s with events := s.events ++ [.published candidate] }) s := by
  simp only [publish, record, promote, wp_bind, wp_getOrRaise, wp_modify]
  refine ⟨fun _ hpublishes => (wp_getCandidate _ _ _).mpr ⟨fun c' hc' => ?_, fun hnone => ?_⟩,
    fun _ _ => .inl trivial⟩
  · obtain rfl : c = c' := Option.some.inj (hc.symm.trans hc')
    split
    next hspent => exact .inr ⟨by rw [RolePackCandidate.prepared, hspent]; rfl, rfl⟩
    next hprepared =>
      refine ⟨fun error herror => ?_, by simpa [RolePackCandidate.prepared] using hprepared, rfl, rfl⟩
      rw [hpublishes] at herror
      cases herror
  · exact absurd (hc.symm.trans hnone) (by simp)

/-- The new pack becomes active and the old one is closed. -/
theorem takeOver_spec (host : RolePackSwitchHost) (active : ActiveRolePack) (s : RolePackSwitching) :
    Wp (takeOver closeRaises host active)
      (fun _ s' => s' = { s with active }.closing (if s.active.closed then [] else s.active.resources.reverse))
      (fun _ s' => s' = { s with active }.closing (if s.active.closed then [] else s.active.resources.reverse)) s := by
  have hclosed : Wp (closeActive closeRaises s.active)
      (fun _ s' => s' = { s with active }.closing (if s.active.closed then [] else s.active.resources.reverse))
      (fun _ _ => False) { s with active } := by
    unfold closeActive
    split
    next =>
      show { s with active } = _
      simp [closing]
    next => exact closeEach_spec _ _
  simp only [takeOver, wp_bind, wp_get, wp_modify]
  refine hclosed.mono (fun _ s' h => wp_getOrRaise.mpr ⟨fun relax _ => ?_, fun _ _ => h⟩)
    fun _ _ => False.elim
  split
  next => exact result_spec (P := fun s' => s' = _) host _ h
  next =>
    refine wp_bind.mpr (wp_getOrRaise.mpr ⟨fun _ _ => ?_, fun _ _ => h⟩)
    exact result_spec (P := fun s' => s' = _) host _ h

/-- A switch whose publishing raises leaves the active pack as it is. -/
theorem switch_outcome (host : RolePackSwitchHost) (candidate : Nat) : Wp (switch closeRaises host candidate)
      (fun _ s' => Outcome s s' ∧ (∀ error, host.publishRolePack = .error error → s'.active = s.active))
      (fun _ s' => Outcome s s' ∧ (∀ error, host.publishRolePack = .error error → s'.active = s.active)) s := by
  have hstays : ∀ {s' : RolePackSwitching}, Outcome s s' ∧ s'.active = s.active →
      Outcome s s' ∧ (∀ error, host.publishRolePack = .error error → s'.active = s.active) :=
    fun h => ⟨h.1, fun _ _ => h.2⟩
  have hgivesUp := fun outcome : RolePackSwitchOutcome =>
    (@giveUp_outcome closeRaises s host outcome candidate).mono
      (fun _ _ => hstays) fun _ _ => hstays
  refine wp_bind.mpr ((wp_getCandidate _ _ _).mpr ⟨fun c hc => ?_, fun _ => hstays ⟨.unchanged, rfl⟩⟩)
  refine wp_get_bind.mpr ?_
  split
  next => exact hgivesUp .noOp
  next =>
    refine wp_bind.mpr (wp_getOrRaise.mpr
      ⟨fun containment _ => ?_, fun _ _ => hstays ⟨.unchanged, rfl⟩⟩)
    split
    next => exact hgivesUp .containmentFailed
    next =>
      refine wp_bind.mpr (wp_attempt.mpr ((publish_spec host hc).mono
        (fun active s' h => ?_) fun _ s' h => ?_))
      · obtain ⟨hpublishes, hprepared, rfl, rfl⟩ := h
        have hswitched := Outcome.switched (s := s) candidate c hc hprepared
        refine (takeOver_spec host _ _).mono (fun _ s' h => ?_) fun _ s' h => ?_
        all_goals
          rw [h]
          refine ⟨?_, fun error herror => absurd herror (hpublishes error)⟩
          convert hswitched using 1
          simp only [closing, List.append_assoc, List.singleton_append]
          split <;> rfl
      · obtain rfl | ⟨hspent, rfl⟩ := h
        · exact hgivesUp .publishFailed
        · have hannounced : Outcome s { s with events := s.events ++ [.published candidate] }
              ∧ s.active = s.active := ⟨.announced candidate, rfl⟩
          refine wp_bind.mpr ((closeCandidate_spec candidate _).mono (fun _ s' h => ?_) fun _ s' h => ?_)
          · obtain rfl | ⟨c', hc', hprepared, -⟩ := h
            · exact result_spec host .publishFailed (hstays hannounced)
            · obtain rfl : c = c' := Option.some.inj (hc.symm.trans hc')
              exact absurd (hspent.symm.trans hprepared) (by decide)
          · rw [h]
            exact hstays hannounced

theorem operate_outcome (op : Operation) : Outcome s (operate closeRaises s op) := by
  cases op with
  | prepare identity builders =>
    exact Wp.stateAfter (wp_map.mpr (prepare_outcome identity builders))
  | switch host candidate =>
    exact Wp.stateAfter (wp_map.mpr ((switch_outcome host candidate).mono (fun _ _ h => h.1) fun _ _ h => h.1))
  | closeCandidate candidate =>
    exact Wp.stateAfter ((closeCandidate_outcome candidate).mono (fun _ _ h => h.1) fun _ _ h => h.1)

end

/-! ## What every step keeps -/

/-- What a step owes the resources: each has one holder afterwards, the active pack's are closed only once another
pack is published and active, and where `publish_role_pack` raises the active pack stays as it is and open. That is
said of no other failure of a switch. -/
structure KeepsResources (closeRaises : Nat → Bool) (s : RolePackSwitching) (op : Operation) : Prop where
  accounted : (operate closeRaises s op).Accounted
  ordered : ∃ events, (operate closeRaises s op).events = s.events ++ events
    ∧ ∀ resource ∈ s.active.resources, .closed resource ∈ events →
      ∃ candidate c before after, s.candidates[candidate]? = some c
        ∧ (operate closeRaises s op).active = { identity := c.identity, resources := c.resources }
        ∧ events = before ++ .published candidate :: after ∧ .closed resource ∉ before
  unpublished : ∀ host candidate error, op = .switch host candidate → host.publishRolePack = .error error →
    (operate closeRaises s op).active = s.active
      ∧ ∀ resource ∈ s.active.resources, (operate closeRaises s op).events.count (.closed resource) = 0

section

variable {closeRaises : Nat → Bool} {s s' : RolePackSwitching}

/-- Only one summand changes. -/
theorem sum_held_set {candidates : List RolePackCandidate} {candidate : Nat} {c : RolePackCandidate}
    (hc : candidates[candidate]? = some c) (c' : RolePackCandidate) (resource : Nat) :
    ((candidates.set candidate c').map (·.held resource)).sum + c.held resource
      = (candidates.map (·.held resource)).sum + c'.held resource := by
  induction candidates generalizing candidate with
  | nil => cases hc
  | cons first rest ih =>
    cases candidate with
    | zero =>
      obtain rfl := Option.some.inj hc
      simp only [List.set_cons_zero, List.map_cons, List.sum_cons]
      omega
    | succ candidate =>
      have hrest := ih hc
      simp only [List.set_cons_succ, List.map_cons, List.sum_cons]
      omega

theorem count_closed (resources : List Nat) (resource : Nat) :
    (resources.map RolePackEvent.closed).count (.closed resource) = resources.count resource :=
  List.count_map_of_injective _ _ (fun _ _ h => RolePackEvent.closed.inj h) _

/-- What is built next finds its holder as it is built. -/
theorem Accounted.grown {n : Nat} (hs : s.Accounted) (hbuilt : s'.built = s.built + n)
    (hheld : ∀ resource, s'.holders resource
      = s.holders resource + if s.built ≤ resource ∧ resource < s.built + n then 1 else 0) (resource : Nat) :
    s'.holders resource = if resource < s'.built then 1 else 0 := by
  rw [hheld, hs.held, hbuilt]
  split <;> split <;> split <;> omega

/-- Whatever an operation does, every resource keeps its one holder. -/
theorem Outcome.accounted (h : Outcome s s') (hs : s.Accounted) : s'.Accounted := by
  cases h with
  | unchanged => exact hs
  | announced candidate =>
    refine ⟨hs.open_, fun resource => ?_⟩
    have hheld := hs.held resource
    simpa [holders] using hheld
  | partlyBuilt n =>
    refine ⟨hs.open_, hs.grown rfl fun resource => ?_⟩
    simp only [holders, closing, List.count_append, count_closed, List.count_reverse, count_range']
    omega
  | prepared identity n =>
    refine ⟨hs.open_, hs.grown rfl fun resource => ?_⟩
    have hmade : RolePackCandidate.held resource { identity, resources := List.range' s.built n }
        = if s.built ≤ resource ∧ resource < s.built + n then 1 else 0 := count_range' s.built n resource
    simp only [holders, List.map_append, List.map_cons, List.map_nil, List.sum_append, List.sum_cons, List.sum_nil,
      hmade]
    omega
  | discarded candidate c hc hprepared =>
    refine ⟨hs.open_, fun resource => Eq.trans ?_ (hs.held resource)⟩
    have hsum := sum_held_set hc { c with closed := true } resource
    have hbefore : c.held resource = c.resources.count resource := if_pos hprepared
    have hafter : RolePackCandidate.held resource { c with closed := true } = 0 := rfl
    simp only [holders, closing, List.count_append, count_closed, List.count_reverse]
    omega
  | switched candidate c hc hprepared =>
    refine ⟨rfl, fun resource => Eq.trans ?_ (hs.held resource)⟩
    have hsum := sum_held_set hc { c with transferred := true } resource
    have hbefore : c.held resource = c.resources.count resource := if_pos hprepared
    have hafter : RolePackCandidate.held resource { c with transferred := true } = 0 := by
      simp [RolePackCandidate.held, RolePackCandidate.prepared]
    simp only [holders, hs.open_, Bool.false_eq_true, if_false, List.count_append, List.count_cons, count_closed,
      List.count_reverse]
    simp only [beq_iff_eq, reduceCtorEq, if_false]
    omega

/-- What the active pack holds nobody else holds. -/
theorem Accounted.unheld (hs : s.Accounted) {resource : Nat} (hactive : resource ∈ s.active.resources) :
    resource < s.built ∧ s.events.count (.closed resource) = 0
      ∧ ∀ (candidate : Nat) (c : RolePackCandidate), s.candidates[candidate]? = some c → c.prepared = true →
        resource ∉ c.resources := by
  have hpos : 0 < s.active.resources.count resource := List.count_pos_iff.mpr hactive
  have hheld := hs.held resource
  unfold holders at hheld
  have hbuilt : resource < s.built := by
    by_contra hnot
    rw [if_neg hnot] at hheld
    omega
  rw [if_pos hbuilt] at hheld
  refine ⟨hbuilt, by omega, fun candidate c hc hprepared hmem => ?_⟩
  have hsum := sum_held_set hc { c with closed := true } resource
  have hbefore : c.held resource = c.resources.count resource := if_pos hprepared
  have hafter : RolePackCandidate.held resource { c with closed := true } = 0 := rfl
  have hcount : 0 < c.resources.count resource := List.count_pos_iff.mpr hmem
  omega

/-- Only a published pack replaces the active one, and the old one is closed after that. -/
theorem Outcome.ordered (h : Outcome s s') (hs : s.Accounted) : ∃ events, s'.events = s.events ++ events
    ∧ ∀ resource ∈ s.active.resources, .closed resource ∈ events →
      ∃ candidate c before after, s.candidates[candidate]? = some c
        ∧ s'.active = { identity := c.identity, resources := c.resources }
        ∧ events = before ++ .published candidate :: after ∧ .closed resource ∉ before := by
  cases h with
  | unchanged => exact ⟨[], (List.append_nil _).symm, fun _ _ h => absurd h (List.not_mem_nil)⟩
  | announced candidate => exact ⟨[.published candidate], rfl, fun _ _ h => by simp at h⟩
  | partlyBuilt n =>
    refine ⟨_, rfl, fun resource hactive hclosed => ?_⟩
    have hbuilt := (hs.unheld hactive).1
    simp only [List.mem_map, List.mem_reverse, List.mem_range'_1, RolePackEvent.closed.injEq, exists_eq_right]
      at hclosed
    omega
  | prepared => exact ⟨[], (List.append_nil _).symm, fun _ _ h => absurd h (List.not_mem_nil)⟩
  | discarded candidate c hc hprepared =>
    refine ⟨_, rfl, fun resource hactive hclosed => ?_⟩
    simp only [List.mem_map, List.mem_reverse, RolePackEvent.closed.injEq, exists_eq_right] at hclosed
    exact absurd hclosed ((hs.unheld hactive).2.2 candidate c hc hprepared)
  | switched candidate c hc _ =>
    exact ⟨_, rfl, fun _ _ _ => ⟨candidate, c, [], _, hc, rfl, rfl, List.not_mem_nil⟩⟩

theorem operate_accounted (hs : s.Accounted) (op : Operation) : (operate closeRaises s op).Accounted :=
  (operate_outcome op).accounted hs

theorem keepsResources_of_accounted (hs : s.Accounted) (op : Operation) : KeepsResources closeRaises s op := by
  refine ⟨operate_accounted hs op, (operate_outcome op).ordered hs, ?_⟩
  rintro host candidate error rfl hpublish
  have hactive : (operate closeRaises s (.switch host candidate)).active = s.active := by
    refine Wp.stateAfter (P := fun s' : RolePackSwitching => s'.active = s.active) (wp_map.mpr ?_)
    exact (switch_outcome host candidate).mono (fun _ _ h => h.2 error hpublish) fun _ _ h => h.2 error hpublish
  refine ⟨hactive, fun resource hmem => ?_⟩
  rw [← hactive] at hmem
  exact ((operate_accounted hs _).unheld hmem).2.1

/-- In every run every resource is at each step the active pack's, a prepared candidate's, or closed once; the old
pack is closed after the new one was published; and a pack that could not be replaced stays active. -/
theorem resources_throughout (closeRaises : Nat → Bool) (identity : ValidatedRolePackIdentity) (n : Nat)
    (ops : List Operation) :
    (start identity n).Accounted ∧ StepsMeet (operate closeRaises) (KeepsResources closeRaises) (start identity n) ops :=
  ⟨start_accounted identity n, run_gives (fun _ op h => operate_accounted h op)
    (fun _ op h => keepsResources_of_accounted h op) _ ops (start_accounted identity n)⟩

end

end RolePackSwitching

end ArkClaw.Pet
