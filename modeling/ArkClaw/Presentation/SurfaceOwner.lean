import ArkClaw.Pet.Ground
import ArkClaw.Presentation.Spine38Drawing
import ArkClaw.Presentation.SurfaceTick

/-!
# Who draws the pet

The body's window draws the prepared scene unless the installed layout overflows, and then the overlay draws it, if it
shows that layout. What a tick does before it installs a layout leaves both as they are, or hides the overlay. So a tick
that comes to no new layout can leave the scene to nobody, if the layout installed before it overflows: its sub-steps tell
where.
-/

namespace ArkClaw.Presentation

open ArkClaw.Library
open ArkClaw.Pet
open Spine38PetRenderer (RendererProgram FrameIo surfaceSizeOf setRenderLayout)

namespace PetSurfaces

/-! ## Owners -/

/-- The body's window draws the prepared scene: no installed layout overflows. -/
def BodyDraws (s : PetSurfaces) : Prop :=
  ∀ layout, s.renderer.renderLayout = some layout → layout.mode = .body

/-- The overlay draws the prepared scene when it is painted. -/
def OverlayDraws (s : PetSurfaces) : Prop := s.overlay.visible = true ∧ s.overlay.surfaceRetired = false

def geometryOf (rect : Rect) : WidgetGeometry where
  x := PetWindow.pyRound rect.x
  y := PetWindow.pyRound rect.y
  width := PetWindow.pyRound rect.width
  height := PetWindow.pyRound rect.height

/-- The overlay draws the scene, of an overflowing layout that is installed, at the layout's own place. -/
def OverlayOwns (s : PetSurfaces) : Prop :=
  OverlayDraws s ∧ ∃ layout, s.renderer.renderLayout = some layout ∧ layout.mode = .overflow
    ∧ s.overlay.appliedGeometry = some (geometryOf layout.surfaceRect)

/-- Exactly one of the two owners draws the scene, and the overlay does not draw what the body's window draws. -/
structure OneOwner (s : PetSurfaces) : Prop where
  one : Xor (BodyDraws s) (OverlayOwns s)
  once : ¬(BodyDraws s ∧ OverlayDraws s)

section

variable {s s' : PetSurfaces}

theorem not_body_of_owns (h : OverlayOwns s) : ¬BodyDraws s := by
  obtain ⟨-, layout, hlayout, hmode, -⟩ := h
  intro hbody
  rw [hbody layout hlayout] at hmode
  cases hmode

theorem OneOwner.body (h : BodyDraws s) (hother : ¬OverlayDraws s) : OneOwner s where
  one := .inl ⟨h, fun howns => hother howns.1⟩
  once := fun both => hother both.2

theorem OneOwner.overlay (h : OverlayOwns s) : OneOwner s where
  one := .inr ⟨h, not_body_of_owns h⟩
  once := fun both => not_body_of_owns h both.1

/-- Where the overlay draws only what it owns, a scene that is drawn has one owner. -/
theorem oneOwner_iff (hshows : OverlayDraws s → OverlayOwns s) : OneOwner s ↔ BodyDraws s ∨ OverlayDraws s := by
  constructor
  · intro h
    rcases h.one with ⟨hbody, -⟩ | ⟨howns, -⟩
    · exact .inl hbody
    · exact .inr howns.1
  · rintro (h | h)
    · exact .body h fun hdraws => not_body_of_owns (hshows hdraws) h
    · exact .overlay (hshows h)

/-- An overlay that draws where there is one owner is that owner. -/
theorem OneOwner.owns (h : OneOwner s) (hdraws : OverlayDraws s) : OverlayOwns s := by
  rcases h.one with ⟨hbody, -⟩ | ⟨howns, -⟩
  · exact (h.once ⟨hbody, hdraws⟩).elim
  · exact howns

/-! ## What leaves the owners as they are -/

/-- The renderer keeps its layout and its transform. -/
def KeepsLayout (r r' : Spine38PetRenderer) : Prop := r'.renderLayout = r.renderLayout ∧ r'.bodyTransform = r.bodyTransform

/-- The installed layout stays, and the overlay stays as it is, or is hidden if that is allowed. -/
structure Spares (hides : Prop) (s s' : PetSurfaces) : Prop where
  renderer : KeepsLayout s.renderer s'.renderer
  overlay : s'.overlay = s.overlay ∨ hides ∧ s'.overlay = s.overlay.hideSurface
  safe : s'.safeCode = .none → s.safeCode = .none

instance {hides : Prop} : Std.Refl (Spares hides) := ⟨fun _ => ⟨⟨rfl, rfl⟩, .inl rfl, id⟩⟩

instance {hides : Prop} : Trans (Spares hides) (Spares hides) (Spares hides) where
  trans := by
    rintro s s₁ s₂ h h'
    refine ⟨⟨h'.renderer.1.trans h.renderer.1, h'.renderer.2.trans h.renderer.2⟩, ?_, h.safe ∘ h'.safe⟩
    rcases h.overlay with heq | ⟨hhides, heq⟩ <;> rcases h'.overlay with heq' | ⟨hhides', heq'⟩
    · exact .inl (heq'.trans heq)
    · exact .inr ⟨hhides', by rw [heq', heq]⟩
    · exact .inr ⟨hhides, heq'.trans heq⟩
    · exact .inr ⟨hhides, by rw [heq', heq]; rfl⟩

theorem Spares.bodyDraws {hides : Prop} (h : Spares hides s s') : BodyDraws s' ↔ BodyDraws s := by
  simp only [BodyDraws, h.renderer.1]

theorem Spares.relax {hides : Prop} (h : Spares False s s') : Spares hides s s' :=
  ⟨h.renderer, h.overlay.imp id fun hhidden => hhidden.1.elim, h.safe⟩

/-- The installed layout stays, and an overlay that draws has drawn before, at the same place. -/
structure Calm (s s' : PetSurfaces) : Prop where
  renderer : KeepsLayout s.renderer s'.renderer
  overlay : OverlayDraws s' → OverlayDraws s ∧ s'.overlay.appliedGeometry = s.overlay.appliedGeometry
  safe : s'.safeCode = .none → s.safeCode = .none

theorem Spares.calm {hides : Prop} (h : Spares hides s s') : Calm s s' where
  renderer := h.renderer
  overlay := by
    intro hdraws
    rcases h.overlay with heq | ⟨-, heq⟩
    · unfold OverlayDraws at hdraws ⊢
      rw [heq] at hdraws ⊢
      exact ⟨hdraws, rfl⟩
    · have hvisible := hdraws.1
      rw [heq] at hvisible
      cases hvisible
  safe := h.safe

/-- What every sub-step keeps: while the renderer is safe, an overlay that draws owns the scene; and the renderer has its
transform. -/
structure Kept (s : PetSurfaces) : Prop where
  shows : s.safeCode = .none → OverlayDraws s → OverlayOwns s
  base : s.renderer.bodyTransform.isSome = true

theorem Calm.kept (h : Calm s s') (hs : Kept s) : Kept s' where
  shows := by
    intro hsafe hdraws
    obtain ⟨hbefore, hplace⟩ := h.overlay hdraws
    obtain ⟨-, layout, hlayout, hmode, hgeometry⟩ := hs.shows (h.safe hsafe) hbefore
    exact ⟨hdraws, layout, h.renderer.1.trans hlayout, hmode, hplace.trans hgeometry⟩
  base := by
    rw [h.renderer.2]
    exact hs.base

end

/-! ## Programs that leave the owners as they are -/

section

variable {α : Type} {hides : Prop}

theorem spares_onWindow (c : Program PetWindow α) : Follows (Spares hides) (onWindow c) := fun _ =>
  wp_onPart.mpr (wp_trivial c (fun _ _ => ⟨⟨rfl, rfl⟩, .inl rfl, id⟩) fun _ _ => ⟨⟨rfl, rfl⟩, .inl rfl, id⟩)

theorem spares_onAnimation (c : Program PetAnimationEngine α) : Follows (Spares hides) (onAnimation c) :=
  spares_onWindow _

theorem spares_onMotion (c : Program PetMotionModel α) : Follows (Spares hides) (onMotion c) := spares_onWindow _

theorem spares_hideEffectOverlay : Follows (Spares True) hideEffectOverlay :=
  Follows.modify fun _ => ⟨⟨rfl, rfl⟩, .inr ⟨trivial, rfl⟩, id⟩

theorem spares_attempt {c : Program PetSurfaces α} (h : Follows (Spares hides) c) :
    Follows (Spares hides) (attempt c : Program PetSurfaces (Except PetError α)) := fun s => wp_attempt.mpr (h s)

/-- A safe call leaves the renderer with what the call leaves, or with the placeholder, and raises nothing. -/
theorem safely_spec {call : RendererProgram Unit} (failure : PetRendererSafeCode)
    (hfailure : failure ≠ .none) (hcall : Follows KeepsLayout call) (s : PetSurfaces) :
    Wp (safely failure call) (fun _ => Spares False s) (fun _ _ => False) s := by
  simp only [safely, wp_bind, wp_get]
  split
  next => exact Std.Refl.refl s
  next hsafe =>
    rw [not_not] at hsafe
    have hkeeps := hcall s.renderer
    cases hrun : call.run s.renderer with
    | ok a r => exact ⟨hkeeps.of_run hrun, .inl rfl, fun _ => hsafe⟩
    | error e r =>
      obtain ⟨hlayout, htransform⟩ : KeepsLayout s.renderer r := hkeeps.of_raise hrun
      exact ⟨⟨hlayout, htransform⟩, .inl rfl, fun h => absurd h hfailure⟩

theorem spares_safely {call : RendererProgram Unit} {failure : PetRendererSafeCode}
    (hfailure : failure ≠ .none) (hcall : Follows KeepsLayout call) : Follows (Spares hides) (safely failure call) :=
  fun s => (safely_spec failure hfailure hcall s).mono (fun _ _ => Spares.relax) fun _ _ => False.elim

theorem keeps_requireOpen (r : Spine38PetRenderer) :
    Wp Spine38PetRenderer.requireOpen (fun _ r' => r' = r) (fun _ r' => r' = r) r := by
  simp only [Spine38PetRenderer.requireOpen, wp_bind, wp_get]
  split
  next => rfl
  next => rfl

theorem keeps_setDevicePixelRatio (value : Rat) (takes : Bool) :
    Follows KeepsLayout (Spine38PetRenderer.setDevicePixelRatio value takes) := by
  intro r
  refine wp_bind.mpr ((keeps_requireOpen r).mono ?_ fun _ _ h => h ▸ ⟨rfl, rfl⟩)
  rintro _ _ rfl
  simp only [wp_bind, wp_get]
  split
  next => exact ⟨rfl, rfl⟩
  next =>
    split
    next => exact ⟨rfl, rfl⟩
    next =>
      split
      next => exact ⟨rfl, rfl⟩
      next => exact ⟨rfl, rfl⟩

theorem keeps_setState (request : PetRendererActionRequest) :
    Follows KeepsLayout (Spine38PetRenderer.setState request) := by
  intro r
  refine wp_bind.mpr ((keeps_requireOpen r).mono ?_ fun _ _ h => h ▸ ⟨rfl, rfl⟩)
  rintro _ _ rfl
  exact ⟨rfl, rfl⟩

theorem keeps_update (deltaSeconds : Rat) (io : FrameIo) :
    Follows KeepsLayout (Spine38PetRenderer.update deltaSeconds io) := by
  intro r
  refine wp_bind.mpr ((keeps_requireOpen r).mono ?_ fun _ _ h => h ▸ ⟨rfl, rfl⟩)
  rintro _ _ rfl
  simp only [wp_bind, wp_get]
  repeat' split
  all_goals exact ⟨rfl, rfl⟩

theorem keeps_render (paints : Bool) : Follows KeepsLayout (Spine38PetRenderer.render paints) := by
  intro r
  refine wp_bind.mpr ((keeps_requireOpen r).mono ?_ fun _ _ h => h ▸ ⟨rfl, rfl⟩)
  rintro _ _ rfl
  simp only [wp_bind, wp_get]
  repeat' split
  all_goals exact ⟨rfl, rfl⟩

end

section

variable {env : OverlayEnv} {hides : Prop}

theorem spares_refuseLayout : Follows (Spares True) (refuseLayout env) :=
  (spares_onAnimation _).bind fun _ => spares_hideEffectOverlay.bind fun _ => Follows.pure none

theorem spares_planAndPlace (bodyRect workspace : Rect) (display : Option Rect) :
    Follows (Spares True) (planAndPlace env bodyRect workspace display) := by
  refine Follows.get fun s => ?_
  split
  next => exact Follows.throw _
  next => exact spares_refuseLayout
  next =>
    dsimp only
    split
    next => exact Follows.pure _
    next =>
      refine (spares_attempt (spares_onMotion _)).bind fun placed => ?_
      split
      next => exact Follows.pure _
      next => exact spares_refuseLayout
      next => exact spares_refuseLayout
      next => exact Follows.throw _

theorem spares_planRenderLayout (request : PetRendererActionRequest) (bodyRect workspace : Rect) (display : Option Rect) :
    Follows (Spares True) (planRenderLayout env request bodyRect workspace display) := by
  refine (spares_attempt (spares_planAndPlace _ _ _)).bind fun planned => ?_
  split
  next => exact spares_refuseLayout
  next => exact Follows.pure _
  next => exact (Follows.modify fun _ => ⟨⟨rfl, rfl⟩, .inl rfl, id⟩).bind fun _ => Follows.pure _

theorem spares_deliver (events : List PlaybackEvent) : Follows (Spares hides) (deliver env events) := by
  induction events with
  | nil => exact Follows.pure _
  | cons event rest ih => exact Follows.get fun _ => (spares_onAnimation _).bind fun _ => ih

theorem spares_losePlayback : Follows (Spares hides) (losePlayback env) :=
  (spares_onAnimation _).bind fun _ => Follows.modify fun _ => ⟨⟨rfl, rfl⟩, .inl rfl, id⟩

theorem spares_updatePlayback (playbackEvents : Option (List PlaybackEvent)) :
    Follows (Spares hides) (updatePlayback env playbackEvents) := by
  refine Follows.get fun s => ?_
  split
  next =>
    refine (spares_attempt ?_).bind fun handled => ?_
    · split
      next => exact Follows.throw _
      next => exact spares_deliver _
    · split
      next => exact Follows.pure _
      next => exact spares_losePlayback
  next => exact Follows.pure _

theorem spares_followDevicePixelRatio (tick : SurfaceTick) : Follows (Spares hides) (followDevicePixelRatio tick) := by
  refine Follows.get fun s => ?_
  split
  next =>
    exact (spares_safely (by decide) (keeps_setDevicePixelRatio _ _)).bind fun _ =>
      Follows.modify fun _ => ⟨⟨rfl, rfl⟩, .inl rfl, id⟩
  next => exact Follows.pure _

/-- Up to the search for a workspace a tick leaves the owners as they are. -/
theorem spares_advanceFrame (tick : SurfaceTick) : Follows (Spares hides) (advanceFrame env tick) :=
  (spares_followDevicePixelRatio tick).bind fun _ => Follows.get fun _ =>
    (Follows.modify fun _ => ⟨⟨rfl, rfl⟩, .inl rfl, id⟩).bind fun _ => (spares_onAnimation _).bind fun _ =>
    (spares_updatePlayback _).bind fun _ => (spares_safely (by decide) (keeps_setState _)).bind fun _ => Follows.pure _

theorem spares_selectPlace (request : PetRendererActionRequest) (tick : SurfaceTick) :
    Follows (Spares hides) (selectPlace request tick) :=
  (spares_onMotion _).bind fun _ => Follows.get fun _ => Follows.bind (.getOrRaise _) fun _ => Follows.pure _

/-- The end of a special action hides the overlay, unless it raises before that. -/
theorem endSpecial_spares (s : PetSurfaces) :
    Wp (endSpecial env) (fun _ => Spares True s) (fun _ => Spares False s) s := by
  have hstep : ∀ {α β : Type} {c : Program PetSurfaces α} {f : α → Program PetSurfaces β} {s₁ : PetSurfaces},
      Follows (Spares False) c → Spares False s s₁ →
      (∀ a s₂, Spares False s s₂ → Wp (f a) (fun _ => Spares True s) (fun _ => Spares False s) s₂) →
      Wp (c >>= f) (fun _ => Spares True s) (fun _ => Spares False s) s₁ := fun hc hs hf =>
    wp_bind.mpr ((hc.after hs).mono hf fun _ _ => id)
  refine hstep (spares_onAnimation _) (Std.Refl.refl s) fun _ _ hs => ?_
  refine hstep (spares_onAnimation _) hs fun _ _ hs => ?_
  refine hstep (spares_onMotion _) hs fun _ _ hs => ?_
  refine hstep (spares_safely (by decide) (keeps_setState _)) hs fun _ s₄ hs => ?_
  have hhides : Spares True s₄ { s₄ with overlay := s₄.overlay.hideSurface } := spares_hideEffectOverlay s₄
  exact wp_modify_bind.mpr (wp_pure.mpr (Trans.trans (hs.relax : Spares True s s₄) hhides))

/-! ## The layout of a tick -/

/-- The body's window is put where its layout wants it: an idle pet, on its level, inside the workspace. -/
def places (m : PetMotionModel) (position : Point) (workspace : Rect) : Bool :=
  match m.states.snapshot with
  | .error _ => false
  | .ok state =>
    decide (state.lifecycle = .active ∧ state.motion = .idle) && PetMotionModel.isClose position.y m.position.y
      && !decide (position.x < workspace.x ∨ workspace.right < position.x + m.windowSize.width
        ∨ position.y < workspace.y ∨ workspace.bottom < position.y + m.windowSize.height)

/-- There is a layout, and the body is where it wants it or is put there. -/
def plans (s : PetSurfaces) (bodyRect workspace : Rect) (display : Option Rect) : Bool :=
  match s.renderer.planLayout bodyRect workspace s.lastDevicePixelRatio display with
  | .ok (.layout result) =>
    PetMotionModel.isClose result.resolvedBodyPosition.x bodyRect.x
        && PetMotionModel.isClose result.resolvedBodyPosition.y bodyRect.y
      || places s.window.animation.motion result.resolvedBodyPosition workspace
  | _ => false

theorem placeForRenderLayout_places {m : PetMotionModel} {position : Point} {workspace : Rect}
    (h : places m position workspace = true) :
    Wp (PetMotionModel.placeForRenderLayout position workspace) (fun _ _ => True) (fun _ _ => False) m := by
  unfold places at h
  cases hshown : m.states.snapshot with
  | error error => simp [hshown] at h
  | ok state =>
    simp only [hshown, Bool.and_eq_true, decide_eq_true_eq, Bool.not_eq_true', decide_eq_false_iff_not] at h
    obtain ⟨⟨⟨hactive, hidle⟩, hlevel⟩, hinside⟩ := h
    unfold PetMotionModel.placeForRenderLayout
    refine wp_bind.mpr ((PetMotionModel.wp_shown _ _).mpr ⟨fun state' hstate' => ?_, fun _ herror => ?_⟩)
    · obtain rfl := Except.ok.inj (hshown.symm.trans hstate')
      simp only [hactive, hidle, ne_eq, not_true_eq_false, or_self, if_false, wp_bind, wp_get, hlevel, Bool.not_true,
        Bool.false_eq_true, if_neg hinside, wp_set]
      exact PetMotionModel.wp_snapshot_of hshown rfl trivial
    · cases hshown.symm.trans herror

/-- Where there is a layout and a place for it, planning returns a layout. -/
theorem planRenderLayout_plans {s : PetSurfaces} {request : PetRendererActionRequest} {bodyRect workspace : Rect}
    {display : Option Rect} (h : plans s bodyRect workspace display = true) :
    Wp (planRenderLayout env request bodyRect workspace display) (fun layout _ => layout ≠ none) (fun _ _ => False) s := by
  have hplans : Wp (planAndPlace env bodyRect workspace display) (fun layout _ => layout ≠ none) (fun _ _ => False) s := by
    unfold planAndPlace
    unfold plans at h
    refine wp_get_bind.mpr ?_
    split at h
    next result hplan =>
      simp only [hplan]
      split
      next => exact nofun
      next hfar =>
        have hplaces := (Bool.or_eq_true_iff.mp h).resolve_left hfar
        refine wp_bind.mpr (wp_attempt.mpr (wp_onPart.mpr (wp_onPart.mpr (wp_onPart.mpr ?_))))
        exact (placeForRenderLayout_places hplaces).mono (fun _ _ _ => nofun) fun _ _ => False.elim
    next => cases h
  unfold planRenderLayout
  refine wp_bind.mpr (wp_attempt.mpr (hplans.mono (fun layout s' hsome => ?_) fun _ _ => False.elim))
  cases layout with
  | none => exact (hsome rfl).elim
  | some layout => exact nofun

/-- An open renderer with a backend takes a layout over, if the backend takes its size. -/
def takes (r : Spine38PetRenderer) (layout : Pet.PetRenderLayout) (backendTakes : Bool) : Bool :=
  !r.closed && r.initialized && r.hasBackend
    && (decide (surfaceSizeOf layout = r.surfaceSize) || backendTakes)

/-- Once its layout is installed and the renderer has drawn the frame, one surface owns it. -/
theorem publishSurfaceOwner_owner {s : PetSurfaces} {layout : Pet.PetRenderLayout}
    (hinstalled : s.renderer.renderLayout = some layout) (painted : Bool) :
    Wp (publishSurfaceOwner (some layout) painted) (fun _ s' => s'.safeCode = .none → OneOwner s') (fun _ _ => False) s := by
  unfold publishSurfaceOwner
  dsimp only
  split
  next hoverflow =>
    simp only [wp_bind, wp_get, wp_getOrRaise, PetEffectOverlay.showLayout, ne_eq, not_true_eq_false, if_false,
      Except.ok.injEq, forall_eq', wp_set, reduceCtorEq, false_implies, implies_true, and_true]
    exact fun _ => .overlay ⟨⟨rfl, rfl⟩, layout, hinstalled, hoverflow, rfl⟩
  next hbody =>
    have hmode : layout.mode = .body := by
      cases hmode : layout.mode with
      | body => rfl
      | overflow => exact absurd hmode hbody
    -- the body's window has repainted itself before the overlay gives its layout up
    have hretires : ∀ s' : PetSurfaces, s'.renderer.renderLayout = some layout →
        OneOwner { s' with overlay := s'.overlay.retireSurface } := by
      intro s' hlayout
      refine .body (fun other hother => ?_) fun hdraws => ?_
      · rw [hlayout] at hother
        cases hother
        exact hmode
      · obtain ⟨hvisible, hretired⟩ := hdraws
        unfold PetEffectOverlay.retireSurface at hvisible hretired
        split at hretired
        next => cases hretired
        next hpassive =>
          rw [if_neg hpassive] at hvisible
          cases hvisible
    refine wp_get_bind.mpr ?_
    split
    next =>
      refine wp_bind.mpr ((safely_spec .renderFailed (by decide) (keeps_render painted) s).mono
        (fun _ s' hspares => ?_) fun _ _ => False.elim)
      exact fun _ => hretires s' (hspares.renderer.1.trans hinstalled)
    next => exact fun _ => hretires s hinstalled

theorem spares_loses : Follows (Spares True) (do losePlayback env; syncRendererState; hideEffectOverlay) :=
  spares_losePlayback.bind fun _ => Follows.bind ((spares_onMotion _).bind fun _ =>
    spares_safely (by decide) (keeps_setState _)) fun _ => spares_hideEffectOverlay

/-- A frame without a layout leaves the owners as they are. -/
theorem spares_showFrame (tick : SurfaceTick) : Follows (Spares True) (showFrame env none tick) := by
  refine Follows.get fun s => (spares_safely (by decide) (keeps_update _ _)).bind fun _ => Follows.get fun s' => ?_
  split
  next => exact spares_loses
  next => exact Follows.pure _

/-- A frame with an installed layout has one owner. -/
theorem showFrame_owner {s : PetSurfaces} {layout : Pet.PetRenderLayout}
    (hinstalled : s.renderer.renderLayout = some layout) (tick : SurfaceTick) :
    Wp (showFrame env (some layout) tick) (fun _ s' => s'.safeCode = .none → OneOwner s')
      (fun _ s' => s'.safeCode = .none → OneOwner s') s := by
  refine wp_get_bind.mpr (wp_bind.mpr ?_)
  refine (safely_spec .updateFailed (by decide) (keeps_update _ tick.frame) s).mono (fun _ s₁ hspares => ?_) fun _ _ => False.elim
  refine wp_get_bind.mpr ?_
  split
  next hlost =>
    have hnone : ∀ {s'}, Spares True s₁ s' → s'.safeCode = .none → OneOwner s' := fun h hsafe =>
      absurd (h.safe hsafe) hlost.2
    exact (spares_loses s₁).mono (fun _ _ => hnone) fun _ _ => hnone
  next =>
    exact (publishSurfaceOwner_owner (hspares.renderer.1.trans hinstalled) tick.bodyPainted).mono (fun _ _ => id)
      fun _ _ => False.elim

section

variable {s s' : PetSurfaces}

theorem setRenderLayout_takes {r : Spine38PetRenderer} {layout : Pet.PetRenderLayout} {backendTakes : Bool}
    (hbase : r.bodyTransform.isSome = true) (h : takes r layout backendTakes = true) :
    Wp (setRenderLayout layout backendTakes) (fun _ _ => True) (fun _ _ => False) r := by
  obtain ⟨base, hbase⟩ := Option.isSome_iff_exists.mp hbase
  simp only [takes, Bool.and_eq_true, Bool.not_eq_true', Bool.or_eq_true, decide_eq_true_eq] at h
  obtain ⟨⟨⟨hopen, hinitialized⟩, hbackend⟩, hsize⟩ := h
  have hfits : ¬(surfaceSizeOf layout ≠ r.surfaceSize ∧ (!backendTakes) = true) := by
    rintro ⟨hother, hrefused⟩
    rw [Bool.not_eq_true'] at hrefused
    exact hsize.elim hother fun htaken => Bool.false_ne_true (hrefused.symm.trans htaken)
  simp only [setRenderLayout, Spine38PetRenderer.requireOpen, wp_bind, wp_get, hopen, hinitialized,
    hbackend, Bool.false_eq_true, Bool.not_true, Bool.or_self, if_false, wp_pure, if_neg hfits, wp_set, hbase, wp_modify]

/-- A layout that is installed is the renderer's; one that it does not take over leaves it as it is. -/
theorem installLayout_spec {layout : Pet.PetRenderLayout} {viewportTaken : Bool}
    (hbase : s.renderer.bodyTransform.isSome = true) : Wp (installLayout (some layout) viewportTaken)
      (fun _ s' => s'.renderer.renderLayout = some layout ∧ s'.renderer.bodyTransform.isSome = true)
      (fun _ s' => takes s.renderer layout viewportTaken = false ∧ s' = s) s := by
  obtain ⟨base, hsome⟩ := Option.isSome_iff_exists.mp hbase
  have hset := @Spine38PetRenderer.setRenderLayout_spec base layout s.renderer hsome viewportTaken
  simp only [installLayout, onRenderer, wp_bind, wp_get]
  cases hrun : (setRenderLayout layout viewportTaken).run s.renderer with
  | ok a r =>
    have hlayout := hset.of_run hrun
    exact ⟨by rw [hlayout], by rw [hlayout]; exact hbase⟩
  | error e r =>
    have hrefused := hset.of_raise hrun
    refine ⟨?_, by rw [hrefused]⟩
    rw [← Bool.not_eq_true]
    exact fun htakes => (setRenderLayout_takes hbase htakes).of_raise hrun

/-! ## The sub-steps of a tick -/

/-- The installed layout overflows, and the overlay does not draw it. -/
def Unseen (s : PetSurfaces) : Prop := ¬BodyDraws s ∧ ¬OverlayDraws s

/-- The sub-step leaves the scene to nobody. Nobody draws it, and the sub-step raises or the renderer does not take the
layout over; or the installed layout overflows, and no layout is planned in its place. -/
def LosesOwner (env : OverlayEnv) (s : PetSurfaces) : TickPoint → Prop
  | .advance tick => Unseen s ∧ returns (TickPoint.next env (.advance tick)) s = false
  | .prepare tick request => Unseen s ∧ returns (TickPoint.next env (.prepare tick request)) s = false
  | .plan _ _ bodyRect workspace display => ¬BodyDraws s ∧ plans s bodyRect workspace display = false
  | .install tick (some layout) => Unseen s ∧ takes s.renderer layout tick.viewportTaken = false
  | _ => False

instance (s : PetSurfaces) : Decidable (BodyDraws s) :=
  inferInstanceAs (Decidable (∀ layout ∈ s.renderer.renderLayout, layout.mode = .body))

instance (s : PetSurfaces) : Decidable (Unseen s) :=
  inferInstanceAs (Decidable (¬BodyDraws s ∧ ¬(s.overlay.visible = true ∧ s.overlay.surfaceRetired = false)))

instance (env : OverlayEnv) (s : PetSurfaces) : ∀ p, Decidable (LosesOwner env s p)
  | .advance _ | .prepare _ _ | .install _ (some _) => inferInstanceAs (Decidable (Unseen s ∧ _ = false))
  | .plan _ _ _ _ _ => inferInstanceAs (Decidable (¬BodyDraws s ∧ _ = false))
  | .operation _ | .install _ none | .frame _ _ => isFalse id

/-- One surface owns the scene, unless the renderer has been replaced. -/
structure Owned (s : PetSurfaces) : Prop extends Kept s where
  owner : s.safeCode = .none → OneOwner s

/-- What holds at the points of a tick: behind a plan without a layout the body's window draws, and behind the
installation the layout is the renderer's. -/
def At : TickPoint → PetSurfaces → Prop
  | .operation _, _ => False
  | .advance _, s => Kept s
  | .prepare _ _, s => Kept s
  | .plan _ _ _ _ _, s => Kept s
  | .install _ layout, s => Kept s ∧ (layout = none → BodyDraws s)
  | .frame _ none, s => Kept s ∧ BodyDraws s
  | .frame _ (some layout), s => s.renderer.renderLayout = some layout ∧ s.renderer.bodyTransform.isSome = true

theorem Kept.owned (h : Kept s) (hdrawn : BodyDraws s ∨ OverlayDraws s) : Owned s :=
  ⟨h, fun hsafe => (oneOwner_iff (h.shows hsafe)).mpr hdrawn⟩

theorem Kept.owned_of_body {hides : Prop} (h : Kept s) (hspares : Spares hides s s') (hbody : BodyDraws s) : Owned s' :=
  (hspares.calm.kept h).owned (.inl (hspares.bodyDraws.mpr hbody))

/-- Where somebody draws the scene and the overlay is not hidden, somebody draws it. -/
theorem Kept.owned_of_seen (h : Kept s) (hspares : Spares False s s') (hseen : ¬Unseen s) : Owned s' := by
  refine (hspares.calm.kept h).owned ?_
  rcases Classical.not_and_iff_not_or_not.mp hseen with hbody | hdraws
  · exact .inl (hspares.bodyDraws.mpr (not_not.mp hbody))
  · have heq := hspares.overlay.resolve_right fun hhidden => hhidden.1
    right
    unfold OverlayDraws at hdraws ⊢
    rw [heq]
    exact not_not.mp hdraws

theorem returns_of_raise {α : Type} {c : Program PetSurfaces α} {error : PetError} (h : c.run s = .error error s') :
    returns c s = false := by
  simp only [returns, h]

theorem next_advance (tick : SurfaceTick) (h : Kept s) (hkeeps : ¬LosesOwner env s (.advance tick)) :
    Wp (TickPoint.next env (.advance tick))
      (Proceeds At Owned TickPoint.rank (.advance tick)) (fun _ => Owned) s := by
  have hends : Wp (TickPoint.next env (.advance tick))
      (Proceeds At Owned TickPoint.rank (.advance tick)) (fun _ => Spares False s) s := by
    refine (spares_advanceFrame tick s).bind fun request s' hspares => ?_
    exact ⟨hspares.calm.kept h, (by decide : 3 < 4)⟩
  refine (hends.and (wp_run _ s)).mono (fun _ _ => And.left) fun error s' hraised => ?_
  exact h.owned_of_seen hraised.1 fun hunseen => hkeeps ⟨hunseen, returns_of_raise hraised.2⟩

theorem next_prepare (tick : SurfaceTick) (request : PetRendererActionRequest) (h : Kept s)
    (hkeeps : ¬LosesOwner env s (.prepare tick request)) : Wp (TickPoint.next env (.prepare tick request))
      (Proceeds At Owned TickPoint.rank (.prepare tick request)) (fun _ => Owned) s := by
  have hends : Wp (TickPoint.next env (.prepare tick request))
      (Proceeds At Owned TickPoint.rank (.prepare tick request)) (fun _ => Spares False s) s := by
    refine (spares_selectPlace request tick s).bind fun place s₁ h₁ => ?_
    refine wp_get_bind.mpr ?_
    split
    next hheld =>
      split
      next =>
        refine ⟨⟨h₁.calm.kept h, fun hnone => ?_⟩, (by decide : 1 < 3)⟩
        rw [hnone] at hheld
        exact absurd hheld.2.2 (by decide)
      next =>
        refine wp_bind.mpr ((endSpecial_spares s₁).mono (fun _ s₂ h₂ => ?_) fun _ s₂ h₂ => Trans.trans h₁ h₂)
        exact ⟨h₂.calm.kept (h₁.calm.kept h), (by decide : 2 < 3)⟩
    next => exact ⟨h₁.calm.kept h, (by decide : 2 < 3)⟩
  refine (hends.and (wp_run _ s)).mono (fun _ _ => And.left) fun error s' hraised => ?_
  exact h.owned_of_seen hraised.1 fun hunseen => hkeeps ⟨hunseen, returns_of_raise hraised.2⟩

theorem next_plan (tick : SurfaceTick) (request : PetRendererActionRequest) (bodyRect workspace : Rect)
    (display : Option Rect) (h : Kept s) (hkeeps : ¬LosesOwner env s (.plan tick request bodyRect workspace display)) :
    Wp (TickPoint.next env (.plan tick request bodyRect workspace display))
      (Proceeds At Owned TickPoint.rank (.plan tick request bodyRect workspace display)) (fun _ => Owned) s := by
  have hbody : plans s bodyRect workspace display = false → BodyDraws s := fun hfails =>
    not_not.mp fun hover => hkeeps ⟨hover, hfails⟩
  have hspares := @spares_planRenderLayout env request bodyRect workspace display s
  have hplanned : Wp (planRenderLayout env request bodyRect workspace display)
      (fun layout s' => Spares True s s' ∧ (layout = none → BodyDraws s))
      (fun _ s' => Spares True s s' ∧ BodyDraws s) s := by
    cases hplans : plans s bodyRect workspace display with
    | true =>
      refine (hspares.and (planRenderLayout_plans hplans)).mono
        (fun _ _ h' => ⟨h'.1, fun hnone => ?_⟩) fun _ _ h' => h'.2.elim
      exact (h'.2 hnone).elim
    | false => exact hspares.mono (fun _ _ h' => ⟨h', fun _ => hbody hplans⟩) fun _ _ h' => ⟨h', hbody hplans⟩
  refine wp_bind.mpr (hplanned.mono (fun layout s' h' => ?_) fun _ s' h' => h.owned_of_body h'.1 h'.2)
  exact ⟨⟨h'.1.calm.kept h, fun hnone => h'.1.bodyDraws.mpr (h'.2 hnone)⟩, (by decide : 1 < 2)⟩

theorem next_install (tick : SurfaceTick) (layout : Option Pet.PetRenderLayout) (h : At (.install tick layout) s)
    (hkeeps : ¬LosesOwner env s (.install tick layout)) : Wp (TickPoint.next env (.install tick layout))
      (Proceeds At Owned TickPoint.rank (.install tick layout)) (fun _ => Owned) s := by
  obtain ⟨hkept, hbody⟩ := h
  refine wp_get_bind.mpr (wp_bind.mpr ?_)
  simp only [onWindow, PetWindow.moveTo, wp_onPart, wp_modify]
  set s₁ : PetSurfaces := { s with window := { s.window with pos := _ } } with hs₁
  have hspares : Spares False s s₁ := ⟨⟨rfl, rfl⟩, .inl rfl, id⟩
  have hkept₁ := hspares.calm.kept hkept
  cases layout with
  | none => exact wp_bind.mpr (wp_pure.mpr ⟨⟨hkept₁, hspares.bodyDraws.mpr (hbody rfl)⟩, (by decide : 0 < 1)⟩)
  | some layout =>
    refine wp_bind.mpr ((installLayout_spec hkept₁.base).mono (fun _ s₂ h₂ => ⟨h₂, (by decide : 0 < 1)⟩) ?_)
    rintro _ _ ⟨hrefused, rfl⟩
    exact hkept.owned_of_seen hspares fun hunseen => hkeeps ⟨hunseen, hrefused⟩

/-- The renderer keeps the transform it has been initialized with. -/
def Based (s s' : PetSurfaces) : Prop := s.renderer.bodyTransform.isSome → s'.renderer.bodyTransform.isSome

instance : Trans Based Based Based := ⟨fun h h' => h' ∘ h⟩

theorem based_of_spares {α : Type} {c : Program PetSurfaces α} (h : Follows (Spares True) c) : Follows Based c :=
  h.mono fun s s' hspares (hbase : s.renderer.bodyTransform.isSome = true) => by
    rw [hspares.renderer.2]
    exact hbase

theorem based_publishSurfaceOwner (layout : Option Pet.PetRenderLayout) (painted : Bool) :
    Follows Based (publishSurfaceOwner layout painted) := by
  intro s
  unfold publishSurfaceOwner
  split
  next => exact id
  next layout =>
    split
    next =>
      simp only [wp_bind, wp_get, wp_getOrRaise, wp_set]
      exact ⟨fun _ _ => id, fun _ _ => id⟩
    next =>
      have hrepaints : Follows Based (safely .renderFailed (Spine38PetRenderer.render painted)) :=
        based_of_spares (spares_safely (by decide) (keeps_render _))
      have hretires : Follows Based (modify fun s => { s with overlay := s.overlay.retireSurface } : Program PetSurfaces Unit) :=
        Follows.modify fun _ => id
      refine wp_get_bind.mpr ?_
      split
      next => exact hrepaints.bind (fun _ => hretires) s
      next => exact hretires s

theorem based_showFrame (layout : Option Pet.PetRenderLayout) (tick : SurfaceTick) :
    Follows Based (showFrame env layout tick) := by
  refine Follows.get fun s => (based_of_spares (spares_safely (by decide) (keeps_update _ _))).bind fun _ =>
    Follows.get fun s' => ?_
  split
  next => exact based_of_spares spares_loses
  next => exact based_publishSurfaceOwner _ _

theorem next_frame (tick : SurfaceTick) (layout : Option Pet.PetRenderLayout) (h : At (.frame tick layout) s) :
    Wp (TickPoint.next env (.frame tick layout))
      (Proceeds At Owned TickPoint.rank (.frame tick layout)) (fun _ => Owned) s := by
  refine wp_bind.mpr (Wp.mono (?_ : Wp (showFrame env layout tick) (fun _ => Owned) (fun _ => Owned) s)
    (fun _ _ h' => wp_pure.mpr h') fun _ _ => id)
  cases layout with
  | none =>
    obtain ⟨hkept, hbody⟩ := h
    have hends : ∀ s', Spares True s s' → Owned s' := fun s' hspares => hkept.owned_of_body hspares hbody
    exact (spares_showFrame tick s).mono (fun _ => hends) fun _ => hends
  | some layout =>
    obtain ⟨hinstalled, hbase⟩ := h
    have hends : ∀ s' : PetSurfaces, (s'.safeCode = .none → OneOwner s') ∧ Based s s' → Owned s' := fun s' h' =>
      ⟨⟨fun hsafe => (h'.1 hsafe).owns, h'.2 hbase⟩, h'.1⟩
    exact ((showFrame_owner hinstalled tick).and (based_showFrame (some layout) tick s)).mono (fun _ => hends)
      fun _ => hends

/-- What a sub-step of a tick that loses no owner comes to. -/
theorem next_owner (p : TickPoint) (s : PetSurfaces) (h : At p s) (hkeeps : ¬LosesOwner env s p) :
    Wp (TickPoint.next env p) (Proceeds At Owned TickPoint.rank p) (fun _ => Owned) s := by
  cases p with
  | operation op => exact h.elim
  | advance tick => exact next_advance tick h hkeeps
  | prepare tick request => exact next_prepare tick request h hkeeps
  | plan tick request bodyRect workspace display => exact next_plan tick request bodyRect workspace display h hkeeps
  | install tick layout => exact next_install tick layout h hkeeps
  | frame tick layout => exact next_frame tick layout h

end

/-! ## The pointer and the overlay -/

/-- An overlay that draws has drawn before, at the same place. -/
def Draws (d d' : PetDesk) : Prop :=
  (d'.overlay.visible = true ∧ d'.overlay.surfaceRetired = false) →
    (d.overlay.visible = true ∧ d.overlay.surfaceRetired = false) ∧
      d'.overlay.appliedGeometry = d.overlay.appliedGeometry

instance : Std.Refl Draws := ⟨fun _ h => ⟨h, rfl⟩⟩

instance : Trans Draws Draws Draws :=
  ⟨fun h h' hdraws => ⟨(h (h' hdraws).1).1, (h' hdraws).2.trans (h (h' hdraws).1).2⟩⟩

section

variable {α : Type}

theorem draws_onWindow (c : Program PetWindow α) : Follows Draws (PetDesk.onWindow c) := fun _ =>
  wp_onPart.mpr (wp_trivial c (fun _ _ h => ⟨h, rfl⟩) fun _ _ h => ⟨h, rfl⟩)

theorem draws_forwardMouseEvent (type : MouseEventType) (event : MouseEvent) (workspaces : List Rect)
    (requireBodyHit : Bool) : Follows Draws (PetDesk.forwardMouseEvent env type event workspaces requireBodyHit) := by
  refine Follows.get fun d => ?_
  split
  next => exact Follows.pure _
  next =>
    unfold PetDesk.sendEvent
    dsimp only
    split
    next => exact draws_onWindow _
    next =>
      refine Follows.bind (fun d => wp_attempt.mpr (draws_onWindow _ d)) fun answered => ?_
      split
      next => exact Follows.pure _
      next => exact Follows.pure _

theorem draws_hideSurface : Follows Draws (PetDesk.modifyOverlay (·.hideSurface)) :=
  Follows.modify fun _ h => Bool.noConfusion h.1

theorem draws_mouseEvent (type : MouseEventType) (event : MouseEvent) (workspaces : List Rect) :
    Follows Draws (PetDesk.mouseEvent env type event workspaces) := by
  cases type with
  | press =>
    exact (draws_forwardMouseEvent _ _ _ _).bind fun accepted =>
      (Follows.modify fun _ h => ⟨h, rfl⟩).bind fun _ => Follows.pure _
  | move =>
    refine Follows.get fun d => ?_
    split
    next => exact Follows.pure _
    next => exact draws_forwardMouseEvent _ _ _ _
  | release =>
    refine Follows.get fun d => ?_
    split
    next => exact Follows.pure _
    next =>
      refine (draws_forwardMouseEvent _ _ _ _).bind fun accepted => ?_
      dsimp only
      split
      next =>
        refine Follows.bind (Follows.modify fun _ h => ⟨h, rfl⟩) fun _ => Follows.get fun d' => ?_
        split
        next => exact draws_hideSurface.bind fun _ => Follows.pure _
        next => exact Follows.pure _
      next => exact Follows.pure _

theorem draws_paint (image : Option PetSurfaceHitFrame) :
    Follows Draws ((PetDesk.Operation.paint image).program env) := by
  intro d
  simp only [PetDesk.Operation.program, wp_bind, wp_get, wp_set, Draws, PetEffectOverlay.paint]
  split
  next => exact fun h => ⟨h, rfl⟩
  next =>
    split
    next => exact fun h => ⟨h, rfl⟩
    next => exact fun h => ⟨h, rfl⟩

end

/-- What draws on the desk draws on the window that the desk is of, and its renderer is not touched. -/
theorem calm_onDesk {α : Type} {c : Program PetDesk α} (h : Follows Draws c) (s : PetSurfaces) :
    Wp (onDesk c) (fun _ s' => Calm s s') (fun _ s' => Calm s s') s := by
  have hcalm : ∀ d', Draws s.desk d' → Calm s { s with window := d'.window, overlay := d'.overlay } := fun d' hdraws =>
    ⟨⟨rfl, rfl⟩, hdraws, id⟩
  exact wp_onPart.mpr ((h s.desk).mono (fun _ => hcalm) fun _ => hcalm)

theorem calm_hideEvent (workspaces : List Rect) (s : PetSurfaces) :
    Wp (hideEvent env workspaces) (fun _ s' => Calm s s') (fun _ s' => Calm s s') s := by
  have hcalm : ∀ s', Spares True { s with visible := false } s' → Calm s s' := fun s' h =>
    ⟨h.renderer, h.calm.overlay, h.safe⟩
  have hrest : Follows (Spares True) (do
      onWindow (PetWindow.cancelPointerGesture env.window .windowHidden workspaces)
      hideEffectOverlay) := (spares_onWindow _).bind fun _ => spares_hideEffectOverlay
  exact wp_modify_bind.mpr ((hrest _).mono (fun _ => hcalm) fun _ => hcalm)

/-! ## Runs of the window -/

/-- An operation that is no tick leaves the owners alone. -/
theorem operate_calm (s : PetSurfaces) {op : Operation} (hop : ∀ tick, op ≠ .tick tick) : Calm s (operate env s op) := by
  refine Wp.stateAfter ?_
  cases op with
  | tick tick => exact (hop tick rfl).elim
  | overlayMouse type event workspaces => exact calm_onDesk ((draws_mouseEvent type event workspaces).map _) s
  | window op => exact calm_onDesk (draws_onWindow _) s
  | paintOverlay image => exact calm_onDesk (draws_paint image) s
  | paintBody painted =>
    exact (safely_spec .renderFailed (by decide) (keeps_render painted) s).mono (fun _ _ => Spares.calm)
      fun _ _ => False.elim
  | hideWindow workspaces => exact calm_hideEvent workspaces s
  | showWindow => exact (⟨⟨rfl, rfl⟩, fun h => ⟨h, rfl⟩, id⟩ : Calm s { s with visible := true })

/-- The window as it is built: its renderer is initialized, and no layout has been published. -/
structure Fresh (s : PetSurfaces) : Prop where
  overlay : s.overlay = {}
  body : BodyDraws s
  base : s.renderer.bodyTransform.isSome = true

/-- In every run none of whose sub-steps loses the owner, one surface owns the scene after every tick, as long as the
renderer has not been replaced. -/
theorem owners_throughout {s₀ : PetSurfaces} (hfresh : Fresh s₀) (ops : List Operation)
    (hkeeps : StepsMeet (substep TickPoint.first (TickPoint.next env)) (AtPoint fun p s => ¬LosesOwner env s p)
      ⟨s₀, none⟩ (substeps (fun _ => 5) ops)) : StepsMeet (operate env)
      (fun s op => ∀ tick, op = .tick tick → (operate env s op).visible = true →
        (operate env s op).safeCode = .none → OneOwner (operate env s op))
      s₀ ops := by
  have hstart : Kept s₀ := by
    refine ⟨fun _ hdraws => ?_, hfresh.base⟩
    have hvisible := hdraws.1
    rw [hfresh.overlay] at hvisible
    cases hvisible
  refine StepsMeet.of_substeps (operate_substeps env) (fun s op h hmeets => ?_) ⟨s₀, none⟩ ops hstart hkeeps
  by_cases htick : ∃ tick, op = .tick tick
  · obtain ⟨tick, rfl⟩ := htick
    have hat : At (TickPoint.first (.tick tick)) s := h
    have hrank : (TickPoint.first (.tick tick)).rank < 5 := (by decide : 4 < 5)
    have howned : Owned (operate env s (.tick tick)) := by
      rw [operate_substeps]
      exact Wp.stateAfter (wp_through next_owner 5 _ s hrank hat hmeets)
    exact ⟨howned.toKept, fun _ _ _ => howned.owner⟩
  · rw [not_exists] at htick
    exact ⟨(operate_calm s htick).kept h, fun tick heq => (htick tick heq).elim⟩

end

/-! ## A pet that sits on two screens -/

/-- A pet that can sit. -/
def sittingEnv : OverlayEnv where
  window := { engine := PetAnimationEngine.steadyEnv [.idle, .sitDown, .sitIdle], startDragDistance := 10 }
  handlerRaises := false

def screen : Rect := { x := 0, y := 0, width := 1920, height := 1080, width_pos := ofNat_pos trivial, height_pos := ofNat_pos trivial }

def bodyBounds : Spine38Bounds :=
  { x := -50, y := 0, width := 100, height := 162, width_pos := ofNat_pos trivial, height_pos := ofNat_pos trivial }

/-- Its sitting is wider and higher than its window. -/
def sittingProfile : RolePackRenderProfile where
  bodyBounds
  sampledActionBounds := [(.idle, bodyBounds),
    (.sitting, { x := -300, y := 0, width := 600, height := 500, width_pos := ofNat_pos trivial, height_pos := ofNat_pos trivial })]
  sampled := by simp
  actions_nodup := by simp

def bodyTransform : Spine38ViewportTransform where
  scale := 1
  originX := 80
  originY := 180
  viewport := Spine38.viewport
  footBaselineY := 180
  scale_pos := ofNat_pos trivial

/-- The layout the renderer is initialized with. -/
def initialLayout : Pet.PetRenderLayout where
  mode := .body
  surfaceRect := { x := 0, y := 0, width := 160, height := 180, width_pos := ofNat_pos trivial, height_pos := ofNat_pos trivial }
  bodyWindowOffset := { x := 0, y := 0 }
  resolvedBodyPosition := { x := 0, y := 0 }
  groundCorrection := 0
  effectiveFacing := .right
  scaleMultiplier := 1
  quality := .fullScale
  scale_pos := ofNat_pos trivial

def sittingSurfaces : PetSurfaces where
  window := {
    animation := PetAnimationEngine.build sittingEnv.window.engine
      { position := { x := 500, y := 900 }, windowSize := Spine38.viewport }
    pos := { x := 500, y := 900 } }
  renderer := {
    framing := { scale := 1, xOffset := 0, footBaseline := 180, scale_pos := ofNat_pos trivial }
    renderProfile := some sittingProfile
    bodyTransform := some bodyTransform
    renderLayout := some initialLayout
    transform := some bodyTransform
    texture := some { width := 1, height := 1, width_ok := by decide, height_ok := by decide }
    hasBackend := true
    initialized := true }

theorem sittingSurfaces_fresh : Fresh sittingSurfaces where
  overlay := rfl
  body := by
    rintro layout ⟨⟩
    rfl
  base := rfl

def sitsDown : List Operation :=
  [.window (.engine .startAutonomous), .window (.engine (.requestAction .sit .user))]

/-- A tick on a screen with the given ratio. -/
def tickAt (devicePixelRatio : Rat) : SurfaceTick where
  devicePixelRatio
  workspaces := [screen]
  workspaceDisplayPairs := [(screen, screen)]
  frame := { commands := .ok [] }

/-- The sitting pet comes to a screen on which its layout has too many pixels: the overlay is hidden, and the renderer
keeps the layout that only the overlay would draw. -/
theorem sitting_pet_vanishes :
    ¬∀ (env : OverlayEnv) (s₀ : PetSurfaces) (ops : List Operation) (tick : SurfaceTick), Fresh s₀ →
      (operate env (run (operate env) s₀ ops) (.tick tick)).visible = true →
      (operate env (run (operate env) s₀ ops) (.tick tick)).safeCode = .none →
      Xor (BodyDraws (operate env (run (operate env) s₀ ops) (.tick tick)))
        (OverlayOwns (operate env (run (operate env) s₀ ops) (.tick tick))) := by
  intro h
  have howner := h sittingEnv sittingSurfaces (sitsDown ++ [.tick (tickAt 1)]) (tickAt 4) sittingSurfaces_fresh
    (by decide +kernel) (by decide +kernel)
  have hmode : ((operate sittingEnv (run (operate sittingEnv) sittingSurfaces (sitsDown ++ [.tick (tickAt 1)]))
      (.tick (tickAt 4))).renderer.renderLayout.map (·.mode)) = some .overflow := by
    decide +kernel
  have hhidden : (operate sittingEnv (run (operate sittingEnv) sittingSurfaces (sitsDown ++ [.tick (tickAt 1)]))
      (.tick (tickAt 4))).overlay.visible = false := by
    decide +kernel
  rcases howner with ⟨hbody, -⟩ | ⟨howns, -⟩
  · obtain ⟨layout, hlayout, hoverflow⟩ := Option.map_eq_some_iff.mp hmode
    rw [hbody layout hlayout] at hoverflow
    cases hoverflow
  · exact Bool.false_ne_true (hhidden.symm.trans howns.1.1)

/-- On the first screen the overlay draws the sitting pet, and goes on drawing it. -/
theorem sitting_pet_drawn :
    OneOwner (run (operate sittingEnv) sittingSurfaces (sitsDown ++ [.tick (tickAt 1), .tick (tickAt 1)])) := by
  have hkeeps : StepsMeet (substep TickPoint.first (TickPoint.next sittingEnv))
      (AtPoint fun p s => ¬LosesOwner sittingEnv s p) ⟨sittingSurfaces, none⟩
      (substeps (fun _ => 5) (sitsDown ++ [.tick (tickAt 1), .tick (tickAt 1)])) := by
    decide +kernel
  have howners := owners_throughout sittingSurfaces_fresh _ hkeeps
  exact howners.2.2.2.1 (tickAt 1) rfl (by decide +kernel) (by decide +kernel)

end PetSurfaces

end ArkClaw.Presentation
