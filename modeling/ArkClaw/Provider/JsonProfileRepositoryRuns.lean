import ArkClaw.Library.Runs
import ArkClaw.Provider.JsonProfileRepository
import Mathlib.Data.List.Nodup
import Mathlib.Data.Option.Basic

/-!
# What the metadata file holds

Whatever the calls are and however the file system answers them, the file holds the document of a snapshot whose records
refer to each other as they should, and a call that raises has left the file alone.
-/

namespace ArkClaw.Provider

open ArkClaw.Library ArkClaw.Domain

namespace MetadataSnapshot

/-- The records refer to each other as they should. -/
structure Integrity (s : MetadataSnapshot) : Prop where
  profile_ids : (s.profiles.map (·.profileId)).Nodup
  credential_ids : (s.credentialBindings.map (·.credentialId)).Nodup
  bound : ∀ p ∈ s.profiles, ∀ credentialId, p.credentialId = some credentialId →
    ∃ b ∈ s.credentialBindings, b.credentialId = credentialId ∧ b.providerId = p.providerId ∧
      some b.allowedOrigin = p.origin
  active_stored : ∀ profileId, s.activeProfileId = some profileId → ∃ p ∈ s.profiles, p.profileId = profileId

section

variable {io : DocumentIo} {s s' : MetadataSnapshot}

theorem activeStored (s : MetadataSnapshot) (profileId : ProfileId) (h : s.activeProfileId = some profileId) :
    ∃ p ∈ s.profiles, p.profileId = profileId :=
  profileOf_ne_none.mp (s.active_stored profileId h)

theorem bindingForProfile_ne_none {p : ProviderProfile} {bindings : List CredentialBinding}
    (h : bindingForProfile p bindings ≠ none) : ∃ b ∈ bindings, some b.credentialId = p.credentialId ∧
      b.providerId = p.providerId ∧ some b.allowedOrigin = p.origin := by
  obtain ⟨b, hb⟩ := Option.ne_none_iff_exists'.mp h
  exact ⟨b, List.mem_of_find?_eq_some hb, by simpa using List.find?_some hb⟩

theorem Integrity.sortProfiles (h : s.Integrity) : s.sortProfiles.Integrity := by
  constructor
  · exact ((List.mergeSort_perm s.profiles _).map _).nodup_iff.mpr h.profile_ids
  · exact h.credential_ids
  · exact fun p hp => h.bound p (mem_sortedProfiles.mp hp)
  · exact s.sortProfiles.activeStored

theorem Integrity.sortBindings (h : s.Integrity) : s.sortBindings.Integrity := by
  constructor
  · exact h.profile_ids
  · exact ((List.mergeSort_perm s.credentialBindings _).map _).nodup_iff.mpr h.credential_ids
  · intro p hp credentialId hcredential
    obtain ⟨b, hb, hfits⟩ := h.bound p hp credentialId hcredential
    exact ⟨b, mem_sortedBindings.mpr hb, hfits⟩
  · exact s.sortBindings.activeStored

/-! ## Profiles -/

theorem storeProfile_ids (profile : ProviderProfile) (profiles : List ProviderProfile) :
    (storeProfile profile profiles).map (·.profileId) =
      if profile.profileId ∈ profiles.map (·.profileId) then profiles.map (·.profileId)
      else profiles.map (·.profileId) ++ [profile.profileId] := by
  induction profiles with
  | nil => simp [storeProfile]
  | cons p rest ih =>
    unfold storeProfile
    by_cases hsame : p.profileId = profile.profileId
    · simp [hsame]
    · have hne : ¬profile.profileId = p.profileId := fun h => hsame h.symm
      rw [if_neg hsame, List.map_cons, ih]
      by_cases hmem : profile.profileId ∈ rest.map (·.profileId)
      · simp [hne, hmem]
      · simp [hne, hmem]

theorem saveProfile_integrity {profile : ProviderProfile} (h : s.Integrity) (hsave : s.saveProfile io profile = .ok s') :
    s'.Integrity := by
  unfold saveProfile at hsave
  split at hsave
  next =>
    have hsave := of_read hsave
    split at hsave
    · cases hsave
    next hbinding =>
      split at hsave
      · cases hsave
      · rw [write_ok hsave]
        constructor
        · show ((storeProfile profile s.profiles).map (·.profileId)).Nodup
          rw [storeProfile_ids]
          split
          · exact h.profile_ids
          next hnew => exact List.nodup_append.mpr ⟨h.profile_ids, List.nodup_singleton _, by simpa using hnew⟩
        · exact h.credential_ids
        · intro p hp credentialId hcredential
          rcases mem_storeProfile hp with rfl | hp
          · have hfound : bindingForProfile p s.credentialBindings ≠ none := fun hnone =>
              hbinding ⟨by simp [hcredential], hnone⟩
            obtain ⟨b, hb, hid, hfits⟩ := bindingForProfile_ne_none hfound
            exact ⟨b, hb, Option.some.inj (hid.trans hcredential), hfits⟩
          · exact h.bound p hp credentialId hcredential
        · exact activeStored _
  next => cases hsave

theorem deleteProfile_integrity {profileId : ProfileId} (h : s.Integrity)
    (hdelete : s.deleteProfile io profileId = .ok s') : s'.Integrity := by
  have hdelete := of_read hdelete
  dsimp only at hdelete
  split at hdelete
  next => cases hdelete
  next =>
    split at hdelete
    · cases hdelete
    · rw [write_ok hdelete]
      constructor
      · exact h.profile_ids.sublist (List.filter_sublist.map _)
      · exact h.credential_ids
      · exact fun p hp => h.bound p (List.mem_filter.mp hp).1
      · exact activeStored _

theorem setActiveProfileId_integrity {profileId : ProfileId} (h : s.Integrity)
    (hset : s.setActiveProfileId io profileId = .ok s') : s'.Integrity := by
  have hset := of_read hset
  split at hset
  · cases hset
  · split at hset
    · cases hset
    · rw [write_ok hset]
      exact ⟨h.profile_ids, h.credential_ids, h.bound, activeStored _⟩

/-! ## Bindings -/

theorem saveCredentialBinding_integrity {binding : CredentialBinding} (h : s.Integrity)
    (hsave : s.saveCredentialBinding io binding = .ok s') : s'.Integrity := by
  unfold saveCredentialBinding at hsave
  split at hsave
  next =>
    have hsave := of_read hsave
    split at hsave
    next hnew =>
      rw [write_ok hsave]
      have hfresh : binding.credentialId ∉ s.credentialBindings.map (·.credentialId) := by
        intro hmem
        obtain ⟨b, hb, hid⟩ := List.mem_map.mp hmem
        exact absurd hid (by simpa using List.find?_eq_none.mp hnew b hb)
      constructor
      · exact h.profile_ids
      · rw [List.map_append]
        exact List.nodup_append.mpr ⟨h.credential_ids, List.nodup_singleton _, by simpa using hfresh⟩
      · intro p hp credentialId hcredential
        obtain ⟨b, hb, hfits⟩ := h.bound p hp credentialId hcredential
        exact ⟨b, List.mem_append_left _ hb, hfits⟩
      · exact activeStored _
    next existing hexisting =>
      split at hsave
      · cases hsave
      next hsame =>
        rw [write_ok hsave]
        rw [not_or, not_not, not_not] at hsame
        have hids : (s.credentialBindings.map fun b => if b.credentialId = binding.credentialId then binding else b).map
            (·.credentialId) = s.credentialBindings.map (·.credentialId) := by
          rw [List.map_map]
          apply List.map_congr_left
          intro b _
          by_cases hid : b.credentialId = binding.credentialId <;> simp [hid]
        have hexistingId : existing.credentialId = binding.credentialId := by simpa using List.find?_some hexisting
        have hexistingMem := List.mem_of_find?_eq_some hexisting
        constructor
        · exact h.profile_ids
        · exact hids ▸ h.credential_ids
        · intro p hp credentialId hcredential
          obtain ⟨b, hb, hid, hprovider, horigin⟩ := h.bound p hp credentialId hcredential
          by_cases hreplaced : b.credentialId = binding.credentialId
          · -- the replaced binding is the existing one, and agrees with the new one
            have hb' : b = existing :=
              List.inj_on_of_nodup_map h.credential_ids hb hexistingMem (hreplaced.trans hexistingId.symm)
            subst hb'
            refine ⟨binding, List.mem_map.mpr ⟨b, hb, if_pos hreplaced⟩, hreplaced ▸ hid, ?_, ?_⟩
            · rw [← hsame.1, hprovider]
            · rw [← hsame.2, horigin]
          · exact ⟨b, List.mem_map.mpr ⟨b, hb, if_neg hreplaced⟩, hid, hprovider, horigin⟩
        · exact activeStored _
  next => cases hsave

theorem deleteCredentialBinding_integrity {credentialId : CredentialId} (h : s.Integrity)
    (hdelete : s.deleteCredentialBinding io credentialId = .ok s') : s'.Integrity := by
  have hdelete := of_read hdelete
  dsimp only at hdelete
  split at hdelete
  · cases hdelete
  next hunreferenced =>
    split at hdelete
    · cases hdelete
    · rw [write_ok hdelete]
      constructor
      · exact h.profile_ids
      · exact h.credential_ids.sublist (List.filter_sublist.map _)
      · intro p hp credentialId' hcredential
        obtain ⟨b, hb, hid, hfits⟩ := h.bound p hp credentialId' hcredential
        refine ⟨b, List.mem_filter.mpr ⟨hb, ?_⟩, hid, hfits⟩
        have hne : b.credentialId ≠ credentialId := by
          rintro rfl
          exact hunreferenced ⟨p, hp, by rw [hcredential, hid]⟩
        simpa using hne
      · exact activeStored _

end

end MetadataSnapshot

/-! ## The file -/

namespace JsonProviderProfileRepository

/-- A file that is there holds the document of a snapshot whose records refer to each other as they should. -/
def Stored (disk : Disk) : Prop :=
  ∀ document, disk.file = some document → ∃ s : MetadataSnapshot, document = snapshotDocument s ∧ s.Integrity

section

variable {migrator : Option Migrator} {io : FileIo} {disk : Disk} {s : MetadataSnapshot}

theorem acceptedSnapshot_integrity {activeProfileId : Option ProfileId} {profiles : List ProviderProfile}
    {bindings : List CredentialBinding} (h : Accepted activeProfileId profiles bindings) :
    (acceptedSnapshot activeProfileId profiles bindings h).Integrity := by
  apply MetadataSnapshot.Integrity.sortBindings
  apply MetadataSnapshot.Integrity.sortProfiles
  refine ⟨h.profile_ids, h.credential_ids, ?_, h.active_stored⟩
  intro p hp credentialId hcredential
  obtain ⟨b, hb, hid, hfits⟩ :=
    MetadataSnapshot.bindingForProfile_ne_none (h.bound p hp (by simp [hcredential]))
  exact ⟨b, hb, Option.some.inj (hid.trans hcredential), hfits⟩

theorem parseSnapshot_integrity {document : Json.Members} (h : parseSnapshot document = .ok s) : s.Integrity := by
  unfold parseSnapshot at h
  dsimp only at h
  split at h
  next => cases h
  next snapshot hparsed =>
    obtain rfl : snapshot = s := Except.ok.inj h
    simp only [Option.bind_eq_bind, Option.bind_eq_some_iff] at hparsed
    obtain ⟨_, _, activeProfileId, _, _, _, _, _, _, _, profiles, _, bindings, _, hparsed⟩ := hparsed
    split at hparsed
    next haccepted =>
      rw [← Option.some.inj hparsed]
      exact acceptedSnapshot_integrity haccepted
    next => cases hparsed

/-- Whatever the file holds, a snapshot that is read from it has its records in order. -/
theorem readSnapshot_integrity (h : readSnapshot migrator io disk = .ok s) : s.Integrity := by
  unfold readSnapshot at h
  split at h
  · cases h
  · split at h
    · rw [← Except.ok.inj h]
      exact ⟨List.nodup_nil, List.nodup_nil, by simp [emptySnapshot], by simp [emptySnapshot]⟩
    · split at h
      · cases h
      · cases hmigrate : migrate migrator _ with
        | error e =>
          rw [hmigrate] at h
          cases h
        | ok document =>
          rw [hmigrate] at h
          exact parseSnapshot_integrity h

/-- A call that reads changes nothing, and returns what the snapshot gives or an unreadable one would. -/
theorem wp_inspect {α : Type} {call : DocumentIo → MetadataSnapshot → Except MetadataError α}
    {Q : α → Disk → Prop} {R : MetadataError → Disk → Prop}
    (hQ : ∀ s, readSnapshot migrator io disk = .ok s → ∀ a, call {} s = .ok a → Q a disk)
    (hfails : ∀ e a, call { unreadable := some e } {} ≠ .ok a) (hR : ∀ e, R e disk) :
    Wp (inspect migrator io call) Q R disk := by
  unfold inspect
  refine wp_get_bind.mpr ?_
  split
  next e _ => exact wp_getOrRaise.mpr ⟨fun a ha => absurd ha (hfails e a), fun e' _ => hR e'⟩
  next s hread => exact wp_getOrRaise.mpr ⟨fun a ha => hQ s hread a ha, fun e' _ => hR e'⟩

/-- A mutation that keeps the records in order. -/
theorem wp_mutate {call : DocumentIo → MetadataSnapshot → Except MetadataError MetadataSnapshot}
    (hfails : ∀ e s, call { unreadable := some e } {} ≠ .ok s)
    (hcall : ∀ s s', s.Integrity → call {} s = .ok s' → s'.Integrity) :
    Wp (mutate migrator io call) (fun _ => Stored) (fun _ disk' => disk' = disk) disk := by
  unfold mutate
  refine wp_bind.mpr (wp_inspect ?_ hfails fun _ => rfl)
  intro s hread s' hs'
  unfold writeSnapshot
  dsimp only
  split
  · intro document hdocument
    exact ⟨s', (Option.some.inj hdocument).symm, hcall s s' (readSnapshot_integrity hread) hs'⟩
  · exact rfl

theorem wp_inspected {α : Type} {call : DocumentIo → MetadataSnapshot → Except MetadataError α}
    (hfails : ∀ e a, call { unreadable := some e } {} ≠ .ok a) (h : Stored disk) :
    Wp (inspect migrator io call) (fun _ => Stored) (fun _ disk' => disk' = disk) disk :=
  wp_inspect (fun _ _ _ _ => h) hfails fun _ => rfl

/-- A call that reads an unreadable file raises. -/
theorem read_unreadable {α : Type} {f : MetadataSnapshot → Except MetadataError α} (e : MetadataError) (a : α) :
    (MetadataSnapshot.read { unreadable := some e } {} >>= f) ≠ .ok a := nofun

theorem saveProfile_unreadable (profile : ProviderProfile) (e : MetadataError) (s : MetadataSnapshot) :
    MetadataSnapshot.saveProfile { unreadable := some e } {} profile ≠ .ok s := by
  unfold MetadataSnapshot.saveProfile
  split
  · exact read_unreadable e s
  · intro h
    cases h

theorem saveCredentialBinding_unreadable (binding : CredentialBinding) (e : MetadataError) (s : MetadataSnapshot) :
    MetadataSnapshot.saveCredentialBinding { unreadable := some e } {} binding ≠ .ok s := by
  unfold MetadataSnapshot.saveCredentialBinding
  split
  · exact read_unreadable e s
  · intro h
    cases h

theorem map_eq_ok {α β : Type} {f : α → β} {x : Except MetadataError α} {b : β} (h : f <$> x = .ok b) :
    ∃ a, x = .ok a ∧ f a = b := by
  cases x with
  | error e => cases h
  | ok a => exact ⟨a, rfl, Except.ok.inj h⟩

/-- A call returns with the records in order, or raises and has left the file alone. -/
theorem program_spec (h : Stored disk) (op : Operation) :
    Wp (op.program migrator) (fun _ => Stored) (fun _ disk' => disk' = disk) disk := by
  have hinspected : ∀ {α : Type} {call : DocumentIo → MetadataSnapshot → Except MetadataError α},
      (∀ e a, call { unreadable := some e } {} ≠ .ok a) →
      Wp ((fun _ => ()) <$> inspect migrator op.io call) (fun _ => Stored) (fun _ disk' => disk' = disk) disk :=
    fun hfails => wp_map.mpr (wp_inspected hfails h)
  unfold Operation.program
  cases op.kind with
  | listProfiles => exact hinspected fun _ _ => nofun
  | getProfile profileId => exact hinspected fun _ _ => nofun
  | saveProfile profile =>
    refine wp_mutate ?_ ?_
    · intro e s hsave
      obtain ⟨s', hs', _⟩ := map_eq_ok hsave
      exact saveProfile_unreadable profile e s' hs'
    · intro s s' hs hsave
      obtain ⟨saved, hsaved, rfl⟩ := map_eq_ok hsave
      exact (MetadataSnapshot.saveProfile_integrity hs hsaved).sortProfiles
  | deleteProfile profileId =>
    exact wp_mutate (fun e s => read_unreadable e s) fun _ _ hs => MetadataSnapshot.deleteProfile_integrity hs
  | getActiveProfileId => exact hinspected fun _ _ => nofun
  | setActiveProfileId profileId =>
    exact wp_mutate (fun e s => read_unreadable e s) fun _ _ hs => MetadataSnapshot.setActiveProfileId_integrity hs
  | listCredentialBindings => exact hinspected fun _ _ => nofun
  | getCredentialBinding credentialId => exact hinspected fun _ _ => nofun
  | saveCredentialBinding binding =>
    refine wp_mutate ?_ ?_
    · intro e s hsave
      obtain ⟨s', hs', _⟩ := map_eq_ok hsave
      exact saveCredentialBinding_unreadable binding e s' hs'
    · intro s s' hs hsave
      obtain ⟨saved, hsaved, rfl⟩ := map_eq_ok hsave
      exact (MetadataSnapshot.saveCredentialBinding_integrity hs hsaved).sortBindings
  | deleteCredentialBinding credentialId =>
    exact wp_mutate (fun e s => read_unreadable e s) fun _ _ hs => MetadataSnapshot.deleteCredentialBinding_integrity hs

theorem step_stored (h : Stored disk) (op : Operation) : Stored (step migrator disk op) :=
  Wp.stateAfter ((program_spec h op).mono (fun _ _ hstored => hstored) fun _ _ hsame => hsame ▸ h)

end

/-- The operation raises. -/
def Raises (migrator : Option Migrator) (disk : Disk) (op : Operation) : Prop :=
  ∃ e disk', (op.program migrator).run disk = .error e disk'

theorem step_of_raises {migrator : Option Migrator} {disk : Disk} (h : Stored disk) (op : Operation)
    (hraises : Raises migrator disk op) : step migrator disk op = disk := by
  obtain ⟨e, disk', hrun⟩ := hraises
  have hspec : Wp (op.program migrator) _ _ disk := program_spec h op
  unfold Wp at hspec
  rw [hrun] at hspec
  unfold step stateAfter
  rw [hrun]
  exact hspec

/-- After every run from an absent file, what the file holds and what is read from it has its records in order, and
every operation that raised had left the file as it was. -/
theorem run_stored (migrator : Option Migrator) (ops : List Operation) : Stored (run (step migrator) {} ops) ∧
      (∀ io s, readSnapshot migrator io (run (step migrator) {} ops) = .ok s → s.Integrity) ∧
      StepsMeet (step migrator) (fun disk op => Raises migrator disk op → step migrator disk op = disk) {} ops := by
  have hstart : Stored {} := fun _ hnone => by cases hnone
  have hkeeps : ∀ disk op, Stored disk → Stored (step migrator disk op) := fun _ op h => step_stored h op
  refine ⟨run_invariant hkeeps _ ops hstart, fun io s hread => readSnapshot_integrity hread, ?_⟩
  exact run_gives hkeeps (fun _ op h => step_of_raises h op) _ ops hstart

end JsonProviderProfileRepository

end ArkClaw.Provider
