import ArkClaw.Library.JsonRoundTrip

/-!
# The members of a dictionary

The order of its members says nothing about a dictionary: a lookup finds the same value in every order, since the keys
differ. The texts of a value are those it holds at any depth; a value that holds only texts is read back from its
compact form if the surrogates of none of them join.
-/

namespace ArkClaw.Library

theorem char_toNat_injective {c d : Char} (h : c.toNat = d.toNat) : c = d :=
  Char.ext (UInt32.toNat_inj.mp h)

@[simp]
theorem lit_inj {s t : String} : lit s = lit t ↔ s = t := by
  constructor
  · intro h
    apply String.toList_inj.mp
    refine List.map_injective_iff.mpr ?_ h
    intro c d hcd
    exact char_toNat_injective (Fin.mk.inj hcd)
  · rintro rfl
    rfl

namespace Json

namespace Members

theorem get?_eq_some {members : Members} (hkeys : (members.map Prod.fst).Nodup) {key : Text} {value : Json} :
    members.get? key = some value ↔ (key, value) ∈ members := by
  induction members with
  | nil => simp [get?]
  | cons m rest ih =>
    obtain ⟨k, v⟩ := m
    obtain ⟨hk, hrest⟩ := List.nodup_cons.mp hkeys
    by_cases hkey : k = key
    · subst hkey
      have hout : (k, value) ∉ rest := fun hmem => hk (List.mem_map.mpr ⟨_, hmem, rfl⟩)
      simp [get?, hout, eq_comm]
    · simp [get?, hkey, ih hrest, Ne.symm hkey]

/-- Two lists of the same members give the same values. -/
theorem get?_perm {members members' : Members} (hperm : members.Perm members') (hkeys : (members.map Prod.fst).Nodup)
    (key : Text) : members.get? key = members'.get? key := by
  have hkeys' : (members'.map Prod.fst).Nodup := (hperm.map Prod.fst).nodup_iff.mp hkeys
  apply Option.ext
  intro value
  rw [get?_eq_some hkeys, get?_eq_some hkeys', hperm.mem_iff]

end Members

/-- What the members of a dictionary are in their own order. -/
theorem perm_dict (members : Members) : (members.insertionSort KeyLE).Perm members := List.perm_insertionSort KeyLE members

/-! ## The texts of a value -/

mutual

/-- The texts a value holds, its keys among them. -/
def texts : Json → List Text
  | .str value => [value]
  | .arr items => textsItems items
  | .obj members => textsMembers members
  | _ => []

def textsItems : List Json → List Text
  | [] => []
  | item :: rest => texts item ++ textsItems rest

def textsMembers : List (Text × Json) → List Text
  | [] => []
  | (key, value) :: rest => key :: texts value ++ textsMembers rest

end

theorem textsItems_eq (items : List Json) : textsItems items = items.flatMap texts := by
  induction items with
  | nil => rfl
  | cons item rest ih => rw [textsItems, ih, List.flatMap_cons]

theorem textsMembers_eq (members : Members) : textsMembers members = members.flatMap fun m => m.1 :: texts m.2 := by
  induction members with
  | nil => rfl
  | cons m rest ih => rw [textsMembers, ih, List.flatMap_cons]

theorem texts_arr (items : List Json) : texts (.arr items) = items.flatMap texts := by
  rw [texts, textsItems_eq]

theorem texts_obj (members : Members) : texts (.obj members) = members.flatMap fun m => m.1 :: texts m.2 := by
  rw [texts, textsMembers_eq]

theorem mem_texts_dict {members : Members} {s : Text} :
    s ∈ texts (dict members) ↔ ∃ m ∈ members, s = m.1 ∨ s ∈ texts m.2 := by
  rw [dict, texts_obj, List.mem_flatMap]
  exact exists_congr fun m => by rw [(perm_dict members).mem_iff, List.mem_cons]

/-- A value of texts, nested this deep at most. -/
inductive TextTree : Nat → Json → Prop
  | str {n : Nat} (value : Text) : TextTree n (.str value)
  | arr {n : Nat} {items : List Json} (h : ∀ item ∈ items, TextTree n item) : TextTree (n + 1) (.arr items)
  | dict {n : Nat} {members : Members} (hkeys : (members.map Prod.fst).Nodup) (h : ∀ m ∈ members, TextTree n m.2) :
    TextTree (n + 1) (dict members)

theorem TextTree.wellFormed {floats : FloatReader} {n : Nat} {value : Json} (h : TextTree n value)
    (htexts : ∀ s ∈ value.texts, Unpaired s) : WellFormed floats value := by
  induction h with
  | str value => exact .str (htexts value List.mem_cons_self)
  | arr h ih =>
    refine .arr fun item hitem => ih item hitem fun s hs => htexts s ?_
    rw [texts_arr]
    exact List.mem_flatMap.mpr ⟨item, hitem, hs⟩
  | dict hkeys h ih =>
    refine wellFormed_dict hkeys fun m hm => ⟨htexts m.1 ?_, ih m hm fun s hs => htexts s ?_⟩
    · exact mem_texts_dict.mpr ⟨m, hm, .inl rfl⟩
    · exact mem_texts_dict.mpr ⟨m, hm, .inr hs⟩

end Json

end ArkClaw.Library
