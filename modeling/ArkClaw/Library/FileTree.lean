import Mathlib.Data.List.Infix
import Mathlib.Data.List.Pairwise

/-!
# A tree of directories and files

A node stands at a path and has an identity, which it keeps when it is moved or when a directory above it is. In a
`FileTree` every path holds one node at most, every identity is given once, and all above a node is a directory; the
two changes below ask for what keeps this so.

`subtree` is all that stands at a path and below, each node with its place under that path. A change leaves alone every
subtree that is apart from the paths it is about (`subtree_insert`, `subtree_rename_apart`), a moved subtree is found
whole where it was moved to (`subtree_rename`), and no two places hold the same nodes (`subtree_injective`).
-/

namespace ArkClaw.Library

open List (prefix_append prefix_append_right_inj append_nil mem_singleton mem_map mem_map_of_mem)

variable {ν χ : Type}

/-! ## Paths -/

/-- What is left of a path below another. -/
def relativeTo [DecidableEq ν] : List ν → List ν → Option (List ν)
  | [], q => some q
  | _ :: _, [] => none
  | a :: p, b :: q => if a = b then relativeTo p q else none

theorem relativeTo_eq_some [DecidableEq ν] {p q r : List ν} : relativeTo p q = some r ↔ q = p ++ r := by
  induction p generalizing q with
  | nil => simp [relativeTo]
  | cons a p ih =>
    cases q with
    | nil => simp [relativeTo]
    | cons b q =>
      by_cases hab : a = b
      · simp [relativeTo, hab, ih]
      · simp [relativeTo, hab, Ne.symm hab]

@[simp] theorem relativeTo_append [DecidableEq ν] (p r : List ν) : relativeTo p (p ++ r) = some r :=
  relativeTo_eq_some.mpr rfl

@[simp] theorem relativeTo_append_append [DecidableEq ν] (p q r : List ν) :
    relativeTo (p ++ q) (p ++ r) = relativeTo q r := by
  induction p with
  | nil => rfl
  | cons a p ih => simpa [relativeTo] using ih

theorem relativeTo_eq_none [DecidableEq ν] {p q : List ν} : relativeTo p q = none ↔ ¬p <+: q := by
  rw [Option.eq_none_iff_forall_ne_some]
  constructor
  · rintro h ⟨r, rfl⟩
    exact h r (relativeTo_append p r)
  · intro h r hr
    exact h ⟨r, (relativeTo_eq_some.mp hr).symm⟩

/-- Neither path is at or above the other. -/
structure Apart (p q : List ν) : Prop where
  not_above : ¬p <+: q
  not_below : ¬q <+: p

theorem Apart.symm {p q : List ν} (h : Apart p q) : Apart q p := ⟨h.not_below, h.not_above⟩

/-- What is below one of two paths apart is apart from the other. -/
theorem Apart.append {p q : List ν} (h : Apart p q) (r : List ν) : Apart p (q ++ r) where
  not_above hp :=
    (List.prefix_or_prefix_of_prefix hp (prefix_append q r)).elim h.not_above h.not_below
  not_below hq := h.not_below ((prefix_append q r).trans hq)

theorem apart_append_iff {p q r : List ν} : Apart (p ++ q) (p ++ r) ↔ Apart q r :=
  ⟨fun h => ⟨fun hq => h.not_above ((prefix_append_right_inj p).mpr hq),
      fun hr => h.not_below ((prefix_append_right_inj p).mpr hr)⟩,
    fun h => ⟨fun hq => h.not_above ((prefix_append_right_inj p).mp hq),
      fun hr => h.not_below ((prefix_append_right_inj p).mp hr)⟩⟩

/-- What is above a path is at or above the path without its last name. -/
theorem prefix_dropLast {p q : List ν} (h : q <+: p) (hne : q ≠ p) : q <+: p.dropLast := by
  rcases List.eq_nil_or_concat p with rfl | ⟨p', a, rfl⟩
  · exact absurd (List.prefix_nil.mp h) hne
  · rw [List.concat_eq_append] at h hne ⊢
    rw [List.dropLast_concat]
    exact (List.prefix_concat_iff.mp h).resolve_left hne

/-! ## Trees -/

inductive FileKind (χ : Type) where
  | dir
  | file (content : χ)

def FileKind.isDir : FileKind χ → Bool
  | .dir => true
  | .file _ => false

@[simp] theorem FileKind.isDir_iff {kind : FileKind χ} : kind.isDir = true ↔ kind = .dir := by
  cases kind <;> simp [isDir]

structure FileNode (ν χ : Type) where
  path : List ν
  id : Nat
  kind : FileKind χ

structure FileTree (ν χ : Type) where
  nodes : List (FileNode ν χ)
  /-- The identity of the next node to be made. -/
  next : Nat
  /-- A path holds one node. -/
  places : nodes.Pairwise fun n m => n.path ≠ m.path
  /-- An identity is given once. -/
  ids : nodes.Pairwise fun n m => n.id ≠ m.id
  /-- The next identity is a new one. -/
  fresh : ∀ n ∈ nodes, n.id < next
  /-- What is above a node is a directory. -/
  closed : ∀ n ∈ nodes, ∀ p, p <+: n.path → p ≠ n.path → ∃ m ∈ nodes, m.path = p ∧ m.kind = .dir

namespace FileTree

variable [DecidableEq ν]

def has (t : FileTree ν χ) (p : List ν) : Bool := t.nodes.any fun n => decide (n.path = p)

def isDir (t : FileTree ν χ) (p : List ν) : Bool := t.nodes.any fun n => decide (n.path = p) && n.kind.isDir

/-- All that stands at a path and below, each node with its place under the path. -/
def subtree (t : FileTree ν χ) (p : List ν) : List (List ν × Nat × FileKind χ) :=
  t.nodes.filterMap fun n => (relativeTo p n.path).map fun r => (r, n.id, n.kind)

section

variable {t : FileTree ν χ} {p q s : List ν}

theorem has_iff : t.has p = true ↔ ∃ n ∈ t.nodes, n.path = p := by
  simp [has]

theorem isDir_iff : t.isDir p = true ↔ ∃ n ∈ t.nodes, n.path = p ∧ n.kind = .dir := by
  simp [isDir]

theorem mem_subtree {r : List ν} {i : Nat} {kind : FileKind χ} :
    (r, i, kind) ∈ t.subtree p ↔ ⟨p ++ r, i, kind⟩ ∈ t.nodes := by
  simp only [subtree, List.mem_filterMap, Option.map_eq_some_iff, relativeTo_eq_some, Prod.mk.injEq]
  constructor
  · rintro ⟨⟨path, id, k⟩, hn, r', hpath, rfl, rfl, rfl⟩
    subst hpath
    exact hn
  · intro hn
    exact ⟨_, hn, r, rfl, rfl, rfl, rfl⟩

theorem isDir_iff_subtree : t.isDir p = true ↔ ∃ i, ([], i, .dir) ∈ t.subtree p := by
  simp only [isDir_iff, mem_subtree, append_nil]
  constructor
  · rintro ⟨⟨_, i, _⟩, hn, rfl, rfl⟩
    exact ⟨i, hn⟩
  · rintro ⟨i, hn⟩
    exact ⟨_, hn, rfl, rfl⟩

theorem has_iff_subtree : t.has p = true ↔ ∃ i kind, ([], i, kind) ∈ t.subtree p := by
  simp only [has_iff, mem_subtree, append_nil]
  constructor
  · rintro ⟨⟨_, i, kind⟩, hn, rfl⟩
    exact ⟨i, kind, hn⟩
  · rintro ⟨i, kind, hn⟩
    exact ⟨_, hn, rfl⟩

theorem has_of_isDir (h : t.isDir p = true) : t.has p = true := by
  obtain ⟨n, hn, hpath, -⟩ := isDir_iff.mp h
  exact has_iff.mpr ⟨n, hn, hpath⟩

/-- What is above something is a directory. -/
theorem isDir_of_above (h : t.has q = true) (hp : p <+: q) (hne : p ≠ q) : t.isDir p = true := by
  obtain ⟨n, hn, rfl⟩ := has_iff.mp h
  exact isDir_iff.mpr (t.closed n hn p hp hne)

theorem has_of_above (h : t.has q = true) (hp : p <+: q) : t.has p = true := by
  by_cases hne : p = q
  · exact hne ▸ h
  · exact has_of_isDir (isDir_of_above h hp hne)

/-- Nothing is below a place that holds nothing. -/
theorem not_below_of_free (h : t.has q = false) {n : FileNode ν χ} (hn : n ∈ t.nodes) : ¬q <+: n.path := by
  intro hq
  rw [has_of_above (has_iff.mpr ⟨n, hn, rfl⟩) hq] at h
  cases h

/-- One place holds a node, so what stands at two places is not the same. -/
theorem subtree_injective (h : t.subtree p = t.subtree q) (hp : t.has p = true) : p = q := by
  obtain ⟨i, kind, hn⟩ := has_iff_subtree.mp hp
  have hm := mem_subtree.mp (h ▸ hn)
  have hn := mem_subtree.mp hn
  rw [append_nil] at hm hn
  by_contra hne
  have hsymm : Std.Symm fun n m : FileNode ν χ => n.id ≠ m.id := ⟨fun _ _ => Ne.symm⟩
  exact t.ids.forall hn hm (fun h => hne (congrArg FileNode.path h)) rfl

end

/-! ## Changes -/

/-- The tree of a root directory alone. -/
def empty : FileTree ν χ where
  nodes := [⟨[], 0, .dir⟩]
  next := 1
  places := List.pairwise_singleton _ _
  ids := List.pairwise_singleton _ _
  fresh := by
    intro n hn
    obtain rfl := mem_singleton.mp hn
    exact Nat.one_pos
  closed := by
    intro n hn p hp hne
    obtain rfl := mem_singleton.mp hn
    exact absurd (List.prefix_nil.mp hp) hne

/-- A new node below a directory. -/
def insert (t : FileTree ν χ) (p : List ν) (kind : FileKind χ) (free : t.has p = false)
    (parent : t.isDir p.dropLast = true) : FileTree ν χ where
  nodes := t.nodes ++ [⟨p, t.next, kind⟩]
  next := t.next + 1
  places := by
    rw [List.pairwise_append]
    refine ⟨t.places, List.pairwise_singleton _ _, ?_⟩
    intro n hn m hm
    obtain rfl := mem_singleton.mp hm
    intro heq
    exact not_below_of_free free hn (heq ▸ List.prefix_refl _)
  ids := by
    rw [List.pairwise_append]
    refine ⟨t.ids, List.pairwise_singleton _ _, ?_⟩
    intro n hn m hm
    obtain rfl := mem_singleton.mp hm
    exact (t.fresh n hn).ne
  fresh := by
    intro n hn
    rcases List.mem_append.mp hn with hn | hn
    · exact (t.fresh n hn).trans (Nat.lt_succ_self _)
    · obtain rfl := mem_singleton.mp hn
      exact Nat.lt_succ_self _
  closed := by
    intro n hn q hq hne
    have hdir : t.isDir q = true := by
      rcases List.mem_append.mp hn with hn | hn
      · exact isDir_iff.mpr (t.closed n hn q hq hne)
      · obtain rfl := mem_singleton.mp hn
        have habove := prefix_dropLast hq hne
        by_cases heq : q = p.dropLast
        · exact heq ▸ parent
        · exact isDir_of_above (has_of_isDir parent) habove heq
    obtain ⟨m, hm, hpath⟩ := isDir_iff.mp hdir
    exact ⟨m, List.mem_append_left _ hm, hpath⟩

/-- Where a node stands once what is at `p` has been moved to `q`. -/
def moved (p q : List ν) (n : FileNode ν χ) : FileNode ν χ :=
  match relativeTo p n.path with
  | some r => { n with path := q ++ r }
  | none => n

theorem moved_below {p q r : List ν} {n : FileNode ν χ} (h : n.path = p ++ r) :
    moved p q n = { n with path := q ++ r } := by
  simp only [moved, relativeTo_eq_some.mpr h]

theorem moved_apart {p q : List ν} {n : FileNode ν χ} (h : ¬p <+: n.path) : moved p q n = n := by
  simp only [moved, relativeTo_eq_none.mpr h]

@[simp] theorem moved_id (p q : List ν) (n : FileNode ν χ) : (moved p q n).id = n.id := by
  unfold moved
  split <;> rfl

@[simp] theorem moved_kind (p q : List ν) (n : FileNode ν χ) : (moved p q n).kind = n.kind := by
  unfold moved
  split <;> rfl

/-- Move what is at `p` to `q`, which is free, below a directory and not inside what is moved. -/
def rename (t : FileTree ν χ) (p q : List ν) (free : t.has q = false) (parent : t.isDir q.dropLast = true)
    (out : ¬p <+: q) : FileTree ν χ where
  nodes := t.nodes.map (moved p q)
  next := t.next
  places := by
    rw [List.pairwise_map]
    refine t.places.imp_of_mem ?_
    intro n m hn hm hne
    by_cases hp : p <+: n.path <;> by_cases hp' : p <+: m.path
    · obtain ⟨r, hr⟩ := hp
      obtain ⟨r', hr'⟩ := hp'
      rw [moved_below hr.symm, moved_below hr'.symm]
      simpa [← hr, ← hr'] using hne
    · obtain ⟨r, hr⟩ := hp
      rw [moved_below hr.symm, moved_apart hp']
      intro heq
      exact not_below_of_free free hm (heq ▸ prefix_append q r)
    · obtain ⟨r', hr'⟩ := hp'
      rw [moved_apart hp, moved_below hr'.symm]
      intro heq
      exact not_below_of_free free hn (heq ▸ prefix_append q r')
    · rw [moved_apart hp, moved_apart hp']
      exact hne
  ids := by
    rw [List.pairwise_map]
    simpa using t.ids
  fresh := by
    intro n hn
    obtain ⟨m, hm, rfl⟩ := mem_map.mp hn
    simpa using t.fresh m hm
  closed := by
    intro n hn s hs hne
    obtain ⟨m, hm, rfl⟩ := mem_map.mp hn
    by_cases hp : p <+: m.path
    · obtain ⟨r, hr⟩ := hp
      rw [moved_below hr.symm] at hs hne
      rcases List.prefix_or_prefix_of_prefix hs (prefix_append q r) with hsq | ⟨r', rfl⟩
      · by_cases heq : s = q
        · -- the moved node itself is a directory, for something is below it
          subst heq
          have hdir := t.closed m hm p ⟨r, hr⟩ (by
            rintro rfl
            exact hne (by simpa using (List.self_eq_append_right.mp hr.symm).symm))
          obtain ⟨k, hk, hpath, hkind⟩ := hdir
          refine ⟨_, mem_map_of_mem hk, ?_, by simpa using hkind⟩
          rw [moved_below (r := []) (by simpa using hpath)]
          simp
        · have habove := prefix_dropLast hsq heq
          have hdir : t.isDir s = true := by
            by_cases hlast : s = q.dropLast
            · exact hlast ▸ parent
            · exact isDir_of_above (has_of_isDir parent) habove hlast
          obtain ⟨k, hk, hpath, hkind⟩ := isDir_iff.mp hdir
          refine ⟨_, mem_map_of_mem hk, ?_, by simpa using hkind⟩
          rw [moved_apart (by rw [hpath]; exact fun h => out (h.trans hsq))]
          exact hpath
      · have hr' : r' <+: r := (prefix_append_right_inj q).mp hs
        have hdir := t.closed m hm (p ++ r') (by rw [← hr]; exact (prefix_append_right_inj p).mpr hr')
          (by rw [← hr]; intro h; exact hne (by rw [List.append_cancel_left h]))
        obtain ⟨k, hk, hpath, hkind⟩ := hdir
        refine ⟨_, mem_map_of_mem hk, ?_, by simpa using hkind⟩
        rw [moved_below hpath]
    · rw [moved_apart hp] at hs hne
      obtain ⟨k, hk, hpath, hkind⟩ := t.closed m hm s hs hne
      refine ⟨_, mem_map_of_mem hk, ?_, by simpa using hkind⟩
      rw [moved_apart (by rw [hpath]; exact fun h => hp (h.trans hs))]
      exact hpath

section

variable {t : FileTree ν χ} {p q s : List ν}
variable {kind : FileKind χ}

/-- A new node is in the subtrees above it. -/
theorem subtree_insert {free : t.has p = false} {parent : t.isDir p.dropLast = true}
    (h : ¬s <+: p) : (t.insert p kind free parent).subtree s = t.subtree s := by
  simp [subtree, insert, relativeTo_eq_none.mpr h]

theorem has_insert (free : t.has p = false) (parent : t.isDir p.dropLast = true) :
    (t.insert p kind free parent).has s = true ↔ t.has s = true ∨ s = p := by
  simp only [has, insert, List.any_append, List.any_cons, List.any_nil, Bool.or_false, Bool.or_eq_true,
    decide_eq_true_eq, @eq_comm _ p s]

theorem isDir_insert (free : t.has p = false) (parent : t.isDir p.dropLast = true)
    (h : t.isDir s = true) : (t.insert p kind free parent).isDir s = true := by
  obtain ⟨n, hn, hpath⟩ := isDir_iff.mp h
  exact isDir_iff.mpr ⟨n, List.mem_append_left _ hn, hpath⟩

theorem isDir_insert_self (free : t.has p = false) (parent : t.isDir p.dropLast = true) :
    (t.insert p .dir free parent).isDir p = true :=
  isDir_iff.mpr ⟨_, List.mem_append_right _ (List.mem_singleton_self _), rfl, rfl⟩

/-- What is new stands alone where it is put. -/
theorem subtree_insert_self (free : t.has p = false) (parent : t.isDir p.dropLast = true) :
    (t.insert p kind free parent).subtree p = [([], t.next, kind)] := by
  have hnone : t.subtree p = [] := by
    simp only [subtree, List.filterMap_eq_nil_iff, Option.map_eq_none_iff]
    intro n hn
    exact relativeTo_eq_none.mpr (not_below_of_free free hn)
  have hself : relativeTo p p = some [] := relativeTo_eq_some.mpr (append_nil p).symm
  rw [subtree] at hnone ⊢
  simp [insert, hnone, hself]

variable {free : t.has q = false} {parent : t.isDir q.dropLast = true} {out : ¬p <+: q}

/-- What is moved is found whole where it was moved to. -/
theorem subtree_rename (r : List ν) : (t.rename p q free parent out).subtree (q ++ r) = t.subtree (p ++ r) := by
  rw [subtree, subtree, rename, List.filterMap_map]
  apply List.filterMap_congr
  intro n hn
  by_cases hp : p <+: n.path
  · obtain ⟨x, hx⟩ := hp
    simp only [Function.comp_apply, moved_below hx.symm, ← hx, relativeTo_append_append]
  · have hpr : ¬p ++ r <+: n.path := fun h => hp ((prefix_append p r).trans h)
    have hqr : ¬q ++ r <+: n.path := fun h => not_below_of_free free hn ((prefix_append q r).trans h)
    simp only [Function.comp_apply, moved_apart hp, relativeTo_eq_none.mpr hpr, relativeTo_eq_none.mpr hqr]

/-- What is apart from both places stays as it is. -/
theorem subtree_rename_apart (hp : Apart s p) (hq : Apart s q) :
    (t.rename p q free parent out).subtree s = t.subtree s := by
  rw [subtree, subtree, rename, List.filterMap_map]
  apply List.filterMap_congr
  intro n hn
  by_cases hbelow : p <+: n.path
  · obtain ⟨r, hr⟩ := hbelow
    rw [Function.comp_apply, moved_below hr.symm, ← hr, relativeTo_eq_none.mpr (hq.append r).not_above,
      relativeTo_eq_none.mpr (hp.append r).not_above]
  · rw [Function.comp_apply, moved_apart hbelow]

/-- A place that is not in what is moved, nor in what it becomes, holds what it held. -/
theorem has_rename (hp : ¬p <+: s) (hq : ¬q <+: s) : (t.rename p q free parent out).has s = t.has s := by
  rw [Bool.eq_iff_iff, has_iff, has_iff]
  constructor
  · rintro ⟨n, hn, rfl⟩
    obtain ⟨m, hm, rfl⟩ := mem_map.mp hn
    by_cases hbelow : p <+: m.path
    · obtain ⟨r, hr⟩ := hbelow
      rw [moved_below hr.symm] at hq
      exact absurd (prefix_append q r) hq
    · exact ⟨m, hm, by rw [moved_apart hbelow]⟩
  · rintro ⟨n, hn, rfl⟩
    exact ⟨_, mem_map_of_mem hn, by rw [moved_apart hp]⟩

/-- What is not moved stays. -/
theorem has_rename_of_has (h : t.has s = true) (hp : ¬p <+: s) : (t.rename p q free parent out).has s = true := by
  obtain ⟨n, hn, rfl⟩ := has_iff.mp h
  exact has_iff.mpr ⟨_, mem_map_of_mem hn, by rw [moved_apart hp]⟩

end

end FileTree

end ArkClaw.Library
