import NoteQuery.Proofs.TreePlaces
import Mathlib.Data.List.Lex

/-!
# Places in order

Paths are in order like words in a dictionary: a path comes before those that go on from it, and of
two that part, the one with the smaller number comes first. So nodes in the order of their paths are
nodes in pre-order, a node before what is below it and that before what is to its right.

What there is at some places is listed in their order (`IsListing`) tree by tree: first what there
is in a first tree, and behind it what there is in further trees, whose places have a first number
that is one more (`joined`).
-/

namespace NoteQuery.Tree

/-! ## Places above a place -/

/-- A property of all places above a place, which is none of them. -/
def AllAbove (P : List Nat → Prop) (path : List Nat) : Prop :=
  ∀ above, above <+: path → above ≠ path → P above

theorem allAbove_nil (P : List Nat → Prop) : AllAbove P [] :=
  fun _ hpre hne => absurd (List.prefix_nil.1 hpre) hne

/-- Above a place below the root there are the root and what is above it in the tree below. -/
theorem allAbove_cons_iff {P : List Nat → Prop} {i : Nat} {path : List Nat} :
    AllAbove P (i :: path) ↔ P [] ∧ AllAbove (fun above => P (i :: above)) path := by
  constructor
  · intro h
    refine ⟨h [] List.nil_prefix nofun, fun above hpre hne => ?_⟩
    exact h (i :: above) (List.cons_prefix_cons.2 ⟨rfl, hpre⟩) (by simpa using hne)
  · rintro ⟨hnil, habove⟩ above hpre hne
    cases above with
    | nil => exact hnil
    | cons j above =>
      obtain ⟨rfl, hrest⟩ := List.cons_prefix_cons.1 hpre
      exact habove above hrest (by simpa using hne)

/-! ## Places in several trees -/

/-- The node that a path leads to in several trees, of which its first number takes one. -/
def nodeIn? (ts : List Tree) : List Nat → Option Tree
  | [] => none
  | i :: path => ts[i]?.bind (Tree.nodeAt? path)

/-- The same place if one more tree stands in front. -/
def behind : List Nat → List Nat
  | [] => []
  | i :: path => (i + 1) :: path

/-- Places in a first tree and places in the trees behind it. -/
def joined (first others : List (List Nat)) : List (List Nat) :=
  first.map (fun path => 0 :: path) ++ others.map behind

variable {first others : List (List Nat)} {path path' : List Nat} {i : Nat}

theorem nodeIn?_behind (t : Tree) (ts : List Tree) (path : List Nat) :
    nodeIn? (t :: ts) (behind path) = nodeIn? ts path := by
  cases path <;> rfl

theorem behind_lt_behind_iff : behind path < behind path' ↔ path < path' := by
  cases path <;> cases path' <;> simp [behind, List.cons_lt_cons_iff]

theorem nil_mem_joined_iff : [] ∈ joined first others ↔ [] ∈ others := by
  have hnil : ∀ {path}, behind path = [] ↔ path = [] := by
    intro path
    cases path <;> simp [behind]
  simp [joined, hnil]

theorem zero_mem_joined_iff : 0 :: path ∈ joined first others ↔ path ∈ first := by
  have hnot : ∀ {path'}, behind path' ≠ 0 :: path := by
    intro path'
    cases path' <;> simp [behind]
  simp [joined, hnot]

theorem succ_mem_joined_iff : (i + 1) :: path ∈ joined first others ↔ i :: path ∈ others := by
  have hbehind : ∀ {path'}, behind path' = (i + 1) :: path ↔ path' = i :: path := by
    intro path'
    cases path' <;> simp [behind]
  simp [joined, hbehind]

/-- Places in order stay in order in front of places behind them. -/
theorem pairwise_joined (hfirst : first.Pairwise (· < ·)) (hothers : others.Pairwise (· < ·))
    (hnil : [] ∉ others) : (joined first others).Pairwise (· < ·) := by
  rw [joined, List.pairwise_append, List.pairwise_map, List.pairwise_map]
  refine ⟨hfirst.imp ?_, hothers.imp behind_lt_behind_iff.2, ?_⟩
  · intro a b hab
    exact List.cons_lt_cons_iff.2 (.inr ⟨rfl, hab⟩)
  · intro a ha b hb
    obtain ⟨path, -, rfl⟩ := List.mem_map.1 ha
    obtain ⟨place, hplace, rfl⟩ := List.mem_map.1 hb
    cases place with
    | nil => exact absurd hplace hnil
    | cons i path' => exact List.cons_lt_cons_iff.2 (.inl (Nat.succ_pos i))

/-- In front of a place in a list in order there is what comes before it. -/
theorem mem_front_iff {before after : List (List Nat)}
    (hsorted : (before ++ path :: after).Pairwise (· < ·)) :
    path' ∈ before ↔ path' ∈ before ++ path :: after ∧ path' < path := by
  obtain ⟨-, hbehind, hfront⟩ := List.pairwise_append.1 hsorted
  constructor
  · exact fun h => ⟨List.mem_append_left _ h, hfront path' h path List.mem_cons_self⟩
  · rintro ⟨hmem, hlt⟩
    rcases List.mem_append.1 hmem with h | h
    · exact h
    · rcases List.mem_cons.1 h with rfl | h
      · exact absurd hlt (List.lt_irrefl _)
      · exact absurd hlt (List.lt_asymm ((List.pairwise_cons.1 hbehind).1 path' h))

/-! ## Listings -/

section

variable {α : Type}

/-- What there is at the places with a property, in the order of the places and each place once. -/
def IsListing (value? : List Nat → Option α) (P : List Nat → Prop) (values : List α) : Prop :=
  ∃ places : List (List Nat), places.Pairwise (· < ·) ∧ (∀ path, path ∈ places ↔ P path) ∧
    values.map some = places.map value?

variable {value? first? others? below? : List Nat → Option α} {P Q R : List Nat → Prop} {value : α}
  {values values' : List α}

theorem isListing_nil (hP : ∀ path, ¬ P path) : IsListing value? P [] :=
  ⟨[], .nil, fun path => by simp [hP path], rfl⟩

/-- What there is in a first tree in front of what there is in further trees. -/
theorem IsListing.append (h : IsListing first? P values) (h' : IsListing others? Q values')
    (hfirst : ∀ path, value? (0 :: path) = first? path)
    (hothers : ∀ path, value? (behind path) = others? path)
    (hnilQ : ¬ Q []) (hnil : ¬ R []) (hzero : ∀ path, R (0 :: path) ↔ P path)
    (hsucc : ∀ i path, R ((i + 1) :: path) ↔ Q (i :: path)) :
    IsListing value? R (values ++ values') := by
  obtain ⟨front, hfront, hmem, heq⟩ := h
  obtain ⟨rest, hrest, hmem', heq'⟩ := h'
  have hnilrest : [] ∉ rest := fun h => hnilQ ((hmem' []).1 h)
  refine ⟨joined front rest, pairwise_joined hfront hrest hnilrest, ?_, ?_⟩
  · intro path
    match path with
    | [] => simp [nil_mem_joined_iff, hnilrest, hnil]
    | 0 :: path => rw [zero_mem_joined_iff, hmem, hzero]
    | (i + 1) :: path => rw [succ_mem_joined_iff, hmem', hsucc]
  · rw [joined, List.map_append, List.map_append, List.map_map, List.map_map, heq, heq']
    exact congrArg₂ (· ++ ·) (List.map_congr_left fun path _ => (hfirst path).symm)
      (List.map_congr_left fun path _ => (hothers path).symm)

/-- What there is below a root, without the root. -/
theorem IsListing.below (h : IsListing below? Q values)
    (hbelow : ∀ i path, value? (i :: path) = below? (i :: path))
    (hnil : ¬ Q []) : IsListing value? Q values := by
  obtain ⟨places, hsorted, hmem, heq⟩ := h
  refine ⟨places, hsorted, hmem, heq.trans (List.map_congr_left fun path hpath => ?_)⟩
  cases path with
  | nil => exact absurd ((hmem []).1 hpath) hnil
  | cons i path => exact (hbelow i path).symm

/-- The root in front of what there is below it. -/
theorem IsListing.root_cons (h : IsListing below? Q values)
    (hbelow : ∀ i path, value? (i :: path) = below? (i :: path)) (hroot : value? [] = some value)
    (hnilQ : ¬ Q []) (hnil : P []) (hcons : ∀ i path, P (i :: path) ↔ Q (i :: path)) :
    IsListing value? P (value :: values) := by
  obtain ⟨places, hsorted, hmem, heq⟩ := h.below hbelow hnilQ
  refine ⟨[] :: places, ?_, fun path => ?_, by rw [List.map_cons, List.map_cons, heq, hroot]⟩
  · refine List.pairwise_cons.2 ⟨fun path hpath => ?_, hsorted⟩
    cases path with
    | nil => exact absurd ((hmem []).1 hpath) hnilQ
    | cons i path => exact List.nil_lt_cons i path
  · cases path with
    | nil => simp [hnil]
    | cons i path => simp [hcons, hmem]

theorem IsListing.mem_iff (h : IsListing value? P values) :
    value ∈ values ↔ ∃ path, P path ∧ value? path = some value := by
  obtain ⟨places, -, hmem, heq⟩ := h
  have hsome : value ∈ values ↔ some value ∈ values.map some := by simp
  rw [hsome, heq, List.mem_map]
  simp only [hmem]

/-- The first listed value that satisfies a predicate is the one at the first place with such a
value. -/
theorem IsListing.find?_eq_some_iff (h : IsListing value? P values) (p : α → Bool) :
    values.find? p = some value ↔ ∃ path, P path ∧ value? path = some value ∧ p value = true ∧
      ∀ earlier, P earlier → earlier < path → (value? earlier).any p = false := by
  obtain ⟨places, hsorted, hmem, heq⟩ := h
  rw [List.find?_eq_some_iff_append]
  constructor
  · rintro ⟨hp, front, rest, rfl, hfront⟩
    rw [List.map_append, List.map_cons] at heq
    obtain ⟨before, _, rfl, hbefore, hbehind⟩ := List.map_eq_append_iff.1 heq.symm
    obtain ⟨path, after, rfl, hpath, -⟩ := List.map_eq_cons_iff.1 hbehind
    refine ⟨path, (hmem path).1 (by simp), hpath, hp, fun earlier hearlier hlt => ?_⟩
    have hfound : earlier ∈ before := (mem_front_iff hsorted).2 ⟨(hmem earlier).2 hearlier, hlt⟩
    have hvalue : value? earlier ∈ front.map some := hbefore ▸ List.mem_map_of_mem hfound
    obtain ⟨other, hother, heq⟩ := List.mem_map.1 hvalue
    rw [← heq]
    simpa using hfront other hother
  · rintro ⟨path, hP, hpath, hp, hfirst⟩
    obtain ⟨before, after, rfl⟩ := List.append_of_mem ((hmem path).2 hP)
    rw [List.map_append, List.map_cons, hpath] at heq
    obtain ⟨front, _, rfl, hfront, hbehind⟩ := List.map_eq_append_iff.1 heq
    obtain ⟨value', rest, rfl, hvalue, -⟩ := List.map_eq_cons_iff.1 hbehind
    obtain rfl := Option.some.inj hvalue
    refine ⟨hp, front, rest, rfl, fun other hother => ?_⟩
    have hplace : some other ∈ before.map value? := hfront ▸ List.mem_map_of_mem hother
    obtain ⟨earlier, hearlier, heq⟩ := List.mem_map.1 hplace
    obtain ⟨hearlier, hlt⟩ := (mem_front_iff hsorted).1 hearlier
    have hnot := hfirst earlier ((hmem earlier).1 hearlier) hlt
    rw [heq] at hnot
    simpa using hnot

end

end NoteQuery.Tree
