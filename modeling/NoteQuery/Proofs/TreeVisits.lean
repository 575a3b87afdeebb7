import NoteQuery.Proofs.TreeOrder

/-!
# What rebuilding a tree visits

A visitor is called on one node after the other and hands on a state. Which nodes it is called on
depends on its answers: everything below the root, except what is below a node that it removes or
replaces. So a run is told by its calls and by the fate of each place: the calls hand on the state,
they are on the nodes at the places with nothing but kept nodes above them, in pre-order, and each
answer is the fate of its place (`IsVisiting`). The rebuilt tree is the tree with all fates carried
out (`rebuild_visits`).
-/

namespace NoteQuery.Tree

/-- Whether a visited node stays, so that its children are visited. -/
def Replacement.isKeep : Replacement → Bool
  | .keep _ => true
  | .remove => false
  | .replace _ => false

variable {σ : Type}

/-! ## Calls -/

/-- A call of a visitor: the node that it is called on and the state that it gets. -/
structure Call (σ : Type) where
  node : Tree
  state : σ

/-- What a visitor answers to a call. -/
def Call.answer (visit : Tree → σ → Replacement × σ) (call : Call σ) : Replacement :=
  (visit call.node call.state).1

/-- A visitor that also notes its calls, and is the same otherwise. -/
def recorded (visit : Tree → σ → Replacement × σ) (node : Tree) :
    σ × List (Call σ) → Replacement × σ × List (Call σ)
  | (s, log) => ((visit node s).1, (visit node s).2, log ++ [⟨node, s⟩])

/-- Each call gets the state that the call before it leaves. -/
inductive HandsOn (visit : Tree → σ → Replacement × σ) : σ → List (Call σ) → σ → Prop
  | done (s : σ) : HandsOn visit s [] s
  | call {s s' : σ} {calls : List (Call σ)} (node : Tree)
    (hrest : HandsOn visit (visit node s).2 calls s') :
    HandsOn visit s (⟨node, s⟩ :: calls) s'

variable {visit : Tree → σ → Replacement × σ} {s s' s'' : σ} {calls calls' : List (Call σ)}

theorem HandsOn.append (h : HandsOn visit s calls s') (h' : HandsOn visit s' calls' s'') :
    HandsOn visit s (calls ++ calls') s'' := by
  induction h with
  | done s => exact h'
  | call node hrest ih => exact .call node (ih h')

/-! ## Fates -/

mutual

/-- What takes the place of a tree, by the fates of its places: a kept node is where it was, with a
label of its own, a removed one is gone with everything below it, and a replaced one is another
tree. -/
def carriedOut (fate : List Nat → Replacement) : Tree → List Tree
  | ⟨_, children⟩ =>
    match fate [] with
    | .keep label => [⟨label, carriedOutAll fate children⟩]
    | .remove => []
    | .replace other => [other]

/-- What takes the place of several trees, in their order. -/
def carriedOutAll (fate : List Nat → Replacement) : List Tree → List Tree
  | [] => []
  | t :: ts =>
    carriedOut (fun path => fate (0 :: path)) t ++ carriedOutAll (fun path => fate (behind path)) ts

end

/-- Fates in a first tree and in the trees behind it. -/
def inFront (first others : List Nat → Replacement) : List Nat → Replacement
  | [] => others []
  | 0 :: path => first path
  | (i + 1) :: path => others (i :: path)

/-- There is a node at a place, and all nodes above it are kept. -/
def IsReached (node? : List Nat → Option Tree) (fate : List Nat → Replacement) (path : List Nat) :
    Prop :=
  (node? path).isSome = true ∧ AllAbove (fun above => (fate above).isKeep = true) path

/-- The calls of a visitor that gives some nodes their fates. They hand on the state, and they are
on the reached nodes in the order of their places, where each answer is the fate of its place. -/
structure IsVisiting (visit : Tree → σ → Replacement × σ) (node? : List Nat → Option Tree)
    (fate : List Nat → Replacement) (s : σ) (calls : List (Call σ)) (s' : σ) : Prop where
  handsOn : HandsOn visit s calls s'
  isListing :
    IsListing (fun path => (node? path).map fun node => (node, fate path)) (IsReached node? fate)
    (calls.map fun call => (call.node, call.answer visit))

variable {node? : List Nat → Option Tree} {fate first others : List Nat → Replacement} {t : Tree}
  {ts : List Tree} {label : Label}

theorem inFront_behind (first others : List Nat → Replacement) (path : List Nat) :
    inFront first others (behind path) = others path := by
  cases path <;> rfl

theorem carriedOutAll_cons (first others : List Nat → Replacement) (t : Tree) (ts : List Tree) :
    carriedOutAll (inFront first others) (t :: ts) =
      carriedOut first t ++ carriedOutAll others ts := by
  rw [carriedOutAll, funext (inFront_behind first others)]
  rfl

theorem isReached_cons_iff {i : Nat} {path : List Nat} (hroot : (fate []).isKeep = true) :
    IsReached node? fate (i :: path) ↔
      IsReached (fun path => node? (i :: path)) (fun path => fate (i :: path)) path := by
  rw [IsReached, allAbove_cons_iff, and_iff_right hroot]
  rfl

theorem not_isReached_nil (ts : List Tree) : ¬ IsReached (nodeIn? ts) fate [] :=
  fun h => Bool.false_ne_true h.1

/-- No places in no trees. -/
theorem isVisiting_nil (s : σ) : IsVisiting visit (nodeIn? []) fate s [] s where
  handsOn := .done s
  isListing := isListing_nil fun path h => by cases path <;> exact Bool.false_ne_true h.1

/-- A first tree is visited in front of further trees. -/
theorem IsVisiting.append (h : IsVisiting visit (fun path => t.nodeAt? path) first s calls s')
    (h' : IsVisiting visit (nodeIn? ts) others s' calls' s'') (hroot : (others []).isKeep = true) :
    IsVisiting visit (nodeIn? (t :: ts)) (inFront first others) s (calls ++ calls') s'' where
  handsOn := h.handsOn.append h'.handsOn
  isListing := by
    rw [List.map_append]
    refine h.isListing.append h'.isListing (fun path => rfl) (fun path => ?_) (not_isReached_nil ts)
      (not_isReached_nil (t :: ts)) (fun path => isReached_cons_iff hroot) (fun i path => ?_)
    · rw [nodeIn?_behind, inFront_behind]
    · have hroot' : (inFront first others []).isKeep = true := hroot
      rw [isReached_cons_iff hroot', isReached_cons_iff hroot]
      rfl

/-- A kept root is visited in front of what is below it. -/
theorem IsVisiting.keep (h : IsVisiting visit (nodeIn? t.children) fate (visit t s).2 calls s')
    (hroot : fate [] = (visit t s).1) (hkeep : (fate []).isKeep = true) :
    IsVisiting visit (fun path => t.nodeAt? path) fate s (⟨t, s⟩ :: calls) s' where
  handsOn := .call t h.handsOn
  isListing := by
    refine h.isListing.root_cons (fun i path => rfl) ?_ (not_isReached_nil t.children) ?_
      (fun i path => ?_)
    · exact congrArg (fun answer => some (t, answer)) hroot
    · exact ⟨rfl, allAbove_nil _⟩
    · rw [isReached_cons_iff hkeep, isReached_cons_iff hkeep]
      rfl

/-- Nothing is visited below a root that is not kept. -/
theorem isVisiting_cut (hroot : fate [] = (visit t s).1) (hcut : (fate []).isKeep = false) :
    IsVisiting visit (fun path => t.nodeAt? path) fate s [⟨t, s⟩] (visit t s).2 where
  handsOn := .call t (.done _)
  isListing := by
    have hnone : IsListing (fun path => (t.nodeAt? path).map fun node => (node, fate path))
        (fun _ => False) [] :=
      isListing_nil (fun _ => not_false)
    refine hnone.root_cons (fun i path => rfl) ?_ not_false ⟨rfl, allAbove_nil _⟩ (fun i path => ?_)
    · exact congrArg (fun answer => some (t, answer)) hroot
    · refine iff_of_false (fun h => ?_) not_false
      exact Bool.false_ne_true (hcut.symm.trans (allAbove_cons_iff.1 h.2).1)

/-! ## Runs -/

theorem rebuilt_eq (visit : Tree → σ → Replacement × σ) (t : Tree) (s : σ) :
    rebuilt visit t s =
      match (visit t s).1 with
      | .keep label => ([⟨label, (rebuiltAll visit t.children (visit t s).2).1⟩],
        (rebuiltAll visit t.children (visit t s).2).2)
      | .remove => ([], (visit t s).2)
      | .replace other => ([other], (visit t s).2) := by
  obtain ⟨label, children⟩ := t
  rw [rebuilt]
  obtain ⟨answer, s'⟩ := visit ⟨label, children⟩ s
  cases answer <;> rfl

mutual

/-- Rebuilding a tree carries out the fates that the visitor's calls give, whether they are noted or
not. -/
theorem exists_isVisiting (visit : Tree → σ → Replacement × σ) (t : Tree) (s : σ) :
    ∃ calls fate, IsVisiting visit (fun path => t.nodeAt? path) fate s calls (rebuilt visit t s).2 ∧
      carriedOut fate t = (rebuilt visit t s).1 ∧
      ∀ log, rebuilt (recorded visit) t (s, log) =
        ((rebuilt visit t s).1, (rebuilt visit t s).2, log ++ calls) := by
  match t with
  | ⟨old, children⟩ =>
    -- the recorded visitor gives the same answer
    have hrecorded (log : List (Call σ)) : (recorded visit ⟨old, children⟩ (s, log)).1 =
      (visit ⟨old, children⟩ s).1 := rfl
    cases hanswer : (visit ⟨old, children⟩ s).1 with
    | keep label =>
      obtain ⟨calls, fate, hfate, hvisiting, hout, hlog⟩ :=
        exists_isVisiting_forest visit children label (visit ⟨old, children⟩ s).2
      refine ⟨⟨⟨old, children⟩, s⟩ :: calls, fate, ?_, ?_, fun log => ?_⟩
      · rw [rebuilt_eq, hanswer]
        exact IsVisiting.keep hvisiting (hfate.trans hanswer.symm) (by rw [hfate]; rfl)
      · rw [rebuilt_eq, hanswer, carriedOut, hfate, hout]
      · rw [rebuilt_eq, rebuilt_eq, hrecorded, hanswer]
        simp only [recorded, hlog, List.append_assoc, List.singleton_append]
    | remove | replace =>
      refine ⟨[⟨⟨old, children⟩, s⟩], fun _ => (visit ⟨old, children⟩ s).1, ?_, ?_, fun log => ?_⟩
      · rw [rebuilt_eq, hanswer]
        exact isVisiting_cut hanswer.symm rfl
      · rw [rebuilt_eq, carriedOut, hanswer]
      · rw [rebuilt_eq, rebuilt_eq, hrecorded, hanswer]
        rfl

/-- The same for the children of a kept node. -/
theorem exists_isVisiting_forest (visit : Tree → σ → Replacement × σ) (ts : List Tree)
    (label : Label) (s : σ) :
    ∃ calls fate, fate [] = .keep label ∧
      IsVisiting visit (nodeIn? ts) fate s calls (rebuiltAll visit ts s).2 ∧
      carriedOutAll fate ts = (rebuiltAll visit ts s).1 ∧
      ∀ log, rebuiltAll (recorded visit) ts (s, log) =
        ((rebuiltAll visit ts s).1, (rebuiltAll visit ts s).2, log ++ calls) := by
  match ts with
  | [] =>
    exact ⟨[], fun _ => .keep label, rfl, isVisiting_nil s, rfl, fun log => by simp [rebuiltAll]⟩
  | t :: ts =>
    obtain ⟨calls, first, hvisiting, hout, hlog⟩ := exists_isVisiting visit t s
    obtain ⟨calls', others, hothers, hvisiting', hout', hlog'⟩ :=
      exists_isVisiting_forest visit ts label (rebuilt visit t s).2
    refine ⟨calls ++ calls', inFront first others, hothers, ?_, ?_, fun log => ?_⟩
    · exact hvisiting.append hvisiting' (by rw [hothers]; rfl)
    · rw [carriedOutAll_cons, hout, hout', rebuiltAll]
    · simp only [rebuiltAll, hlog, hlog', List.append_assoc]

end

mutual

theorem rebuilt_eq_self (h : ∀ node s, (visit node s).1 = .keep node.label) (t : Tree) (s : σ) :
    (rebuilt visit t s).1 = [t] := by
  match t with
  | ⟨label, children⟩ =>
    rw [rebuilt_eq, h]
    exact congrArg (fun children => [Tree.mk label children]) (rebuiltAll_eq_self h children _)

theorem rebuiltAll_eq_self (h : ∀ node s, (visit node s).1 = .keep node.label) (ts : List Tree)
    (s : σ) : (rebuiltAll visit ts s).1 = ts := by
  match ts with
  | [] => rw [rebuiltAll]
  | t :: ts =>
    rw [rebuiltAll]
    exact congrArg₂ (· ++ ·) (rebuilt_eq_self h t s) (rebuiltAll_eq_self h ts _)

end

/-- Rebuilding a tree by a visitor with a state. The visitor is called on what is below the root,
except what is below a removed or replaced node, on each such node once and in pre-order, with the
state that the call before it has left; the root stays. The tree comes out with all answers carried
out, and so it is the tree itself if each node is kept as it is. -/
theorem rebuild_visits (visit : Tree → σ → Replacement × σ) (t : Tree) (s : σ) :
    (∃ calls fate, fate [] = .keep t.label ∧
      IsVisiting visit (nodeIn? t.children) fate s calls (t.rebuild visit s).2 ∧
      t.rebuild (recorded visit) (s, []) = ((t.rebuild visit s).1, (t.rebuild visit s).2, calls) ∧
      carriedOut fate t = [(t.rebuild visit s).1]) ∧
    ((∀ node s, (visit node s).1 = .keep node.label) → (t.rebuild visit s).1 = t) := by
  obtain ⟨label, children⟩ := t
  constructor
  · obtain ⟨calls, fate, hfate, hvisiting, hout, hlog⟩ :=
      exists_isVisiting_forest visit children label s
    refine ⟨calls, fate, hfate, hvisiting, ?_, ?_⟩
    · simp only [rebuild, hlog, List.nil_append]
    · rw [carriedOut, hfate, hout]
      rfl
  · intro h
    exact congrArg (Tree.mk label) (rebuiltAll_eq_self h children s)

/-- A visitor that counts the nodes below the root and keeps them as they are. -/
theorem rebuild_visits_counted :
    let count (node : Tree) (n : Nat) : Replacement × Nat := (.keep node.label, n + 1)
    let t : Tree := ⟨{ tag := some "Doc" }, [leaf "x" 0 1, ⟨{ tag := some "Box" }, [leaf "y" 1 2]⟩]⟩
    (t.rebuild count 0).2 = 3 ∧ (t.rebuild count 0).1 = t := by
  intro count t
  obtain ⟨-, hself⟩ := rebuild_visits count t 0
  exact ⟨rfl, hself fun node n => rfl⟩

/-- The first box is removed with the one in it, the next one is replaced by a box that is not
visited. -/
example :
    let box (text : String) (children : List Tree) : Tree :=
      ⟨{ tag := some "Box", text := some text }, children⟩
    let visit (node : Tree) (boxes : Nat) : Replacement × Nat :=
      if node.hasTag "Box" then (if boxes = 0 then .remove else .replace (box "new" []), boxes + 1)
      else (.keep { node.label with text := some "kept" }, boxes)
    let t : Tree := ⟨{ tag := some "Doc" }, [box "a" [box "b" []], leaf "x" 0 1, box "c" []]⟩
    (t.rebuild visit 0).1.children =
      [⟨{ (leaf "x" 0 1).label with text := some "kept" }, []⟩, box "new" []] ∧
      (t.rebuild (recorded visit) (0, [])).2.2.map (fun call => (call.node.text, call.state)) =
        [(some "a", 0), (some "x", 1), (some "c", 1)] := by
  intro box visit t
  exact ⟨rfl, rfl⟩

end NoteQuery.Tree
